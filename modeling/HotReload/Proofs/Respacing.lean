import HotReload.Proofs.Gaps
import HotReload.Proofs.PageView

/-!
# The layout of blanks does not matter

Two texts may differ in how wide their gaps are and in the blanks these consist of, inside
comments and tags too. Collapsing makes them equal. One pass does not look at the width of gaps:
whether a text is collapsed before it changes nothing after it (`collapseFrom_pass`). So passes
keep two such texts alike, however differently they shift, and the normal forms are the same
(`normalize_eq_of_spaced`). What a runner does with the two texts is then the same too
(`Runner.respacing_inert`).
-/

set_option autoImplicit false

namespace HotReload

namespace Html

open Text (isBlank)

variable {cs : List Char}

/-! ## What collapsing leaves in place -/

theorem collapseFrom_solid {c : Char} (solid : isBlank c = false) (afterBlank : Bool)
    (cs : List Char) : collapseFrom afterBlank (c :: cs) = c :: collapseFrom false cs := by
  simp [collapseFrom, solid]

theorem collapseFrom_blank {c : Char} (blank : isBlank c = true) (afterBlank : Bool)
    (cs : List Char) :
    collapseFrom afterBlank (c :: cs) =
      (if afterBlank then [] else [' ']) ++ collapseFrom true cs := by
  cases afterBlank <;> simp [collapseFrom, blank]

/-- Collapsing puts no new word at the beginning of a text. -/
theorem begins_of_collapse (word : List Char) (solid : word.any isBlank = false) {rest : List Char}
    (begins : collapseFrom false cs = word ++ rest) : ∃ behind, cs = word ++ behind := by
  induction word generalizing cs with
  | nil => exact ⟨cs, rfl⟩
  | cons c word ih =>
      obtain ⟨first, later⟩ := Bool.or_eq_false_iff.1 (List.any_cons ▸ solid)
      cases cs with
      | nil => exact absurd begins.symm (List.cons_ne_nil _ _)
      | cons d cs =>
          cases kind : isBlank d with
          | true =>
              rw [collapseFrom_blank kind] at begins
              obtain ⟨rfl, -⟩ := List.cons.inj begins
              exact absurd first (by decide)
          | false =>
              rw [collapseFrom_solid kind] at begins
              obtain ⟨rfl, tail⟩ := List.cons.inj begins
              obtain ⟨behind, rfl⟩ := ih later tail
              exact ⟨behind, rfl⟩

/-- The end of a comment stays where it is. -/
theorem closes_collapseFrom (afterBlank : Bool) (cs : List Char) :
    closes (collapseFrom afterBlank cs) = closes cs := by
  fun_induction closes cs generalizing afterBlank with
  | case1 => rfl
  | case2 cs => rfl
  | case3 c cs other ih =>
      cases kind : isBlank c with
      | true =>
          rw [collapseFrom_blank kind]
          cases afterBlank
          · rw [← ih true]
            simp [closes]
          · exact ih true
      | false =>
          rw [collapseFrom_solid kind, ← ih false, closes]
          rintro rest rfl begins
          obtain ⟨behind, same⟩ := begins_of_collapse ['-', '>'] (by decide) begins
          exact other behind rfl same

/-! ## Passes -/

/-- **A pass does not look at the width of gaps.** Outside a comment a gap may be shortened in
front of the pass only if it is shortened behind it too. -/
theorem collapseFrom_pass (inside before after : Bool) (cs : List Char)
    (both : (inside || !before || after) = true) :
    collapseFrom after (dropCommentsFrom inside (collapseFrom before cs)) =
      collapseFrom after (dropCommentsFrom inside cs) := by
  fun_induction dropCommentsFrom inside cs generalizing before after with
  | case1 cs ih => exact ih false after rfl
  | case2 c cs other ih =>
      cases kind : isBlank c with
      | true =>
          rw [← ih true after rfl, collapseFrom_blank kind]
          cases before <;> simp [dropCommentsFrom]
      | false =>
          rw [← ih false after rfl, collapseFrom_solid kind, dropCommentsFrom]
          rintro rest rfl begins
          obtain ⟨behind, same⟩ := begins_of_collapse ['-', '>'] (by decide) begins
          exact other behind rfl same
  | case3 cs ends ih =>
      rw [← ih false after rfl]
      show collapseFrom after
        (dropCommentsFrom false ('<' :: '!' :: '-' :: '-' :: collapseFrom false cs)) = _
      rw [dropCommentsFrom, closes_collapseFrom, if_pos ends]
  | case4 cs ends ih =>
      show collapseFrom after
        (dropCommentsFrom false ('<' :: '!' :: '-' :: '-' :: collapseFrom false cs)) = _
      rw [dropCommentsFrom, closes_collapseFrom, if_neg ends, collapseFrom_solid (by decide),
        collapseFrom_solid (by decide), ← ih false false rfl]
      rfl
  | case5 c cs other ih =>
      cases kind : isBlank c with
      | true =>
          rw [collapseFrom_blank kind, collapseFrom_blank kind, ← ih true true rfl]
          cases before with
          | true =>
              obtain rfl : after = true := both
              rfl
          | false =>
              have kept := dropComments_blank (c := ' ') (by decide) (collapseFrom true cs)
              rw [if_neg Bool.false_ne_true, List.singleton_append, ← dropComments, kept,
                collapseFrom_blank (by decide)]
              rfl
      | false =>
          rw [collapseFrom_solid kind, collapseFrom_solid kind, ← ih false false rfl,
            dropCommentsFrom, collapseFrom_solid kind]
          rintro rest rfl begins
          obtain ⟨behind, same⟩ := begins_of_collapse ['!', '-', '-'] (by decide) begins
          exact other behind rfl same
  | case6 inside => cases inside <;> rfl

theorem collapse_dropComments (cs : List Char) :
    collapse (dropComments (collapse cs)) = collapse (dropComments cs) :=
  collapseFrom_pass false false false cs rfl

/-! ## Two texts -/

section Alike

variable {first second : List Char} (same : collapse first = collapse second)
include same

/-- Passes keep texts alike that differ in their gaps only. -/
theorem collapse_dropComments_congr :
    collapse (dropComments first) = collapse (dropComments second) := by
  rw [← collapse_dropComments first, same, collapse_dropComments]

theorem collapse_dropCommentsWithin_congr (passes : Nat) :
    collapse (dropCommentsWithin passes first) = collapse (dropCommentsWithin passes second) := by
  rw [dropCommentsWithin_eq_iterate, dropCommentsWithin_eq_iterate]
  induction passes generalizing first second with
  | zero => exact same
  | succ passes ih => exact ih (collapse_dropComments_congr same)

/-- The two texts need not have as many passes to make: further passes change nothing. -/
theorem collapse_withoutComments_congr :
    collapse (withoutComments first) = collapse (withoutComments second) := by
  rw [← dropCommentsWithin_of_le (Nat.le_max_left first.length second.length),
    ← dropCommentsWithin_of_le (Nat.le_max_right first.length second.length)]
  exact collapse_dropCommentsWithin_congr same _

end Alike

/-- **Texts that differ in their gaps only have the same normal form.** -/
theorem normalize_eq_of_spaced {first second : String}
    (same : spaced first.toList = spaced second.toList) : normalize first = normalize second := by
  rw [← collapse_eq_spaced, ← collapse_eq_spaced] at same
  rw [normalize, normalize, normalChars, normalChars, collapse_withoutComments_congr same]

end Html

namespace Runner

variable {W α : Type}

/-- **The layout of blanks does not matter to a step.** Two texts that become equal when each of
their gaps is replaced by one space have the same normal form. A runner that is told to expect
one of them does what it does when it is told to expect the other one, and so does a step that
compares the page. Whatever the page answers, both get the verdict that the normal form of the
second gives, and a failure shows this normal form. -/
theorem respacing_inert (setting : Setting W α) {first second : String}
    (same : Html.spaced first.toList = Html.spaced second.toList) :
    Html.normalize first = Html.normalize second ∧
      (∀ due front label back,
        carryOut setting due (.expect (front ++ (label, .html first) :: back)) =
          carryOut setting due (.expect (front ++ (label, .html second) :: back))) ∧
      (∀ dispatch label index,
        doStep setting dispatch label index (.html first) =
          doStep setting dispatch label index (.html second)) ∧
      ∀ dispatch label index (run : Run W α) (page : Json), run.standing.sessionOpen = true →
        ((setting.testBed.invoke ["$eval"]
          (markupQuery setting.config.appRootSelector)).runOn run.world).1 = .ok page →
        ((doStep setting dispatch label index (.html first)).runOn run).1 =
          if Html.normalize (setting.markupOf page.asText) = Html.normalize second then .ok ()
          else .error (Failure.mismatch label.name index (Html.normalize second)
            (Html.normalize (setting.markupOf page.asText)) setting.differences) := by
  have normal := Html.normalize_eq_of_spaced same
  refine ⟨normal, fun due front label back => ?_, fun dispatch label index => ?_, ?_⟩
  · simp only [carryOut, handle, perform, List.map_append, List.map_cons, normalStep, normal]
    rfl
  · rw [doStep, doStep, compareMarkup, compareMarkup, normal]
  · intro dispatch label index run page isOpen answered
    rw [doStep, runOn_compareMarkup_answered isOpen answered, normal]

/-- A text whose blanks stand in tags and comments too, laid out in two ways. -/
theorem respacing_inert_tags :
    Html.spaced "<b  id='x'>\n a <!-- n\tm --></b>".toList =
        Html.spaced "<b id='x'> a\n\n<!--  n m\n--></b>".toList ∧
      Html.normalize "<b  id='x'>\n a <!-- n\tm --></b>" =
        Html.normalize "<b id='x'> a\n\n<!--  n m\n--></b>" := by
  have same : Html.spaced "<b  id='x'>\n a <!-- n\tm --></b>".toList =
      Html.spaced "<b id='x'> a\n\n<!--  n m\n--></b>".toList := by decide
  exact ⟨same, (respacing_inert (Setting.plain .still) same).1⟩

end Runner

end HotReload
