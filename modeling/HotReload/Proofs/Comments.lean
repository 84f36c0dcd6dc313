import HotReload.Proofs.NormalMarkup
import Mathlib.Logic.Function.Iterate
import Mathlib.Logic.Relation

/-!
# Comments are taken out pass by pass

What one pass does is said without the scan. A comment reaches from its opening to the first end
behind it (`IsComment`). A pass goes through a text from left to right, leaves out each comment
it comes to and goes on behind it, and keeps every character at which no comment begins (`Pass`).
The scan makes exactly such passes (`pass_iff`).

Taking out comments may bring the two halves of another one together, so passes are made until
the text has no comment. The order of things does not matter: whatever number of passes leads
to a text without comments, it is always the same text (`cleared_iff`).
-/

set_option autoImplicit false

namespace HotReload.Html

/-! ## Comments and passes -/

/-- What a comment begins with. -/
def commentStart : List Char := ['<', '!', '-', '-']

/-- What a comment ends with. -/
def commentEnd : List Char := ['-', '-', '>']

/-- A comment reaches from its opening to the first end behind it. The ends do not share
characters with the opening. -/
def IsComment (cs : List Char) : Prop :=
  ∃ body, cs = commentStart ++ (body ++ commentEnd) ∧ ¬ commentEnd <:+: body ++ ['-', '-']

/-- A text begins with a comment. -/
def BeginsComment (cs : List Char) : Prop :=
  ∃ comment, IsComment comment ∧ comment <+: cs

/-- A text contains no comment. -/
def Commentless (cs : List Char) : Prop :=
  ∀ comment, IsComment comment → ¬ comment <:+: cs

/-- One pass through a text takes out the comments it comes to. -/
inductive Pass : List Char → List Char → Prop
  | stop : Pass [] []
  | comment {comment cs out : List Char} (isComment : IsComment comment) (rest : Pass cs out) :
      Pass (comment ++ cs) out
  | keep {c : Char} {cs out : List Char} (none : ¬ BeginsComment (c :: cs)) (rest : Pass cs out) :
      Pass (c :: cs) (c :: out)

/-- A text without comments that comes out of another one by passes. -/
def Cleared (cs out : List Char) : Prop :=
  Relation.ReflTransGen Pass cs out ∧ Commentless out

variable {cs out body : List Char}

/-! ## The end of a comment -/

theorem closes_iff : closes cs = true ↔ commentEnd <:+: cs := by
  fun_induction closes cs with
  | case1 => simp [commentEnd]
  | case2 cs => exact iff_of_true rfl ⟨[], cs, rfl⟩
  | case3 c cs other ih =>
      rw [ih, List.infix_cons_iff, iff_or_self]
      rintro ⟨rest, same⟩
      obtain ⟨rfl, rfl⟩ := List.cons.inj same
      exact absurd rfl (other rest rfl)

/-- Behind a text in which no end begins, the first end is the one that follows. -/
theorem not_end_of_cons {c : Char} (first : ¬ commentEnd <:+: c :: body ++ ['-', '-'])
    (rest : List Char) : ¬ commentEnd <+: c :: body ++ (commentEnd ++ rest) := by
  intro begins
  have longer : (c :: body ++ ['-', '-']) <+: c :: body ++ (commentEnd ++ rest) :=
    ⟨'>' :: rest, by simp [commentEnd]⟩
  exact first (List.prefix_of_prefix_length_le begins longer (by simp [commentEnd])).isInfix

/-- A text with an end has a first one. -/
theorem exists_first_end (ends : closes cs = true) :
    ∃ body rest, cs = body ++ (commentEnd ++ rest) ∧ ¬ commentEnd <:+: body ++ ['-', '-'] := by
  fun_induction closes cs with
  | case1 => exact absurd ends Bool.false_ne_true
  | case2 cs => exact ⟨[], cs, rfl, by decide⟩
  | case3 c cs other ih =>
      obtain ⟨body, rest, rfl, first⟩ := ih ends
      refine ⟨c :: body, rest, rfl, ?_⟩
      rw [List.cons_append, List.infix_cons_iff, not_or]
      refine ⟨?_, first⟩
      rintro ⟨more, same⟩
      have begins : commentEnd <+: c :: (body ++ (commentEnd ++ rest)) :=
        List.IsPrefix.trans ⟨more, same⟩ ⟨'>' :: rest, by simp [commentEnd]⟩
      obtain ⟨behind, same⟩ := begins
      obtain ⟨rfl, tail⟩ := List.cons.inj same
      exact other behind rfl tail.symm

/-- Inside a comment everything up to its end is left out. -/
theorem dropCommentsFrom_body (first : ¬ commentEnd <:+: body ++ ['-', '-']) (rest : List Char) :
    dropCommentsFrom true (body ++ (commentEnd ++ rest)) = dropComments rest := by
  induction body with
  | nil => rfl
  | cons c body ih =>
      have other := not_end_of_cons first rest
      rw [List.cons_append, List.infix_cons_iff, not_or] at first
      rw [List.cons_append, dropCommentsFrom]
      · exact ih first.2
      · rintro behind rfl same
        exact other ⟨behind, by rw [List.cons_append, same]; rfl⟩

/-! ## A pass is a scan -/

/-- A comment begins where there is an opening with an end behind it. -/
theorem beginsComment_iff :
    BeginsComment cs ↔ ∃ rest, cs = commentStart ++ rest ∧ closes rest = true := by
  constructor
  · rintro ⟨_, ⟨body, rfl, -⟩, behind, rfl⟩
    refine ⟨body ++ (commentEnd ++ behind), by simp, closes_iff.2 ⟨body, behind, by simp⟩⟩
  · rintro ⟨rest, rfl, ends⟩
    obtain ⟨body, behind, rfl, first⟩ := exists_first_end ends
    exact ⟨_, ⟨body, rfl, first⟩, behind, by simp⟩

/-- A comment that a text begins with is left out. -/
theorem dropComments_comment {comment : List Char} (isComment : IsComment comment)
    (rest : List Char) : dropComments (comment ++ rest) = dropComments rest := by
  obtain ⟨body, rfl, first⟩ := isComment
  have ends : closes (body ++ (commentEnd ++ rest)) = true := closes_iff.2 ⟨body, rest, by simp⟩
  simp only [List.append_assoc]
  show dropCommentsFrom false ('<' :: '!' :: '-' :: '-' :: (body ++ (commentEnd ++ rest))) = _
  rw [dropCommentsFrom, if_pos ends, dropCommentsFrom_body first]

/-- A character at which no comment begins is kept. -/
theorem dropComments_cons {c : Char} (none : ¬ BeginsComment (c :: cs)) :
    dropComments (c :: cs) = c :: dropComments cs :=
  dropComments_cons_of_plain fun rest begins ends =>
    none (beginsComment_iff.2 ⟨rest, begins, ends⟩)

theorem dropComments_of_pass (pass : Pass cs out) : dropComments cs = out := by
  induction pass with
  | stop => rfl
  | comment isComment _ ih => rw [dropComments_comment isComment, ih]
  | keep none _ ih => rw [dropComments_cons none, ih]

/-- Every text has a pass. -/
theorem exists_pass (cs : List Char) : ∃ out, Pass cs out := by
  by_cases begins : BeginsComment cs
  · obtain ⟨comment, isComment, rest, rfl⟩ := begins
    have shorter : rest.length < (comment ++ rest).length := by
      obtain ⟨body, rfl, -⟩ := isComment
      simp [commentStart]
      omega
    obtain ⟨out, pass⟩ := exists_pass rest
    exact ⟨out, .comment isComment pass⟩
  · cases cs with
    | nil => exact ⟨[], .stop⟩
    | cons c cs =>
        obtain ⟨out, pass⟩ := exists_pass cs
        exact ⟨c :: out, .keep begins pass⟩
termination_by cs.length

/-- **The scan makes passes.** -/
theorem pass_iff : Pass cs out ↔ dropComments cs = out := by
  constructor
  · exact dropComments_of_pass
  · rintro rfl
    obtain ⟨out, pass⟩ := exists_pass cs
    rwa [dropComments_of_pass pass]

/-! ## Until none is left -/

/-- A text has no comment when a pass leaves it as it is. -/
theorem commentless_iff : Commentless cs ↔ dropComments cs = cs := by
  constructor
  · intro none
    rw [← pass_iff]
    induction cs with
    | nil => exact .stop
    | cons c cs ih =>
        refine .keep ?_ (ih fun comment isComment inside => none comment isComment ?_)
        · rintro ⟨comment, isComment, begins⟩
          exact none comment isComment begins.isInfix
        · exact inside.trans (List.suffix_cons c cs).isInfix
  · rintro clean _ ⟨body, rfl, -⟩ ⟨front, back, rfl⟩
    have changed : dropComments (commentStart ++ (body ++ commentEnd) ++ back) ≠
        commentStart ++ (body ++ commentEnd) ++ back :=
      dropComments_ne_of_closes (closes_iff.2 ⟨body, back, rfl⟩)
    rw [List.append_assoc] at clean
    induction front with
    | nil => exact changed clean
    | cons c front ih =>
        by_cases same : dropComments (front ++ (commentStart ++ (body ++ commentEnd) ++ back)) =
            front ++ (commentStart ++ (body ++ commentEnd) ++ back)
        · exact ih same
        · exact dropComments_cons_ne c same clean

/-- More passes than enough are the same as enough. -/
theorem dropCommentsWithin_of_le {passes : Nat} (enough : cs.length ≤ passes) :
    dropCommentsWithin passes cs = withoutComments cs := by
  induction passes, enough using Nat.le_induction with
  | base => rfl
  | succ passes enough ih => rw [dropCommentsWithin_succ enough, ih]

/-- All passes may be made, also those that change nothing. -/
theorem dropCommentsWithin_eq_iterate (passes : Nat) (cs : List Char) :
    dropCommentsWithin passes cs = dropComments^[passes] cs := by
  induction passes generalizing cs with
  | zero => rfl
  | succ passes ih =>
      by_cases clean : dropComments cs = cs
      · rw [dropCommentsWithin_clean clean, Function.iterate_fixed clean]
      · rw [dropCommentsWithin_changed clean, ih, Function.iterate_succ_apply]

/-- It does not matter to what is left whether a pass has been made already. -/
theorem withoutComments_dropComments (cs : List Char) :
    withoutComments (dropComments cs) = withoutComments cs := by
  by_cases clean : dropComments cs = cs
  · rw [clean]
  · have shorter := length_dropComments_lt clean
    obtain ⟨most, length⟩ : ∃ most, cs.length = most + 1 := ⟨cs.length - 1, by omega⟩
    have few : (dropComments cs).length ≤ most := by omega
    rw [← dropCommentsWithin_of_le few, withoutComments, length,
      dropCommentsWithin_changed clean]

theorem passes_dropCommentsWithin (passes : Nat) (cs : List Char) :
    Relation.ReflTransGen Pass cs (dropCommentsWithin passes cs) := by
  induction passes generalizing cs with
  | zero => exact .refl
  | succ passes ih =>
      rw [dropCommentsWithin]
      split
      · exact .refl
      · exact .head (pass_iff.2 rfl) (ih _)

/-- **Passes lead to one text without comments.** -/
theorem cleared_iff : Cleared cs out ↔ out = withoutComments cs := by
  constructor
  · rintro ⟨passes, none⟩
    induction passes using Relation.ReflTransGen.head_induction_on with
    | refl => exact (dropCommentsWithin_clean (commentless_iff.1 none) _).symm
    | head pass _ ih => rw [ih, ← dropComments_of_pass pass, withoutComments_dropComments]
  · rintro rfl
    exact ⟨passes_dropCommentsWithin _ cs, commentless_iff.2 (dropComments_withoutComments cs)⟩

end HotReload.Html
