import HotReload.Html
import Mathlib.Data.List.DropRight
import Mathlib.Data.List.Infix

/-!
# The normal form is its own normal form

Markup that is in normal form stays as it is when it is normalized again
(`normalChars_normalChars`), and blanks at the beginning of a text do not matter
(`normalChars_trimStart`).

Taking comments out and changing blanks do not disturb each other. A small automaton
looks for a comment, and a text has none if and only if the automaton does not find one
(`finds_eq_found_iff`). Blanks bring the automaton back to where it began, so changing
blanks next to blanks, between tags or at the ends can never put a comment together.
-/

set_option autoImplicit false

namespace HotReload.Html

open Text (isBlank trim trimStart trimEnd)

/-! ## Looking for a comment -/

/-- How much of a comment has been seen: none, one, two or three characters of its opening,
or the opening and none, one or two characters of its end, or all of it. -/
inductive Seen
  | none
  | open1
  | open2
  | open3
  | opened
  | close1
  | close2
  | found
deriving DecidableEq

/-- One more character is seen. -/
def Seen.next (seen : Seen) (c : Char) : Seen :=
  match seen with
  | .none => if c = '<' then .open1 else .none
  | .open1 => if c = '!' then .open2 else if c = '<' then .open1 else .none
  | .open2 => if c = '-' then .open3 else if c = '<' then .open1 else .none
  | .open3 => if c = '-' then .opened else if c = '<' then .open1 else .none
  | .opened => if c = '-' then .close1 else .opened
  | .close1 => if c = '-' then .close2 else .opened
  | .close2 => if c = '>' then .found else if c = '-' then .close2 else .opened
  | .found => .found

/-- What is seen of a comment after some characters. -/
def finds (seen : Seen) (cs : List Char) : Seen :=
  cs.foldl Seen.next seen

@[simp] theorem finds_nil (seen : Seen) : finds seen [] = seen := rfl

@[simp] theorem finds_cons (seen : Seen) (c : Char) (cs : List Char) :
    finds seen (c :: cs) = finds (seen.next c) cs := rfl

@[simp] theorem finds_found (cs : List Char) : finds .found cs = .found := by
  induction cs with
  | nil => rfl
  | cons c cs ih => exact ih

theorem finds_append (seen : Seen) (front back : List Char) :
    finds seen (front ++ back) = finds (finds seen front) back :=
  List.foldl_append

/-- Behind the opening of a comment, its end is found. -/
theorem finds_of_closes {cs : List Char} (ends : closes cs = true) (seen : Seen)
    (inside : seen = .opened ∨ seen = .close1 ∨ seen = .close2 ∨ seen = .found) :
    finds seen cs = .found := by
  fun_induction closes cs generalizing seen with
  | case1 => exact nomatch ends
  | case2 cs =>
      rcases inside with rfl | rfl | rfl | rfl <;> simp [Seen.next]
  | case3 c cs _ ih =>
      refine ih ends _ ?_
      rcases inside with rfl | rfl | rfl | rfl
      · simp only [Seen.next]
        split <;> simp
      · simp only [Seen.next]
        split <;> simp
      · simp only [Seen.next]
        split
        · simp
        · split <;> simp
      · simp [Seen.next]

/-- A text in which no comment is found stays as it is. -/
theorem dropComments_of_finds {cs : List Char} {seen : Seen} (none : finds seen cs ≠ .found) :
    dropCommentsFrom false cs = cs := by
  generalize flag : false = inside
  fun_induction dropCommentsFrom inside cs generalizing seen with
  | case1 => contradiction
  | case2 => contradiction
  | case3 cs ends ih =>
      refine absurd (finds_of_closes ends _ ?_) none
      cases seen <;> simp [Seen.next]
  | case4 cs _ ih =>
      have rest : finds (seen.next '<') ('!' :: '-' :: '-' :: cs) ≠ .found := none
      rw [ih rest rfl]
  | case5 c cs _ ih =>
      have rest : finds (seen.next c) cs ≠ .found := none
      rw [ih rest rfl]
  | case6 => rfl

theorem closes_cons {cs : List Char} (c : Char) (ends : closes cs = true) :
    closes (c :: cs) = true := by
  rw [closes.eq_def]
  split
  · exact nomatch ‹c :: cs = []›
  · rfl
  · rename_i same
    obtain ⟨-, rfl⟩ := List.cons.inj same
    exact ends

/-- A comment is taken out. -/
theorem dropComments_ne_of_closes {cs : List Char} (ends : closes cs = true) :
    dropComments ('<' :: '!' :: '-' :: '-' :: cs) ≠ '<' :: '!' :: '-' :: '-' :: cs := by
  intro same
  rw [dropComments, dropCommentsFrom, if_pos ends] at same
  have shorter := (dropCommentsFrom_sublist true cs).length_le
  rw [same] at shorter
  simp only [List.length_cons] at shorter
  omega

/-- A character at which no comment is opened and ended is kept. -/
theorem dropComments_cons_of_plain {c : Char} {cs : List Char}
    (plain : ∀ rest, c :: cs = '<' :: '!' :: '-' :: '-' :: rest → closes rest ≠ true) :
    dropComments (c :: cs) = c :: dropComments cs := by
  unfold dropComments
  rw [dropCommentsFrom.eq_def]
  split
  · exact nomatch ‹false = true›
  · exact nomatch ‹false = true›
  · rename_i rest _ begins
    rw [if_neg (plain rest begins)]
    obtain ⟨rfl, rfl⟩ := List.cons.inj begins
    rfl
  · rename_i first rest _ _ begins
    obtain ⟨rfl, rfl⟩ := List.cons.inj begins
    rfl
  · exact nomatch ‹c :: cs = []›

/-- A text behind which a comment is taken out changes. -/
theorem dropComments_cons_ne {cs : List Char} (c : Char) (changed : dropComments cs ≠ cs) :
    dropComments (c :: cs) ≠ c :: cs := by
  intro same
  by_cases opening : ∃ rest, c :: cs = '<' :: '!' :: '-' :: '-' :: rest ∧ closes rest = true
  · obtain ⟨rest, begins, ends⟩ := opening
    rw [begins] at same
    exact dropComments_ne_of_closes ends same
  · rw [dropComments_cons_of_plain fun rest begins ends => opening ⟨rest, begins, ends⟩] at same
    exact changed (List.cons.inj same).2

/-- What has been seen stands for the characters that it was seen in. -/
def Seen.Explains (cs : List Char) : Seen → Prop
  | .none => dropComments cs ≠ cs
  | .open1 => dropComments ('<' :: cs) ≠ '<' :: cs
  | .open2 => dropComments ('<' :: '!' :: cs) ≠ '<' :: '!' :: cs
  | .open3 => dropComments ('<' :: '!' :: '-' :: cs) ≠ '<' :: '!' :: '-' :: cs
  | .opened => closes cs = true
  | .close1 => closes ('-' :: cs) = true
  | .close2 => closes ('-' :: '-' :: cs) = true
  | .found => True

/-- After a character that does not continue an opening, another one may begin. -/
theorem dropComments_ne_of_restart {cs : List Char} {c : Char}
    (explains : (Seen.next .none c).Explains cs) : dropComments (c :: cs) ≠ c :: cs := by
  simp only [Seen.next] at explains
  split at explains
  · subst c
    exact explains
  · exact dropComments_cons_ne c explains

/-- When a comment is found, one is taken out. -/
theorem explains_of_finds {cs : List Char} {seen : Seen} (found : finds seen cs = .found) :
    seen.Explains cs := by
  induction cs generalizing seen with
  | nil =>
      obtain rfl : seen = .found := found
      trivial
  | cons c cs ih =>
      have rest := ih found
      cases seen with
      | none => exact dropComments_ne_of_restart rest
      | open1 =>
          by_cases continues : c = '!'
          · subst c
            exact rest
          · simp only [Seen.next, if_neg continues] at rest
            exact dropComments_cons_ne _ (dropComments_ne_of_restart rest)
      | open2 =>
          by_cases continues : c = '-'
          · subst c
            exact rest
          · simp only [Seen.next, if_neg continues] at rest
            exact dropComments_cons_ne _ (dropComments_cons_ne _ (dropComments_ne_of_restart rest))
      | open3 =>
          by_cases continues : c = '-'
          · subst c
            exact dropComments_ne_of_closes rest
          · simp only [Seen.next, if_neg continues] at rest
            exact dropComments_cons_ne _ (dropComments_cons_ne _ (dropComments_cons_ne _
              (dropComments_ne_of_restart rest)))
      | opened =>
          by_cases continues : c = '-'
          · subst c
            exact rest
          · simp only [Seen.next, if_neg continues] at rest
            exact closes_cons c rest
      | close1 =>
          by_cases continues : c = '-'
          · subst c
            exact rest
          · simp only [Seen.next, if_neg continues] at rest
            exact closes_cons _ (closes_cons _ rest)
      | close2 =>
          by_cases ends : c = '>'
          · subst c
            rfl
          · by_cases continues : c = '-'
            · subst c
              simp only [Seen.next, if_neg ends, if_true] at rest
              exact closes_cons _ rest
            · simp only [Seen.next, if_neg ends, if_neg continues] at rest
              exact closes_cons _ (closes_cons _ (closes_cons _ rest))
      | found => trivial

/-- A comment is found if and only if one is taken out. -/
theorem finds_eq_found_iff {cs : List Char} :
    finds .none cs = .found ↔ dropComments cs ≠ cs :=
  ⟨explains_of_finds, fun changed => not_ne_iff.1 fun none => changed (dropComments_of_finds none)⟩

/-! ## Blanks and comments -/

/-- Blanks are none of the characters of a comment. -/
theorem Seen.next_blank {c : Char} (blank : isBlank c = true) (seen : Seen) :
    seen.next c = seen.next ' ' := by
  have left : c ≠ '<' := by
    rintro rfl
    exact Bool.false_ne_true blank
  have mark : c ≠ '!' := by
    rintro rfl
    exact Bool.false_ne_true blank
  have dash : c ≠ '-' := by
    rintro rfl
    exact Bool.false_ne_true blank
  have right : c ≠ '>' := by
    rintro rfl
    exact Bool.false_ne_true blank
  cases seen <;> simp [Seen.next, left, mark, dash, right]

/-- Nothing of what follows has been seen: neither blanks nor the end of a tag are in the
middle of an opening or of an end. -/
def Seen.Resting (seen : Seen) : Prop :=
  seen.next ' ' = seen

theorem Seen.resting_blank (seen : Seen) : (seen.next ' ').Resting := by
  cases seen <;> rfl

theorem Seen.resting_right (seen : Seen) : (seen.next '>').Resting := by
  cases seen <;> rfl

/-- Making runs of blanks one space does not change what is found. -/
theorem finds_collapseFrom (cs : List Char) (afterBlank : Bool) (seen : Seen)
    (resting : afterBlank = true → seen.Resting) :
    finds seen (collapseFrom afterBlank cs) = finds seen cs := by
  fun_induction collapseFrom afterBlank cs generalizing seen with
  | case1 => rfl
  | case2 c cs blank ih =>
      have stays : seen.next c = seen := (Seen.next_blank blank seen).trans (resting rfl)
      rw [finds_cons, stays]
      exact ih seen resting
  | case3 afterBlank c cs blank after ih =>
      rw [finds_cons, finds_cons, Seen.next_blank blank]
      exact ih _ fun _ => seen.resting_blank
  | case4 afterBlank c cs solid ih =>
      rw [finds_cons, finds_cons]
      exact ih _ nofun

/-- Dropping a space between two tags does not change what is found. -/
theorem finds_joinTags (cs : List Char) (seen : Seen) :
    finds seen (joinTags cs) = finds seen cs := by
  fun_induction joinTags cs generalizing seen with
  | case1 cs ih =>
      have resting : (seen.next '>').next ' ' = seen.next '>' := seen.resting_right
      simp only [finds_cons, ih, resting]
  | case2 c cs _ ih => rw [finds_cons, ih, finds_cons]
  | case3 => rfl

/-- Blanks at the beginning do not change what is found. -/
theorem finds_trimStart (cs : List Char) : finds .none (trimStart cs) = finds .none cs := by
  induction cs with
  | nil => rfl
  | cons c cs ih =>
      by_cases blank : isBlank c = true
      · rw [trimStart, List.dropWhile_cons_of_pos blank, finds_cons, Seen.next_blank blank]
        exact ih
      · rw [trimStart, List.dropWhile_cons_of_neg blank]

/-- A text without its blank end is what it begins with. -/
theorem trimEnd_isFront (cs : List Char) : trimEnd cs <+: cs := by
  rw [trimEnd, ← List.reverse_suffix, List.reverse_reverse]
  exact List.dropWhile_suffix _

/-- What is not found in a text is not found in its beginning. -/
theorem finds_ne_of_front {front cs : List Char} (begins : front <+: cs)
    (none : finds .none cs ≠ .found) : finds .none front ≠ .found := by
  obtain ⟨back, rfl⟩ := begins
  intro found
  rw [finds_append, found, finds_found] at none
  exact none rfl

/-- Markup in normal form has no comments. -/
theorem dropComments_normalChars (cs : List Char) :
    dropComments (normalChars cs) = normalChars cs := by
  have clean : finds .none (withoutComments cs) ≠ .found := by
    rw [Ne, finds_eq_found_iff]
    exact not_not.2 (dropComments_withoutComments cs)
  have tidy : finds .none (trimStart (joinTags (collapse (withoutComments cs)))) ≠ .found := by
    rw [finds_trimStart, finds_joinTags, collapse, finds_collapseFrom _ false _ nofun]
    exact clean
  exact dropComments_of_finds (finds_ne_of_front (trimEnd_isFront _) tidy)

/-! ## Tidy blanks -/

/-- Blanks are single spaces, and none stands between two tags. -/
structure Tidy (cs : List Char) : Prop where
  spaces : ∀ c ∈ cs, isBlank c = true → c = ' '
  single : ¬[' ', ' '] <:+: cs
  joined : ¬['>', ' ', '<'] <:+: cs

theorem Tidy.of_part {part cs : List Char} (tidy : Tidy cs) (inside : part <:+: cs) :
    Tidy part where
  spaces c mem := tidy.spaces c (inside.subset mem)
  single twice := tidy.single (twice.trans inside)
  joined between := tidy.joined (between.trans inside)

/-- Two spaces stand in a text that goes on behind its first character, or at its
beginning. -/
theorem double_infix_cons_iff {c : Char} {cs : List Char} :
    [' ', ' '] <:+: c :: cs ↔ (c = ' ' ∧ cs.head? = some ' ') ∨ [' ', ' '] <:+: cs := by
  rw [List.infix_cons_iff, List.cons_prefix_cons,
    List.singleton_prefix_iff_head?_eq_some, eq_comm]

theorem spaces_collapseFrom (cs : List Char) (afterBlank : Bool) :
    ∀ c ∈ collapseFrom afterBlank cs, isBlank c = true → c = ' ' := by
  fun_induction collapseFrom afterBlank cs with
  | case1 => exact List.forall_mem_nil _
  | case2 c cs blank ih => exact ih
  | case3 afterBlank c cs blank after ih =>
      exact List.forall_mem_cons.2 ⟨fun _ => rfl, ih⟩
  | case4 afterBlank c cs solid ih =>
      exact List.forall_mem_cons.2 ⟨fun blank => absurd blank solid, ih⟩

theorem single_collapseFrom (cs : List Char) (afterBlank : Bool) :
    ¬[' ', ' '] <:+: collapseFrom afterBlank cs ∧
      (afterBlank = true → (collapseFrom afterBlank cs).head? ≠ some ' ') := by
  fun_induction collapseFrom afterBlank cs with
  | case1 => simp
  | case2 c cs blank ih => exact ih
  | case3 afterBlank c cs blank after ih =>
      rw [double_infix_cons_iff]
      refine ⟨?_, fun flag => absurd flag after⟩
      rintro (⟨-, twice⟩ | twice)
      · exact ih.2 rfl twice
      · exact ih.1 twice
  | case4 afterBlank c cs solid ih =>
      have other : c ≠ ' ' := by
        rintro rfl
        exact solid rfl
      rw [double_infix_cons_iff]
      refine ⟨?_, fun _ first => other (Option.some.inj first)⟩
      rintro (⟨same, -⟩ | twice)
      · exact other same
      · exact ih.1 twice

/-- Single spaces stay. -/
theorem collapseFrom_of_single {cs : List Char} {afterBlank : Bool}
    (spaces : ∀ c ∈ cs, isBlank c = true → c = ' ') (single : ¬[' ', ' '] <:+: cs)
    (first : afterBlank = true → cs.head? ≠ some ' ') : collapseFrom afterBlank cs = cs := by
  fun_induction collapseFrom afterBlank cs with
  | case1 => rfl
  | case2 c cs blank ih =>
      have space := spaces c List.mem_cons_self blank
      exact absurd (congrArg some space) (first rfl)
  | case3 afterBlank c cs blank after ih =>
      obtain rfl := spaces c List.mem_cons_self blank
      rw [double_infix_cons_iff, not_or] at single
      rw [ih (fun c mem => spaces c (List.mem_cons_of_mem _ mem)) single.2
        fun _ twice => single.1 ⟨rfl, twice⟩]
  | case4 afterBlank c cs solid ih =>
      rw [double_infix_cons_iff, not_or] at single
      rw [ih (fun c mem => spaces c (List.mem_cons_of_mem _ mem)) single.2 nofun]

theorem head?_joinTags (cs : List Char) : (joinTags cs).head? = cs.head? := by
  fun_cases joinTags cs <;> rfl

theorem joinTags_sublist (cs : List Char) : (joinTags cs).Sublist cs := by
  fun_induction joinTags cs with
  | case1 cs ih => exact (ih.trans (List.sublist_cons_self _ _)).cons_cons _
  | case2 c cs _ ih => exact ih.cons_cons _
  | case3 => exact List.Sublist.refl _

theorem single_joinTags {cs : List Char} (single : ¬[' ', ' '] <:+: cs) :
    ¬[' ', ' '] <:+: joinTags cs := by
  fun_induction joinTags cs with
  | case1 cs ih =>
      have rest : ¬[' ', ' '] <:+: '<' :: cs := fun twice =>
        single (twice.trans ⟨['>', ' '], [], by simp⟩)
      rw [double_infix_cons_iff, not_or]
      exact ⟨fun twice => absurd twice.1 (by decide), ih rest⟩
  | case2 c cs _ ih =>
      rw [double_infix_cons_iff, not_or] at single ⊢
      rw [head?_joinTags]
      exact ⟨single.1, ih single.2⟩
  | case3 => exact single

/-- A space in front of a text stays. -/
theorem joinTags_space (cs : List Char) : joinTags (' ' :: cs) = ' ' :: joinTags cs := rfl

/-- No space is left between two tags. -/
theorem joined_joinTags (cs : List Char) : ¬['>', ' ', '<'] <:+: joinTags cs := by
  fun_induction joinTags cs with
  | case1 cs ih =>
      rw [List.infix_cons_iff, not_or]
      refine ⟨?_, ih⟩
      rintro ⟨rest, same⟩
      have first := congrArg List.head? (List.cons.inj same).2
      rw [head?_joinTags] at first
      exact absurd (Option.some.inj first) (by decide)
  | case2 c cs other ih =>
      rw [List.infix_cons_iff, not_or]
      refine ⟨?_, ih⟩
      rintro ⟨rest, same⟩
      obtain ⟨rfl, tail⟩ := List.cons.inj same
      have first := congrArg List.head? tail
      rw [head?_joinTags] at first
      obtain ⟨behind, rfl⟩ := List.head?_eq_some_iff.1 first.symm
      rw [joinTags_space] at tail
      have second := congrArg List.head? (List.cons.inj tail).2
      rw [head?_joinTags] at second
      obtain ⟨last, rfl⟩ := List.head?_eq_some_iff.1 second.symm
      exact other last rfl rfl
  | case3 => simp

/-- A text without a space between two tags stays as it is. -/
theorem joinTags_of_joined {cs : List Char} (joined : ¬['>', ' ', '<'] <:+: cs) :
    joinTags cs = cs := by
  fun_induction joinTags cs with
  | case1 cs ih => exact absurd ⟨[], cs, rfl⟩ joined
  | case2 c cs _ ih =>
      rw [ih fun between => joined (between.trans (List.suffix_cons c cs).isInfix)]
  | case3 => rfl

/-! ## Ends -/

/-- Nothing is left to trim at the beginning of a text that is trimmed there. -/
theorem trimStart_of_front {front cs : List Char} (begins : front <+: trimStart cs) :
    trimStart front = front := by
  obtain ⟨back, same⟩ := begins
  cases front with
  | nil => rfl
  | cons c rest =>
      have solid := List.head?_dropWhile_not isBlank cs
      rw [← trimStart, ← same] at solid
      exact List.dropWhile_cons_of_neg (Bool.eq_false_iff.1 solid)

theorem trim_trim (cs : List Char) : trim (trim cs) = trim cs := by
  have start : trimStart (trim cs) = trim cs := trimStart_of_front (trimEnd_isFront _)
  rw [trim, start, trim, trimEnd, trimEnd, List.reverse_reverse, List.dropWhile_idempotent]

theorem trim_isPart (cs : List Char) : trim cs <:+: cs :=
  (trimEnd_isFront _).isInfix.trans (List.dropWhile_suffix isBlank).isInfix

theorem tidy_normalChars (cs : List Char) : Tidy (normalChars cs) := by
  have tidy : Tidy (joinTags (collapse (withoutComments cs))) := by
    refine ⟨fun c mem => ?_, ?_, joined_joinTags _⟩
    · exact spaces_collapseFrom _ false c ((joinTags_sublist _).subset mem)
    · exact single_joinTags (single_collapseFrom _ false).1
  exact tidy.of_part (trim_isPart _)

theorem dropCommentsWithin_clean {cs : List Char} (clean : dropComments cs = cs) (passes : Nat) :
    dropCommentsWithin passes cs = cs := by
  cases passes with
  | zero => rfl
  | succ passes => rw [dropCommentsWithin, if_pos clean]

theorem dropCommentsWithin_changed {cs : List Char} (changed : dropComments cs ≠ cs)
    (passes : Nat) :
    dropCommentsWithin (passes + 1) cs = dropCommentsWithin passes (dropComments cs) := by
  rw [dropCommentsWithin, if_neg changed]

/-- **Markup in normal form is its own normal form.** -/
theorem normalChars_normalChars (cs : List Char) :
    normalChars (normalChars cs) = normalChars cs := by
  have tidy := tidy_normalChars cs
  have clean : withoutComments (normalChars cs) = normalChars cs :=
    dropCommentsWithin_clean (dropComments_normalChars cs) _
  have collapsed : collapse (normalChars cs) = normalChars cs :=
    collapseFrom_of_single tidy.spaces tidy.single fun flag => nomatch flag
  have trimmed : trim (normalChars cs) = normalChars cs := trim_trim _
  rw [normalChars, clean, collapsed, joinTags_of_joined tidy.joined, trimmed]

theorem normalize_normalize (html : String) : normalize (normalize html) = normalize html := by
  rw [normalize, normalize, String.toList_ofList, normalChars_normalChars]

/-! ## Blanks at the beginning -/

section Blank

variable {c : Char} (blank : isBlank c = true)
include blank

/-- A blank in front of a text does not matter to its comments. -/
theorem dropComments_blank (cs : List Char) : dropComments (c :: cs) = c :: dropComments cs := by
  rw [dropComments, dropCommentsFrom]
  · rfl
  · rintro rest rfl
    exact absurd blank (by decide)

theorem dropCommentsWithin_blank (passes : Nat) (cs : List Char) :
    dropCommentsWithin passes (c :: cs) = c :: dropCommentsWithin passes cs := by
  induction passes generalizing cs with
  | zero => rfl
  | succ passes ih =>
      have first := dropComments_blank blank cs
      by_cases clean : dropComments cs = cs
      · rw [dropCommentsWithin_clean clean, dropCommentsWithin_clean (by rw [first, clean])]
      · have changed : dropComments (c :: cs) ≠ c :: cs := dropComments_cons_ne c clean
        rw [dropCommentsWithin_changed clean, dropCommentsWithin_changed changed, first, ih]

omit blank in
/-- One pass more than enough changes nothing. -/
theorem dropCommentsWithin_succ {passes : Nat} {cs : List Char} (enough : cs.length ≤ passes) :
    dropCommentsWithin (passes + 1) cs = dropCommentsWithin passes cs := by
  induction passes generalizing cs with
  | zero =>
      obtain rfl := List.length_eq_zero_iff.1 (Nat.le_zero.1 enough)
      rfl
  | succ passes ih =>
      by_cases clean : dropComments cs = cs
      · rw [dropCommentsWithin_clean clean, dropCommentsWithin_clean clean]
      · rw [dropCommentsWithin_changed clean, dropCommentsWithin_changed clean]
        exact ih (Nat.le_of_lt_succ (Nat.lt_of_lt_of_le (length_dropComments_lt clean) enough))

theorem withoutComments_blank (cs : List Char) :
    withoutComments (c :: cs) = c :: withoutComments cs := by
  rw [withoutComments, List.length_cons, dropCommentsWithin_blank blank,
    dropCommentsWithin_succ (Nat.le_refl _), withoutComments]

omit blank in
/-- A space in front of collapsed text is trimmed, whether or not another one follows. -/
theorem trim_collapse (cs : List Char) :
    trim (joinTags (' ' :: collapseFrom true cs)) = trim (joinTags (collapse cs)) := by
  cases cs with
  | nil => rfl
  | cons c cs =>
      by_cases blank : isBlank c = true
      · simp [collapse, collapseFrom, blank]
      · have same : collapseFrom true (c :: cs) = collapse (c :: cs) := by
          simp [collapse, collapseFrom, blank]
        rw [same, joinTags_space]
        rfl

theorem normalChars_blank (cs : List Char) : normalChars (c :: cs) = normalChars cs := by
  have first : collapse (c :: withoutComments cs) =
      ' ' :: collapseFrom true (withoutComments cs) := by
    simp [collapse, collapseFrom, blank]
  rw [normalChars, withoutComments_blank blank, first, trim_collapse, normalChars]

end Blank

/-- Blanks at the beginning of a text do not matter to its normal form. -/
theorem normalChars_trimStart (cs : List Char) : normalChars (trimStart cs) = normalChars cs := by
  induction cs with
  | nil => rfl
  | cons c cs ih =>
      by_cases blank : isBlank c = true
      · rw [trimStart, List.dropWhile_cons_of_pos blank, normalChars_blank blank]
        exact ih
      · rw [trimStart, List.dropWhile_cons_of_neg blank]

end HotReload.Html
