import HotReload.Text.Blank

/-!
# Normal form of markup

Rendered pages and expected pages are compared in a normal form. Comments are
taken out, first all comments of the text and then those that this brings
together, until none is left. Every run of blank characters becomes one space, a
space between two tags is dropped, and so are the spaces at both ends.

A comment reaches from `<!--` to the first `-->` behind it. An opening without an
end is plain text.
-/

set_option autoImplicit false

namespace HotReload.Html

/-! ## Comments -/

/-- Whether the end of a comment occurs in a text. -/
def closes : List Char → Bool
  | [] => false
  | '-' :: '-' :: '>' :: _ => true
  | _ :: cs => closes cs

/-- Takes the comments out of a text in one pass. The flag says whether the text
begins inside a comment. -/
def dropCommentsFrom : (inside : Bool) → List Char → List Char
  | true, '-' :: '-' :: '>' :: cs => dropCommentsFrom false cs
  | true, _ :: cs => dropCommentsFrom true cs
  | false, '<' :: '!' :: '-' :: '-' :: cs =>
    if closes cs then dropCommentsFrom true cs
    else '<' :: dropCommentsFrom false ('!' :: '-' :: '-' :: cs)
  | false, c :: cs => c :: dropCommentsFrom false cs
  | _, [] => []

/-- Takes the comments out of a text in one pass. -/
def dropComments (cs : List Char) : List Char :=
  dropCommentsFrom false cs

/-- One pass only leaves characters out. -/
theorem dropCommentsFrom_sublist (inside : Bool) (cs : List Char) :
    (dropCommentsFrom inside cs).Sublist cs := by
  fun_induction dropCommentsFrom inside cs with
  | case1 cs ih =>
    exact ih.trans (List.Sublist.cons _ (List.Sublist.cons _ (List.sublist_cons_self _ _)))
  | case2 c cs _ ih => exact ih.trans (List.sublist_cons_self _ _)
  | case3 cs _ ih =>
    exact ih.trans (List.Sublist.cons _ (List.Sublist.cons _
      (List.Sublist.cons _ (List.sublist_cons_self _ _))))
  | case4 cs _ ih => exact ih.cons_cons _
  | case5 c cs _ ih => exact ih.cons_cons _
  | case6 => exact List.Sublist.refl _

/-- A pass that changes a text makes it shorter. -/
theorem length_dropComments_lt {cs : List Char} (changed : dropComments cs ≠ cs) :
    (dropComments cs).length < cs.length := by
  have sub := dropCommentsFrom_sublist false cs
  refine Nat.lt_of_le_of_ne sub.length_le fun same => changed ?_
  exact sub.eq_of_length same

/-- Makes passes until one changes nothing, but at most `passes` of them. -/
def dropCommentsWithin : (passes : Nat) → List Char → List Char
  | 0, cs => cs
  | passes + 1, cs =>
    if dropComments cs = cs then cs else dropCommentsWithin passes (dropComments cs)

/-- Takes comments out until none is left. Each pass that changes a text makes it
shorter, so as many passes as the text has characters are enough. -/
def withoutComments (cs : List Char) : List Char :=
  dropCommentsWithin cs.length cs

/-- Enough passes leave a text that a further pass does not change. -/
theorem dropComments_dropCommentsWithin {passes : Nat} {cs : List Char}
    (enough : cs.length ≤ passes) :
    dropComments (dropCommentsWithin passes cs) = dropCommentsWithin passes cs := by
  induction passes generalizing cs with
  | zero =>
    obtain rfl := List.length_eq_zero_iff.1 (Nat.le_zero.1 enough)
    rfl
  | succ passes ih =>
    simp only [dropCommentsWithin]
    split
    · assumption
    · rename_i changed
      exact ih (Nat.le_of_lt_succ (Nat.lt_of_lt_of_le (length_dropComments_lt changed) enough))

/-- A text without comments stays as it is. -/
theorem dropComments_withoutComments (cs : List Char) :
    dropComments (withoutComments cs) = withoutComments cs :=
  dropComments_dropCommentsWithin (Nat.le_refl _)

/-! ## Blanks -/

/-- Makes every run of blanks one space. The flag says whether the text follows a
blank. -/
def collapseFrom : (afterBlank : Bool) → List Char → List Char
  | _, [] => []
  | afterBlank, c :: cs =>
    if Text.isBlank c then
      if afterBlank then collapseFrom true cs else ' ' :: collapseFrom true cs
    else c :: collapseFrom false cs

/-- Makes every run of blanks one space. -/
def collapse (cs : List Char) : List Char :=
  collapseFrom false cs

/-- Drops a space between the end of one tag and the beginning of the next. -/
def joinTags : List Char → List Char
  | '>' :: ' ' :: '<' :: cs => '>' :: joinTags ('<' :: cs)
  | c :: cs => c :: joinTags cs
  | [] => []

/-! ## Normal form -/

/-- The normal form of a text. -/
def normalChars (cs : List Char) : List Char :=
  Text.trim (joinTags (collapse (withoutComments cs)))

/-- The normal form of a string. -/
def normalize (html : String) : String :=
  String.ofList (normalChars html.toList)

end HotReload.Html
