import HotReload.Proofs.Comments

/-!
# What the normal form keeps of a text

Once its comments are taken out, a text consists of characters that are not blank and of the gaps
between them. The normal form keeps all these characters, in order, and of the gaps it keeps
whether they are there (`normalize_exact`): a gap becomes one space, and between the end of a tag
and the beginning of the next one it is dropped. Nothing is left of the gaps at both ends.

The stages of the normal form work on the flat text. Seen as a `Layout`, in which each character
that is not blank has the gap behind it, each stage changes gaps only, and all of them together
are one step on the layout (`normalChars_eq`).
-/

set_option autoImplicit false

namespace HotReload.Html

open Text (isBlank trim trimStart trimEnd)

/-! ## Solid characters and gaps -/

/-- The characters of a text that are not blank. -/
def solids (cs : List Char) : List Char :=
  cs.filter fun c => !isBlank c

/-- Between the solid character number `i` of a text, which is `x`, and the next one, which is
`y`, stands the gap. -/
def Between (cs : List Char) (i : Nat) (x : Char) (gap : List Char) (y : Char) : Prop :=
  ∃ front back, cs = front ++ x :: (gap ++ y :: back) ∧ (solids front).length = i ∧
    isBlank x = false ∧ isBlank y = false ∧ gap.all isBlank = true

/-- What the normal form makes of a gap between two characters. -/
def narrowed (x : Char) (gap : List Char) (y : Char) : List Char :=
  if gap = [] ∨ (x = '>' ∧ y = '<') then [] else [' ']

/-- A text in normal form: no comments, single spaces as its only blanks, none between two tags
and none at its ends. -/
structure IsNormal (cs : List Char) : Prop extends Tidy cs where
  commentless : Commentless cs
  start : cs.head? ≠ some ' '
  stop : cs.getLast? ≠ some ' '

/-- A text as a list of solid characters, each with the gap behind it. -/
structure Layout where
  /-- The gap in front of the first solid character. -/
  lead : List Char := []
  words : List (Char × List Char) := []

namespace Layout

/-- The characters of words one after the other. -/
def spell (words : List (Char × List Char)) : List Char :=
  words.flatMap fun word => word.1 :: word.2

/-- The text with a layout. -/
def chars (layout : Layout) : List Char :=
  layout.lead ++ spell layout.words

/-- The layout of a text. -/
def ofChars : List Char → Layout
  | [] => {}
  | c :: cs =>
    if isBlank c then { ofChars cs with lead := c :: (ofChars cs).lead }
    else ⟨[], (c, (ofChars cs).lead) :: (ofChars cs).words⟩

theorem spell_cons (word : Char × List Char) (words : List (Char × List Char)) :
    spell (word :: words) = word.1 :: (word.2 ++ spell words) := rfl

variable {c : Char} {cs : List Char}

theorem ofChars_blank (blank : isBlank c = true) :
    ofChars (c :: cs) = { ofChars cs with lead := c :: (ofChars cs).lead } := by
  rw [ofChars, if_pos blank]

theorem ofChars_solid (solid : isBlank c = false) :
    ofChars (c :: cs) = ⟨[], (c, (ofChars cs).lead) :: (ofChars cs).words⟩ := by
  rw [ofChars, if_neg (by simp [solid])]

/-- A text has the characters of its layout. -/
theorem chars_ofChars (cs : List Char) : (ofChars cs).chars = cs := by
  induction cs with
  | nil => rfl
  | cons c cs ih =>
      cases kind : isBlank c with
      | true =>
          rw [ofChars_blank kind]
          exact congrArg (c :: ·) ih
      | false =>
          rw [ofChars_solid kind]
          exact congrArg (c :: ·) ih

theorem lead_blank (cs : List Char) : (ofChars cs).lead.all isBlank = true := by
  induction cs with
  | nil => rfl
  | cons c cs ih =>
      cases kind : isBlank c with
      | true =>
          rw [ofChars_blank kind, List.all_cons, kind]
          exact ih
      | false => simp [ofChars_solid kind]

/-- The words of a text begin with its solid characters. -/
theorem words_ofChars (cs : List Char) : (ofChars cs).words.map Prod.fst = solids cs := by
  induction cs with
  | nil => rfl
  | cons c cs ih =>
      cases kind : isBlank c with
      | true => simp [ofChars_blank kind, solids, kind, ih]
      | false => simp [ofChars_solid kind, solids, kind, ih]

theorem solid_words (cs : List Char) : ∀ word ∈ (ofChars cs).words, isBlank word.1 = false := by
  intro word mem
  have listed : word.1 ∈ solids cs := words_ofChars cs ▸ List.mem_map_of_mem mem
  simpa using (List.mem_filter.1 listed).2

/-- Blanks in front of a text join its lead. -/
theorem ofChars_append {gap : List Char} (blank : gap.all isBlank = true) (cs : List Char) :
    ofChars (gap ++ cs) = { ofChars cs with lead := gap ++ (ofChars cs).lead } := by
  induction gap with
  | nil => rfl
  | cons c gap ih =>
      simp only [List.all_cons, Bool.and_eq_true] at blank
      rw [List.cons_append, ofChars_blank blank.1, ih blank.2]
      rfl

/-- **The gaps of a text are those of its layout.** -/
theorem between_iff {i : Nat} {x y : Char} {gap : List Char} :
    Between cs i x gap y ↔ (ofChars cs).words[i]? = some (x, gap) ∧
      ∃ last, (ofChars cs).words[i + 1]? = some (y, last) := by
  constructor
  · rintro ⟨front, back, rfl, rfl, solidX, solidY, blank⟩
    induction front with
    | nil =>
        rw [List.nil_append, ofChars_solid solidX, ofChars_append blank, ofChars_solid solidY]
        simp [solids]
    | cons c front ih =>
        cases kind : isBlank c with
        | true => simpa [ofChars_blank kind, solids, kind] using ih
        | false => simpa [ofChars_solid kind, solids, kind] using ih
  · rintro ⟨first, last, second⟩
    induction cs generalizing i with
    | nil => simp [ofChars] at first
    | cons c cs ih =>
        cases kind : isBlank c with
        | true =>
            rw [ofChars_blank kind] at first second
            obtain ⟨front, back, rfl, count, rest⟩ := ih first second
            exact ⟨c :: front, back, rfl, by simpa [solids, kind] using count, rest⟩
        | false =>
            rw [ofChars_solid kind] at first second
            cases i with
            | succ i =>
                obtain ⟨front, back, rfl, count, rest⟩ := ih first second
                exact ⟨c :: front, back, rfl, by simpa [solids, kind] using count, rest⟩
            | zero =>
                obtain ⟨rfl, rfl⟩ := Prod.mk.inj (Option.some.inj first)
                obtain ⟨rest, words⟩ : ∃ rest, (ofChars cs).words = (y, last) :: rest := by
                  cases words : (ofChars cs).words with
                  | nil => simp [words] at second
                  | cons word rest => exact ⟨rest, by simpa [words] using second⟩
                have whole : cs = (ofChars cs).lead ++ y :: (last ++ spell rest) := by
                  conv_lhs => rw [← chars_ofChars cs, chars, words, spell_cons]
                have listed : (y, last) ∈ (ofChars cs).words := by
                  rw [words]
                  exact List.mem_cons_self
                have solidNext : isBlank (y, last).1 = false := solid_words cs _ listed
                refine ⟨[], last ++ spell rest, ?_, rfl, kind, solidNext, lead_blank cs⟩
                rw [List.nil_append, ← whole]

end Layout

open Layout

/-! ## Runs of blanks -/

/-- A gap that is one space, if there is one. -/
def oneSpace (gap : List Char) : List Char :=
  if gap = [] then [] else [' ']

theorem oneSpace_blank (gap : List Char) : (oneSpace gap).all isBlank = true := by
  unfold oneSpace
  split
  · rfl
  · decide

/-- Words with their gaps replaced by one space each. -/
def singled (words : List (Char × List Char)) : List (Char × List Char) :=
  words.map fun word => (word.1, oneSpace word.2)

theorem singled_cons (word : Char × List Char) (words : List (Char × List Char)) :
    singled (word :: words) = (word.1, oneSpace word.2) :: singled words := rfl

/-- A text with each of its gaps replaced by one space. -/
def spaced (cs : List Char) : List Char :=
  oneSpace (ofChars cs).lead ++ spell (singled (ofChars cs).words)

/-- Collapsing a text replaces each of its gaps by one space. Behind a blank the first gap is
left out. -/
theorem collapseFrom_eq (cs : List Char) :
    collapseFrom false cs = spaced cs ∧
      collapseFrom true cs = spell (singled (ofChars cs).words) := by
  induction cs with
  | nil => exact ⟨rfl, rfl⟩
  | cons c cs ih =>
      cases kind : isBlank c with
      | true => simp [collapseFrom, kind, spaced, ofChars_blank kind, ih.2, oneSpace]
      | false =>
          simp [collapseFrom, kind, spaced, ofChars_solid kind, ih.1, singled_cons, spell_cons,
            oneSpace]

theorem collapse_eq_spaced (cs : List Char) : collapse cs = spaced cs :=
  (collapseFrom_eq cs).1

/-! ## Gaps between tags -/

/-- Words whose gaps have become those of the normal form, up to the last one. -/
def tighten : List (Char × List Char) → List (Char × List Char)
  | [] => []
  | [word] => [(word.1, oneSpace word.2)]
  | word :: next :: rest => (word.1, narrowed word.1 word.2 next.1) :: tighten (next :: rest)

/-- Behind a character that ends no tag, nothing is joined. -/
theorem joinTags_cons {c : Char} {cs : List Char}
    (other : ∀ rest, c = '>' → cs = ' ' :: '<' :: rest → False) :
    joinTags (c :: cs) = c :: joinTags cs := by
  rw [joinTags]
  exact other

/-- Joining tags behind collapsing changes each gap by what stands at its two sides. -/
theorem joinTags_spell {words : List (Char × List Char)}
    (solid : ∀ word ∈ words, isBlank word.1 = false) :
    joinTags (spell (singled words)) = spell (tighten words) := by
  fun_induction tighten words with
  | case1 => rfl
  | case2 word =>
      by_cases none : word.2 = []
      · simp [singled, spell, oneSpace, none, joinTags_cons, joinTags]
      · simp [singled, spell, oneSpace, none, joinTags_cons, joinTags]
  | case3 word next rest ih =>
      obtain ⟨-, solid⟩ := List.forall_mem_cons.1 solid
      have solidNext := solid next List.mem_cons_self
      replace ih := ih solid
      rw [singled_cons, spell_cons] at ih ⊢
      rw [singled_cons, spell_cons, spell_cons, ← ih]
      generalize oneSpace next.2 ++ spell (singled rest) = behind
      by_cases none : word.2 = []
      · -- there is no gap, and the next character is no space
        have other : ∀ more, word.1 = '>' → next.1 :: behind = ' ' :: '<' :: more → False := by
          intro more _ same
          rw [(List.cons.inj same).1] at solidNext
          exact absurd solidNext (by decide)
        rw [oneSpace, narrowed, if_pos none, if_pos (.inl none)]
        exact joinTags_cons other
      · have gap : oneSpace word.2 = [' '] := if_neg none
        by_cases tags : word.1 = '>' ∧ next.1 = '<'
        · simp [gap, narrowed, tags, joinTags]
        · have other : ∀ more, word.1 = '>' →
              ' ' :: next.1 :: behind = ' ' :: '<' :: more → False := by
            intro more ends same
            exact tags ⟨ends, (List.cons.inj (List.cons.inj same).2).1⟩
          have apart : ¬ (word.2 = [] ∨ word.1 = '>' ∧ next.1 = '<') := not_or.2 ⟨none, tags⟩
          rw [narrowed, if_neg apart, gap, List.singleton_append, joinTags_cons other,
            joinTags_space, List.singleton_append]

/-! ## The ends -/

/-- Words whose gaps have become those of the normal form. -/
def narrow : List (Char × List Char) → List (Char × List Char)
  | [] => []
  | [word] => [(word.1, [])]
  | word :: next :: rest => (word.1, narrowed word.1 word.2 next.1) :: narrow (next :: rest)

/-- The last gap is all that the ends still have to lose. -/
theorem exists_spell_tighten (words : List (Char × List Char)) :
    ∃ gap, gap.all isBlank = true ∧ spell (tighten words) = spell (narrow words) ++ gap := by
  fun_induction narrow words with
  | case1 => exact ⟨[], rfl, rfl⟩
  | case2 word => exact ⟨oneSpace word.2, oneSpace_blank _, by simp [tighten, spell]⟩
  | case3 word next rest ih =>
      obtain ⟨gap, blank, same⟩ := ih
      exact ⟨gap, blank, by simp [tighten, spell_cons, same]⟩

theorem map_fst_narrow (words : List (Char × List Char)) :
    (narrow words).map Prod.fst = words.map Prod.fst := by
  fun_induction narrow words with
  | case1 => rfl
  | case2 word => rfl
  | case3 word next rest ih => simpa using ih

/-- Words of the normal form begin and end with a solid character. -/
theorem solid_ends_narrow {words : List (Char × List Char)}
    (solid : ∀ word ∈ words, isBlank word.1 = false) :
    (∀ c ∈ (spell (narrow words)).head?, isBlank c = false) ∧
      ∀ c ∈ (spell (narrow words)).getLast?, isBlank c = false := by
  fun_induction narrow words with
  | case1 => exact ⟨nofun, nofun⟩
  | case2 word => simpa [spell] using solid
  | case3 word next rest ih =>
      obtain ⟨first, solid⟩ := List.forall_mem_cons.1 solid
      refine ⟨by simpa [spell] using first, fun c last => ?_⟩
      have some : spell (narrow (next :: rest)) ≠ [] := by
        cases rest <;> simp [narrow, spell]
      rw [spell_cons, ← List.cons_append, List.getLast?_append_of_ne_nil _ some] at last
      exact (ih solid).2 c last

/-- Trimming takes the blanks at both ends of a text with solid ends. -/
theorem trim_append {lead core gap : List Char} (leads : lead.all isBlank = true)
    (follows : gap.all isBlank = true) (first : ∀ c ∈ core.head?, isBlank c = false)
    (last : ∀ c ∈ core.getLast?, isBlank c = false) : trim (lead ++ (core ++ gap)) = core := by
  rw [List.all_eq_true] at leads follows
  cases core with
  | nil =>
      have all : ∀ c ∈ lead ++ ([] ++ gap), isBlank c = true := by
        simpa [or_imp, forall_and] using And.intro leads follows
      rw [trim, trimStart, List.dropWhile_eq_nil_iff.2 all]
      rfl
  | cons c core =>
      have start : trimStart (lead ++ (c :: core ++ gap)) = c :: core ++ gap := by
        rw [trimStart, List.dropWhile_append_of_pos leads, List.cons_append,
          List.dropWhile_cons_of_neg (by simp [first c rfl])]
      obtain ⟨front, stop, same⟩ := (c :: core).eq_nil_or_concat.resolve_left (List.cons_ne_nil _ _)
      rw [List.concat_eq_append] at same
      rw [same, List.getLast?_append] at last
      rw [trim, start, same, trimEnd, List.reverse_append,
        List.dropWhile_append_of_pos (by simpa using follows), List.reverse_append,
        List.reverse_singleton, List.singleton_append,
        List.dropWhile_cons_of_neg (by simp [last stop rfl])]
      simp

/-! ## All stages together -/

/-- **The normal form is one step on the layout.** -/
theorem normalChars_eq (cs : List Char) :
    normalChars cs = spell (narrow (ofChars (withoutComments cs)).words) := by
  have solid := solid_words (withoutComments cs)
  obtain ⟨gap, blank, tight⟩ := exists_spell_tighten (ofChars (withoutComments cs)).words
  obtain ⟨first, last⟩ := solid_ends_narrow solid
  have joined : joinTags (collapse (withoutComments cs)) =
      oneSpace (ofChars (withoutComments cs)).lead ++
        (spell (narrow (ofChars (withoutComments cs)).words) ++ gap) := by
    rw [← tight, ← joinTags_spell solid, collapse_eq_spaced, spaced]
    unfold oneSpace
    split
    · rfl
    · exact joinTags_space _
  rw [normalChars, joined, trim_append (oneSpace_blank _) blank first last]

/-- The layout of words with solid characters and blank gaps. -/
theorem ofChars_spell {words : List (Char × List Char)}
    (proper : ∀ word ∈ words, isBlank word.1 = false ∧ word.2.all isBlank = true) :
    ofChars (spell words) = { words } := by
  induction words with
  | nil => rfl
  | cons word words ih =>
      obtain ⟨⟨solid, blank⟩, proper⟩ := List.forall_mem_cons.1 proper
      rw [spell_cons, ofChars_solid solid, ofChars_append blank, ih proper]
      simp

theorem narrow_proper {words : List (Char × List Char)}
    (solid : ∀ word ∈ words, isBlank word.1 = false) :
    ∀ word ∈ narrow words, isBlank word.1 = false ∧ word.2.all isBlank = true := by
  fun_induction narrow words with
  | case1 => exact List.forall_mem_nil _
  | case2 word => simpa using solid
  | case3 word next rest ih =>
      obtain ⟨first, solid⟩ := List.forall_mem_cons.1 solid
      refine List.forall_mem_cons.2 ⟨⟨first, ?_⟩, ih solid⟩
      dsimp only [narrowed]
      split
      · rfl
      · decide

/-- The layout of a normal form. -/
theorem words_normalChars (cs : List Char) :
    (ofChars (normalChars cs)).words = narrow (ofChars (withoutComments cs)).words := by
  rw [normalChars_eq, ofChars_spell (narrow_proper (solid_words _))]

/-- The gap behind a word depends on the next word. -/
theorem getElem?_narrow (words : List (Char × List Char)) (i : Nat) :
    (narrow words)[i]? = words[i]?.map fun word =>
      (word.1, match words[i + 1]? with
        | none => []
        | some next => narrowed word.1 word.2 next.1) := by
  fun_induction narrow words generalizing i with
  | case1 => simp
  | case2 word => cases i <;> simp
  | case3 word next rest ih =>
      cases i with
      | zero => simp
      | succ i => simpa using ih i

/-- The gaps of a normal form. -/
theorem between_normalChars_iff {cs : List Char} {i : Nat} {x y : Char} {gap : List Char} :
    Between (normalChars cs) i x gap y ↔
      ∃ wide, Between (withoutComments cs) i x wide y ∧ gap = narrowed x wide y := by
  simp only [between_iff, words_normalChars, getElem?_narrow, Option.map_eq_some_iff,
    Prod.mk.injEq]
  constructor
  · rintro ⟨⟨⟨_, wide⟩, first, rfl, narrows⟩, _, ⟨_, last⟩, second, rfl, -⟩
    rw [second] at narrows
    exact ⟨wide, ⟨first, last, second⟩, narrows.symm⟩
  · rintro ⟨wide, ⟨first, last, second⟩, rfl⟩
    refine ⟨⟨(x, wide), first, rfl, ?_⟩, _, ⟨(y, last), second, rfl, rfl⟩⟩
    rw [second]

theorem isNormal_normalChars (cs : List Char) : IsNormal (normalChars cs) := by
  have ends := solid_ends_narrow (solid_words (withoutComments cs))
  rw [← normalChars_eq] at ends
  exact {
    tidy_normalChars cs with
    commentless := commentless_iff.2 (dropComments_normalChars cs)
    start := fun same => absurd (ends.1 ' ' same) (by decide)
    stop := fun same => absurd (ends.2 ' ' same) (by decide) }

/-- A text in normal form has solid ends. -/
theorem IsNormal.trim_eq {cs : List Char} (normal : IsNormal cs) : trim cs = cs := by
  have solid : ∀ c ∈ cs, some c ≠ some ' ' → isBlank c = false := by
    intro c mem other
    by_contra blank
    exact other (congrArg some (normal.spaces c mem (by simpa using blank)))
  have first : ∀ c ∈ cs.head?, isBlank c = false := fun c same =>
    solid c (List.mem_of_head? same) (same ▸ normal.start)
  have last : ∀ c ∈ cs.getLast?, isBlank c = false := fun c same =>
    solid c (List.mem_of_getLast? same) (same ▸ normal.stop)
  have trimmed : trim ([] ++ (cs ++ [])) = cs := trim_append rfl rfl first last
  simpa using trimmed

/-- **Exactly the texts in normal form are their own normal form.** -/
theorem normalChars_eq_self_iff {cs : List Char} : normalChars cs = cs ↔ IsNormal cs := by
  constructor
  · intro same
    rw [← same]
    exact isNormal_normalChars cs
  · intro normal
    have clean : withoutComments cs = cs :=
      dropCommentsWithin_clean (commentless_iff.1 normal.commentless) _
    have collapsed : collapse cs = cs :=
      collapseFrom_of_single normal.spaces normal.single fun flag => nomatch flag
    rw [normalChars, clean, collapsed, joinTags_of_joined normal.joined, normal.trim_eq]

/-- **What the normal form of a text is.** Passes take out its comments until none is left, and
they lead to one text. The result is in normal form, has the solid characters of this text in
order, and has the narrowed gaps of this text between them. Exactly the texts in normal form stay
as they are. -/
theorem normalize_exact (html : String) :
    ∃ text, (∀ other, Cleared html.toList other ↔ other = text) ∧
      IsNormal (normalize html).toList ∧
      solids (normalize html).toList = solids text ∧
      (∀ i x gap y, Between (normalize html).toList i x gap y ↔
        ∃ wide, Between text i x wide y ∧ gap = narrowed x wide y) ∧
      (normalize html = html ↔ IsNormal html.toList) ∧
      normalize (normalize html) = normalize html := by
  have spelt : (normalize html).toList = normalChars html.toList := String.toList_ofList
  refine ⟨withoutComments html.toList, fun other => cleared_iff, ?_, ?_, ?_, ?_,
    normalize_normalize html⟩
  · rw [spelt]
    exact isNormal_normalChars _
  · rw [spelt, ← words_ofChars, ← words_ofChars, words_normalChars, map_fst_narrow]
  · rw [spelt]
    exact fun i x gap y => between_normalChars_iff
  · rw [← normalChars_eq_self_iff, ← spelt, String.toList_inj]

end HotReload.Html
