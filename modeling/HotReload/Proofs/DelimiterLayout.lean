import HotReload.Proofs.BlankStarts

/-!
# Spaces around delimiters

Spaces and tabs in front of a line are skipped before its form is told, so they leave its directive
(`Directive.ofLine_prepend`). Behind a delimiter or a title, each form either ends with spaces
already or takes them into its text, which is trimmed when it is used
(`Directive.trimmed_ofLine_append`). A condition on its line is no such mark: what stands behind
its label is its text.

Where the line is a mark at its place (`Delimits`), its characters are not taken for text, so the
reader makes the same of it.
-/

set_option autoImplicit false

namespace HotReload.Spec

open Text (Line)

namespace Directive

variable {cs spaces : List Char}

/-! ## Spaces behind a line -/

theorem isBlank_of_isSpace {c : Char} (space : isSpace c = true) : Text.isBlank c = true := by
  simp only [isSpace, Bool.or_eq_true, beq_iff_eq] at space
  rcases space with rfl | rfl <;> decide

/-- What a mark leaves of a text, with more behind the text. -/
theorem behind?_append {mark rest : List Char} (found : behind? mark cs = some rest)
    (more : List Char) : behind? mark (cs ++ more) = some (rest ++ more) := by
  fun_induction behind? mark cs <;> simp_all [behind?]

/-- A part of a text that ends inside the text ends there with more behind the text as well. -/
theorem dropWhile_append_of_stops {p : Char → Bool} (stops : cs.dropWhile p ≠ [])
    (more : List Char) : (cs ++ more).dropWhile p = cs.dropWhile p ++ more := by
  rw [List.dropWhile_append, if_neg (by simpa using stops)]

theorem takeWhile_append_of_stops {p : Char → Bool} (stops : cs.dropWhile p ≠ [])
    (more : List Char) : (cs ++ more).takeWhile p = cs.takeWhile p := by
  rw [List.takeWhile_append, if_neg]
  intro whole
  apply stops
  have split := congrArg List.length (@List.takeWhile_append_dropWhile _ p cs)
  rw [List.length_append, whole] at split
  exact List.length_eq_zero_iff.1 (by omega)

theorem ne_nil_of_behindSpaces? {rest : List Char} (found : behindSpaces? cs = some rest) :
    cs ≠ [] := by
  rintro rfl
  cases found

theorem ne_nil_of_behind? {c : Char} {mark rest : List Char}
    (found : behind? (c :: mark) cs = some rest) : cs ≠ [] := by
  rintro rfl
  cases found

section Spaces

variable (blank : spaces.all isSpace = true)
include blank

theorem dropWhile_isSpace_append (cs : List Char) :
    ∃ more : List Char, more.all isSpace = true ∧
      (cs ++ spaces).dropWhile isSpace = cs.dropWhile isSpace ++ more := by
  by_cases stops : cs.dropWhile isSpace = []
  · have nothing : spaces.dropWhile isSpace = [] :=
      List.dropWhile_eq_nil_iff.2 (List.all_eq_true.1 blank)
    exact ⟨[], rfl, by simp [List.dropWhile_append, stops, nothing]⟩
  · exact ⟨spaces, blank, dropWhile_append_of_stops stops spaces⟩

theorem behindSpaces?_append {rest : List Char} (found : behindSpaces? cs = some rest) :
    ∃ more : List Char, more.all isSpace = true ∧
      behindSpaces? (cs ++ spaces) = some (rest ++ more) := by
  cases cs with
  | nil => cases found
  | cons c cs =>
      obtain ⟨space, same⟩ := Option.ite_none_right_eq_some.1 found
      obtain rfl := Option.some.inj same
      obtain ⟨more, blank, left⟩ := dropWhile_isSpace_append blank cs
      exact ⟨more, blank, by simp [behindSpaces?, space, left]⟩

theorem behindWord?_append {rest : List Char} (found : behindWord? cs = some rest) :
    ∃ more : List Char, more.all isSpace = true ∧
      behindWord? (cs ++ spaces) = some (rest ++ more) := by
  cases cs with
  | cons c cs =>
      have found : behindSpaces? (c :: cs) = some rest := found
      exact behindSpaces?_append blank found
  | nil =>
      obtain rfl := Option.some.inj found
      cases spaces with
      | nil => exact ⟨[], rfl, rfl⟩
      | cons c spaces =>
          rw [List.all_cons, Bool.and_eq_true] at blank
          obtain ⟨first, later⟩ := blank
          refine ⟨spaces.dropWhile isSpace, ?_, by simp [behindWord?, behindSpaces?, first]⟩
          simp [List.dropWhile_eq_nil_iff.2 (List.all_eq_true.1 later)]

/-- Nothing but spaces stands behind a mark, whether or not there are more of them. -/
theorem all_isSpace_dropWhile_append (p : Char → Bool) (cs : List Char) :
    ((cs ++ spaces).dropWhile p).all isSpace = (cs.dropWhile p).all isSpace := by
  by_cases stops : cs.dropWhile p = []
  · have left : (spaces.dropWhile p).all isSpace = true :=
      List.all_eq_true.2 fun c mem =>
        List.all_eq_true.1 blank c ((List.dropWhile_sublist p).mem mem)
    simp [List.dropWhile_append, stops, left]
  · simp [dropWhile_append_of_stops stops, blank]

/-! ## Forms with spaces behind them -/

theorem fileOpen?_append {path : List Char} (found : fileOpen? cs = some path) :
    fileOpen? (cs ++ spaces) = some path := by
  simp only [fileOpen?, bind, Option.bind_eq_some_iff] at found ⊢
  obtain ⟨inner, opened, words, front, name, filled, behind, back, last, closed, rest⟩ := found
  obtain ⟨more, blank, front'⟩ := behindSpaces?_append blank front
  obtain ⟨more', blank', back'⟩ := behindSpaces?_append blank back
  have stops := ne_nil_of_behindSpaces? back
  refine ⟨_, behind?_append opened spaces, words ++ more, ?_, name, ?_, behind ++ more', ?_, _,
    behind?_append closed more', ?_⟩
  · rwa [dropWhile_append_of_stops (ne_nil_of_behindSpaces? front)]
  · rwa [takeWhile_append_of_stops stops]
  · rwa [dropWhile_append_of_stops stops]
  · rwa [all_isSpace_dropWhile_append blank']

theorem isDivider_append (is : isDivider cs = true) : isDivider (cs ++ spaces) = true := by
  unfold isDivider at is ⊢
  cases found : behind? ['*', '*', '*', '*'] cs with
  | none => simp [found] at is
  | some rest =>
      rw [found] at is
      rw [behind?_append found]
      exact (all_isSpace_dropWhile_append blank _ rest).trans is

theorem isBlockClose_append (is : isBlockClose cs = true) : isBlockClose (cs ++ spaces) = true := by
  unfold isBlockClose at is ⊢
  cases found : behind? [':', ':'] cs with
  | none => simp [found] at is
  | some rest =>
      rw [found] at is
      rw [behind?_append found]
      exact (all_isSpace_dropWhile_append blank _ rest).trans is

theorem blockOpen?_append {label words : List Char} (found : blockOpen? cs = some (label, words)) :
    ∃ more : List Char, more.all isSpace = true ∧
      blockOpen? (cs ++ spaces) = some (label, words ++ more) := by
  simp only [blockOpen?, labelled?, bind, Option.bind_eq_some_iff, pure, Option.some.injEq,
    Prod.mk.injEq, Prod.exists] at found ⊢
  obtain ⟨_, _, ⟨inner, opened, name, filled, rfl, rfl⟩, behind, closed, _, words, rfl, rfl⟩ :=
    found
  obtain ⟨more, blank, words⟩ := behindWord?_append blank words
  have stops := ne_nil_of_behind? closed
  refine ⟨more, blank, name, inner.dropWhile isLabelChar ++ spaces,
    ⟨_, behind?_append opened spaces, name, ?_, rfl, ?_⟩, _, behind?_append closed spaces, _, words,
    rfl, rfl⟩
  · rwa [takeWhile_append_of_stops stops]
  · exact dropWhile_append_of_stops stops spaces

theorem title?_append {words : List Char} (found : title? cs = some words) :
    ∃ more : List Char, more.all isSpace = true ∧ title? (cs ++ spaces) = some (words ++ more) := by
  obtain ⟨rest, opened, spaced⟩ := Option.bind_eq_some_iff.1 found
  obtain ⟨more, blank, spaced⟩ := behindSpaces?_append blank spaced
  exact ⟨more, blank, by simp [title?, behind?_append opened, spaced]⟩

/-! ## How a mark begins -/

omit blank in
theorem exists_of_isDivider (is : isDivider cs = true) : ∃ rest, cs = '*' :: rest := by
  unfold isDivider at is
  split at is
  · rename_i found
    exact ⟨_, eq_append_of_behind? found⟩
  · cases is

omit blank in
theorem exists_of_blockOpen? {label words : List Char}
    (found : blockOpen? cs = some (label, words)) :
    ∃ rest, cs = ':' :: rest := by
  simp only [blockOpen?, labelled?, bind, Option.bind_eq_some_iff] at found
  obtain ⟨_, ⟨inner, opened, -⟩, -⟩ := found
  exact ⟨_, eq_append_of_behind? opened⟩

omit blank in
theorem exists_of_isBlockClose (is : isBlockClose cs = true) :
    ∃ rest, cs = ':' :: ':' :: rest ∧ (rest.dropWhile (· == ':')).all isSpace = true := by
  unfold isBlockClose at is
  split at is
  · rename_i found
    exact ⟨_, eq_append_of_behind? found, is⟩
  · cases is

omit blank in
theorem exists_of_title? {words : List Char} (found : title? cs = some words) :
    ∃ rest, cs = '#' :: rest := by
  obtain ⟨_, opened, -⟩ := Option.bind_eq_some_iff.1 found
  exact ⟨_, eq_append_of_behind? opened⟩

omit blank in
theorem labelled?_eq_none {rest : List Char} (other : ∀ c ∈ rest.head?, isLabelChar c = false) :
    labelled? (':' :: ':' :: rest) = none := by
  cases rest with
  | nil => rfl
  | cons c rest => simp [labelled?, behind?, nonempty?, other c rfl]

/-- No label begins behind a mark that ends a block. -/
theorem not_isLabelChar_head {rest : List Char}
    (spaced : (rest.dropWhile (· == ':')).all isSpace = true) :
    ∀ c ∈ (rest ++ spaces).head?, isLabelChar c = false := by
  have noLabel {c : Char} (space : isSpace c = true) : isLabelChar c = false := by
    simp only [isSpace, Bool.or_eq_true, beq_iff_eq] at space
    rcases space with rfl | rfl <;> decide
  intro c head
  cases rest with
  | nil =>
      have mem : c ∈ spaces := List.mem_of_mem_head? head
      exact noLabel (List.all_eq_true.1 blank c mem)
  | cons first rest =>
      obtain rfl : first = c := Option.some.inj head
      by_cases colon : first = ':'
      · subst colon
        decide
      · have left : (first :: rest).dropWhile (· == ':') = first :: rest := by simp [colon]
        rw [left, List.all_cons, Bool.and_eq_true] at spaced
        exact noLabel spaced.1

/-! ## Marks with spaces behind them -/

/-- Whether a line is a delimiter or a title. -/
def isMark : Directive → Bool
  | .fileOpen _ | .divider | .blockOpen _ _ | .blockClose | .title _ => true
  | .condition _ _ | .malformed | .text => false

/-- A mark stands in its form. -/
def Formed (cs : List Char) : Directive → Prop
  | .fileOpen path => fileOpen? cs = some path
  | .divider => isDivider cs = true
  | .blockOpen label description => blockOpen? cs = some (label, description)
  | .blockClose => isBlockClose cs = true
  | .title words => title? cs = some words
  | .condition _ _ | .malformed | .text => True

omit blank in
theorem formed_ofBody (cs : List Char) : Formed cs (ofBody cs) := by
  unfold ofBody
  grind [Formed]

theorem all_isBlank_of_isSpace : ∀ c ∈ spaces, Text.isBlank c = true :=
  fun c mem => isBlank_of_isSpace (List.all_eq_true.1 blank c mem)

theorem trim_append (cs : List Char) : Text.trim (cs ++ spaces) = Text.trim cs := by
  have blanks := all_isBlank_of_isSpace blank
  unfold Text.trim Text.trimStart Text.trimEnd
  by_cases stops : cs.dropWhile Text.isBlank = []
  · simp [List.dropWhile_append, stops, List.dropWhile_eq_nil_iff.2 blanks]
  · rw [dropWhile_append_of_stops stops, List.reverse_append,
      List.dropWhile_append_of_pos (by simpa using blanks)]

theorem trim_prepend (cs : List Char) : Text.trim (spaces ++ cs) = Text.trim cs := by
  rw [Text.trim, Text.trimStart, List.dropWhile_append_of_pos (all_isBlank_of_isSpace blank),
    Text.trim, Text.trimStart]

/-- **Spaces behind a mark change it at the ends of its text only.** -/
theorem trimmed_ofBody_append (mark : (ofBody cs).isMark = true) :
    (ofBody (cs ++ spaces)).trimmed = (ofBody cs).trimmed := by
  -- The first character rules out the forms that are tried before. Only the end of a block and its
  -- opening begin alike, and there the first two characters differ from a label.
  have formed := formed_ofBody cs
  generalize ofBody cs = directive at mark formed ⊢
  cases directive with
  | fileOpen path => rw [ofBody, fileOpen?_append blank formed]
  | divider =>
      obtain ⟨rest, rfl⟩ := exists_of_isDivider formed
      have more := isDivider_append blank formed
      rw [List.cons_append] at more ⊢
      simp [ofBody, fileOpen?, behind?, more]
  | blockOpen label description =>
      obtain ⟨rest, rfl⟩ := exists_of_blockOpen? formed
      obtain ⟨more, blank', found⟩ := blockOpen?_append blank formed
      rw [List.cons_append] at found ⊢
      simp [ofBody, fileOpen?, isDivider, behind?, found, trimmed, trim_append blank']
  | blockClose =>
      obtain ⟨rest, rfl, spaced⟩ := exists_of_isBlockClose formed
      have more := isBlockClose_append blank formed
      have unlabelled : labelled? (':' :: ':' :: (rest ++ spaces)) = none :=
        labelled?_eq_none (not_isLabelChar_head blank spaced)
      rw [List.cons_append, List.cons_append] at more ⊢
      simp [ofBody, fileOpen?, isDivider, blockOpen?, unlabelled, behind?, more]
  | title words =>
      obtain ⟨rest, rfl⟩ := exists_of_title? formed
      obtain ⟨more, blank', found⟩ := title?_append blank formed
      rw [List.cons_append] at found ⊢
      simp [ofBody, fileOpen?, isDivider, blockOpen?, isBlockClose, condition?, labelled?,
        isDelimiterLike, behind?, found, trimmed, trim_append blank']
  | condition | malformed | text => cases mark

/-- **Spaces in front of a line leave its directive.** -/
theorem ofLine_prepend (cs : List Char) : ofLine (spaces ++ cs) = ofLine cs := by
  rw [ofLine, List.dropWhile_append_of_pos (List.all_eq_true.1 blank), ofLine]

/-- **Spaces behind a line leave its mark.** -/
theorem trimmed_ofLine_append (mark : (ofLine cs).isMark = true) :
    (ofLine (cs ++ spaces)).trimmed = (ofLine cs).trimmed := by
  obtain ⟨more, blank, behind⟩ := dropWhile_isSpace_append blank cs
  rw [ofLine, behind]
  exact trimmed_ofBody_append blank mark

end Spaces

end Directive

/-! ## Lines that are not text -/

variable {before : List Line} {line : Line} {spaces : List Char}

/-- A line is a mark at its place: the title of the document, or a delimiter. -/
inductive Delimits (before : List Line) (line : Line) : Prop
  | title (first : BlankLines before) {words : List Char}
      (is : Directive.ofLine line.chars = .title words)
  | fileOpen (outside : (spotBehind before).inside = false) {path : List Char}
      (is : Directive.ofLine line.chars = .fileOpen path)
  | divider (outside : (spotBehind before).inside = false)
      (is : Directive.ofLine line.chars = .divider)
  | blockOpen (outside : (spotBehind before).inside = false) {label description : List Char}
      (is : Directive.ofLine line.chars = .blockOpen label description)
  | blockClose (inside : (spotBehind before).inside = true)
      (is : Directive.ofLine line.chars = .blockClose)

theorem Delimits.isMark (delimits : Delimits before line) :
    (Directive.ofLine line.chars).isMark = true := by
  cases delimits with
  | title _ is | fileOpen _ is | divider _ is | blockOpen _ is | blockClose _ is => rw [is]; rfl

namespace Reader

variable {reader : Reader} {origin : Origin}

/-- The characters of a mark do not count. -/
theorem At.takesText_of_delimits (isAt : reader.At before) (delimits : Delimits before line) :
    reader.takesText (Directive.ofLine line.chars) = false := by
  cases delimits with
  | title first is =>
      have unseen := isAt.seen.2 first
      obtain ⟨place, untitled⟩ := isAt.fresh unseen
      simp [takesText, is, isAt.outside place, awaitsTitle, unseen, place, untitled]
  | fileOpen outside is | divider outside is | blockOpen outside is =>
      simp [takesText, is, isAt.closed_iff.1 outside]
  | blockClose inside is =>
      have opened : reader.block.isSome = true := by rwa [isAt.spot] at inside
      obtain ⟨block, opened⟩ := Option.isSome_iff_exists.1 opened
      simp [takesText, is, opened]

/-- The characters of a condition outside blocks count behind its label only. -/
theorem At.takesText_of_condition (isAt : reader.At before)
    (outside : (spotBehind before).inside = false) {label words : List Char}
    (is : Directive.ofLine line.chars = .condition label words) :
    reader.takesText (Directive.ofLine line.chars) = false := by
  simp [takesText, is, isAt.closed_iff.1 outside]

theorem takesAlike_prepend (blank : spaces.all isSpace = true)
    (free : reader.takesText (Directive.ofLine line.chars) = false) :
    reader.TakesAlike line { line with chars := spaces ++ line.chars } where
  directive := by rw [Directive.ofLine_prepend blank]
  trim := (Directive.trim_prepend blank line.chars).symm
  blank := by
    have blanks := List.all_eq_true.2 (Directive.all_isBlank_of_isSpace blank)
    simp only [Text.allBlank, List.all_append, blanks, Bool.true_and]
  text taken := nomatch free.symm.trans taken

theorem takesAlike_append (blank : spaces.all isSpace = true)
    (mark : (Directive.ofLine line.chars).isMark = true)
    (free : reader.takesText (Directive.ofLine line.chars) = false) :
    reader.TakesAlike line { line with chars := line.chars ++ spaces } where
  directive := (Directive.trimmed_ofLine_append blank mark).symm
  trim := (Directive.trim_append blank line.chars).symm
  blank := by
    have blanks := List.all_eq_true.2 (Directive.all_isBlank_of_isSpace blank)
    simp only [Text.allBlank, List.all_append, blanks, Bool.and_true]
  text taken := nomatch free.symm.trans taken

end Reader

end HotReload.Spec
