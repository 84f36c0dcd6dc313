import HotReload.Proofs.DelimiterLayout

/-!
# Changes of the layout

Blank lines at the start and at the end of a text, and around the lines that open its sections, may
be added, and so may spaces and tabs around its delimiters. Each such edit (`Relaid`) is made at one
place. The lines in front of it are read in the same way, and what follows is read alike by the
reader that has come so far. So every text comes to the same document but for the spans, however
many edits are made one after the other, or it is refused for the same reason (`read_relaid`).
-/

set_option autoImplicit false

namespace HotReload.Spec

open Text (Line)

/-! ## Edits -/

/-- Lines without content, without the places where they stand. -/
def BlankTexts (blanks : List (List Char)) : Prop :=
  ∀ cs ∈ blanks, Text.allBlank cs = true

/-- An edit of the layout: the lines of a text, and what they are afterwards. -/
inductive Relaid : List Line → List (List Char) → Prop
  /-- Other blank lines at the start, more or fewer of them. -/
  | start {blanks back : List Line} {blanks' : List (List Char)} (blank : BlankLines blanks)
      (blank' : BlankTexts blanks') :
      Relaid (blanks ++ back) (blanks' ++ back.map Line.chars)
  /-- Other blank lines at the end. -/
  | stop {front blanks : List Line} {blanks' : List (List Char)} (blank : BlankLines blanks)
      (blank' : BlankTexts blanks') :
      Relaid (front ++ blanks) (front.map Line.chars ++ blanks')
  /-- Blank lines in front of a line that opens a section. -/
  | above {front : List Line} {line : Line} {back : List Line} {blanks : List (List Char)}
      (opens : opensSection (spotBehind front) line = true) (blank : BlankTexts blanks) :
      Relaid (front ++ line :: back)
        (front.map Line.chars ++ (blanks ++ line.chars :: back.map Line.chars))
  /-- Blank lines behind a line that opens a section. -/
  | below {front : List Line} {line : Line} {back : List Line} {blanks : List (List Char)}
      (opens : opensSection (spotBehind front) line = true) (blank : BlankTexts blanks) :
      Relaid (front ++ line :: back)
        (front.map Line.chars ++ line.chars :: (blanks ++ back.map Line.chars))
  /-- Spaces and tabs in front of a delimiter, of the title or of a condition on its line. -/
  | indented {front : List Line} {line : Line} {back : List Line} {spaces : List Char}
      (delimits : Delimits front line ∨ (spotBehind front).inside = false ∧
        ∃ label words, Directive.ofLine line.chars = .condition label words)
      (blank : spaces.all isSpace = true) :
      Relaid (front ++ line :: back)
        (front.map Line.chars ++ (spaces ++ line.chars) :: back.map Line.chars)
  /-- Spaces and tabs behind a delimiter or the title. -/
  | trailing {front : List Line} {line : Line} {back : List Line} {spaces : List Char}
      (delimits : Delimits front line) (blank : spaces.all isSpace = true) :
      Relaid (front ++ line :: back)
        (front.map Line.chars ++ (line.chars ++ spaces) :: back.map Line.chars)

/-! ## Reading behind a front -/

/-- Lines as they may stand anywhere. -/
def loose (texts : List (List Char)) : List Line :=
  texts.map (Line.mk 0)

@[simp] theorem map_chars_loose (texts : List (List Char)) :
    (loose texts).map Line.chars = texts := by
  simp [loose, Function.comp_def]

theorem blankLines_loose {blanks : List (List Char)} (blank : BlankTexts blanks) :
    BlankLines (loose blanks) := by
  simpa [BlankLines, BlankTexts, loose] using blank

variable {text : String} {front back back' : List Line} {origin : Origin}

/-- What is read alike behind the front of a text, is read alike with it. -/
theorem outcome_document_front (split : Text.lines text.toList = front ++ back)
    (alike : ∀ reader : Reader, reader.At front → reader.Neat →
      outcome Document.spanless (reader.document origin back') =
        outcome Document.spanless (reader.document origin back)) :
    outcome Document.spanless (Reader.document {} origin (front ++ back')) =
      outcome Document.spanless (Reader.document {} origin (front ++ back)) := by
  rw [Reader.document_append, Reader.document_append]
  cases ran : front.foldlM (fun reader line => Reader.line reader origin line) ({} : Reader) with
  | error failure => rfl
  | ok reader =>
      have whole : Text.linesFrom 0 text.toList = front ++ back := split
      have free : ∀ line ∈ front, '\n' ∉ line.chars := by
        intro line mem
        have there : line ∈ Text.linesFrom 0 text.toList := whole ▸ List.mem_append_left back mem
        exact Text.lineFeed_notMem_linesFrom there
      have apart : (front ++ back).Pairwise fun first second => first.start < second.start :=
        whole ▸ Text.pairwise_start_linesFrom 0 text.toList
      have stands : reader.Stands front :=
        Reader.Stands.start.nexts .start free (List.pairwise_append.1 apart).1 ran
      exact alike reader (Reader.At.start.nexts ran) stands.neat

/-- A line may be written in another way of which the reader makes the same. -/
theorem outcome_document_line {reader : Reader} {line line' : Line}
    (alike : reader.TakesAlike line line') (back : List Line) :
    outcome Document.spanless (reader.document origin (line' :: back)) =
      outcome Document.spanless (reader.document origin (line :: back)) := by
  rw [Reader.document_cons, Reader.document_cons]
  exact outcome_bind_congr (Reader.outcome_line rfl alike).symm
    fun _ _ same => Reader.outcome_document same rfl

/-- **Blank edges and the layout of delimiters do not matter.** A text is read alike with more or
fewer blank lines at its start and at its end, with blank lines in front of a file block or a
divider and behind it, and with spaces around a delimiter. So when it is accepted, it stays
accepted, with the same document but for its spans. -/
theorem read_relaid (source : String) {text text' : String}
    (relaid : Relaid (Text.lines text.toList) ((Text.lines text'.toList).map Line.chars)) :
    outcome Document.spanless (Document.read source text') =
      outcome Document.spanless (Document.read source text) := by
  have taken (lines : List Line)
      (same : lines.map Line.chars = (Text.lines text'.toList).map Line.chars) :
      outcome Document.spanless (Document.read source text') =
        outcome Document.spanless (Reader.document {} ⟨.parse, some source⟩ lines) :=
    Reader.outcome_document rfl same.symm
  have began : Document.read source text =
      Reader.document {} ⟨.parse, some source⟩ (Text.lines text.toList) := rfl
  rw [began]
  generalize split : Text.lines text.toList = lines at relaid
  generalize edited : (Text.lines text'.toList).map Line.chars = texts at relaid taken
  cases relaid with
  | @start blanks back blanks' blank blank' =>
      rw [taken (loose blanks' ++ back) (by simp),
        Reader.document_blank_preamble rfl rfl (blankLines_loose blank'),
        Reader.document_blank_preamble rfl rfl blank]
  | @stop front blanks blanks' blank blank' =>
      rw [taken (front ++ loose blanks') (by simp)]
      apply outcome_document_front split
      intro reader _ neat
      rw [Reader.outcome_document_blank neat (blankLines_loose blank'),
        Reader.outcome_document_blank neat blank]
  | @above front line back blanks opens blank =>
      rw [taken (front ++ (loose blanks ++ line :: back)) (by simp)]
      apply outcome_document_front split
      intro reader isAt neat
      have closed := isAt.closed_iff.1 (opensSection_eq_true_iff.1 opens).1
      exact Reader.outcome_document_opening neat closed (blankLines_loose blank) opens back
  | @below front line back blanks opens blank =>
      rw [taken (front ++ line :: (loose blanks ++ back)) (by simp)]
      apply outcome_document_front split
      intro reader isAt _
      exact Reader.outcome_document_behind isAt opens (blankLines_loose blank)
  | @indented front line back spaces delimits blank =>
      rw [taken (front ++ { line with chars := spaces ++ line.chars } :: back) (by simp)]
      apply outcome_document_front split
      intro reader isAt _
      apply outcome_document_line (Reader.takesAlike_prepend blank _)
      rcases delimits with delimits | ⟨outside, label, words, is⟩
      · exact isAt.takesText_of_delimits delimits
      · exact isAt.takesText_of_condition outside is
  | @trailing front line back spaces delimits blank =>
      rw [taken (front ++ { line with chars := line.chars ++ spaces } :: back) (by simp)]
      apply outcome_document_front split
      intro reader isAt _
      exact outcome_document_line (Reader.takesAlike_append blank delimits.isMark
        (isAt.takesText_of_delimits delimits)) back

/-- A text with a described block. -/
def describedSource : String :=
  "# t\n---- f ----\n::0:: d\nx\n::\n****\n::0 a\n"

/-- The same text with spaces behind the description. -/
def spacedSource : String :=
  "# t\n---- f ----\n::0:: d \t\nx\n::\n****\n::0 a\n"

theorem relaid_spacedSource :
    Relaid (Text.lines describedSource.toList)
      ((Text.lines spacedSource.toList).map Line.chars) := by
  have split : Text.lines describedSource.toList =
      [⟨0, ['#', ' ', 't']⟩, ⟨4, "---- f ----".toList⟩] ++ ⟨16, "::0:: d".toList⟩ ::
        [⟨24, ['x']⟩, ⟨26, [':', ':']⟩, ⟨29, "****".toList⟩, ⟨34, "::0 a".toList⟩, ⟨40, []⟩] := rfl
  rw [split]
  have opens : Delimits [⟨0, ['#', ' ', 't']⟩, ⟨4, "---- f ----".toList⟩]
      ⟨16, "::0:: d".toList⟩ := .blockOpen rfl rfl
  exact .trailing opens (by decide)

/-- The document is the same, and only what stands behind the spaces has moved. -/
theorem read_relaid_spacedSource :
    Relaid (Text.lines describedSource.toList)
        ((Text.lines spacedSource.toList).map Line.chars) ∧
      ∃ document document', Document.read "input" describedSource = .ok document ∧
        Document.read "input" spacedSource = .ok document' ∧
        document'.spanless = document.spanless ∧ document' ≠ document := by
  have moved : (Document.read "input" spacedSource).toOption ≠
      (Document.read "input" describedSource).toOption := by
    decide +kernel
  have accepted : (Document.read "input" describedSource).isOk = true := by decide +kernel
  exact ⟨relaid_spacedSource,
    exists_ok_of_moved accepted (read_relaid "input" relaid_spacedSource) moved⟩

end HotReload.Spec
