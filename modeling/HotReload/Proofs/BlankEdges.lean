import HotReload.Proofs.KeptLines
import HotReload.Proofs.Spanless

/-!
# Blank lines at the edges of a section

Blank lines in front of a line that opens a section, and at the end of a text, come to the end of
the section that stands above them. The reader takes them as text: they join the run, or are a run
of their own. As sections are trimmed when they end, nothing is left of them
(`BlankBlock.trimEdges_push`, `Reader.finishSection_spaced`).

This needs that the run in front of them ends with a whole line, and that the last part is
conditional where there is no run, since only the last part is trimmed at its end. Every reader
behind some lines of a text is like this (`Reader.Neat`). Blank lines of the preamble are skipped,
and a block that is still open at the end of a text is refused, whatever stands in it.
-/

set_option autoImplicit false

namespace HotReload.Spec

open Text (Line)

/-! ## Blank lines of a text -/

section Texts

variable {cs blanks : List Char}

/-- A text that consists of blank lines. -/
structure BlankBlock (cs : List Char) : Prop where
  blank : Text.allBlank cs = true
  ended : ∀ c ∈ cs.getLast?, c = '\n'

/-- A line feed keeps the lines in front of it apart from what follows. -/
theorem wholeLines_append_lineFeed (cs more : List Char) :
    wholeLines (cs ++ '\n' :: more) = wholeLines (cs ++ ['\n']) ++ wholeLines more := by
  induction cs with
  | nil => simp [wholeLines]
  | cons c cs ih =>
      by_cases feed : c = '\n'
      · simp [wholeLines, feed, ih]
      · rw [List.cons_append, List.cons_append, wholeLines, wholeLines, if_neg feed, if_neg feed,
          ih]
        cases whole : wholeLines (cs ++ ['\n']) with
        | nil =>
            have spelled := flatten_wholeLines (cs ++ ['\n'])
            simp [whole] at spelled
        | cons line rest => rfl

theorem wholeLines_append (ended : ∀ c ∈ cs.getLast?, c = '\n') (more : List Char) :
    wholeLines (cs ++ more) = wholeLines cs ++ wholeLines more := by
  cases cs using List.reverseRecOn with
  | nil => rfl
  | append_singleton cs c =>
      obtain rfl : c = '\n' := by simpa using ended
      rw [List.append_assoc, List.singleton_append, wholeLines_append_lineFeed]

theorem dropLeadingBlankLines_nil : dropLeadingBlankLines [] = [] := rfl

theorem dropTrailingBlankLines_nil : dropTrailingBlankLines [] = [] := rfl

theorem BlankBlock.wholeLines_blank (block : BlankBlock blanks) :
    ∀ line ∈ wholeLines blanks, Text.allBlank line = true := by
  intro line mem
  have blank := block.blank
  rw [← flatten_wholeLines blanks, Text.allBlank, List.all_flatten, List.all_eq_true] at blank
  exact blank line mem

/-- Blank lines in front of a text are dropped. -/
theorem BlankBlock.dropLeading (block : BlankBlock blanks) (cs : List Char) :
    dropLeadingBlankLines (blanks ++ cs) = dropLeadingBlankLines cs := by
  rw [dropLeadingBlankLines, wholeLines_append block.ended,
    List.dropWhile_append_of_pos block.wholeLines_blank, dropLeadingBlankLines]

/-- Blank lines behind a text are dropped. -/
theorem BlankBlock.dropTrailing (block : BlankBlock blanks) (ended : ∀ c ∈ cs.getLast?, c = '\n') :
    dropTrailingBlankLines (cs ++ blanks) = dropTrailingBlankLines cs := by
  have behind : ∀ line ∈ (wholeLines blanks).reverse, Text.allBlank line = true := by
    simpa using block.wholeLines_blank
  rw [dropTrailingBlankLines, wholeLines_append ended, List.reverse_append,
    List.dropWhile_append_of_pos behind, dropTrailingBlankLines]

theorem dropLeadingBlankLines_suffix (cs : List Char) : dropLeadingBlankLines cs <:+ cs := by
  refine ⟨((wholeLines cs).takeWhile Text.allBlank).flatten, ?_⟩
  rw [dropLeadingBlankLines, ← List.flatten_append, List.takeWhile_append_dropWhile,
    flatten_wholeLines]

/-- Without its first lines a text still ends with a whole line. -/
theorem ended_dropLeadingBlankLines (ended : ∀ c ∈ cs.getLast?, c = '\n') :
    ∀ c ∈ (dropLeadingBlankLines cs).getLast?, c = '\n' := by
  intro c last
  obtain ⟨front, whole⟩ := dropLeadingBlankLines_suffix cs
  apply ended
  rw [← whole, List.getLast?_append, Option.mem_def.1 last]
  rfl

/-- They are dropped even where the whole text is trimmed at both ends. -/
theorem BlankBlock.dropBoth (block : BlankBlock blanks) (ended : ∀ c ∈ cs.getLast?, c = '\n') :
    dropTrailingBlankLines (dropLeadingBlankLines (cs ++ blanks)) =
      dropTrailingBlankLines (dropLeadingBlankLines cs) := by
  have left := ended_dropLeadingBlankLines ended
  have same : dropLeadingBlankLines (cs ++ blanks) = dropLeadingBlankLines cs ++ blanks ∨
      dropLeadingBlankLines (cs ++ blanks) = [] ∧ dropLeadingBlankLines cs = [] := by
    simp only [dropLeadingBlankLines, wholeLines_append ended, List.dropWhile_append]
    split
    · rename_i none
      right
      simp [List.isEmpty_iff.1 none, List.dropWhile_eq_nil_iff.2 block.wholeLines_blank]
    · left
      simp [flatten_wholeLines]
  rcases same with more | ⟨nothing, nothing'⟩
  · rw [more, block.dropTrailing left]
  · rw [nothing, nothing']

end Texts

/-! ## Blank lines at the ends of a section -/

section Sections

variable {content : ConditionalText} {blanks text : List Char}

theorem changeLast_eq_self {f : Part → Part} {parts : List Part}
    (still : ∀ last ∈ parts.getLast?, f last = last) : changeLast f parts = parts := by
  cases parts using List.reverseRecOn with
  | nil => rfl
  | append_singleton front last => rw [changeLast_concat, still last (by simp)]

theorem Part.mapUnconditional_of_conditional {part : Part} (conditional : part.isConditional = true)
    (f : List Char → List Char) : part.mapUnconditional f = part :=
  if_pos conditional

@[simp] theorem Part.isConditional_unconditional (text : String) (span : Span) :
    (Part.unconditional text span).isConditional = false := rfl

@[simp] theorem Part.text_unconditional (text : String) (span : Span) :
    (Part.unconditional text span).text = text := rfl

@[simp] theorem Part.mapUnconditional_unconditional (f : List Char → List Char) (text : String)
    (span : Span) : (Part.unconditional text span).mapUnconditional f =
      .unconditional (String.ofList (f text.toList)) span := rfl

theorem BlankBlock.dropLeading_self (block : BlankBlock blanks) :
    dropLeadingBlankLines blanks = [] := by
  simpa [dropLeadingBlankLines, wholeLines] using block.dropLeading []

/-- A part that stands behind others is trimmed at its end only. -/
theorem parts_trimEdges_push (begun : content.parts ≠ []) (part : Part) :
    (trimEdges (content.push part)).parts =
      (content.parts.modifyHead (Part.mapUnconditional dropLeadingBlankLines) ++
        [part.mapUnconditional dropTrailingBlankLines]).filter
          fun part => part.isConditional || part.text != "" := by
  obtain ⟨first, rest, shape⟩ := List.exists_cons_of_ne_nil begun
  simp only [trimEdges, ConditionalText.push, shape, List.cons_append, List.modifyHead_cons]
  rw [← List.cons_append, changeLast_concat, List.cons_append]

/-- **Blank lines behind the last run of a section are dropped.** -/
theorem BlankBlock.trimEdges_push (block : BlankBlock blanks)
    (ended : ∀ c ∈ text.getLast?, c = '\n') (content : ConditionalText) (span : Span) :
    trimEdges (content.push (.unconditional (String.ofList (text ++ blanks)) span)) =
      trimEdges (content.push (.unconditional (String.ofList text) span)) := by
  rw [ConditionalText.mk.injEq]
  refine ⟨?_, rfl⟩
  by_cases begun : content.parts = []
  · simp [trimEdges, ConditionalText.push, begun, changeLast, block.dropBoth ended]
  · rw [parts_trimEdges_push begun, parts_trimEdges_push begun]
    simp [block.dropTrailing ended]

/-- A run that has no text is dropped. -/
theorem trimEdges_push_nothing
    (settled : ∀ last ∈ content.parts.getLast?, last.isConditional = true) (span : Span) :
    trimEdges (content.push (.unconditional "" span)) = trimEdges content := by
  rw [ConditionalText.mk.injEq]
  refine ⟨?_, rfl⟩
  by_cases begun : content.parts = []
  · simp [trimEdges, ConditionalText.push, begun, changeLast, dropLeadingBlankLines_nil,
      dropTrailingBlankLines_nil]
  · have still : ∀ last ∈ (content.parts.modifyHead
        (Part.mapUnconditional dropLeadingBlankLines)).getLast?,
          last.mapUnconditional dropTrailingBlankLines = last := by
      intro last mem
      apply Part.mapUnconditional_of_conditional
      obtain ⟨first, rest, shape⟩ := List.exists_cons_of_ne_nil begun
      cases rest with
      | nil =>
          obtain rfl : first.mapUnconditional dropLeadingBlankLines = last := by
            simpa [shape] using mem
          rw [isConditional_mapUnconditional]
          exact settled first (by simp [shape])
      | cons second rest =>
          apply settled last
          simpa [shape] using mem
    rw [parts_trimEdges_push begun]
    simp [trimEdges, changeLast_eq_self still, dropTrailingBlankLines_nil]

end Sections

/-! ## Lines that open a section -/

/-- A line opens a section when it is the opening of a file block or a divider outside blocks. -/
theorem opensSection_eq_true_iff {spot : Spot} {line : Line} :
    opensSection spot line = true ↔ spot.inside = false ∧
      ((∃ path, Directive.ofLine line.chars = .fileOpen path) ∨
        Directive.ofLine line.chars = .divider) := by
  cases directive : Directive.ofLine line.chars <;>
    simp [opensSection, isFileOpen, isDivider, directive]

namespace Reader

variable {reader : Reader} {origin : Origin} {blanks : List Char}

/-! ## Blank lines behind a run -/

/-- The reader behind some blank lines more. -/
def spaced (blanks : List Char) (reader : Reader) : Reader :=
  let run := reader.run.getD { span := .zero }
  { reader with run := some { run with text := run.text ++ blanks } }

/-- The lines of a run are whole. -/
def RunEnded (reader : Reader) : Prop :=
  ∀ run ∈ reader.run, ∀ c ∈ run.text.getLast?, c = '\n'

/-- A reader whose run, or the part in front of it, is as lines leave it. -/
structure Neat (reader : Reader) : Prop where
  settled : reader.Settled
  ended : reader.RunClean → reader.RunEnded

theorem trimEdges_flushed_spaced (block : BlankBlock blanks)
    (settled : ∀ last ∈ reader.content.parts.getLast?, last.isConditional = true)
    (ended : reader.RunEnded) :
    trimEdges (reader.spaced blanks).flushed.content = trimEdges reader.flushed.content := by
  cases run : reader.run with
  | none =>
      have empty : ∀ c ∈ ([] : List Char).getLast?, c = '\n' := by simp
      have begun := block.trimEdges_push empty reader.content .zero
      simp only [List.nil_append] at begun
      simp only [spaced, run, flushed, Option.getD_none, List.nil_append]
      rw [begun]
      exact trimEdges_push_nothing settled .zero
  | some run' =>
      simp only [spaced, run, flushed, Option.getD_some]
      exact block.trimEdges_push (ended run' run) reader.content run'.span

theorem runClean_spaced : (reader.spaced blanks).RunClean ↔ reader.RunClean := by
  cases run : reader.run <;> simp [RunClean, spaced, run]

/-- **Blank lines in front of the end of a section do not matter.** -/
theorem finishSection_spaced (block : BlankBlock blanks) (neat : reader.Neat) :
    (reader.spaced blanks).finishSection origin = reader.finishSection origin := by
  cases opened : reader.block with
  | some open' => simp [finishSection, spaced, opened]
  | none =>
      by_cases clean : reader.RunClean
      · have trimmed := trimEdges_flushed_spaced block (neat.settled opened) (neat.ended clean)
        have same : (reader.spaced blanks).finished = reader.finished := by
          simp only [finished, trimmed]
          simp [spaced, flushed]
        have ends : reader.finishSection origin = .ok reader.finished :=
          finishSection_eq_ok_iff.2 ⟨opened, clean, rfl⟩
        rw [ends, ← same]
        exact finishSection_eq_ok_iff.2 ⟨opened, runClean_spaced.2 clean, rfl⟩
      · -- A marker in the run is refused, and the one that is reported stands in front of the
        -- blank lines.
        have marked : ∃ run marker more, reader.run = some run ∧ run.markers = marker :: more := by
          simp only [RunClean, not_forall] at clean
          obtain ⟨run, present, marked⟩ := clean
          obtain ⟨marker, more, shape⟩ := List.exists_cons_of_ne_nil marked
          exact ⟨run, marker, more, present, shape⟩
        obtain ⟨run, marker, more, present, shape⟩ := marked
        cases place : reader.place <;>
          simp [finishSection, spaced, opened, flushRun, present, shape, place]

/-! ## Reading blank lines -/

/-- The text of some lines, each with a line feed. -/
def blankText (lines : List Line) : List Char :=
  lines.flatMap fun line => line.chars ++ ['\n']

theorem blankBlock_blankText {lines : List Line} (blank : BlankLines lines) :
    BlankBlock (blankText lines) where
  blank := by
    have feed : Text.isBlank '\n' = true := by decide
    rw [blankText, Text.allBlank, List.all_flatMap, List.all_eq_true]
    intro line mem
    have chars : line.chars.all Text.isBlank = true := blank line mem
    simp [chars, feed]
  ended := by
    cases lines using List.reverseRecOn with
    | nil => simp [blankText]
    | append_singleton front line => simp [blankText]

variable {line : Line} {lines : List Line}

/-- A text without markers is taken character by character. -/
theorem piecesIn_of_unmarked {cs : List Char} (unmarked : Unmarked cs) :
    piecesIn cs = cs.map .char := by
  have plain : ∀ tokens : List Token, (∀ digits, .marker digits ∉ tokens) →
      tokens.map Token.piece = (tokens.flatMap Token.chars).map .char := by
    intro tokens free
    induction tokens with
    | nil => rfl
    | cons token rest ih =>
        have later := ih fun digits mem => free digits (List.mem_cons_of_mem _ mem)
        cases token with
        | char c => simp [Token.piece, Token.chars, later]
        | marker digits => exact absurd List.mem_cons_self (free digits)
  rw [piecesIn, plain _ fun digits => mt mem_scan_iff.1 (unmarked digits), flatMap_chars_scan]

theorem unmarked_of_allBlank {cs : List Char} (blank : Text.allBlank cs = true) : Unmarked cs := by
  rintro digits ⟨-, -, inside⟩
  have dollar : '$' ∈ cs := inside.mem List.mem_cons_self
  exact absurd (List.all_eq_true.1 blank '$' dollar) (by decide)

/-- A blank line is taken as it is. -/
theorem piecesOf_blank (blank : Text.allBlank line.chars = true) (start : Nat) :
    piecesOf origin start line.chars = .ok (line.chars.map .char) := by
  have unmarked := unmarked_of_allBlank blank
  exact piecesOf_eq_ok_iff.2
    ⟨fun digits marked => absurd marked (unmarked digits), piecesIn_of_unmarked unmarked⟩

theorem line_blank_preamble (closed : reader.block = none) (place : reader.place = .preamble)
    (blank : Text.allBlank line.chars = true) : reader.line origin line = .ok reader := by
  have text := ofLine_of_allBlank blank
  simp only [Reader.line, closed, lineOutside, text, piecesOf_blank blank, blank, addText, place,
    Bool.not_true, Bool.or_false]
  rfl

theorem plain_chars (cs : List Char) : (cs.map Piece.char).flatMap Piece.plain = cs := by
  induction cs with
  | nil => rfl
  | cons c cs ih => simp [Piece.plain, ih]

theorem markersFrom_chars (offset : Nat) (cs : List Char) :
    markersFrom offset (cs.map Piece.char) = [] := by
  induction cs generalizing offset with
  | nil => rfl
  | cons c cs ih => simp [markersFrom, ih]

/-- In a section, every text joins the run. -/
theorem addText_inSection (place : reader.place ≠ .preamble) (pieces : List Piece) (blank : Bool)
    (span : Span) : reader.addText origin pieces blank span =
      .ok { reader with run := some ((reader.run.getD { span }).addLine pieces span) } := by
  cases shape : reader.place <;> simp_all [addText]

/-- In a section, a blank line joins the run. -/
theorem outcome_line_blank (closed : reader.block = none) (place : reader.place ≠ .preamble)
    (blank : Text.allBlank line.chars = true) :
    outcome spanless (reader.line origin line) =
      .ok (reader.spaced (line.chars ++ ['\n'])).spanless := by
  have text := ofLine_of_allBlank blank
  have run : ((reader.run.getD { span := ⟨line.start, line.stop⟩ }).addLine
      (line.chars.map .char) ⟨line.start, line.stop⟩).spanless =
        ({ reader.run.getD { span := .zero } with
          text := (reader.run.getD { span := .zero }).text ++ (line.chars ++ ['\n']) } :
            Buffer).spanless := by
    cases reader.run <;>
      simp [Buffer.addLine, Buffer.foldl_add, Buffer.spanless, plain_chars, markersFrom_chars]
  simp only [Reader.line, closed, lineOutside, text, piecesOf_blank blank, blank, bind,
    Except.bind, addText_inSection place, pure, Except.pure, outcome_ok]
  simp [spanless, spaced, run, closed]

theorem spaced_spaced (first second : List Char) :
    (reader.spaced first).spaced second = reader.spaced (first ++ second) := by
  simp [spaced]

theorem outcome_lines_spaced (closed : reader.block = none) (place : reader.place ≠ .preamble)
    (blank : BlankLines lines) (front : List Char) :
    outcome spanless
        (lines.foldlM (fun reader line => reader.line origin line) (reader.spaced front)) =
      .ok (reader.spaced (front ++ blankText lines)).spanless := by
  induction lines generalizing front with
  | nil => simp [blankText, pure, Except.pure]
  | cons line rest ih =>
      obtain ⟨first, later⟩ := List.forall_mem_cons.1 blank
      have taken : outcome spanless ((reader.spaced front).line origin line) = _ :=
        outcome_line_blank closed place first
      rw [spaced_spaced] at taken
      rw [List.foldlM_cons, outcome_bind_of_ok taken fun other same => outcome_lines same rfl,
        ih later]
      simp [blankText]

/-- In a section, blank lines join the run. -/
theorem outcome_lines_blank (closed : reader.block = none) (place : reader.place ≠ .preamble)
    (blank : BlankLines (line :: lines)) :
    outcome spanless ((line :: lines).foldlM (fun reader line => reader.line origin line) reader) =
      .ok (reader.spaced (blankText (line :: lines))).spanless := by
  obtain ⟨first, later⟩ := List.forall_mem_cons.1 blank
  rw [List.foldlM_cons, outcome_bind_of_ok (outcome_line_blank closed place first)
    fun other same => outcome_lines same rfl, outcome_lines_spaced closed place later]
  rfl

/-! ## In front of a section and at the end -/

/-- Behind some lines of a text, a reader is neat. -/
theorem Stands.neat {before : List Line} (stands : reader.Stands before) : reader.Neat where
  settled := stands.settled
  ended clean run present := by
    have presents := stands.present
    cases shape : (layout before).present with
    | none =>
        rw [shape] at presents
        cases present.symm.trans presents.2.2
    | some source =>
        rw [shape] at presents
        obtain ⟨lines, spells⟩ := presents.2.run run present
        have text : run.text = lines.flatten := by
          simpa [Buffer.written, clean run present, restored] using spells.written
        rw [text]
        cases lines using List.reverseRecOn with
        | nil => simp
        | append_singleton front last =>
            obtain ⟨cs, -, rfl⟩ := spells.ended last (by simp)
            simp

theorem document_append (reader : Reader) (front back : List Line) :
    reader.document origin (front ++ back) =
      front.foldlM (fun reader line => reader.line origin line) reader >>= fun reader =>
        reader.document origin back := by
  simp [document, List.foldlM_append]

theorem document_cons (reader : Reader) (line : Line) (back : List Line) :
    reader.document origin (line :: back) =
      reader.line origin line >>= fun reader => reader.document origin back := by
  simp [document]

/-- Blank lines in front of the first section change nothing. -/
theorem document_blank_preamble (closed : reader.block = none) (place : reader.place = .preamble)
    (blank : BlankLines lines) (back : List Line) :
    reader.document origin (lines ++ back) = reader.document origin back := by
  induction lines with
  | nil => rfl
  | cons line rest ih =>
      obtain ⟨first, later⟩ := List.forall_mem_cons.1 blank
      rw [document, List.cons_append, List.foldlM_cons, line_blank_preamble closed place first]
      exact ih later

theorem line_spaced_opening (block : BlankBlock blanks) (neat : reader.Neat)
    (closed : reader.block = none) {spot : Spot} (opens : opensSection spot line = true) :
    (reader.spaced blanks).line origin line = reader.line origin line := by
  have ends : (reader.spaced blanks).finishSection origin = reader.finishSection origin :=
    finishSection_spaced block neat
  have closed' : (reader.spaced blanks).block = none := closed
  have place : (reader.spaced blanks).place = reader.place := rfl
  obtain ⟨-, ⟨path, directive⟩ | directive⟩ := opensSection_eq_true_iff.1 opens <;>
    simp only [Reader.line, closed, closed', lineOutside, directive, ends, place]

/-- **Blank lines may stand in front of a line that opens a section.** -/
theorem outcome_document_opening (neat : reader.Neat) (closed : reader.block = none)
    (blank : BlankLines lines) {spot : Spot} (opens : opensSection spot line = true)
    (back : List Line) :
    outcome Document.spanless (reader.document origin (lines ++ line :: back)) =
      outcome Document.spanless (reader.document origin (line :: back)) := by
  by_cases place : reader.place = .preamble
  · rw [document_blank_preamble closed place blank]
  · cases lines with
    | nil => rfl
    | cons first rest =>
        rw [document_append, outcome_bind_of_ok (outcome_lines_blank closed place blank)
          fun other same => outcome_document same rfl, document_cons, document_cons,
          line_spaced_opening (blankBlock_blankText blank) neat closed opens]

/-- A block that is still open at the end is refused, whatever stands in it. -/
theorem outcome_document_unclosed {block : OpenBlock} (opened : reader.block = some block)
    (blank : BlankLines lines) :
    outcome Document.spanless (reader.document origin lines) =
      outcome Document.spanless (reader.document origin []) := by
  induction lines generalizing reader block with
  | nil => rfl
  | cons line rest ih =>
      obtain ⟨first, later⟩ := List.forall_mem_cons.1 blank
      have text := ofLine_of_allBlank first
      have taken : ∃ buffer, reader.line origin line =
          .ok { reader with block := some { block with buffer } } := by
        simp only [Reader.line, opened, lineInside, text, piecesOf_blank first]
        exact ⟨_, rfl⟩
      obtain ⟨buffer, taken⟩ := taken
      rw [document_cons, taken]
      refine (ih rfl later).trans ?_
      simp [document, finish, finishSection, opened, bind, Except.bind, pure, Except.pure]

/-- **Blank lines may stand at the end.** -/
theorem outcome_document_blank (neat : reader.Neat) (blank : BlankLines lines) :
    outcome Document.spanless (reader.document origin lines) =
      outcome Document.spanless (reader.document origin []) := by
  cases opened : reader.block with
  | some block => exact outcome_document_unclosed opened blank
  | none =>
      by_cases place : reader.place = .preamble
      · rw [← List.append_nil lines, document_blank_preamble opened place blank]
      · cases lines with
        | nil => rfl
        | cons first rest =>
            have ends : (reader.spaced _).finishSection origin = _ :=
              finishSection_spaced (blankBlock_blankText blank) neat
            rw [document, outcome_bind_of_ok (outcome_lines_blank opened place blank)
              fun other same => outcome_finish same, finish, ends]
            rfl

end Reader

end HotReload.Spec
