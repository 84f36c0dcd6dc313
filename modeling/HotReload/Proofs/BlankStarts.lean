import HotReload.Proofs.BlankEdges
import HotReload.Proofs.Dividers

/-!
# Blank lines behind the opening of a section

Blank lines behind a line that opens a section begin the first run of the section. They are dropped
when the section ends, but until then every line of the section is read behind them. So the reader
that has taken them is compared with the one that has not: as long as the section has no part, the
blank lines stand in front of its run, and afterwards in front of its first part, where they are a
part of their own if this one is conditional (`Reader.padded`). A line that opens no section keeps
the two readers like this (`Reader.outcome_line_padded`), and where the section ends they come to
the same (`Reader.finishSection_padded`).
-/

set_option autoImplicit false

namespace HotReload.Spec

open Text (Line)

variable {blanks : List Char}

/-! ## Padded parts -/

/-- Puts blank lines in front of the parts of a section. -/
def padParts (blanks : List Char) : List Part → List Part
  | [] => [.unconditional (String.ofList blanks) .zero]
  | part :: rest =>
    if part.isConditional then .unconditional (String.ofList blanks) .zero :: part :: rest
    else { part with text := String.ofList blanks ++ part.text } :: rest

/-- The content of a section behind some blank lines more. -/
def ConditionalText.padded (blanks : List Char) (content : ConditionalText) : ConditionalText :=
  { content with parts := padParts blanks content.parts }

/-- **Blank lines in front of a section are dropped.** -/
theorem BlankBlock.trimEdges_padded (block : BlankBlock blanks) (content : ConditionalText) :
    trimEdges (content.padded blanks) = trimEdges content := by
  obtain ⟨parts, conditions⟩ := content
  cases parts with
  | nil =>
      simp [trimEdges, ConditionalText.padded, padParts, changeLast, block.dropLeading_self,
        dropTrailingBlankLines_nil]
  | cons part rest =>
      cases conditional : part.isConditional with
      | true =>
          simp [trimEdges, ConditionalText.padded, padParts, conditional, changeLast,
            block.dropLeading_self, Part.mapUnconditional_of_conditional conditional]
      | false =>
          have same : Part.mapUnconditional dropLeadingBlankLines
              { part with text := String.ofList blanks ++ part.text } =
                part.mapUnconditional dropLeadingBlankLines := by
            have conditional' : part.condition.isSome = false := conditional
            simp [Part.mapUnconditional, Part.isConditional, conditional', block.dropLeading]
          simp [trimEdges, ConditionalText.padded, padParts, conditional, same]

/-- Behind a first part, and with conditional parts, padding changes nothing. -/
theorem padParts_concat (parts : List Part) {part : Part}
    (apart : parts ≠ [] ∨ part.isConditional = true) :
    padParts blanks (parts ++ [part]) = padParts blanks parts ++ [part] := by
  cases parts with
  | nil =>
      have conditional : part.isConditional = true := by simpa using apart
      simp [padParts, conditional]
  | cons first rest =>
      simp only [List.cons_append, padParts]
      split <;> rfl

theorem ConditionalText.push_padded (content : ConditionalText) (part : Part)
    (apart : content.parts ≠ [] ∨ part.isConditional = true) :
    (content.padded blanks).push part = (content.push part).padded blanks := by
  simp [padded, push, padParts_concat _ apart]

/-! ## Padded readers -/

/-- The buffer with blank lines in front. -/
def Buffer.padded (blanks : List Char) (buffer : Buffer) : Buffer :=
  { buffer with
    text := blanks ++ buffer.text
    markers := buffer.markers.map fun marker =>
      { marker with offset := Text.byteLength blanks + marker.offset } }

theorem markersFrom_add (left offset : Nat) (pieces : List Piece) :
    markersFrom (left + offset) pieces =
      (markersFrom offset pieces).map fun marker =>
        { marker with offset := left + marker.offset } := by
  induction pieces generalizing offset with
  | nil => rfl
  | cons piece rest ih =>
      cases piece with
      | char c => simp [markersFrom, Nat.add_assoc, ih]
      | slot n => simp [markersFrom, ih]

theorem Buffer.padded_addLine (buffer : Buffer) (pieces : List Piece) (span : Span) :
    (buffer.padded blanks).addLine pieces span = (buffer.addLine pieces span).padded blanks := by
  simp [Buffer.addLine, foldl_add, padded, markersFrom_add]

theorem Buffer.spanless_padded {buffer buffer' : Buffer}
    (same : buffer.spanless = buffer'.spanless) :
    (buffer.padded blanks).spanless = (buffer'.padded blanks).spanless :=
  congrArg (Buffer.padded blanks) same

namespace Reader

variable {reader : Reader} {origin : Origin} {line : Line}

/-- The reader with blank lines in front of the parts of its section. -/
def headed (blanks : List Char) (reader : Reader) : Reader :=
  { reader with content := reader.content.padded blanks }

/-- The reader of a section that begins with some blank lines more. As long as the section has no
part, they stand in its run. -/
def padded (blanks : List Char) (reader : Reader) : Reader :=
  if reader.content.parts = [] ∧ reader.block = none then
    { reader with run := some ((reader.run.getD { span := .zero }).padded blanks) }
  else reader.headed blanks

theorem padded_of_begun (begun : reader.content.parts ≠ [] ∨ reader.block ≠ none) :
    reader.padded blanks = reader.headed blanks := by
  apply if_neg
  rintro ⟨empty, closed⟩
  exact begun.elim (· empty) (· closed)

/-- With the run, its blank lines become part of the section. -/
theorem flushRun_padded (closed : reader.block = none) :
    (reader.padded blanks).flushRun origin = (reader.flushRun origin).map (headed blanks) := by
  obtain ⟨title, files, expectations, place, content, run, block, seen⟩ := reader
  obtain rfl : block = none := closed
  obtain ⟨parts, conditions⟩ := content
  cases parts with
  | nil =>
      cases run with
      | none =>
          simp [padded, flushRun, Except.map, headed, ConditionalText.padded, padParts,
            ConditionalText.push, ConditionalText.mention, Part.unconditional, Buffer.padded]
      | some run =>
          cases markers : run.markers with
          | nil =>
              simp [padded, flushRun, Except.map, headed, ConditionalText.padded, padParts,
                ConditionalText.push, ConditionalText.mention, Part.unconditional,
                Part.isConditional, Buffer.padded, markers]
          | cons marker more =>
              cases place <;> simp [padded, flushRun, Except.map, Buffer.padded, markers]
  | cons first rest =>
      rw [padded_of_begun (.inl (by simp))]
      cases run with
      | none => simp [flushRun, Except.map, headed]
      | some run =>
          cases markers : run.markers with
          | nil =>
              have filled : (first :: rest : List Part) ≠ [] := List.cons_ne_nil _ _
              simp only [flushRun, Except.map, headed, markers,
                ConditionalText.push_padded ⟨first :: rest, conditions⟩ _ (.inl filled)]
          | cons marker more => cases place <;> simp [flushRun, Except.map, headed, markers]

theorem headed_block (block : OpenBlock) :
    ({ reader.headed blanks with block := some block } : Reader) =
      ({ reader with block := some block } : Reader).padded blanks := by
  rw [padded_of_begun (.inr (Option.some_ne_none block))]
  rfl

@[simp] theorem place_padded : (reader.padded blanks).place = reader.place := by
  unfold padded
  split <;> rfl

@[simp] theorem block_padded : (reader.padded blanks).block = reader.block := by
  unfold padded
  split <;> rfl

theorem pushLabelled_headed (reader : Reader) (label : Label) (buffer : Buffer) (block : Bool)
    (description : Option String) :
    (reader.headed blanks).pushLabelled origin label buffer block description =
      (reader.pushLabelled origin label buffer block description).map (padded blanks) := by
  have pushed (part : Part) (conditional : part.isConditional = true) :
      ({ reader.headed blanks with content := (reader.headed blanks).content.push part } : Reader) =
        ({ reader with content := reader.content.push part } : Reader).padded blanks := by
    rw [padded_of_begun (.inl (by simp [ConditionalText.push]))]
    simp only [headed, ConditionalText.push_padded _ _ (.inr conditional)]
  have place : (reader.headed blanks).place = reader.place := rfl
  unfold pushLabelled
  rw [place]
  split
  · rfl
  · exact congrArg Except.ok (pushed _ rfl)

/-- A block goes on behind the blank lines. -/
theorem lineInside_headed (block : OpenBlock) :
    (reader.headed blanks).lineInside origin block line =
      (reader.lineInside origin block line).map (padded blanks) := by
  unfold lineInside
  split
  · exact pushLabelled_headed { reader with block := none } _ _ _ _
  · cases piecesOf origin 0 line.chars with
    | error failure => rfl
    | ok pieces =>
        exact congrArg Except.ok (headed_block _)

/-- A line of text joins the padded run. -/
theorem outcome_addText_padded (closed : reader.block = none) (place : reader.place ≠ .preamble)
    (pieces : List Piece) (blank : Bool) (span : Span) :
    outcome spanless ((reader.padded blanks).addText origin pieces blank span) =
      outcome spanless ((reader.addText origin pieces blank span).map (padded blanks)) := by
  have placed : (reader.padded blanks).place ≠ .preamble := by rwa [place_padded]
  rw [addText_inSection place, addText_inSection placed]
  by_cases begun : reader.content.parts = []
  · have before : reader.padded blanks = { reader with
        run := some ((reader.run.getD { span := .zero }).padded blanks) } := if_pos ⟨begun, closed⟩
    have after (run : Buffer) : ({ reader with run := some run } : Reader).padded blanks =
        { reader with run := some (run.padded blanks) } := if_pos ⟨begun, closed⟩
    have unlocated : (reader.run.getD { span := .zero }).spanless =
        (reader.run.getD { span }).spanless := by
      cases reader.run <;> rfl
    have joined :
        (((reader.run.getD { span := .zero }).padded blanks).addLine pieces span).spanless =
          (((reader.run.getD { span }).addLine pieces span).padded blanks).spanless := by
      rw [Buffer.padded_addLine]
      exact Buffer.spanless_padded (Buffer.spanless_addLine unlocated pieces span span)
    rw [before, Except.map, after]
    simp [spanless, joined]
  · have after (run : Option Buffer) : ({ reader with run } : Reader).padded blanks =
        { reader.headed blanks with run } := padded_of_begun (.inl begun)
    rw [padded_of_begun (.inl begun), Except.map, after]
    rfl

/-- **Outside blocks, a line that opens no section is read alike behind the blank lines.** -/
theorem outcome_lineOutside_padded (closed : reader.block = none) (place : reader.place ≠ .preamble)
    (stays : opensSection ⟨reader.place.region, false⟩ line = false) :
    outcome spanless ((reader.padded blanks).lineOutside origin line) =
      outcome spanless ((reader.lineOutside origin line).map (padded blanks)) := by
  have flushed : (reader.padded blanks).flushRun origin =
      (reader.flushRun origin).map (headed blanks) := flushRun_padded closed
  have required (reader : Reader) : (reader.headed blanks).requireSection origin line =
      reader.requireSection origin line := rfl
  unfold lineOutside
  cases directive : Directive.ofLine line.chars with
  | fileOpen path => simp [opensSection, isFileOpen, directive] at stays
  | divider => simp [opensSection, isDivider, directive] at stays
  | blockOpen label description =>
      simp only [flushed]
      cases reader.flushRun origin with
      | error failure => rfl
      | ok reader =>
          simp only [Except.map, bind, Except.bind, required]
          cases reader.requireSection origin line with
          | error failure => rfl
          | ok _ => exact congrArg (outcome spanless ∘ Except.ok) (headed_block _)
  | blockClose => rfl
  | condition label text =>
      simp only [flushed]
      cases reader.flushRun origin with
      | error failure => rfl
      | ok reader =>
          simp only [Except.map, bind, Except.bind, required]
          cases reader.requireSection origin line with
          | error failure => rfl
          | ok _ =>
              dsimp only
              cases piecesOf origin (line.stop - Text.byteLength text) text with
              | error failure => rfl
              | ok pieces => exact congrArg (outcome spanless) (pushLabelled_headed reader _ _ _ _)
  | malformed => rfl
  | title text =>
      have elsewhere : (reader.place == .preamble) = false := by simpa using place
      simp only [place_padded, elsewhere, Bool.and_false, Bool.false_and, Bool.false_eq_true,
        if_false]
      cases piecesOf origin 0 line.chars with
      | error failure => rfl
      | ok pieces => exact outcome_addText_padded closed place pieces _ _
  | text =>
      dsimp only
      cases piecesOf origin line.start line.chars with
      | error failure => rfl
      | ok pieces => exact outcome_addText_padded closed place pieces _ _

@[simp] theorem seenContent_padded : (reader.padded blanks).seenContent = reader.seenContent := by
  unfold padded
  split <;> rfl

theorem padded_seen (seen : Bool) :
    ({ reader with seenContent := seen } : Reader).padded blanks =
      { reader.padded blanks with seenContent := seen } := by
  unfold padded
  split <;> rfl

/-- **A line that opens no section is read alike behind the blank lines.** -/
theorem outcome_line_padded (place : reader.place ≠ .preamble)
    (stays : opensSection ⟨reader.place.region, reader.block.isSome⟩ line = false) :
    outcome spanless ((reader.padded blanks).line origin line) =
      outcome spanless ((reader.line origin line).map (padded blanks)) := by
  unfold Reader.line
  rw [block_padded]
  cases opened : reader.block with
  | some block =>
      dsimp only
      rw [padded_of_begun (.inr (by simp [opened])), lineInside_headed]
  | none =>
      rw [opened] at stays
      have outside : outcome spanless ((reader.padded blanks).lineOutside origin line) =
          outcome spanless ((reader.lineOutside origin line).map (padded blanks)) :=
        outcome_lineOutside_padded opened place stays
      have moved : ((do
            let reader ← reader.lineOutside origin line
            pure { reader with
              seenContent := reader.seenContent || !Text.allBlank line.chars } :
                Except Failure Reader).map (padded blanks)) =
          (reader.lineOutside origin line).map (padded blanks) >>= fun reader =>
            pure { reader with
              seenContent := reader.seenContent || !Text.allBlank line.chars } := by
        cases reader.lineOutside origin line with
        | error failure => rfl
        | ok after => exact congrArg Except.ok ((padded_seen _).trans (by simp))
      dsimp only
      rw [moved]
      apply outcome_bind_congr outside
      intro first second same
      exact congrArg Except.ok (congrArg (fun reader : Reader =>
        { reader with seenContent := reader.seenContent || !Text.allBlank line.chars }) same)

/-- The blank lines are dropped when the section ends. -/
theorem finishSection_padded (block : BlankBlock blanks) :
    (reader.padded blanks).finishSection origin = reader.finishSection origin := by
  cases opened : reader.block with
  | some open' => simp [finishSection, opened]
  | none =>
      simp only [finishSection, block_padded, opened, flushRun_padded opened]
      cases reader.flushRun origin with
      | error failure => rfl
      | ok reader =>
          simp only [Except.map, bind, Except.bind, headed, block.trimEdges_padded]

theorem line_padded_opening (block : BlankBlock blanks) (closed : reader.block = none) {spot : Spot}
    (opens : opensSection spot line = true) :
    (reader.padded blanks).line origin line = reader.line origin line := by
  have ends : (reader.padded blanks).finishSection origin = reader.finishSection origin :=
    finishSection_padded block
  obtain ⟨-, ⟨path, directive⟩ | directive⟩ := opensSection_eq_true_iff.1 opens <;>
    simp only [Reader.line, closed, block_padded, lineOutside, directive, ends, place_padded]

/-- **Blank lines in front of a section do not matter for the rest of the text.** -/
theorem outcome_document_padded {before lines : List Line} (block : BlankBlock blanks)
    (isAt : reader.At before) (place : reader.place ≠ .preamble) :
    outcome Document.spanless ((reader.padded blanks).document origin lines) =
      outcome Document.spanless (reader.document origin lines) := by
  induction lines generalizing reader before with
  | nil =>
      have ends : (reader.padded blanks).finishSection origin = reader.finishSection origin :=
        finishSection_padded block
      simp only [document, List.foldlM_nil, finish, ends, pure_bind]
  | cons line rest ih =>
      rw [document_cons, document_cons]
      cases opens : opensSection (spotBehind before) line with
      | true =>
          -- The section ends here, and both readers begin the next one alike.
          have closed := isAt.closed_iff.1 (opensSection_eq_true_iff.1 opens).1
          rw [line_padded_opening block closed opens]
      | false =>
          -- The section goes on, so the readers behind the line are in a section as well.
          have spot := isAt.spot
          rw [spot] at opens
          rw [outcome_bind_congr (outcome_line_padded place opens)
            fun _ _ same => outcome_document same rfl]
          cases ran : reader.line origin line with
          | error failure => rfl
          | ok after =>
              have next := isAt.next ran
              have stays : after.place.region = reader.place.region := by
                have moved := congrArg Spot.region next.spot
                rw [spotBehind_append, spot, region_behind_of_stays opens] at moved
                exact moved.symm
              apply ih next
              rwa [Ne, ← Section.region_eq_preamble_iff, stays, Section.region_eq_preamble_iff]

/-! ## Behind the opening of a section -/

/-- A reader at the beginning of a section. -/
structure Begins (reader : Reader) : Prop where
  content : reader.content = {}
  run : reader.run = none
  block : reader.block = none
  place : reader.place ≠ .preamble

/-- A line that opens a section leaves a reader at its beginning. -/
theorem begins_of_line {spot : Spot} (closed : reader.block = none)
    (opens : opensSection spot line = true) {after : Reader}
    (ran : reader.line origin line = .ok after) : after.Begins := by
  simp only [Reader.line, closed] at ran
  obtain ⟨middle, outside, done⟩ := exists_of_bind_ok ran
  obtain rfl := Except.ok.inj done
  obtain ⟨-, ⟨path, directive⟩ | directive⟩ := opensSection_eq_true_iff.1 opens
  · simp only [lineOutside, directive] at outside
    obtain ⟨ended, ends, done⟩ := exists_of_bind_ok outside
    obtain ⟨-, -, rfl⟩ := finishSection_eq_ok_iff.1 ends
    obtain rfl := Except.ok.inj done
    exact ⟨rfl, rfl, closed, by simp⟩
  · simp only [lineOutside, directive] at outside
    split at outside
    · cases outside
    · obtain ⟨ended, ends, done⟩ := exists_of_bind_ok outside
      obtain ⟨-, -, rfl⟩ := finishSection_eq_ok_iff.1 ends
      obtain rfl := Except.ok.inj done
      exact ⟨rfl, rfl, closed, by simp⟩

/-- Blank lines that begin a section are the run of a padded reader. -/
theorem Begins.spaced_eq_padded (begins : reader.Begins) (blanks : List Char) :
    reader.spaced blanks = reader.padded blanks := by
  obtain ⟨content, run, closed, -⟩ := begins
  simp [spaced, padded, content, run, closed, Buffer.padded]

/-- **Blank lines may stand behind a line that opens a section.** -/
theorem outcome_document_behind {before lines back : List Line} (isAt : reader.At before)
    (opens : opensSection (spotBehind before) line = true) (blank : BlankLines lines) :
    outcome Document.spanless (reader.document origin (line :: (lines ++ back))) =
      outcome Document.spanless (reader.document origin (line :: back)) := by
  rw [document_cons, document_cons]
  cases ran : reader.line origin line with
  | error failure => rfl
  | ok after =>
      have closed := isAt.closed_iff.1 (opensSection_eq_true_iff.1 opens).1
      have begins := begins_of_line closed opens ran
      show outcome _ (after.document origin (lines ++ back)) =
        outcome _ (after.document origin back)
      cases lines with
      | nil => rfl
      | cons first rest =>
          rw [document_append,
            outcome_bind_of_ok (outcome_lines_blank begins.block begins.place blank)
              fun _ same => outcome_document same rfl,
            begins.spaced_eq_padded,
            outcome_document_padded (blankBlock_blankText blank) (isAt.next ran) begins.place]

end Reader

end HotReload.Spec
