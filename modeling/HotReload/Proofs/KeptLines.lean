import HotReload.Proofs.Places
import HotReload.Proofs.SourceSections

/-!
# Every line of a spec is kept

A document that has been read holds what the lines of its sections bring, each line in the part
of the condition under which it was written (`lines_kept`).

Along the lines of a text, three places of a reader hold what the present section has brought
so far: its parts, the run that is not yet a part, and the block that is open
(`Reader.items`). A line adds its items at the end of these places, and making a run or a
block a part moves items from one place to the next one in front of it, so that what they hold
together is always what the lines have brought (`Reader.Holds`). At the end of a section it is
trimmed and recorded (`Holds.keeps`).
-/

set_option autoImplicit false

namespace HotReload.Spec

open Text (Line)

/-! ## What is kept -/

/-- Conditional text keeps the lines of a section. -/
structure ConditionalText.Keeps (content : ConditionalText) (lines : List Line) : Prop where
  /-- The texts of the parts, with their markers put back, are what the lines bring. -/
  text : content.parts.flatMap Part.written = (items none (trimBlank lines)).flatMap Item.chars
  /-- Each of them is in the part of the condition under which it was written. -/
  items : content.parts.flatMap Part.items = items none (trimBlank lines)

/-- A file block records a section. -/
structure FileBlock.Records (file : FileBlock) (source : SourceSection) : Prop where
  path : Directive.ofLine source.opening.chars = .fileOpen file.path.toList
  span : file.span = ⟨source.opening.start, source.opening.stop⟩
  content : file.content.Keeps source.lines

/-- File blocks and expectations record some sections. Of several sections of expectations it is
the last one. -/
structure KeptSections (files : List FileBlock) (expectations : Option ConditionalText)
    (sources : List SourceSection) : Prop where
  files : List.Forall₂ FileBlock.Records files (sources.filter SourceSection.isFile)
  expectations : Option.Rel (fun content source => content.Keeps source.lines) expectations
    (sources.filter SourceSection.isExpectations).getLast?

variable {before own : List Line} {line : Line} {cs : List Char} {span : Span}

theorem flatMap_written (parts : List Part) :
    parts.flatMap Part.written = (parts.flatMap Part.items).flatMap Item.chars := by
  simp [List.flatMap_assoc, Part.flatMap_chars_items]

/-! ## What a reader holds of the present section -/

/-- What a buffer holds under a condition. -/
def Buffer.items (condition : Option Label) (buffer : Buffer) : List Item :=
  (wholeLines buffer.written).map (Item.line condition)

theorem Buffer.Spells.items_addLine {buffer : Buffer} {lines : List (List Char)}
    (spells : buffer.Spells lines) (free : '\n' ∉ cs) (condition : Option Label) :
    (buffer.addLine (piecesIn cs) span).items condition =
      buffer.items condition ++ [.line condition (keptText cs ++ ['\n'])] := by
  simp [Buffer.items, spells.wholeLines, (spells.addLine free).wholeLines]

/-- The part that a buffer becomes under a label. -/
def Buffer.labelled (label : Label) (buffer : Buffer) (block : Bool)
    (description : Option String) : Part :=
  { condition := some label, text := String.ofList buffer.text, block := some block,
    markers := buffer.markers, description, span := buffer.span }

/-- It holds what the buffer holds. -/
theorem Buffer.items_labelled (label : Label) (buffer : Buffer) (block : Bool)
    (description : Option String) :
    (buffer.labelled label block description).items =
      .opens buffer.span.start label block :: buffer.items (some label) := by
  simp [labelled, Part.items, Part.written, Buffer.items, Buffer.written]

/-- A line has opened a section. -/
def Section.OpenedBy (line : Line) : Section → Prop
  | .preamble => False
  | .file path span =>
    Directive.ofLine line.chars = .fileOpen path.toList ∧ span = ⟨line.start, line.stop⟩
  | .expectations => Directive.ofLine line.chars = .divider

namespace Reader

/-- What a reader holds of the present section. -/
def items (reader : Reader) : List Item :=
  reader.content.parts.flatMap Part.items ++
    (match reader.run with
      | none => []
      | some run => run.items none) ++
    match reader.block with
      | none => []
      | some block => .opens block.buffer.span.start block.label true ::
          block.buffer.items (some block.label)

/-- A reader holds what the lines of the present section bring. -/
structure Holds (reader : Reader) (own : List Line) : Prop where
  items : reader.items = Spec.items none own
  opened : openedBehind own = reader.block.map OpenBlock.label
  formed : ∀ part ∈ reader.content.parts, part.Formed
  apart : Apart reader.content.parts
  run : ∀ run ∈ reader.run, ∃ lines, run.Spells lines
  block : ∀ block ∈ reader.block, (∃ lines, block.buffer.Spells lines) ∧ reader.run = none

/-- A run would stand behind a conditional part. -/
def Settled (reader : Reader) : Prop :=
  reader.block = none → ∀ last ∈ reader.content.parts.getLast?, last.isConditional = true

variable {reader after : Reader} {origin : Origin}

/-- A section begins with nothing. -/
theorem Holds.start (empty : reader.content = {}) (ended : reader.run = none)
    (closed : reader.block = none) : reader.Holds [] where
  items := by simp [Reader.items, empty, ended, closed, Spec.items]
  opened := by simp [openedBehind, closed]
  formed := by simp [empty]
  apart := by simp [empty, Apart]
  run := by simp [ended]
  block := by simp [closed]

/-- Making the run a part leaves in place what the reader holds. -/
theorem Holds.flushed (holds : reader.Holds own) (settled : reader.Settled)
    (clean : reader.RunClean) : reader.flushed.Holds own := by
  cases ran : reader.run with
  | none =>
      have same : reader.flushed = reader := by
        obtain ⟨title, files, expectations, place, content, run, block, seen⟩ := reader
        obtain rfl : run = none := ran
        rfl
      rwa [same]
  | some run =>
      have unmarked := clean run ran
      obtain ⟨lines, spells⟩ := holds.run run ran
      have closed : reader.block = none := by
        cases opened : reader.block with
        | none => rfl
        | some block => exact nomatch ran.symm.trans (holds.block block opened).2
      have formed : (Part.unconditional (String.ofList run.text) run.span).Formed := by
        have text : run.text = lines.flatten := by
          simpa [Buffer.written, unmarked, restored] using spells.written
        refine ⟨rfl, fun _ => rfl, fun _ => ?_⟩
        simpa [Part.unconditional, text, wholeLines_flatten spells.ended] using spells.ended
      have moved : (Part.unconditional (String.ofList run.text) run.span).items =
          run.items none := by
        rw [Part.items_of_unconditional formed rfl]
        simp [Part.unconditional, Buffer.items, Buffer.written, unmarked, restored]
      have items := holds.items
      constructor
      · rw [← items]
        simp [Reader.items, Reader.flushed, ran, ConditionalText.push, moved]
      · exact holds.opened
      · intro part mem
        simp only [Reader.flushed, ran, ConditionalText.push, List.mem_append,
          List.mem_singleton] at mem
        rcases mem with earlier | rfl
        · exact holds.formed part earlier
        · exact formed
      · simp only [Apart, Reader.flushed, ran, ConditionalText.push, List.isChain_append]
        exact ⟨holds.apart, List.isChain_singleton _, fun last mem _ _ =>
          .inl (settled closed last mem)⟩
      · simp [Reader.flushed]
      · simp [Reader.flushed, closed]

/-- A conditional part may be added behind any part. -/
theorem Holds.push (holds : reader.Holds own) (label : Label) (buffer : Buffer) (block : Bool)
    (description : Option String) :
    (∀ part ∈ (reader.content.push (buffer.labelled label block description)).parts,
        part.Formed) ∧
      Apart (reader.content.push (buffer.labelled label block description)).parts := by
  constructor
  · intro part mem
    rcases List.mem_append.1 mem with earlier | last
    · exact holds.formed part earlier
    · obtain rfl := List.mem_singleton.1 last
      exact ⟨rfl, nofun, nofun⟩
  · refine List.isChain_append.2 ⟨holds.apart, List.isChain_singleton _, fun _ _ part mem => ?_⟩
    obtain rfl := Option.some.inj mem
    exact .inr rfl

/-- Behind a conditional part a reader is settled. -/
theorem settled_of_push {content : ConditionalText} {label : Label} {buffer : Buffer}
    {block : Bool} {description : Option String}
    (pushed : reader.content = content.push (buffer.labelled label block description)) :
    reader.Settled := by
  intro _ last mem
  simp only [pushed, ConditionalText.push, List.getLast?_append, List.getLast?_singleton] at mem
  obtain rfl := Option.some.inj mem
  rfl

/-- A line of text joins the run. -/
theorem Holds.text (holds : reader.Holds own) (closed : reader.block = none)
    (free : '\n' ∉ line.chars) (stays : openedAfter none line = none)
    (plain : lineItems none line = [.line none (keptText line.chars ++ ['\n'])]) :
    Holds { reader with
      run := some ((reader.run.getD { span }).addLine (piecesIn line.chars) span) }
      (own ++ [line]) := by
  have outside : openedBehind own = none := by rw [holds.opened, closed]; rfl
  have spells : ∃ lines, (reader.run.getD { span }).Spells lines := by
    cases ran : reader.run with
    | none => exact ⟨[], .empty span⟩
    | some run => exact holds.run run ran
  obtain ⟨lines, spells⟩ := spells
  have before : (reader.run.getD { span }).items none =
      match reader.run with
      | none => []
      | some run => run.items none := by
    cases reader.run <;> simp [Buffer.items, Buffer.written, restored, wholeLines]
  constructor
  · rw [items_concat, outside, plain, ← holds.items]
    simp [Reader.items, closed, spells.items_addLine free, before]
  · simp [openedBehind_append, outside, stays, closed]
  · exact holds.formed
  · exact holds.apart
  · intro run mem
    obtain rfl := Option.some.inj mem
    exact ⟨_, spells.addLine free⟩
  · simp [closed]

/-- A line of a block joins its text. -/
theorem Holds.body {block : OpenBlock} (holds : reader.Holds own)
    (opened : reader.block = some block) (free : '\n' ∉ line.chars)
    (follows : block.buffer.span.start ≤ span.start)
    (body : Directive.ofLine line.chars ≠ .blockClose) :
    Holds { reader with
      block := some { block with buffer := block.buffer.addLine (piecesIn line.chars) span } }
      (own ++ [line]) := by
  have inside : openedBehind own = some block.label := by rw [holds.opened, opened]; rfl
  obtain ⟨⟨lines, spells⟩, ended⟩ := holds.block block opened
  have plain : lineItems (some block.label) line =
      [.line (some block.label) (keptText line.chars ++ ['\n'])] := by
    cases directive : Directive.ofLine line.chars <;> simp_all [lineItems]
  have stays : openedAfter (some block.label) line = some block.label := by
    cases directive : Directive.ofLine line.chars <;> simp_all [openedAfter]
  have start : (block.buffer.addLine (piecesIn line.chars) span).span.start =
      block.buffer.span.start := by
    simp [Buffer.addLine, Span.join, follows]
  constructor
  · rw [items_concat, inside, plain, ← holds.items]
    simp [Reader.items, opened, ended, spells.items_addLine free, start]
  · simp [openedBehind_append, inside, stays]
  · exact holds.formed
  · exact holds.apart
  · simp [ended]
  · intro other mem
    obtain rfl := Option.some.inj mem
    exact ⟨⟨_, spells.addLine free⟩, ended⟩

/-- A block begins. -/
theorem Holds.opening {label text : List Char} {description : Option String}
    (holds : reader.Holds own) (ended : reader.run = none) (closed : reader.block = none)
    (directive : Directive.ofLine line.chars = .blockOpen label text) :
    Holds { reader with
      block := some ⟨⟨String.ofList label⟩, description, { span := ⟨line.start, line.stop⟩ }⟩ }
      (own ++ [line]) := by
  have outside : openedBehind own = none := by rw [holds.opened, closed]; rfl
  constructor
  · rw [items_concat, outside, ← holds.items]
    simp [Reader.items, ended, closed, lineItems, directive, Buffer.items, Buffer.written, restored,
      wholeLines]
  · simp [openedBehind_append, outside, openedAfter, directive]
  · exact holds.formed
  · exact holds.apart
  · simp [ended]
  · intro block mem
    obtain rfl := Option.some.inj mem
    exact ⟨⟨[], .empty _⟩, ended⟩

/-- A block ends and is a part. -/
theorem Holds.closing {block : OpenBlock} (holds : reader.Holds own)
    (opened : reader.block = some block)
    (directive : Directive.ofLine line.chars = .blockClose) :
    Holds { reader with
      block := none
      content := reader.content.push
        (block.buffer.labelled block.label true block.description) } (own ++ [line]) := by
  have inside : openedBehind own = some block.label := by rw [holds.opened, opened]; rfl
  obtain ⟨-, ended⟩ := holds.block block opened
  obtain ⟨formed, apart⟩ := holds.push block.label block.buffer true block.description
  constructor
  · rw [items_concat, inside, ← holds.items]
    simp [Reader.items, opened, ended, lineItems, directive, ConditionalText.push,
      Buffer.items_labelled]
  · simp [openedBehind_append, inside, openedAfter, directive]
  · exact formed
  · exact apart
  · simp [ended]
  · simp

/-- The buffer of a condition with its text. -/
def conditionBuffer (span : Span) (text : List Char) : Buffer :=
  if (piecesIn text).isEmpty then { span } else Buffer.addLine { span } (piecesIn text) span

theorem span_conditionBuffer (text : List Char) : (conditionBuffer span text).span = span := by
  unfold conditionBuffer
  split
  · rfl
  · simp [Buffer.addLine, Span.join]

/-- A condition without text has none in its buffer. -/
theorem items_conditionBuffer {text : List Char} (free : '\n' ∉ text)
    (condition : Option Label) :
    (conditionBuffer span text).items condition =
      if text.isEmpty then [] else [.line condition (keptText text ++ ['\n'])] := by
  cases text with
  | nil => rfl
  | cons c text =>
      have filled : piecesIn (c :: text) ≠ [] := mt piecesIn_eq_nil_iff.1 (List.cons_ne_nil c text)
      rw [conditionBuffer, if_neg (by simpa using filled), if_neg (by simp),
        (Buffer.Spells.empty span).items_addLine free]
      simp [Buffer.items, Buffer.written, restored, wholeLines]

/-- A condition on its line is a part. -/
theorem Holds.condition {label text : List Char} (holds : reader.Holds own)
    (ended : reader.run = none) (closed : reader.block = none) (free : '\n' ∉ text)
    (directive : Directive.ofLine line.chars = .condition label text) :
    Holds { reader with
      content := reader.content.push ((conditionBuffer ⟨line.start, line.stop⟩ text).labelled
        ⟨String.ofList label⟩ false none) } (own ++ [line]) := by
  have outside : openedBehind own = none := by rw [holds.opened, closed]; rfl
  obtain ⟨formed, apart⟩ := holds.push ⟨String.ofList label⟩
    (conditionBuffer ⟨line.start, line.stop⟩ text) false none
  constructor
  · rw [items_concat, outside, ← holds.items]
    simp [Reader.items, closed, ended, lineItems, directive, ConditionalText.push,
      Buffer.items_labelled, items_conditionBuffer free, span_conditionBuffer]
  · simp [openedBehind_append, outside, openedAfter, directive, closed]
  · exact formed
  · exact apart
  · simp [ended]
  · simp [closed]

/-- **A section that ends is kept.** -/
theorem Holds.keeps (holds : reader.Holds own) (settled : reader.Settled)
    (closed : reader.block = none) (clean : reader.RunClean) :
    (trimEdges reader.flushed.content).Keeps own := by
  have flushed := holds.flushed settled clean
  have all : reader.flushed.content.parts.flatMap Part.items = Spec.items none own := by
    rw [← flushed.items]
    simp [Reader.items, Reader.flushed, closed]
  have trimmed : (trimEdges reader.flushed.content).parts.flatMap Part.items =
      Spec.items none (trimBlank own) := by
    have outside : openedBehind own = none := by rw [holds.opened, closed]; rfl
    rw [items_trimEdges flushed.formed flushed.apart, all, items_trimBlank outside]
  exact ⟨by rw [flatMap_written, trimmed], trimmed⟩

/-! ## Behind some lines -/

/-- A reader is in the present section of its text, or in the preamble. -/
def Presents (reader : Reader) : Option SourceSection → Prop
  | none => reader.place = .preamble ∧ reader.content = {} ∧ reader.run = none
  | some source => reader.place.OpenedBy source.opening ∧ reader.Holds source.lines

/-- Behind some lines, a reader has kept them. -/
structure Stands (reader : Reader) (before : List Line) : Prop where
  past : KeptSections reader.files reader.expectations (layout before).past
  present : reader.Presents (layout before).present
  settled : reader.Settled
  starts : ∀ block ∈ reader.block, ∃ opening ∈ before, block.buffer.span.start = opening.start

theorem Stands.start : Stands {} [] where
  past := ⟨.nil, .none⟩
  present := ⟨rfl, rfl, rfl⟩
  settled _ := by simp
  starts := by simp

/-- **All sections are kept when the present one ends.** -/
theorem Stands.finished (stands : reader.Stands before) (closed : reader.block = none)
    (clean : reader.RunClean) :
    KeptSections reader.finished.files reader.finished.expectations (sections before) := by
  obtain ⟨files, expectations⟩ := stands.past
  have present := stands.present
  unfold sections
  cases shape : (layout before).present with
  | none =>
      rw [shape] at present
      obtain ⟨place, -, -⟩ := present
      simpa [Reader.finished, place] using stands.past
  | some source =>
      rw [shape] at present
      obtain ⟨opened, holds⟩ := present
      have keeps := holds.keeps stands.settled closed clean
      cases place : reader.place with
      | preamble =>
          rw [place] at opened
          exact opened.elim
      | file path span =>
          rw [place] at opened
          obtain ⟨path', span'⟩ := opened
          have isFile : source.isFile = true := by
            simp [SourceSection.isFile, isFileOpen, path']
          have other : source.isExpectations = false := by
            simp [SourceSection.isExpectations, isDivider, path']
          constructor
          · simp only [Reader.finished, place, Option.toList_some, List.filter_append]
            rw [List.filter_singleton, isFile]
            exact List.rel_append files (.cons ⟨path', span', keeps⟩ .nil)
          · simpa [Reader.finished, place, other] using expectations
      | expectations =>
          rw [place] at opened
          have divider : Directive.ofLine source.opening.chars = .divider := opened
          have isFile : source.isFile = false := by
            simp [SourceSection.isFile, isFileOpen, divider]
          have other : source.isExpectations = true := by
            simp [SourceSection.isExpectations, isDivider, divider]
          constructor
          · simpa [Reader.finished, place, isFile] using files
          · simp only [Reader.finished, place, Option.toList_some, List.filter_append]
            rw [List.filter_singleton, other]
            simpa using Option.Rel.some keeps

/-- A line that opens a section begins the next one. -/
theorem Stands.opens (stands : reader.Stands before) (closed : reader.block = none)
    (clean : reader.RunClean) (begins : opensSection (spotBehind before) line = true)
    {place : Section} (opened : place.OpenedBy line) :
    Stands { reader.finished with place } (before ++ [line]) := by
  have flushed : reader.finished.block = none := closed
  constructor
  · rw [layout_of_opens begins]
    exact stands.finished closed clean
  · rw [layout_of_opens begins]
    exact ⟨opened, Holds.start rfl rfl flushed⟩
  · intro _
    simp [Reader.finished]
  · simp [flushed]

/-- Any other line belongs to the present section. -/
theorem Stands.stays (stands : reader.Stands before)
    (stays : opensSection (spotBehind before) line = false)
    (past : after.files = reader.files ∧ after.expectations = reader.expectations ∧
      after.place = reader.place)
    (idle : reader.place = .preamble → after.content = reader.content ∧ after.run = reader.run)
    (holds : reader.place ≠ .preamble → ∀ own, reader.Holds own → after.Holds (own ++ [line]))
    (settled : after.Settled)
    (starts : ∀ block ∈ after.block,
      ∃ opening ∈ before ++ [line], block.buffer.span.start = opening.start) :
    after.Stands (before ++ [line]) := by
  obtain ⟨files, expectations, place⟩ := past
  have present := stands.present
  constructor
  · rw [layout_of_stays stays, files, expectations]
    exact stands.past
  · rw [layout_of_stays stays]
    cases source : (layout before).present with
    | none =>
        rw [source] at present
        obtain ⟨preamble, content, run⟩ := present
        obtain ⟨sameContent, sameRun⟩ := idle preamble
        exact ⟨place.trans preamble, sameContent.trans content, sameRun.trans run⟩
    | some source =>
        rw [source] at present
        obtain ⟨opened, held⟩ := present
        have placed : reader.place ≠ .preamble := by
          intro preamble
          rw [preamble] at opened
          exact opened
        exact ⟨place ▸ opened, holds placed _ held⟩
  · exact settled
  · exact starts

/-- A line of text is kept, or it is blank and stands in the preamble. -/
theorem Stands.addText {blank : Bool} (stands : reader.Stands before)
    (closed : reader.block = none) (free : '\n' ∉ line.chars)
    (plain : ∃ words, Directive.ofLine line.chars = .title words ∨
      Directive.ofLine line.chars = .text)
    (done : reader.addText origin (piecesIn line.chars) blank span = .ok after) :
    after.Stands (before ++ [line]) := by
  have outside : opensSection (spotBehind before) line = false := by
    obtain ⟨words, directive | directive⟩ := plain <;>
      simp [opensSection, isFileOpen, isDivider, directive]
  have stays : openedAfter none line = none := by
    obtain ⟨words, directive | directive⟩ := plain <;> simp [openedAfter, directive]
  have items : lineItems none line = [.line none (keptText line.chars ++ ['\n'])] := by
    obtain ⟨words, directive | directive⟩ := plain <;> simp [lineItems, directive]
  unfold Reader.addText at done
  split at done
  · rename_i preamble
    obtain ⟨-, same⟩ := ite_eq_iff.1 done |>.resolve_right (by simp)
    obtain rfl := Except.ok.inj same
    exact stands.stays outside ⟨rfl, rfl, rfl⟩ (fun _ => ⟨rfl, rfl⟩)
      (fun placed => absurd preamble placed) stands.settled (by simp [closed])
  · rename_i placed
    obtain rfl := Except.ok.inj done
    exact stands.stays outside ⟨rfl, rfl, rfl⟩ (fun preamble => absurd preamble placed)
      (fun _ own holds => holds.text closed free stays items) stands.settled (by simp [closed])

/-- **Outside blocks every line is kept.** -/
theorem Stands.lineOutside (stands : reader.Stands before) (isAt : reader.At before)
    (closed : reader.block = none) (free : '\n' ∉ line.chars)
    (done : reader.lineOutside origin line = .ok after) : after.Stands (before ++ [line]) := by
  have spot := isAt.spot_outside closed
  unfold Reader.lineOutside at done
  cases directive : Directive.ofLine line.chars with
  | fileOpen path =>
      simp only [directive, bind_eq_ok_iff, finishSection_eq_ok_iff, pure, Except.pure,
        Except.ok.injEq] at done
      obtain ⟨_, ⟨-, clean, rfl⟩, rfl⟩ := done
      have begins : opensSection (spotBehind before) line = true := by
        simp [opensSection, isFileOpen, isDivider, spot, directive]
      exact stands.opens closed clean begins (by simp [Section.OpenedBy, directive])
  | divider =>
      simp only [directive] at done
      have begins : opensSection (spotBehind before) line = true := by
        simp [opensSection, isFileOpen, isDivider, spot, directive]
      split at done
      · contradiction
      · simp only [bind_eq_ok_iff, finishSection_eq_ok_iff, pure, Except.pure,
          Except.ok.injEq] at done
        obtain ⟨_, ⟨-, clean, rfl⟩, rfl⟩ := done
        exact stands.opens closed clean begins directive
  | blockOpen label text =>
      simp only [directive, bind_eq_ok_iff, flushRun_eq_ok_iff, requireSection_eq_ok_iff, pure,
        Except.pure, Except.ok.injEq] at done
      obtain ⟨_, ⟨clean, rfl⟩, -, placed, rfl⟩ := done
      have placed : reader.place ≠ .preamble := mt Section.region_eq_preamble_iff.2 placed
      refine stands.stays (by simp [opensSection, isFileOpen, isDivider, spot, directive])
        ⟨rfl, rfl, rfl⟩ (fun preamble => absurd preamble placed) (fun _ own holds => ?_)
        (fun closed => by simp at closed) ?_
      · exact (holds.flushed stands.settled clean).opening rfl closed directive
      · intro block mem
        obtain rfl := Option.some.inj mem
        exact ⟨line, by simp, rfl⟩
  | blockClose => simp [directive] at done
  | condition label text =>
      simp only [directive, bind_eq_ok_iff, flushRun_eq_ok_iff, requireSection_eq_ok_iff,
        piecesOf_eq_ok_iff, pushLabelled_eq_ok_iff] at done
      obtain ⟨_, ⟨clean, rfl⟩, -, placed, _, ⟨-, rfl⟩, -, rfl⟩ := done
      have placed : reader.place ≠ .preamble := mt Section.region_eq_preamble_iff.2 placed
      have words : '\n' ∉ text := by
        obtain ⟨front, whole⟩ := eq_append_of_condition directive
        exact fun mem => free (whole ▸ List.mem_append_right _ mem)
      refine stands.stays (by simp [opensSection, isFileOpen, isDivider, spot, directive])
        ⟨rfl, rfl, rfl⟩ (fun preamble => absurd preamble placed) (fun _ own holds => ?_) ?_ ?_
      · exact (holds.flushed stands.settled clean).condition rfl closed words directive
      · exact settled_of_push rfl
      · simp [Reader.flushed, closed]
  | malformed => simp [directive] at done
  | title words =>
      simp only [directive] at done
      split at done
      · rename_i title
        obtain rfl := Except.ok.inj done
        have place : reader.place = .preamble := by simp at title; exact title.1.2
        exact stands.stays (by simp [opensSection, isFileOpen, isDivider, spot, directive])
          ⟨rfl, rfl, rfl⟩ (fun _ => ⟨rfl, rfl⟩) (fun placed => absurd place placed) stands.settled
          (by simp [closed])
      · simp only [bind_eq_ok_iff, piecesOf_eq_ok_iff] at done
        obtain ⟨_, ⟨-, rfl⟩, done⟩ := done
        exact stands.addText closed free ⟨words, .inl directive⟩ done
  | text =>
      simp only [directive, bind_eq_ok_iff, piecesOf_eq_ok_iff] at done
      obtain ⟨_, ⟨-, rfl⟩, done⟩ := done
      exact stands.addText closed free ⟨[], .inr directive⟩ done

/-- **Inside a block every line is kept.** -/
theorem Stands.lineInside {block : OpenBlock} (stands : reader.Stands before)
    (isAt : reader.At before) (opened : reader.block = some block) (free : '\n' ∉ line.chars)
    (behind : ∀ other ∈ before, other.start ≤ line.start)
    (done : reader.lineInside origin block line = .ok after) : after.Stands (before ++ [line]) := by
  have stays : opensSection (spotBehind before) line = false := by
    simp [opensSection, isAt.spot_inside opened]
  have placed := isAt.placed opened
  obtain ⟨opening, there, start⟩ := stands.starts block opened
  by_cases close : Directive.ofLine line.chars = .blockClose
  · simp only [Reader.lineInside, close, pushLabelled_eq_ok_iff] at done
    obtain ⟨-, rfl⟩ := done
    exact stands.stays stays ⟨rfl, rfl, rfl⟩ (fun preamble => absurd preamble placed)
      (fun _ own holds => holds.closing opened close) (settled_of_push rfl) (by simp)
  · simp only [lineInside_body close, bind_eq_ok_iff, piecesOf_eq_ok_iff, pure, Except.pure,
      Except.ok.injEq] at done
    obtain ⟨_, ⟨-, rfl⟩, rfl⟩ := done
    have follows : block.buffer.span.start ≤ line.start := start ▸ behind opening there
    refine stands.stays stays ⟨rfl, rfl, rfl⟩ (fun preamble => absurd preamble placed)
      (fun _ own holds => holds.body opened free follows close) (fun closed => by simp at closed) ?_
    intro other mem
    obtain rfl := Option.some.inj mem
    refine ⟨opening, List.mem_append_left _ there, ?_⟩
    simpa [Buffer.addLine, Buffer.foldl_add, Span.join, follows] using start

/-- **Every line is kept.** -/
theorem Stands.next (stands : reader.Stands before) (isAt : reader.At before)
    (free : '\n' ∉ line.chars) (behind : ∀ other ∈ before, other.start ≤ line.start)
    (done : reader.line origin line = .ok after) : after.Stands (before ++ [line]) := by
  unfold Reader.line at done
  cases opened : reader.block with
  | some block =>
      simp only [opened] at done
      exact stands.lineInside isAt opened free behind done
  | none =>
      simp only [opened] at done
      obtain ⟨passed, ran, done⟩ := exists_of_bind_ok done
      obtain rfl := Except.ok.inj done
      obtain ⟨past, present, settled, starts⟩ := stands.lineOutside isAt opened free ran
      refine ⟨past, ?_, settled, starts⟩
      cases source : (layout (before ++ [line])).present with
      | none => rwa [source] at present
      | some source' =>
          rw [source] at present
          obtain ⟨items, block, formed, apart, run, spells⟩ := present.2
          exact ⟨present.1, items, block, formed, apart, run, spells⟩

/-- All lines are kept. -/
theorem Stands.nexts {lines : List Line} (stands : reader.Stands before) (isAt : reader.At before)
    (free : ∀ line ∈ lines, '\n' ∉ line.chars)
    (behind : (before ++ lines).Pairwise fun first second => first.start < second.start)
    (done : lines.foldlM (fun reader line => reader.line origin line) reader = .ok after) :
    after.Stands (before ++ lines) := by
  induction lines generalizing reader before with
  | nil =>
      obtain rfl := Except.ok.inj done
      simpa using stands
  | cons line lines ih =>
      rw [List.foldlM_cons] at done
      obtain ⟨middle, ran, done⟩ := exists_of_bind_ok done
      have follows : ∀ other ∈ before, other.start ≤ line.start := fun other mem =>
        Nat.le_of_lt ((List.pairwise_append.1 behind).2.2 other mem line List.mem_cons_self)
      have next := stands.next isAt (free line List.mem_cons_self) follows ran
      simpa using ih next (isAt.next ran) (fun other mem => free other (List.mem_cons_of_mem _ mem))
        (by simpa using behind) done

end Reader

/-! ## The whole text -/

/-- A document is what a reader has kept behind all lines. -/
theorem exists_stands_of_read {source text : String} {document : Document}
    (isRead : Document.read source text = .ok document) :
    ∃ reader : Reader, reader.Stands (Text.lines text.toList) ∧
      reader.block = none ∧ reader.RunClean ∧
      document.files = reader.finished.files ∧
      document.expectations = reader.finished.expectations := by
  obtain ⟨reader, ran, finished⟩ := exists_of_bind_ok isRead
  have stands : reader.Stands (Text.lines text.toList) :=
    Reader.Stands.start.nexts Reader.At.start
      (fun _ mem => Text.lineFeed_notMem_linesFrom mem) (Text.pairwise_start_linesFrom 0 _) ran
  obtain ⟨ended, ends, done⟩ := exists_of_bind_ok finished
  obtain ⟨closed, clean, rfl⟩ := Reader.finishSection_eq_ok_iff.1 ends
  obtain rfl := Except.ok.inj done
  exact ⟨reader, stands, closed, clean, rfl, rfl⟩

/-- **Every line of a text is kept in the section to which it belongs, in the part of the
condition under which it was written.** -/
theorem lines_kept {source text : String} {document : Document}
    (isRead : Document.read source text = .ok document) :
    KeptSections document.files document.expectations (sections (Text.lines text.toList)) := by
  obtain ⟨reader, stands, closed, clean, files, expectations⟩ := exists_stands_of_read isRead
  rw [files, expectations]
  exact stands.finished closed clean

/-- A text with blank lines in many places, a delimiter in a block and a slot with leading
zeros. -/
def roomySource : String :=
  "---- f ----\n \n  # x\n::0::\n\n---- g ----\n::\n\n****\n\n" ++
    "::1   <p>$\x7b007\x7d</p>\n::0\n\n  end\n\n"

/-- Blank lines are dropped at the ends of a section only. -/
def roomyDocument : Document where
  files := [{
    path := "f"
    content := {
      parts := [
        .unconditional "  # x\n" ⟨12, 19⟩,
        { condition := some ⟨"0"⟩, text := "\n---- g ----\n", block := some true, markers := [],
          description := none, span := ⟨20, 38⟩ }]
      conditions := [⟨"0"⟩] }
    span := ⟨0, 11⟩ }]
  expectations := some {
    parts := [
      { condition := some ⟨"1"⟩, text := "<p></p>\n", block := some false,
        markers := [⟨7, 3⟩], description := none, span := ⟨49, 68⟩ },
      { condition := some ⟨"0"⟩, text := "", block := some false, markers := [],
        description := none, span := ⟨69, 72⟩ },
      .unconditional "\n  end\n" ⟨73, 81⟩]
    conditions := [⟨"1"⟩, ⟨"0"⟩] }

theorem lines_kept_roomySource :
    Document.read "input" roomySource = .ok roomyDocument ∧
      KeptSections roomyDocument.files roomyDocument.expectations
        (sections (Text.lines roomySource.toList)) := by
  have isRead : Document.read "input" roomySource = .ok roomyDocument := by rfl
  exact ⟨isRead, lines_kept isRead⟩

end HotReload.Spec
