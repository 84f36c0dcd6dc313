import HotReload.Proofs.MarkedText

/-!
# Reading without positions

Spans say where in its text a part, a file block or a failure stands. Without them
(`Document.spanless`, `Failure.spanless`) a document says what was written, and a failure what is
wrong. What a reader comes to without spans depends on the characters of the lines only, and not on
the bytes at which they begin: each step of the reader is compared with the same step of a reader
without spans (`Reader.outcome_line`), so two texts with the same lines are read alike
(`read_congr`).
-/

set_option autoImplicit false

namespace HotReload

/-- A failure that is not located. -/
@[simps] def Failure.spanless (failure : Failure) : Failure :=
  { failure with span := .zero }

@[simp] theorem Origin.spanless_report (origin : Origin) (cause : Cause) (span : Span) :
    (origin.report cause span).spanless = origin.report cause .zero := rfl

@[simp] theorem Failure.spanless_withHelp (failure : Failure) (help : String) :
    (failure.withHelp help).spanless = failure.spanless.withHelp help := rfl

namespace Spec

open Text (Line)

/-! ## Documents without spans -/

@[simps] def Part.spanless (part : Part) : Part :=
  { part with span := .zero }

@[simps] def ConditionalText.spanless (content : ConditionalText) : ConditionalText :=
  { content with parts := content.parts.map Part.spanless }

@[simps] def FileBlock.spanless (file : FileBlock) : FileBlock :=
  { file with content := file.content.spanless, span := .zero }

/-- The document without the places from which it was read. -/
@[simps] def Document.spanless (document : Document) : Document :=
  { document with
    files := document.files.map FileBlock.spanless
    expectations := document.expectations.map ConditionalText.spanless }

/-! ## Directives with their texts trimmed -/

namespace Directive

/-- The directive with its text trimmed. -/
def trimmed : Directive → Directive
  | .blockOpen label description => .blockOpen label (Text.trim description)
  | .title words => .title (Text.trim words)
  | directive => directive

variable {directive other : Directive} {label words : List Char}

/-- A directive that loses nothing is told by its trimmed form. -/
theorem eq_of_trimmed (same : other.trimmed = directive.trimmed)
    (opens : ∀ label words, directive ≠ .blockOpen label words)
    (title : ∀ words, directive ≠ .title words) : other = directive := by
  cases directive <;> cases other <;> simp_all [trimmed]

theorem exists_blockOpen_of_trimmed (same : other.trimmed = (blockOpen label words).trimmed) :
    ∃ words', other = .blockOpen label words' ∧ Text.trim words = Text.trim words' := by
  cases other <;> simp_all [trimmed]

theorem exists_title_of_trimmed (same : other.trimmed = (title words).trimmed) :
    ∃ words', other = .title words' ∧ Text.trim words = Text.trim words' := by
  cases other <;> simp_all [trimmed]

end Directive

/-! ## Readers without spans -/

def Section.spanless : Section → Section
  | .preamble => .preamble
  | .file path _ => .file path .zero
  | .expectations => .expectations

@[simps] def Buffer.spanless (buffer : Buffer) : Buffer :=
  { buffer with span := .zero }

@[simps] def OpenBlock.spanless (block : OpenBlock) : OpenBlock :=
  { block with buffer := block.buffer.spanless }

@[simps] def Reader.spanless (reader : Reader) : Reader :=
  { reader with
    files := reader.files.map FileBlock.spanless
    expectations := reader.expectations.map ConditionalText.spanless
    place := reader.place.spanless
    content := reader.content.spanless
    run := reader.run.map Buffer.spanless
    block := reader.block.map OpenBlock.spanless }

@[simp] theorem Section.spanless_preamble : preamble.spanless = preamble := rfl

@[simp] theorem Section.spanless_file (path : String) (span : Span) :
    (file path span).spanless = file path .zero := rfl

@[simp] theorem Section.spanless_expectations : expectations.spanless = expectations := rfl

@[simp] theorem Part.spanless_unconditional (text : String) (span : Span) :
    (Part.unconditional text span).spanless = Part.unconditional text .zero := rfl

@[simp] theorem Part.isConditional_spanless (part : Part) :
    part.spanless.isConditional = part.isConditional := rfl

/-- What a line adds to a buffer does not depend on where it stands. -/
theorem Buffer.spanless_addLine {buffer buffer' : Buffer}
    (same : buffer.spanless = buffer'.spanless) (pieces : List Piece) (span span' : Span) :
    (buffer.addLine pieces span).spanless = (buffer'.addLine pieces span').spanless := by
  simp only [spanless, mk.injEq] at same
  simp [addLine, foldl_add, spanless, same]

@[simp] theorem ConditionalText.spanless_push (content : ConditionalText) (part : Part) :
    (content.push part).spanless = content.spanless.push part.spanless := by
  simp [push, spanless, Part.spanless]

theorem Part.spanless_mapUnconditional (f : List Char → List Char) (part : Part) :
    (part.mapUnconditional f).spanless = part.spanless.mapUnconditional f := by
  unfold mapUnconditional
  rw [isConditional_spanless]
  split <;> rfl

theorem map_changeLast {f g h : Part → Part} (same : ∀ part, h (f part) = g (h part))
    (parts : List Part) : (changeLast f parts).map h = changeLast g (parts.map h) := by
  fun_induction changeLast f parts with
  | case1 => rfl
  | case2 part => simp [changeLast, same]
  | case3 part rest more ih =>
      cases rest with
      | nil => exact absurd rfl more
      | cons next rest => simpa [changeLast] using ih

/-- Spans play no part in the trimming of a section. -/
theorem spanless_trimEdges (content : ConditionalText) :
    (trimEdges content).spanless = trimEdges content.spanless := by
  have first : ∀ parts : List Part,
      (parts.modifyHead (Part.mapUnconditional dropLeadingBlankLines)).map Part.spanless =
        (parts.map Part.spanless).modifyHead (Part.mapUnconditional dropLeadingBlankLines) := by
    rintro (_ | ⟨part, rest⟩)
    · rfl
    · simp [Part.spanless_mapUnconditional]
  simp only [trimEdges, ConditionalText.spanless, ← first,
    ← map_changeLast (Part.spanless_mapUnconditional dropTrailingBlankLines), List.filter_map]
  rfl

/-! Taking the spans away once is enough. -/

@[simp] theorem Part.spanless_comp : Part.spanless ∘ Part.spanless = Part.spanless := rfl

@[simp] theorem ConditionalText.spanless_spanless (content : ConditionalText) :
    content.spanless.spanless = content.spanless := by
  simp [spanless]

@[simp] theorem ConditionalText.spanless_comp :
    ConditionalText.spanless ∘ ConditionalText.spanless = ConditionalText.spanless :=
  funext spanless_spanless

@[simp] theorem FileBlock.spanless_comp :
    FileBlock.spanless ∘ FileBlock.spanless = FileBlock.spanless := by
  funext file
  simp [spanless]

@[simp] theorem Section.spanless_spanless (place : Section) :
    place.spanless.spanless = place.spanless := by
  cases place <;> rfl

@[simp] theorem Buffer.spanless_comp : Buffer.spanless ∘ Buffer.spanless = Buffer.spanless := rfl

@[simp] theorem OpenBlock.spanless_comp :
    OpenBlock.spanless ∘ OpenBlock.spanless = OpenBlock.spanless := rfl

@[simp] theorem Reader.spanless_spanless (reader : Reader) :
    reader.spanless.spanless = reader.spanless := by
  simp [spanless]

/-! ## Outcomes without spans -/

section Outcome

variable {γ δ σ τ : Type}

/-- What an attempt comes to without spans: its answer, or the reason why it failed. -/
def outcome (strip : γ → δ) (result : Except Failure γ) : Except Failure δ :=
  (result.map strip).mapError Failure.spanless

variable {strip : γ → δ} {strip' : σ → τ} {first first' : Except Failure γ}
  {next next' : γ → Except Failure σ}

@[simp] theorem outcome_ok (value : γ) : outcome strip (.ok value) = .ok (strip value) := rfl

@[simp] theorem outcome_error (failure : Failure) :
    outcome strip (.error failure) = .error failure.spanless := rfl

theorem outcome_eq_ok_iff {answer : δ} :
    outcome strip first = .ok answer ↔ ∃ value, first = .ok value ∧ strip value = answer := by
  cases first <;> simp [outcome, Except.map, Except.mapError]

/-- What comes to the same as an attempt that succeeds has succeeded as well. -/
theorem exists_ok_of_outcome {value : γ} (ran : first = .ok value)
    (same : outcome strip first' = outcome strip first) :
    ∃ value', first' = .ok value' ∧ strip value' = strip value := by
  rw [ran, outcome_ok] at same
  exact outcome_eq_ok_iff.1 same

/-- Attempts that come to the same, and not to equal values, succeed with values that differ in
their spans only. -/
theorem exists_ok_of_moved (accepted : first.isOk = true)
    (same : outcome strip first' = outcome strip first) (moved : first'.toOption ≠ first.toOption) :
    ∃ value value', first = .ok value ∧ first' = .ok value' ∧ strip value' = strip value ∧
      value' ≠ value := by
  cases first with
  | error failure => cases accepted
  | ok value =>
      obtain ⟨value', ran', alike⟩ := exists_ok_of_outcome rfl same
      refine ⟨value, value', rfl, ran', alike, ?_⟩
      rintro rfl
      exact moved (congrArg Except.toOption ran')

/-- Attempts that come to the same go on to the same. -/
theorem outcome_bind_congr (begins : outcome strip first = outcome strip first')
    (goesOn : ∀ value value', strip value = strip value' →
      outcome strip' (next value) = outcome strip' (next' value')) :
    outcome strip' (first >>= next) = outcome strip' (first' >>= next') := by
  cases first with
  | error failure =>
      cases first' with
      | error failure' => exact congrArg Except.error (Except.error.inj begins)
      | ok value' => cases begins
  | ok value =>
      cases first' with
      | error failure' => cases begins
      | ok value' => exact goesOn value value' (Except.ok.inj begins)

/-- An attempt that comes to an answer goes on like this answer. -/
theorem outcome_bind_of_ok {value : γ} (ran : outcome strip first = .ok (strip value))
    (blind : ∀ value', strip value' = strip value →
      outcome strip' (next value') = outcome strip' (next value)) :
    outcome strip' (first >>= next) = outcome strip' (next value) := by
  obtain ⟨value', rfl, same⟩ := outcome_eq_ok_iff.1 ran
  exact blind value' same

/-- An operation that does not look at spans comes to the same wherever there are other spans. -/
theorem outcome_congr {strip : γ → γ} {operation : γ → Except Failure σ}
    (blind : ∀ value, outcome strip' (operation value) = outcome strip' (operation (strip value)))
    {value value' : γ} (same : strip value = strip value') :
    outcome strip' (operation value) = outcome strip' (operation value') := by
  rw [blind value, same, ← blind value']

end Outcome

/-! ## One step -/

/-- The pieces of a text are the same wherever it stands, and so is the slot that is refused. -/
theorem outcome_pieces (origin : Origin) (start start' : Nat) (tokens : List Token) :
    outcome id (Token.pieces origin start tokens) =
      outcome id (Token.pieces origin start' tokens) := by
  induction tokens generalizing start start' with
  | nil => rfl
  | cons token rest ih =>
      cases token with
      | char c =>
          apply outcome_bind_congr (ih _ _)
          rintro pieces _ rfl
          rfl
      | marker digits =>
          simp only [Token.pieces]
          split
          · apply outcome_bind_congr (ih _ _)
            rintro pieces _ rfl
            rfl
          · rfl

theorem outcome_piecesOf (origin : Origin) (start start' : Nat) (cs : List Char) :
    outcome id (piecesOf origin start cs) = outcome id (piecesOf origin start' cs) :=
  outcome_pieces origin start start' _

namespace Reader

variable {reader reader' : Reader} {origin : Origin} {line line' : Line}

theorem outcome_flushRun (reader : Reader) :
    outcome spanless (reader.flushRun origin) =
      outcome spanless (reader.spanless.flushRun origin) := by
  cases run : reader.run with
  | none => simp [flushRun, run]
  | some run' =>
      cases markers : run'.markers with
      | nil => simp [flushRun, run, markers, spanless]
      | cons marker more => cases place : reader.place <;> simp [flushRun, run, markers, place]

theorem outcome_finishSection (reader : Reader) :
    outcome spanless (reader.finishSection origin) =
      outcome spanless (reader.spanless.finishSection origin) := by
  cases opened : reader.block with
  | some block => simp [finishSection, opened]
  | none =>
      simp only [finishSection, opened, spanless_block, Option.map_none]
      apply outcome_bind_congr (outcome_flushRun reader)
      intro first second same
      apply outcome_congr _ same
      intro reader
      cases place : reader.place <;>
        simp [place, pure, Except.pure, spanless, spanless_trimEdges, FileBlock.spanless]

theorem outcome_requireSection (same : reader.spanless = reader'.spanless)
    (trim : Text.trim line.chars = Text.trim line'.chars) :
    outcome id (reader.requireSection origin line) =
      outcome id (reader'.requireSection origin line') := by
  have placed : reader.place.spanless = reader'.place.spanless := congrArg Reader.place same
  cases place : reader.place <;> cases place' : reader'.place <;>
    simp_all [requireSection]

theorem outcome_addText (reader : Reader) (pieces : List Piece) (blank : Bool) (span span' : Span) :
    outcome spanless (reader.addText origin pieces blank span) =
      outcome spanless (reader.spanless.addText origin pieces blank span') := by
  have begun : (reader.run.getD { span }).spanless =
      (reader.spanless.run.getD { span := span' }).spanless := by
    cases run : reader.run <;> simp [run, Buffer.spanless]
  have added := Buffer.spanless_addLine begun pieces span span'
  rw [spanless_run] at added
  cases place : reader.place with
  | preamble => cases blank <;> simp [addText, place]
  | file path opening => simp [addText, place, spanless, added]
  | expectations => simp [addText, place, spanless, added]

theorem outcome_pushLabelled (reader : Reader) (label : Label) (buffer : Buffer) (block : Bool)
    (description : Option String) :
    outcome spanless (reader.pushLabelled origin label buffer block description) =
      outcome spanless
        (reader.spanless.pushLabelled origin label buffer.spanless block description) := by
  cases markers : buffer.markers <;> cases place : reader.place <;>
    simp [pushLabelled, place, markers, spanless, Part.spanless]

/-- A title line is the title of the document. -/
def awaitsTitle (reader : Reader) : Bool :=
  !reader.seenContent && reader.place == .preamble && reader.title.isNone

/-- Whether the text of a line counts. -/
def takesText (reader : Reader) (directive : Directive) : Bool :=
  match reader.block, directive with
  | some _, .blockClose => false
  | some _, _ => true
  | none, .text => true
  | none, .title _ => !reader.awaitsTitle
  | none, _ => false

/-- A reader makes the same of two lines: they are the same delimiter, or the same text. -/
structure TakesAlike (reader : Reader) (line line' : Line) : Prop where
  directive : (Directive.ofLine line.chars).trimmed = (Directive.ofLine line'.chars).trimmed
  trim : Text.trim line.chars = Text.trim line'.chars
  blank : Text.allBlank line.chars = Text.allBlank line'.chars
  text : reader.takesText (Directive.ofLine line.chars) = true → line.chars = line'.chars

theorem takesAlike_of_chars (chars : line.chars = line'.chars) : reader.TakesAlike line line' := by
  constructor <;> simp [chars]

/-- Inside a block, a line is read by its characters, unless it is the end of the block. -/
theorem outcome_lineInside {block : OpenBlock} (opened : reader.block = some block)
    (alike : reader.TakesAlike line line') :
    outcome spanless (reader.lineInside origin block line) =
      outcome spanless (reader.spanless.lineInside origin block.spanless line') := by
  unfold lineInside
  by_cases close : Directive.ofLine line.chars = .blockClose
  · have close' : Directive.ofLine line'.chars = .blockClose :=
      Directive.eq_of_trimmed (close ▸ alike.directive.symm) nofun nofun
    rw [close, close']
    exact outcome_pushLabelled { reader with block := none } block.label block.buffer true
      block.description
  · have chars : line.chars = line'.chars := by
      apply alike.text
      cases directive : Directive.ofLine line.chars <;> simp_all [takesText]
    rw [chars] at close ⊢
    split
    · contradiction
    · apply outcome_bind_congr (outcome_piecesOf origin 0 0 _)
      intro pieces _ alike
      obtain rfl : pieces = _ := alike
      have unlocated : block.buffer.spanless = block.buffer.spanless.spanless := rfl
      have added := Buffer.spanless_addLine unlocated pieces ⟨line.start, line.stop⟩
        ⟨line'.start, line'.stop⟩
      simp [pure, Except.pure, spanless, OpenBlock.spanless, added]

/-- Outside blocks, a line is read by its directive, and by its characters where they are text. -/
theorem outcome_lineOutside (closed : reader.block = none) (alike : reader.TakesAlike line line') :
    outcome spanless (reader.lineOutside origin line) =
      outcome spanless (reader.spanless.lineOutside origin line') := by
  obtain ⟨directive, trim, -, text⟩ := alike
  have malformed : (malformed origin line).spanless = (Reader.malformed origin line').spanless := by
    simp [Reader.malformed, trim]
  unfold lineOutside
  cases is : Directive.ofLine line.chars with
  | fileOpen path =>
      have is' : Directive.ofLine line'.chars = .fileOpen path :=
        Directive.eq_of_trimmed (is ▸ directive.symm) nofun nofun
      rw [is']
      apply outcome_bind_congr (outcome_finishSection reader)
      intro first second same
      exact congrArg Except.ok (congrArg (fun reader : Reader =>
        { reader with place := .file (String.ofList path) .zero }) same)
  | divider =>
      have is' : Directive.ofLine line'.chars = .divider :=
        Directive.eq_of_trimmed (is ▸ directive.symm) nofun nofun
      rw [is']
      cases place : reader.place with
      | expectations => simp [place, malformed]
      | preamble | file =>
          simp only [spanless_place, place, Section.spanless_preamble, Section.spanless_file]
          apply outcome_bind_congr (outcome_finishSection reader)
          intro first second same
          exact congrArg Except.ok
            (congrArg (fun reader : Reader => { reader with place := .expectations }) same)
  | blockOpen label description =>
      obtain ⟨description', is', words⟩ :=
        Directive.exists_blockOpen_of_trimmed (is ▸ directive.symm)
      have described : description? description = description? description' := by
        simp only [description?, words]
      rw [is']
      dsimp only
      rw [described]
      apply outcome_bind_congr (outcome_flushRun reader)
      intro first second same
      apply outcome_bind_congr (outcome_requireSection same trim)
      intro _ _ _
      exact congrArg Except.ok (congrArg (fun reader : Reader => { reader with
        block := some ⟨⟨String.ofList label⟩, description? description', { span := .zero }⟩ }) same)
  | blockClose =>
      have is' : Directive.ofLine line'.chars = .blockClose :=
        Directive.eq_of_trimmed (is ▸ directive.symm) nofun nofun
      rw [is']
      simp [malformed]
  | condition label text =>
      have is' : Directive.ofLine line'.chars = .condition label text :=
        Directive.eq_of_trimmed (is ▸ directive.symm) nofun nofun
      rw [is']
      apply outcome_bind_congr (outcome_flushRun reader)
      intro first second same
      apply outcome_bind_congr (outcome_requireSection same trim)
      intro _ _ _
      apply outcome_bind_congr (outcome_piecesOf origin _ _ text)
      intro pieces _ alike
      obtain rfl : pieces = _ := alike
      rw [outcome_pushLabelled first, same, outcome_pushLabelled second]
      congr 2
      split
      · rfl
      · have empty (span span' : Span) :
            ({ span } : Buffer).spanless = ({ span := span' } : Buffer).spanless := rfl
        exact Buffer.spanless_addLine (empty _ _) _ _ _
  | malformed =>
      have is' : Directive.ofLine line'.chars = .malformed :=
        Directive.eq_of_trimmed (is ▸ directive.symm) nofun nofun
      rw [is']
      simp [malformed]
  | title words =>
      obtain ⟨words', is', trimmed⟩ := Directive.exists_title_of_trimmed (is ▸ directive.symm)
      have preamble : (reader.spanless.place == .preamble) = (reader.place == .preamble) := by
        cases place : reader.place <;> simp [place]
      rw [is']
      simp only [spanless_title, spanless_seenContent, preamble, trimmed]
      split
      · simp [pure, Except.pure, spanless]
      · rename_i other
        have taken : reader.takesText (Directive.ofLine line.chars) = true := by
          simp only [is, takesText, closed, awaitsTitle, Bool.eq_false_iff.2 other, Bool.not_false]
        rw [text taken]
        apply outcome_bind_congr (outcome_piecesOf origin 0 0 _)
        intro pieces _ alike
        obtain rfl : pieces = _ := alike
        exact outcome_addText reader pieces false _ _
  | text =>
      have is' : Directive.ofLine line'.chars = .text :=
        Directive.eq_of_trimmed (is ▸ directive.symm) nofun nofun
      rw [is',
        text (by simp [is, takesText, closed])]
      apply outcome_bind_congr (outcome_piecesOf origin _ _ _)
      intro pieces _ alike
      obtain rfl : pieces = _ := alike
      exact outcome_addText reader pieces _ _ _

/-- **Lines of which a reader makes the same are read alike**, whatever spans it has met. -/
theorem outcome_line (same : reader.spanless = reader'.spanless)
    (alike : reader.TakesAlike line line') :
    outcome spanless (reader.line origin line) = outcome spanless (reader'.line origin line') := by
  have inside : reader.block.map OpenBlock.spanless = reader'.block.map OpenBlock.spanless :=
    congrArg Reader.block same
  unfold Reader.line
  cases opened : reader.block with
  | none =>
      have closed : reader'.block = none := by simpa [opened] using inside.symm
      have outside : outcome spanless (reader.lineOutside origin line) =
          outcome spanless (reader'.lineOutside origin line') := by
        rw [outcome_lineOutside opened alike, same,
          ← outcome_lineOutside closed (takesAlike_of_chars rfl)]
      rw [closed]
      apply outcome_bind_congr outside
      intro first second same
      rw [alike.blank]
      exact congrArg Except.ok (congrArg (fun reader : Reader => { reader with
        seenContent := reader.seenContent || !Text.allBlank line'.chars }) same)
  | some block =>
      cases opened' : reader'.block with
      | none => simp [opened, opened'] at inside
      | some block' =>
          have blocks : block.spanless = block'.spanless := by simpa [opened, opened'] using inside
          dsimp only
          rw [outcome_lineInside opened alike, same, blocks,
            ← outcome_lineInside opened' (takesAlike_of_chars rfl)]

/-- **Lines are read by their characters.** -/
theorem outcome_lines {lines lines' : List Line} (same : reader.spanless = reader'.spanless)
    (chars : lines.map Line.chars = lines'.map Line.chars) :
    outcome spanless (lines.foldlM (fun reader line => reader.line origin line) reader) =
      outcome spanless (lines'.foldlM (fun reader line => reader.line origin line) reader') := by
  induction lines generalizing lines' reader reader' with
  | nil =>
      obtain rfl := List.map_eq_nil_iff.1 chars.symm
      exact congrArg Except.ok same
  | cons line rest ih =>
      obtain ⟨line', rest', rfl, first, later⟩ := List.map_eq_cons_iff.1 chars.symm
      rw [List.foldlM_cons, List.foldlM_cons]
      apply outcome_bind_congr (outcome_line same (takesAlike_of_chars first.symm))
      intro middle middle' same
      exact ih same later.symm

theorem outcome_finish (same : reader.spanless = reader'.spanless) :
    outcome Document.spanless (reader.finish origin) =
      outcome Document.spanless (reader'.finish origin) := by
  apply outcome_bind_congr (outcome_congr outcome_finishSection same)
  intro first second same
  exact congrArg Except.ok (congrArg (fun reader : Reader =>
    ({ title := reader.title, files := reader.files, expectations := reader.expectations } :
      Document)) same)

/-- Reads all lines and ends with a document. -/
def document (reader : Reader) (origin : Origin) (lines : List Line) : Except Failure Document := do
  let reader ← lines.foldlM (fun reader line => reader.line origin line) reader
  reader.finish origin

theorem outcome_document {lines lines' : List Line} (same : reader.spanless = reader'.spanless)
    (chars : lines.map Line.chars = lines'.map Line.chars) :
    outcome Document.spanless (reader.document origin lines) =
      outcome Document.spanless (reader'.document origin lines') := by
  apply outcome_bind_congr (outcome_lines same chars)
  intro first second same
  exact outcome_finish same

end Reader

/-! ## Texts -/

section Texts

variable {text text' : String}
  (same : (Text.lines text.toList).map Line.chars = (Text.lines text'.toList).map Line.chars)
include same

/-- **Texts with the same lines are read alike**: as the same document, or they are refused for the
same reason. -/
theorem read_congr (source : String) :
    outcome Document.spanless (Document.read source text) =
      outcome Document.spanless (Document.read source text') :=
  Reader.outcome_document rfl same

theorem readTest_congr (source : String) :
    outcome Document.spanless (Document.readTest source text) =
      outcome Document.spanless (Document.readTest source text') := by
  apply outcome_bind_congr (read_congr same source)
  intro document document' alike
  have titles : document.title = document'.title := by simpa using congrArg Document.title alike
  rw [titles]
  split
  · exact congrArg Except.ok alike
  · rfl

end Texts

end Spec

end HotReload
