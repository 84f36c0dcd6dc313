import HotReload.Spec.Directive
import HotReload.Spec.Document
import HotReload.Spec.Token
import HotReload.Text.Blank

/-!
# Reading a spec

A spec is read line by line. The reader knows the section it is in (the preamble,
a file block or the expectations), the run of unconditional lines that is not yet
a part, and the condition block that is open. Inside a block every line but its
end is plain text, whatever it looks like.

A section is finished by the next file block, by the divider or by the end of the
text. Its blank lines at both ends are dropped, as far as they are unconditional.

`Document.read` reads a spec; `Document.readTest` also demands a title.
-/

set_option autoImplicit false

namespace HotReload.Spec

open Text (Line)

/-! ## The state of a reader -/

/-- The section a line belongs to. -/
inductive Section
  /-- Before the first file block or divider. -/
  | preamble
  /-- In a file block, with the span of its opening line. -/
  | file (path : String) (span : Span)
  | expectations
deriving DecidableEq, Repr

/-- Text that grows line by line. -/
structure Buffer where
  /-- The text so far, without markers. -/
  text : List Char := []
  markers : List Marker := []
  /-- The bytes of the lines so far. -/
  span : Span
deriving DecidableEq, Repr

namespace Buffer

/-- Adds a character, or a marker at the end of the text so far. -/
def add (buffer : Buffer) : Piece → Buffer
  | .char c => { buffer with text := buffer.text ++ [c] }
  | .slot n =>
    { buffer with markers := buffer.markers ++ [⟨n, Text.byteLength buffer.text⟩] }

/-- Adds a line, which ends in a line feed. -/
def addLine (buffer : Buffer) (pieces : List Piece) (span : Span) : Buffer :=
  let filled := pieces.foldl add buffer
  { filled with text := filled.text ++ ['\n'], span := buffer.span.join span }

end Buffer

/-- A condition block whose end has not been met. -/
structure OpenBlock where
  label : Label
  /-- What stood behind the opening. -/
  description : Option String
  buffer : Buffer
deriving DecidableEq, Repr

/-- What has been read so far. -/
structure Reader where
  title : Option String := none
  files : List FileBlock := []
  expectations : Option ConditionalText := none
  /-- The present section. -/
  place : Section := .preamble
  content : ConditionalText := {}
  /-- The present run of unconditional lines. -/
  run : Option Buffer := none
  block : Option OpenBlock := none
  /-- Whether a line that is not blank has been met. -/
  seenContent : Bool := false
deriving DecidableEq, Repr

/-! ## Blank edges -/

/-- The lines of a text, each with the line feed that ends it. -/
def wholeLines : List Char → List (List Char)
  | [] => []
  | c :: cs =>
    if c = '\n' then ['\n'] :: wholeLines cs
    else
      match wholeLines cs with
      | [] => [[c]]
      | line :: more => (c :: line) :: more

/-- A text without the blank lines it begins with. -/
def dropLeadingBlankLines (cs : List Char) : List Char :=
  ((wholeLines cs).dropWhile Text.allBlank).flatten

/-- A text without the blank lines it ends with. -/
def dropTrailingBlankLines (cs : List Char) : List Char :=
  ((wholeLines cs).reverse.dropWhile Text.allBlank).reverse.flatten

/-- Changes the text of a part that belongs to every update. -/
def Part.mapUnconditional (f : List Char → List Char) (part : Part) : Part :=
  if part.isConditional then part
  else { part with text := String.ofList (f part.text.toList) }

/-- Changes the last of some parts. -/
def changeLast (f : Part → Part) : List Part → List Part
  | [] => []
  | [part] => [f part]
  | part :: rest => part :: changeLast f rest

/-- The parts of a section without blank lines at its two ends. -/
def trimEdges (content : ConditionalText) : ConditionalText :=
  let parts := content.parts.modifyHead (Part.mapUnconditional dropLeadingBlankLines)
  let parts := changeLast (Part.mapUnconditional dropTrailingBlankLines) parts
  { content with parts := parts.filter fun part => part.isConditional || part.text != "" }

/-! ## Steps of the reader -/

namespace Reader

/-- What the text in front of the first section has to be. -/
def sectionOpening : String :=
  "'---- <path> ----' or '****'"

/-- Makes a labelled text a part. A file block admits no markers. -/
def pushLabelled (reader : Reader) (origin : Origin) (label : Label) (buffer : Buffer)
    (block : Bool) (description : Option String) : Except Failure Reader :=
  let part : Part :=
    { condition := some label, text := String.ofList buffer.text, block := some block,
      markers := buffer.markers, description, span := buffer.span }
  match reader.place, buffer.markers with
  | .file path _, marker :: _ =>
    .error (origin.report (.markerInFile path marker.slot) buffer.span)
  | _, _ => .ok { reader with content := reader.content.push part }

/-- Makes the run of unconditional lines a part. It admits no markers. -/
def flushRun (reader : Reader) (origin : Origin) : Except Failure Reader :=
  match reader.run with
  | none => .ok reader
  | some run =>
    match run.markers, reader.place with
    | marker :: _, .file path _ =>
      .error (origin.report (.markerInFile path marker.slot) run.span)
    | marker :: _, _ => .error (origin.report (.markerOutsideCondition marker.slot) run.span)
    | [], _ =>
      .ok { reader with
        run := none
        content := reader.content.push
          (Part.unconditional (String.ofList run.text) run.span) }

/-- Ends the present section. No condition block may be open. -/
def finishSection (reader : Reader) (origin : Origin) : Except Failure Reader :=
  match reader.block with
  | some block =>
    .error ((origin.report
      (.unexpectedToken "'::' closing the condition block" "end of section")
      block.buffer.span).withHelp
        ("close the '::" ++ block.label.name ++ "::' block with a '::' line"))
  | none => do
    let reader ← reader.flushRun origin
    let content := trimEdges reader.content
    let reader := { reader with content := {} }
    match reader.place with
    | .preamble => pure reader
    | .file path span =>
      pure { reader with place := .preamble, files := reader.files ++ [⟨path, content, span⟩] }
    | .expectations => pure { reader with place := .preamble, expectations := some content }

/-- Refuses a condition in the preamble. -/
def requireSection (reader : Reader) (origin : Origin) (line : Line) : Except Failure Unit :=
  match reader.place with
  | .preamble =>
    .error (origin.report
      (.unexpectedToken sectionOpening (String.ofList (Text.trim line.chars)))
      ⟨line.start, line.stop⟩)
  | _ => .ok ()

/-- Adds a line of text to the present run. In the preamble only blank lines may
stand. -/
def addText (reader : Reader) (origin : Origin) (pieces : List Piece) (blank : Bool)
    (span : Span) : Except Failure Reader :=
  match reader.place with
  | .preamble =>
    if blank then .ok reader
    else .error (origin.report (.unexpectedToken sectionOpening "text") span)
  | _ =>
    let run := reader.run.getD { span }
    .ok { reader with run := some (run.addLine pieces span) }

/-- The failure of a line that is no delimiter in this place. -/
def malformed (origin : Origin) (line : Line) : Failure :=
  origin.report (.malformedDelimiter (String.ofList (Text.trim line.chars)))
    ⟨line.start, line.stop⟩

/-- The description of a block, when it is not blank. -/
def description? (cs : List Char) : Option String :=
  let text := Text.trim cs
  if text.isEmpty then none else some (String.ofList text)

/-- Reads a line inside a condition block. Slots that are too large are located
within the line. -/
def lineInside (reader : Reader) (origin : Origin) (block : OpenBlock) (line : Line) :
    Except Failure Reader :=
  match Directive.ofLine line.chars with
  | .blockClose =>
    { reader with block := none }.pushLabelled origin block.label block.buffer true
      block.description
  | _ => do
    let pieces ← piecesOf origin 0 line.chars
    let buffer := block.buffer.addLine pieces ⟨line.start, line.stop⟩
    pure { reader with block := some { block with buffer } }

/-- Reads a line outside condition blocks. -/
def lineOutside (reader : Reader) (origin : Origin) (line : Line) : Except Failure Reader :=
  let span : Span := ⟨line.start, line.stop⟩
  match Directive.ofLine line.chars with
  | .fileOpen path => do
    let reader ← reader.finishSection origin
    pure { reader with place := .file (String.ofList path) span }
  | .divider =>
    match reader.place with
    | .expectations =>
      .error ((malformed origin line).withHelp "a spec has a single '****' divider")
    | _ => do
      let reader ← reader.finishSection origin
      pure { reader with place := .expectations }
  | .blockOpen label description => do
    let reader ← reader.flushRun origin
    reader.requireSection origin line
    pure { reader with
      block := some ⟨⟨String.ofList label⟩, description? description, { span }⟩ }
  | .blockClose => .error ((malformed origin line).withHelp "no condition block is open")
  | .condition label text => do
    let reader ← reader.flushRun origin
    reader.requireSection origin line
    let pieces ← piecesOf origin (line.stop - Text.byteLength text) text
    let empty : Buffer := { span }
    let buffer := if pieces.isEmpty then empty else empty.addLine pieces span
    reader.pushLabelled origin ⟨String.ofList label⟩ buffer false none
  | .malformed => .error (malformed origin line)
  | .title text =>
    if !reader.seenContent && reader.place == .preamble && reader.title.isNone then
      pure { reader with title := some (String.ofList (Text.trim text)) }
    else do
      let pieces ← piecesOf origin 0 line.chars
      reader.addText origin pieces false span
  | .text => do
    let pieces ← piecesOf origin line.start line.chars
    reader.addText origin pieces (Text.allBlank line.chars) span

/-- Reads a line. -/
def line (reader : Reader) (origin : Origin) (line : Line) : Except Failure Reader :=
  match reader.block with
  | some block => reader.lineInside origin block line
  | none => do
    let reader ← reader.lineOutside origin line
    pure { reader with seenContent := reader.seenContent || !Text.allBlank line.chars }

/-- The document, once all lines have been read. -/
def finish (reader : Reader) (origin : Origin) : Except Failure Document := do
  let reader ← reader.finishSection origin
  pure { title := reader.title, files := reader.files, expectations := reader.expectations }

end Reader

/-! ## Documents from texts -/

/-- Reads the text of a spec, which failures call by the name `source`. -/
def Document.read (source text : String) : Except Failure Document := do
  let origin : Origin := ⟨.parse, some source⟩
  let reader ← (Text.lines text.toList).foldlM (fun reader line => reader.line origin line)
    ({} : Reader)
  reader.finish origin

/-- Reads the text of a spec that is a test of its own and so has a title. -/
def Document.readTest (source text : String) : Except Failure Document := do
  let document ← Document.read source text
  match document.title with
  | some _ => pure document
  | none =>
    let origin : Origin := ⟨.parse, some source⟩
    .error ((origin.report .missingTitle Span.zero).withHelp
      "start the spec with a '# <title>' line")

end HotReload.Spec
