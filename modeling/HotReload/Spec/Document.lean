import HotReload.Failure
import HotReload.Label

/-!
# Documents

A spec describes how source files change over hot-reload updates and what the
page must show after each of them. It holds file blocks and, behind a divider,
the expectations. Both are conditional text: parts that belong to every update
and parts that belong to one label.

A part of one label comes from a single line or from a block of lines. In the
expectations such a part may hold markers, each of which refers to one of the
sub-procedures that the test supplies.
-/

set_option autoImplicit false

namespace HotReload.Spec

open Text (Form)

/-- A marker, which refers to a supplied sub-procedure. -/
structure Marker where
  /-- Position of the sub-procedure among those supplied. -/
  slot : Nat
  /-- Byte offset of the marker in the text of its part. -/
  offset : Nat
deriving DecidableEq, Repr

/-- A piece of conditional text. -/
structure Part where
  /-- The label the text belongs to; none when it belongs to every update. -/
  condition : Option Label
  /-- The text, without its markers. -/
  text : String
  /-- Whether a labelled text came from a block; none for unconditional text. -/
  block : Option Bool
  markers : List Marker
  /-- What stood behind the opening of a block. -/
  description : Option String
  /-- The bytes of the spec it came from. -/
  span : Span
deriving DecidableEq, Repr

/-- A part that belongs to every update. -/
def Part.unconditional (text : String) (span : Span) : Part :=
  { condition := none, text, block := none, markers := [], description := none, span }

/-- Whether a part belongs to one label. -/
def Part.isConditional (part : Part) : Bool :=
  part.condition.isSome

/-- Parts in order, with the labels they mention. -/
structure ConditionalText where
  parts : List Part := []
  /-- The labels, in the order of their first part. -/
  conditions : List Label := []
deriving DecidableEq, Repr, Inhabited

namespace ConditionalText

/-- Adds a label that is not listed yet. -/
def mention (conditions : List Label) : Option Label → List Label
  | none => conditions
  | some label => if label ∈ conditions then conditions else conditions ++ [label]

/-- Adds a part at the end. -/
def push (content : ConditionalText) (part : Part) : ConditionalText :=
  { parts := content.parts ++ [part], conditions := mention content.conditions part.condition }

/-- The conditional text of some parts. -/
def ofParts (parts : List Part) : ConditionalText :=
  parts.foldl push {}

end ConditionalText

/-- A file with its conditional text. -/
structure FileBlock where
  path : String
  content : ConditionalText
  /-- The bytes of the line that opens the block. -/
  span : Span
deriving DecidableEq, Repr

/-- A spec that has been read. -/
structure Document where
  title : Option String := none
  files : List FileBlock := []
  /-- The text behind the divider, if there is one. -/
  expectations : Option ConditionalText := none
deriving DecidableEq, Repr, Inhabited

/-! ## Structural forms -/

/-- A marker shows its slot and its offset. -/
def Marker.form (marker : Marker) : Form :=
  .record "SubMarker" [("slot", .nat marker.slot), ("offset", .nat marker.offset)]

/-- A part shows all its fields. -/
def Part.form (part : Part) : Form :=
  .record "Part" [
    ("condition", .option (part.condition.map Label.form)),
    ("text", .text part.text),
    ("block", .option (part.block.map Form.bool)),
    ("subs", .sequence (part.markers.map Marker.form)),
    ("description", .option (part.description.map Form.text)),
    ("span", part.span.form)]

/-- Conditional text shows its parts and labels. -/
def ConditionalText.form (content : ConditionalText) : Form :=
  .record "ConditionalText" [
    ("parts", .sequence (content.parts.map Part.form)),
    ("conditions", .sequence (content.conditions.map Label.form))]

/-- A file block shows all its fields. -/
def FileBlock.form (file : FileBlock) : Form :=
  .record "FileBlock" [
    ("path", .text file.path),
    ("content", file.content.form),
    ("span", file.span.form)]

/-- A document shows all its fields. -/
def Document.form (document : Document) : Form :=
  .record "Document" [
    ("title", .option (document.title.map Form.text)),
    ("files", .sequence (document.files.map FileBlock.form)),
    ("expectations", .option (document.expectations.map ConditionalText.form))]

end HotReload.Spec
