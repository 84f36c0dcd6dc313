import HotReload.Spec.Document
import HotReload.Table

/-!
# Content of a file

The content of a file gives its text for every label. The universal label has the
unconditional parts; each other label has the unconditional parts and its own, in
the order in which they are written.

A label without a text of its own takes the universal text. A file that has
neither is absent in that update.
-/

set_option autoImplicit false

namespace HotReload

open Spec (ConditionalText Part)

/-- The text of a file for each label. -/
abbrev Content := Table Label String

namespace Content

/-- Adds a text to the first bucket of a label, or as a bucket of its own. -/
def addTo (label : Label) (text : String) : List (Label × String) → List (Label × String)
  | [] => [(label, text)]
  | (here, old) :: rest =>
    if here = label then (here, old ++ text) :: rest else (here, old) :: addTo label text rest

/-- Adds a part to the buckets it belongs to. -/
def addPart (buckets : List (Label × String)) (part : Part) : List (Label × String) :=
  match part.condition with
  | none => buckets.map fun bucket => (bucket.1, bucket.2 ++ part.text)
  | some label => addTo label part.text buckets

/-- The buckets of a text: the universal one, then those of its recorded labels. -/
def buckets (text : ConditionalText) : List (Label × String) :=
  text.parts.foldl addPart ((Label.universal :: text.conditions).map fun label => (label, ""))

/-- The content of a file with a conditional text. -/
def ofText (text : ConditionalText) : Content :=
  Table.ofList (buckets text)

/-- The text a file has in an update, if the update has the file. -/
def textAt? (content : Content) (label : Label) : Option String :=
  (content.find? label).or (content.find? .universal)

end Content

end HotReload
