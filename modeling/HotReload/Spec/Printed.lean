import HotReload.Json
import HotReload.Spec.Compiled

/-!
# Compiled specs as data

A compiled spec is printed as an object with its title, its files and its
expectations. A file is an object from labels to texts. An expectation is a pair of
a label and an entry, and of an entry's hooks and handles only their presence and
kind are shown. What is absent has no field.
-/

set_option autoImplicit false

namespace HotReload

variable {α : Type}

/-- A field for a text that may be absent. -/
def optionalField (name : String) : Option String → List (String × Json)
  | none => []
  | some text => [(name, .string text)]

/-- A step as an object. -/
def Step.json (step : Step α) : Json :=
  .object (("kind", .string step.kind) :: optionalField "html" step.markup?)

/-- An entry as an object. -/
def Entry.json (entry : Entry α) : Json :=
  .object (optionalField "description" entry.description ++ [
    ("before", .bool entry.before.isSome),
    ("after", .bool entry.after.isSome),
    ("steps", .array (entry.steps.map Step.json))])

/-- The content of a file as an object from labels to texts. -/
def Content.json (content : Content) : Json :=
  .object (content.entries.map fun (label, text) => (label.name, .string text))

/-- A compiled spec as an object. -/
def Spec.Compiled.json (compiled : Spec.Compiled α) : Json :=
  .object (optionalField "title" compiled.title ++ [
    ("files", .object (compiled.files.entries.map fun (path, content) => (path, content.json))),
    ("expects", .array (compiled.expects.map fun (label, entry) =>
      .array [.string label.name, entry.json]))])

end HotReload
