import HotReload.Content
import HotReload.Spec.Reader
import HotReload.Spec.Steps

/-!
# Compiled specs

A compiled spec has the content of every file and the entry of every expected
label. When a path has several file blocks, the last one counts.

The markers of a spec refer to sub-procedures that the test supplies. To look at a
spec on its own, it is compiled with as many placeholders as its markers need
(`Document.slots`).
-/

set_option autoImplicit false

namespace HotReload.Spec

variable {α β : Type}

/-- A spec with its files and expectations worked out. -/
structure Compiled (α : Type) where
  title : Option String
  files : Table String Content
  /-- The entry of each label, in the order of their first part. -/
  expects : List (Label × Entry α)

/-- Renames the handles of a compiled spec. -/
def Compiled.map (f : α → β) (compiled : Compiled α) : Compiled β :=
  { title := compiled.title, files := compiled.files,
    expects := compiled.expects.map fun expect => (expect.1, expect.2.map f) }

/-- What a compiled spec shows when the handles are left out. -/
def Compiled.view (compiled : Compiled α) : Compiled Unit :=
  compiled.map fun _ => ()

namespace Document

/-- The contents of the file blocks, in order. -/
def contents (document : Document) : List (String × Content) :=
  document.files.map fun file => (file.path, Content.ofText file.content)

/-- The entries of the expectations; none without a divider. -/
def expects (document : Document) (origin : Origin) (subs : List α) :
    Except Failure (List (Label × Entry α)) :=
  match document.expectations with
  | none => .ok []
  | some expectations => entries origin expectations subs

/-- Works out the files and the expectations of a document. -/
def compile (document : Document) (origin : Origin) (subs : List α) :
    Except Failure (Compiled α) := do
  let expects ← document.expects origin subs
  pure { title := document.title, files := Table.ofList document.contents, expects }

/-- The number of sub-procedures that the markers of the expectations need. -/
def slots (document : Document) : Nat :=
  match document.expectations with
  | none => 0
  | some expectations =>
    (expectations.parts.flatMap Part.markers).foldl
      (fun most marker => max most (marker.slot + 1)) 0

/-- As many placeholders as the markers need. -/
def placeholders (document : Document) : List Unit :=
  List.replicate document.slots ()

end Document

end HotReload.Spec
