import HotReload.Text.Form

/-!
# Expectation entries

An entry holds everything that runs after one update: a hook before, the steps in
order, and a hook after. A step compares the page with markup, drives a
sub-procedure, or calls a function with the page.

A test supplies its sub-procedures and functions under handles of a type `α`;
entries only hold the handles. Entries of one label are merged, and each hook may
be given once.
-/

set_option autoImplicit false

namespace HotReload

open Text (Form)

/-- One step of an entry. -/
inductive Step (α : Type)
  | html (markup : String)
  | sub (handle : α)
  | call (handle : α)
deriving DecidableEq, Repr

/-- The two hooks of an entry. -/
inductive Hook
  | before
  | after
deriving DecidableEq, Repr

/-- The name of a hook. -/
def Hook.name : Hook → String
  | .before => "before"
  | .after => "after"

/-- Everything that runs after one update. -/
structure Entry (α : Type) where
  steps : List (Step α) := []
  before : Option α := none
  after : Option α := none
  /-- What the update is about. -/
  description : Option String := none
deriving DecidableEq, Repr

variable {α β : Type}

namespace Step

/-- The kind of a step. -/
def kind : Step α → String
  | .html _ => "html"
  | .sub _ => "sub"
  | .call _ => "function"

/-- The markup of a step that compares the page. -/
def markup? : Step α → Option String
  | .html markup => some markup
  | _ => none

/-- Renames the handle of a step. -/
def map (f : α → β) : Step α → Step β
  | .html markup => .html markup
  | .sub handle => .sub (f handle)
  | .call handle => .call (f handle)

/-- A step shows its kind and its markup. -/
def form : Step α → Form
  | .html markup => .tagged "Html" [.text markup]
  | .sub _ => .atom "Sub(<procedure>)"
  | .call _ => .atom "Function(<callable>)"

end Step

namespace Entry

/-- Renames the handles of an entry. -/
def map (f : α → β) (entry : Entry α) : Entry β :=
  { steps := entry.steps.map (Step.map f), before := entry.before.map f,
    after := entry.after.map f, description := entry.description }

/-- What an entry shows when its handles are left out. -/
def view (entry : Entry α) : Entry Unit :=
  entry.map fun _ => ()

/-- Adds an entry of the same label. Refuses a hook that is there already; what
was changed until then stays. -/
def merge (entry more : Entry α) : Entry α × Option Hook :=
  if entry.before.isSome && more.before.isSome then (entry, some .before)
  else
    let entry := { entry with before := entry.before.or more.before }
    if entry.after.isSome && more.after.isSome then (entry, some .after)
    else
      ({ entry with
          after := entry.after.or more.after
          description := entry.description.or more.description
          steps := entry.steps ++ more.steps },
        none)

/-- An entry shows its steps, and of its hooks whether they are there. -/
def form (entry : Entry α) : Form :=
  .record "ExpectEntry" [
    ("steps", .sequence (entry.steps.map Step.form)),
    ("before", .bool entry.before.isSome),
    ("after", .bool entry.after.isSome),
    ("description", .option (entry.description.map Form.text))]

end Entry

end HotReload
