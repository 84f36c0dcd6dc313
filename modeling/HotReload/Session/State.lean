import HotReload.Session.Procedure

/-!
# The state of a runner

The standing of a runner is what it knows: what the test has declared, which entries
remain, which update the app shows, and whether the invocation has been aborted.

Beside its standing a runner keeps a journal. Each thing that happens is one event
of it, with the standing at that time, so a statement about a moment of a run is a
statement about one line of the journal, and a statement about the order of things
is one about the order of lines. The newest line comes first.
-/

set_option autoImplicit false

namespace HotReload

/-- What a runner knows. -/
structure Standing (α : Type) where
  /-- The templates of the declared files. -/
  templates : Table String Template := {}
  /-- The files the app starts with. -/
  inits : Table String String := {}
  /-- The contents of the declared files. -/
  specs : Table String Content := {}
  /-- The declared entries, one for each label, in the order of declaration. -/
  expects : List (Label × Entry α) := []
  /-- The entries that have not begun; none before the session starts. -/
  remaining : Option (Table Label (Entry α)) := none
  started : Bool := false
  /-- The update the app starts with. -/
  initLabel : Option Label := none
  /-- The update the app shows. -/
  cursor : Option Label := none
  /-- Whether the build server and the page can be used. -/
  sessionOpen : Bool := false
  /-- The failure that ended the invocation. -/
  aborted : Option Failure := none
  /-- The number of entries that have begun. -/
  entriesRun : Nat := 0
  /-- The number of steps that have begun. -/
  stepsRun : Nat := 0

/-- A call of the runner to the test bed. -/
inductive Call
  | launch
  | reset (files : Table String String)
  | write (changes : Changes)
  | wait (what : String)
  | invoke (path : List String) (arguments : List Json)
  | closePage
  | closeBuild

/-- What happens in a run. -/
inductive Event (α : Type)
  /-- A command reaches the runner. -/
  | dispatched (command : Command α)
  | answered (command : Command α) (result : Except Failure Reply)
  /-- A call to the test bed has returned. -/
  | called (call : Call) (failure : Option Failure)
  /-- A flush has brought the app to the update of an entry, or has failed to. -/
  | brought (label : Label) (failure : Option Failure)
  /-- An entry begins, reached by a bounded run or by a flush. -/
  | entryBegan (label : Label) (entry : Entry α) (flushing : Bool)
  | entryEnded (label : Label)
  | hookBegan (label : Label) (hook : Hook)
  | hookEnded (label : Label) (hook : Hook)
  | stepBegan (label : Label) (index : Nat)
  | stepEnded (label : Label) (index : Nat)
  | aborted (failure : Failure)
  /-- The procedure of the test has returned. -/
  | returned (result : Except Failure Unit)

/-- One line of the journal. -/
structure Moment (α : Type) where
  event : Event α
  standing : Standing α

/-- The state of a run: the world, the standing and the journal. -/
structure Run (W α : Type) where
  world : W
  standing : Standing α := {}
  /-- What has happened, newest first. -/
  journal : List (Moment α) := []

variable {W α : Type}

namespace Standing

/-- The changes that take the app to an update: of each declared file its text in
that update, or its removal. -/
def changesFor (standing : Standing α) (label : Label) : Changes :=
  standing.specs.mapValues fun _ content =>
    match content.textAt? label with
    | some text => .write text
    | none => .remove

/-- The first remaining entry that is due up to a label, or at all. -/
def due? (standing : Standing α) (upto : Option Label) :
    Option ((Label × Entry α) × Table Label (Entry α)) := do
  let (first, rest) ← (← standing.remaining).takeFirst?
  match upto with
  | none => some (first, rest)
  | some bound => if first.1.atMost bound then some (first, rest) else none

/-- What is known once the session starts: the declared entries become the remaining
ones. -/
def begun (standing : Standing α) : Standing α :=
  { standing with started := true, remaining := some (Table.ofList standing.expects) }

/-- The number of remaining entries. -/
def remainingCount (standing : Standing α) : Nat :=
  match standing.remaining with
  | none => 0
  | some entries => entries.size

/-- The view that is shown to a test. -/
def snapshot (standing : Standing α) : Snapshot :=
  let view := fun (expect : Label × Entry α) => (expect.1, expect.2.view)
  { started := standing.started
    templates := standing.templates.keys
    inits := standing.inits
    specs := standing.specs
    expects := standing.expects.map view
    remaining := standing.remaining.map fun entries => entries.entries.map view
    initLabel := standing.initLabel
    cursor := standing.cursor }

/-- Renders one given file. A template becomes the template of its path. -/
def renderFile (templates : Table String Template) (path : String) :
    FileValue → FileChange × Table String Template
  | .text text =>
    match templates.find? path with
    | some template => (.write (template.apply (some text)), templates)
    | none => (.write text, templates)
  | .template template => (.write (template.apply none), templates.insert path template)
  | .remove => (.remove, templates)

/-- Renders given files one after the other. -/
def renderEach (templates : Table String Template) (changes : Changes) :
    List (String × FileValue) → Changes × Table String Template
  | [] => (changes, templates)
  | (path, value) :: rest =>
    let (change, templates) := renderFile templates path value
    renderEach templates (changes.insert path change) rest

/-- Renders given files, and registers the templates among them. -/
def render (standing : Standing α) (files : Table String FileValue) :
    Changes × Standing α :=
  let (changes, templates) := renderEach standing.templates {} files.entries
  (changes, { standing with templates })

/-- Makes a change to the files the app starts with. -/
def changeInit (inits : Table String String) (path : String) :
    FileChange → Table String String
  | .write text => inits.insert path text
  | .remove => inits.erase path

end Standing

end HotReload
