import HotReload.Difference
import HotReload.Html
import HotReload.Session.State
import HotReload.Spec.Compiled

/-!
# The runner

A run has two parts. At first declarations are only collected. The first command
that needs the app starts the session: the app is opened, the files it starts with
are written, and the declared entries become the remaining ones. From then on each
change to an update runs every remaining entry up to it, in label order, and a flush
runs all of them. A flush first brings the app to the update of each entry.

An entry may drive sub-procedures, which send commands of their own, and these may
run further entries. An entry leaves the remaining ones before it begins, so the
number of remaining entries bounds how deep runs can nest and how long they can get
(`runDue`).

A command that fails fatally aborts the invocation: every later command is refused,
and the failure that aborted it is what the invocation fails with.
-/

set_option autoImplicit false

namespace HotReload

/-- What stays the same during a run. -/
structure Setting (W α : Type) where
  config : Config
  testBed : TestBed W
  /-- What the handles of the test stand for. -/
  playbook : Playbook W α
  /-- How differences are found, word by word. -/
  differences : Difference.Finder := Difference.between ' '

namespace Runner

variable {W α β : Type}

/-- An action of a runner. -/
abbrev Act (W α : Type) := Action (Run W α) Failure

/-- The failure of a command that is out of order. -/
def outOfOrder (cause : Cause) : Failure :=
  { cause, phase := .protocol }

/-! ## Standing, journal and world -/

/-- What the runner knows. -/
def standing : Act W α (Standing α) := do
  return (← get).standing

/-- Changes what the runner knows. -/
def revise (change : Standing α → Standing α) : Act W α Unit :=
  modify fun run => { run with standing := change run.standing }

/-- Writes an event into the journal. -/
def record (event : Event α) : Act W α Unit :=
  modify fun run => { run with journal := ⟨event, run.standing⟩ :: run.journal }

/-- The failure of a result, if it is one. -/
def failure? (result : Except Failure β) : Option Failure :=
  match result with
  | .ok _ => none
  | .error failure => some failure

/-- Makes a call to the test bed. -/
def call (call : Call) (action : Action W Failure β) : Act W α β := do
  let result ← Action.attempt
    (action.onPart Run.world (fun world run => { run with world }) id)
  record (.called call (failure? result))
  Action.ofExcept result

/-- Refuses to go on while there is no session. -/
def requireSession : Act W α Unit := do
  if !(← standing).sessionOpen then throw (outOfOrder (.aborted "the session is not running"))

/-- Ends the invocation with a failure. -/
def abort (failure : Failure) : Act W α Unit := do
  revise fun standing => { standing with aborted := some failure }
  record (.aborted failure)

variable (setting : Setting W α)

/-- Changes sources of the app. -/
def write (changes : Changes) : Act W α Unit := do
  requireSession
  call (.write changes) (setting.testBed.write changes)

/-- Reads or calls a path of the page. -/
def invoke (path : List String) (arguments : List Json) : Act W α Json := do
  requireSession
  call (.invoke path arguments) (setting.testBed.invoke path arguments)

/-! ## Entries -/

/-- Takes out the first remaining entry that is due. -/
def takeDue (upto : Option Label) : Act W α (Option (Label × Entry α)) := do
  match (← standing).due? upto with
  | none => pure none
  | some (first, rest) =>
    revise fun standing => { standing with remaining := some rest }
    pure (some first)

/-- Drives a procedure, whose commands go to `dispatch`. -/
def drive (dispatch : Command α → Act W α Reply) : Procedure W α → Act W α Unit
  | .finish result => Action.ofExcept result
  | .act effect next => do
    modify fun run => { run with world := effect run.world }
    drive dispatch (next (← get).world)
  | .send command next => do
    drive dispatch (next (← Action.attempt (dispatch command)))

/-- Lets a function work on the page. -/
def callFunction : Callable W → Act W α Unit
  | .finish result => Action.ofExcept result
  | .act effect next => do
    modify fun run => { run with world := effect run.world }
    callFunction (next (← get).world)
  | .invoke path arguments next => do
    callFunction (next (← Action.attempt
      (call (.invoke path arguments) (setting.testBed.invoke path arguments))))
  | .close next => do
    callFunction (next (← Action.attempt (call .closePage setting.testBed.closePage)))

/-- The markup of a page that is compared: without the markup that the app always
renders first. -/
def comparedMarkup (ignored markup : String) : String :=
  let trimmed := Text.trimStart markup.toList
  if ignored.toList.isPrefixOf trimmed then
    String.ofList (trimmed.drop ignored.toList.length)
  else markup

/-- Compares the page with the markup of a step. -/
def compareMarkup (label : Label) (index : Nat) (markup : String) : Act W α Unit := do
  let shown ← invoke setting ["$eval"]
    [.string setting.config.appRootSelector, .string "el => el.innerHTML"]
  let actual := Html.normalize (comparedMarkup setting.config.appHtmlPrefix shown.asText)
  let expected := Html.normalize markup
  if actual ≠ expected then
    throw (Failure.mismatch label.name index expected actual setting.differences)

variable (dispatch : Command α → Act W α Reply)

/-- What a step does, by its kind. -/
def doStep (label : Label) (index : Nat) : Step α → Act W α Unit
  | .html markup => compareMarkup setting label index markup
  | .sub handle => drive dispatch (setting.playbook.procedure handle)
  | .call handle => do
    requireSession
    callFunction setting (setting.playbook.function handle)

/-- Runs one step of an entry. -/
def runStep (label : Label) (index : Nat) (step : Step α) : Act W α Unit := do
  revise fun standing => { standing with stepsRun := standing.stepsRun + 1 }
  record (.stepBegan label index)
  doStep setting dispatch label index step
  record (.stepEnded label index)

/-- Runs the steps of an entry, the first of which has a given index. -/
def runSteps (label : Label) : (index : Nat) → List (Step α) → Act W α Unit
  | _, [] => pure ()
  | index, step :: rest => do
    runStep setting dispatch label index step
    runSteps label (index + 1) rest

/-- Runs a hook of an entry, if there is one. -/
def runHook (label : Label) (hook : Hook) : Option α → Act W α Unit
  | none => pure ()
  | some handle => do
    record (.hookBegan label hook)
    drive dispatch (setting.playbook.procedure handle)
    record (.hookEnded label hook)

/-- Plays an entry that has begun: the hook before, the steps, the hook after. -/
def playEntry (label : Label) (entry : Entry α) : Act W α Unit := do
  runHook setting dispatch label .before entry.before
  runSteps setting dispatch label 0 entry.steps
  runHook setting dispatch label .after entry.after
  record (.entryEnded label)

/-- Runs an entry. -/
def runEntry (flushing : Bool) (label : Label) (entry : Entry α) : Act W α Unit := do
  record (.entryBegan label entry flushing)
  revise fun standing => { standing with entriesRun := standing.entriesRun + 1 }
  playEntry setting dispatch label entry

/-- Brings the app to an update, unless it shows that update already or no files are
declared. -/
def bringTo (label : Label) : Act W α Unit := do
  let known ← standing
  if known.cursor ≠ some label ∧ !known.specs.isEmpty then
    let result ← Action.attempt (write setting (known.changesFor label))
    record (.brought label (failure? result))
    Action.ofExcept result
    revise fun standing => { standing with cursor := some label }

/-- Prepares the app for an entry: a flush brings it to the update of the entry, a
bounded run leaves it as it is. -/
def approach (upto : Option Label) (label : Label) : Act W α Unit :=
  match upto with
  | none => bringTo setting label
  | some _ => pure ()

/-! ## Declarations -/

/-- Declares an entry, or more of one. -/
def register (label : Label) (entry : Entry α) : Act W α Unit := do
  let known ← standing
  if known.started then throw (outOfOrder (.expectAfterStart label.name))
  match known.expects.find? fun expect => expect.1 == label with
  | none => revise fun standing => { standing with expects := standing.expects ++ [(label, entry)] }
  | some (_, current) =>
    let (merged, refused) := current.merge entry
    revise fun standing =>
      { standing with expects := standing.expects.map fun expect =>
          if expect.1 == label then (label, merged) else expect }
    match refused with
    | none => pure ()
    | some hook => throw (outOfOrder (.duplicateHook label.name hook.name))

/-- Declares several entries, up to the first that is refused. -/
def registerEach : List (Label × Entry α) → Act W α Unit
  | [] => pure ()
  | (label, entry) :: rest => do
    register label entry
    registerEach rest

/-- A declared step, with its markup in normal form. -/
def normalStep : Step α → Step α
  | .html markup => .html (Html.normalize markup)
  | step => step

/-- Declares the contents of files. -/
def registerContents (contents : List (String × Content)) : Act W α Unit :=
  revise fun standing =>
    { standing with
      specs := contents.foldl (fun specs file => specs.insert file.1 file.2) standing.specs }

/-- Declares the files and the expectations of a spec. -/
def registerSpec (source : String) (subs : List α) : Act W α Unit := do
  let document ← Action.ofExcept (Spec.Document.read "spec" source)
  registerContents document.contents
  registerEach (← Action.ofExcept (document.expects ⟨.compile, some "spec"⟩ subs))

/-- Declares the files the app starts with, or the update it starts with. -/
def declareInit (target : Target) : Act W α Unit := do
  let known ← standing
  if known.started then
    throw ((outOfOrder .initAfterStart).withHelp
      "declare init files and the initial update before any change or page call")
  match target with
  | .files files =>
    let (changes, known) := known.render files
    revise fun _ =>
      { known with
        inits := changes.entries.foldl
          (fun inits change => Standing.changeInit inits change.1 change.2) known.inits }
  | .label label =>
    revise fun standing =>
      { standing with
        inits := (known.changesFor label).entries.foldl
          (fun inits change => Standing.changeInit inits change.1 change.2) {}
        initLabel := some label }

/-! ## Starting -/

/-- Opens the app and writes the files it starts with. -/
def launch : Act W α Unit := do
  call .launch setting.testBed.launch
  let inits := (← standing).inits
  let _ ← call (.reset inits) (setting.testBed.reset inits)
  revise fun standing => { standing with sessionOpen := true }

/-- Refuses an update to start with that comes after the first remaining entry. -/
def requireNoneBefore (label : Label) : Act W α Unit := do
  match (← standing).due? none with
  | none => pure ()
  | some ((first, _), _) =>
    if first.before label then
      throw (outOfOrder (.invalidCommand "init"
        ("initial update " ++ label.name ++ " comes after the first expected update "
          ++ first.name)))

/-- Takes the app to show the update it starts with, if one was declared, and runs what
is due there. -/
def enterInitial (due : Option Label → Act W α Unit) : Act W α Unit := do
  match (← standing).initLabel with
  | none => pure ()
  | some label => do
    requireNoneBefore label
    revise fun standing => { standing with cursor := some label }
    due (some label)

/-- Starts the session, unless it has started. The entries that are due at the update
the app starts with are run by `due`. -/
def ensureStarted (due : Option Label → Act W α Unit) : Act W α Unit := do
  if (← standing).started then return
  revise Standing.begun
  match ← Action.attempt (launch setting) with
  | .error failure => do
    abort failure
    throw failure
  | .ok () => enterInitial due

/-! ## Commands -/

/-- Does what a command asks for, once the session has started if it has to. Entries
that become due are run by `due`. -/
def perform (due : Option Label → Act W α Unit) (command : Command α) : Act W α Reply := do
  match command with
  | .init target => do
    declareInit target
    pure .done
  | .templates templates => do
    revise fun standing => { standing with templates := standing.templates.override templates }
    pure .done
  | .spec source subs => do
    registerSpec source subs
    pure .done
  | .contents files => do
    registerContents (files.entries.map fun file => (file.1, file.2.content))
    pure .done
  | .expect steps => do
    registerEach (steps.map fun step => (step.1, { steps := [normalStep step.2] }))
    pure .done
  | .before label sub => do
    register label { before := some sub }
    pure .done
  | .after label sub => do
    register label { after := some sub }
    pure .done
  | .flush => do
    due none
    pure .done
  | .discard => do
    revise fun standing =>
      { standing with expects := [], remaining := standing.remaining.map fun _ => {} }
    pure .done
  | .change (.label label) => do
    write setting ((← standing).changesFor label)
    revise fun standing => { standing with cursor := some label }
    due (some label)
    pure .done
  | .change (.files files) => do
    let (changes, known) := (← standing).render files
    revise fun _ => known
    write setting changes
    pure .done
  | .page path arguments => do
    return .value (← invoke setting path arguments)
  | .innerText selector => do
    let shown ← invoke setting ["$eval"] [.string selector, .string "el => el.innerText"]
    pure (.text shown.asText)
  | .debug => do
    return .snapshot (← standing).snapshot
  | .wait what => do
    requireSession
    call (.wait what) (setting.testBed.wait what)
    pure .done

/-- Carries out a command. Most commands start the session first. -/
def handle (due : Option Label → Act W α Unit) (command : Command α) : Act W α Reply := do
  if !command.isSetup then ensureStarted setting due
  perform setting due command

/-- Carries out a command unless the invocation has been aborted, and aborts it when
the command fails fatally. -/
def carryOut (due : Option Label → Act W α Unit) (command : Command α) : Act W α Reply := do
  match (← standing).aborted with
  | some failure => throw (outOfOrder (.aborted failure.message))
  | none => do
    match ← Action.attempt (handle setting due command) with
    | .ok reply => pure reply
    | .error failure => do
      if failure.isFatal && (← standing).aborted.isNone then abort failure
      throw failure

/-- Answers a command. -/
def answer (due : Option Label → Act W α Unit) (command : Command α) : Act W α Reply := do
  record (.dispatched command)
  let result ← Action.attempt (carryOut setting due command)
  record (.answered command result)
  Action.ofExcept result

/-- Runs remaining entries in label order, up to a label or all of them, where at
most `most` entries remain. With no bound the app is first brought to the update of
each entry. -/
def runDue : (most : Nat) → (upto : Option Label) → Act W α Unit
  | 0, _ => pure ()
  | most + 1, upto => do
    match ← takeDue upto with
    | none => pure ()
    | some (label, entry) => do
      approach setting upto label
      runEntry setting (answer setting (runDue most)) upto.isNone label entry
      runDue most upto

/-- Runs the entries that are due. -/
def runAllDue (upto : Option Label) : Act W α Unit := do
  runDue setting (← standing).remainingCount upto

/-! ## Invocations -/

/-- Fails with the failure that aborted the invocation, if one did. -/
def failIfAborted : Act W α Unit := do
  match (← standing).aborted with
  | some failure => throw failure
  | none => pure ()

/-- Runs every entry that no change reached, and starts the session for that. Answers
whether there was anything to run. -/
def finishEntries : Act W α Bool := do
  let known ← standing
  if !known.started && known.expects.isEmpty then return false
  ensureStarted setting (runAllDue setting)
  let flushed ← Action.attempt (runAllDue setting none)
  failIfAborted
  Action.ofExcept flushed
  return true

/-- Drives the procedure of a test to its end and then runs the entries that are left.
Answers whether there was anything to run. -/
def driveToEnd (procedure : Procedure W α) : Act W α Bool := do
  let result ← Action.attempt (drive (answer setting (runAllDue setting)) procedure)
  record (.returned result)
  failIfAborted
  Action.ofExcept result
  finishEntries setting

/-- Closes the page and the build server, unless they are to stay open. The failure
of the page counts before that of the build server. -/
def close : Act W α Unit := do
  if !(← standing).sessionOpen then return
  revise fun standing => { standing with sessionOpen := false }
  if setting.config.keepRunning then return
  let page ← Action.attempt (call .closePage setting.testBed.closePage)
  let build ← Action.attempt (call .closeBuild setting.testBed.closeBuild)
  Action.ofExcept page
  Action.ofExcept build

end Runner

end HotReload
