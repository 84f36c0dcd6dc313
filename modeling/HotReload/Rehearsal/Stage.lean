import HotReload.Navigation

/-!
# The stage

The stage is a world with an app in memory: a build server whose rebuild shows the
file `src/App.html`, and a page whose methods are scripted. Everything that happens
on it is kept in a trace.

The test bed of a stage works the app and writes down every call with its result. It
can be told to fail when the app is opened or closed.
-/

set_option autoImplicit false

namespace HotReload.Rehearsal

/-! ## The trace -/

/-- What is written down of a rehearsal. -/
inductive Trace
  | launch
  | rebuild
  | reset (files : Table String String) (result : Except Failure (List String))
  | write (changes : Changes) (result : Except Failure Unit)
  | invoke (path : List String) (arguments : List Json) (result : Except Failure Json)
  | pageClosed
  /-- The build server is closed, with its console. -/
  | buildClosed (console : List String)
  | did (statement : String) (result : Except Failure Reply)
  | enter (sub : String)
  | leave (sub : String)

/-! ## Scripted methods -/

/-- How the page answers questions about its elements. -/
inductive Rendering
  /-- It shows what was built, behind some markup. -/
  | built (front : String)
  | fixed (value : Json)
  | fails (message : String)

/-- A scripted method. -/
inductive Method
  | returns (value : Json)
  | echo
  | fails (message : String)
  /-- Counts its calls under a number of its own. -/
  | count (id : Nat)
  /-- Writes its name and its arguments into a log. -/
  | logs (name : String)
  /-- Answers a question about an element. -/
  | element

/-- The world of a rehearsal. -/
structure Stage where
  /-- What has happened, newest first. -/
  trace : List Trace := []
  /-- What the last rebuild showed. -/
  rendered : String := ""
  /-- How the page answers questions about its elements. -/
  rendering : Rendering := .built ""
  /-- How often each counting method has been called. -/
  counts : Table Nat Nat := {}
  log : List (String × List Json) := []
  /-- The build server, once the app is open. -/
  build : Option Build := none
  page : Page Method := {}

namespace Stage

/-- Writes something into the trace. -/
def note (trace : Trace) (stage : Stage) : Stage :=
  { stage with trace := trace :: stage.trace }

/-- Carries out a scripted method. -/
def perform (method : Method) (arguments : List Json) : Action Stage String Json := do
  let stage ← get
  match method with
  | .returns value => pure value
  | .echo => pure (.array arguments)
  | .fails message => throw message
  | .count id =>
    let calls := (stage.counts.find? id).getD 0 + 1
    set { stage with counts := stage.counts.insert id calls }
    pure (.ofNat calls)
  | .logs name =>
    set { stage with log := stage.log ++ [(name, arguments)] }
    pure .null
  | .element =>
    match stage.rendering with
    | .built front => pure (.string (front ++ stage.rendered))
    | .fixed value => pure value
    | .fails message => throw message

/-- Reads or calls a path of the page. -/
def invoke (path : List String) (arguments : List Json) : Action Stage Failure Json := do
  (← get).page.invoke perform path arguments

end Stage

/-! ## The app -/

/-- The text that no app can be built from. -/
def syntaxError : List Char :=
  "<<syntax error>>".toList

/-- Whether a text occurs in another one. -/
def occursIn (part : List Char) : List Char → Bool
  | [] => part.isEmpty
  | c :: cs => part.isPrefixOf (c :: cs) || occursIn part cs

/-- Rebuilds the app: its page shows the file `src/App.html`. -/
def showApp : Action (Files.Tree × Stage) String Unit := do
  modify fun state => (state.1, state.2.note .rebuild)
  let app := ((← get).1.read "src/App.html").toOption.getD ""
  if occursIn syntaxError app.toList then throw "Unexpected token (1:1)"
  modify fun state => (state.1, { state.2 with rendered := app })

/-- An operation of the build server on the stage. -/
def onBuild {α : Type} (operation : Build.Operation Stage α) : Action Stage Failure α := do
  match (← get).build with
  | none => throw (Build.failure "build server is closed")
  | some build =>
    Action.onPart (fun stage => (build, stage))
      (fun state _ => { state.2 with build := some state.1 }) id operation

/-- What is wanted to go wrong. -/
structure Mishaps where
  /-- The app cannot be opened. -/
  launch : Option String := none
  /-- The page cannot be closed. -/
  closePage : Option String := none
  /-- The build server cannot be closed. -/
  closeBuild : Option String := none

/-- Fails if that is wanted. -/
def mishap : Option String → Action Stage Failure Unit
  | none => pure ()
  | some message => throw { cause := .io message, phase := .io }

/-- Does something and writes its result down. -/
def noting {α : Type} (action : Action Stage Failure α)
    (trace : Except Failure α → Trace) : Action Stage Failure α := do
  let result ← Action.attempt action
  modify (Stage.note (trace result))
  Action.ofExcept result

/-- Opens the app. -/
def openApp (config : Config) (mishaps : Mishaps) : Action Stage Failure Unit := do
  modify (Stage.note .launch)
  mishap mishaps.launch
  let build ← Action.ofExcept (Build.ofConfig config)
  modify fun stage => { stage with build := some build }

/-- Closes the page. -/
def closePage (mishaps : Mishaps) : Action Stage Failure Unit := do
  modify (Stage.note .pageClosed)
  modify fun stage => { stage with page := stage.page.close }
  mishap mishaps.closePage

/-- Closes the build server. -/
def closeBuild (mishaps : Mishaps) : Action Stage Failure Unit := do
  let console := match (← get).build with
    | none => []
    | some build => build.console
  modify (Stage.note (.buildClosed console))
  modify fun stage => { stage with build := stage.build.map Build.close }
  mishap mishaps.closeBuild

/-- The test bed of a stage. -/
def testBed (config : Config) (mishaps : Mishaps) : TestBed Stage where
  launch := openApp config mishaps
  reset files := noting (onBuild (Build.reset showApp files)) (.reset files)
  write changes := noting (onBuild (Build.writeFiles showApp changes)) (.write changes)
  wait what := onBuild (Build.wait showApp what)
  invoke path arguments := noting (Stage.invoke path arguments) (.invoke path arguments)
  closePage := closePage mishaps
  closeBuild := closeBuild mishaps

/-- The page of a rehearsal before anything is added to it. -/
def plainPage : Page Method :=
  let quiet : Node Method := .method (.returns .null)
  ((((({} : Page Method).insert "url" (.value (.string "http://localhost:8080/"))).insert
    "$eval" (.method .element)).insert "keyboard.press" quiet).insert "goto" quiet).insert
      "evaluate" quiet

end HotReload.Rehearsal
