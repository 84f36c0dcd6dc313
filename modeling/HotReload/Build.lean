import HotReload.Config
import HotReload.Failure
import HotReload.Files.Tree

/-!
# The build server

The build server keeps the sources of the app in `src` and serves what is built
from `public`. After every reset and every batch of changes it rebuilds: a hook,
which belongs to the host of the test, works on the file tree and may fail. Each
rebuild that succeeds adds a line to the console, which says whether anything had
changed; the first one is announced by a line of its own.

A reset keeps what was built if the configuration asks for it.
-/

set_option autoImplicit false

namespace HotReload

open Files (Fault Path Tree)

/-! ## Changes of files -/

/-- The new text of a file, or its removal. -/
inductive FileChange
  | write (text : String)
  | remove
deriving DecidableEq, Repr

/-- The new text, if the file is not removed. -/
def FileChange.text? : FileChange → Option String
  | .write text => some text
  | .remove => none

/-- A change as it is reported: its size, or that the file goes. -/
def FileChange.summary : FileChange → String
  | .write text => toString text.utf8ByteSize ++ " bytes"
  | .remove => "<rm>"

/-- The changes of an update, by path relative to the sources. -/
abbrev Changes := Table String FileChange

/-! ## The server -/

/-- A rebuild: it works on the file tree and on the state of the host. -/
abbrev RebuildHook (σ : Type) := Action (Tree × σ) String Unit

/-- A build server. -/
structure Build where
  tree : Tree
  /-- The number of rebuilds that were tried. -/
  builds : Nat := 0
  closed : Bool := false
  /-- Whether built output survives a reset. -/
  fastReset : Bool
  /-- The line that announces the first rebuild. -/
  readyMessage : String
  /-- The line of a rebuild after changes. -/
  doneMessage : String
  /-- The line of a rebuild without changes. -/
  nothingChangedMessage : String
  console : List String := []

/-- A file as it is served. -/
structure Asset where
  /-- The path of the file, relative to the app. -/
  path : String
  /-- The type of its contents, when the extension tells. -/
  mime : Option String
  body : String
deriving DecidableEq, Repr

namespace Build

variable {σ : Type}

/-- An operation of the build server, which may run a rebuild hook and so works on
the state of the host as well. -/
abbrev Operation (σ : Type) := Action (Build × σ) Failure

/-- The failure of a refused file operation. -/
def faultFailure (fault : Fault) : Failure :=
  { cause := .io fault.message, phase := .io }

/-- A failure of the build itself. -/
def failure (message : String) : Failure :=
  { cause := .build message, phase := .build }

/-- The server for a configuration, which must not ask for a remote one. -/
def ofConfig (config : Config) : Except Failure Build :=
  if config.rcOverHttp then .error (failure "RC_HTTP is set but the build runs in process")
  else
    .ok {
      tree := { root := config.appDirectory }
      fastReset := config.fastReset
      readyMessage := config.readyMessage
      doneMessage := config.doneMessage
      nothingChangedMessage := config.nothingChangedMessage }

/-! ## Paths -/

/-- The path of a source file. -/
def sourcePath (path : String) : String :=
  Path.join "src" path

/-- The directory of built output. -/
def outputPath (tree : Tree) : Path :=
  Path.ofText (Path.join tree.root "public")

/-- The file a request is served from: a directory serves its index. -/
def servedPath (tree : Tree) (request : String) : Except Fault String := do
  let path := Path.join "public" (String.ofList (request.toList.dropWhile (· == '/')))
  match ← tree.stat path with
  | .directory => pure (Path.join path "index.html")
  | .file _ => pure path

/-- The type of contents that an extension tells. -/
def mime? (path : String) : Option String :=
  match Path.extension? (Path.ofText path) with
  | some "html" => some "text/html"
  | some "js" => some "text/javascript"
  | some "css" => some "text/css"
  | some "json" => some "application/json"
  | _ => none

/-- Serves a request from the built output. -/
def fetch (build : Build) (request : String) : Except Fault Asset := do
  let path ← servedPath build.tree request
  let body ← build.tree.read path
  pure { path, mime := mime? path, body }

/-! ## Operations -/

/-- The present server. -/
def current : Operation σ Build := do
  return (← get).1

/-- Changes the server. -/
def revise (change : Build → Build) : Operation σ Unit :=
  modify fun state => (change state.1, state.2)

/-- Refuses to work once the server is closed. -/
def ensureOpen : Operation σ Unit := do
  if (← current).closed then throw (failure "build server is closed")

/-- An operation on the file tree. -/
def onTree {α : Type} (operation : Tree.Operation α) : Operation σ α :=
  operation.onPart (fun state => state.1.tree)
    (fun tree state => ({ state.1 with tree }, state.2)) faultFailure

/-- Runs the rebuild hook. -/
def runHook (hook : RebuildHook σ) : Operation σ Unit :=
  Action.onPart (fun state => (state.1.tree, state.2))
    (fun part state => ({ state.1 with tree := part.1 }, part.2)) failure hook

/-- The lines that a successful rebuild adds to the console. -/
def statusLines (build : Build) (changed : Bool) : List String :=
  (if build.console.isEmpty then [build.readyMessage] else [])
    ++ [if changed then build.doneMessage else build.nothingChangedMessage]

/-- Rebuilds, and reports it on the console. -/
def rebuild (hook : RebuildHook σ) (changed : Bool) : Operation σ Unit := do
  revise fun build => { build with builds := build.builds + 1 }
  runHook hook
  revise fun build => { build with console := build.console ++ build.statusLines changed }

/-- The built files that a reset keeps. -/
def keptOutput (build : Build) : List (Path × String) :=
  if build.fastReset then
    build.tree.files.entries.filter fun file => (outputPath build.tree).contains file.1
  else []

/-- Writes files back. -/
def restore : List (Path × String) → Operation σ Unit
  | [] => pure ()
  | (path, contents) :: rest => do
    onTree (Tree.write path.toText contents)
    restore rest

/-- The sources by their path in the app. -/
def sources (files : Table String String) : Table String String :=
  Table.ofList (files.entries.map fun file => (sourcePath file.1, file.2))

/-- Replaces all sources. Answers the changed paths outside the built output. -/
def reset (hook : RebuildHook σ) (files : Table String String) : Operation σ (List String) := do
  ensureOpen
  let kept := (← current).keptOutput
  let changed ← onTree (Tree.reset (sources files))
  restore kept
  let output := outputPath (← current).tree
  let changed := changed.filter fun path => !output.contains path
  rebuild hook (!changed.isEmpty)
  pure (changed.map Path.toText)

/-- Whether a change would make a difference. -/
def differs (tree : Tree) (path : String) (change : FileChange) : Bool :=
  (tree.read (sourcePath path)).toOption != change.text?

/-- Makes one change. Removing what is not there is no failure. -/
def apply (path : String) : FileChange → Operation σ Unit
  | .write text => onTree (Tree.write (sourcePath path) text)
  | .remove => do
    match ← (onTree (Action.attempt (Tree.remove (sourcePath path))) : Operation σ _) with
    | .ok () | .error (.notFound _) => pure ()
    | .error fault => throw (faultFailure fault)

/-- Makes several changes, one after the other. -/
def applyEach : List (String × FileChange) → Operation σ Unit
  | [] => pure ()
  | (path, change) :: rest => do
    apply path change
    applyEach rest

/-- Makes the changes of an update and rebuilds. -/
def writeFiles (hook : RebuildHook σ) (changes : Changes) : Operation σ Unit := do
  ensureOpen
  let tree := (← current).tree
  let changed := changes.entries.any fun change => differs tree change.1 change.2
  applyEach changes.entries
  rebuild hook changed

/-- Waits for a named condition. -/
def wait (hook : RebuildHook σ) (what : String) : Operation σ Unit := do
  ensureOpen
  if what = "rebuild" then rebuild hook false
  else if what = "idle" then pure ()
  else throw (failure ("unknown wait condition '" ++ what ++ "'"))

/-- Closes the server. Closing it again changes nothing. -/
def close (build : Build) : Build :=
  { build with closed := true }

end Build

end HotReload
