import HotReload.Action
import HotReload.Files.Path
import HotReload.Table

/-!
# A file tree in memory

A tree holds the texts of files under one root directory. Paths may be absolute or
relative to the root; a path that leads out of the root is refused. Writing makes
the directories on the way. Nothing may be both a file and a directory.

A failing operation keeps what it had changed until then, for instance the
directories it had already made.
-/

set_option autoImplicit false

namespace HotReload.Files

/-- Why an operation on a tree is refused. -/
inductive Fault
  | notFound (path : String)
  | notADirectory (path : String)
  | isADirectory (path : String)
  /-- The path leads out of the root. -/
  | outsideRoot (path : String)
deriving DecidableEq, Repr

/-- The name of a fault. -/
def Fault.name : Fault → String
  | .notFound _ => "NotFound"
  | .notADirectory _ => "NotADirectory"
  | .isADirectory _ => "IsADirectory"
  | .outsideRoot _ => "OutsideRoot"

/-- The text of a fault. -/
def Fault.message : Fault → String
  | .notFound path => "no such file or directory: " ++ path
  | .notADirectory path => "not a directory: " ++ path
  | .isADirectory path => "is a directory: " ++ path
  | .outsideRoot path => "path escapes the filesystem root: " ++ path

/-- What stands at a path. -/
inductive Stat
  /-- A file of so many bytes. -/
  | file (bytes : Nat)
  | directory
deriving DecidableEq, Repr

/-- Files and directories under a root. -/
structure Tree where
  /-- The root, as it was given. -/
  root : String
  files : Table Path String := {}
  directories : Table Path Unit := Table.empty.insert (Path.ofText root) ()

namespace Tree

/-- An operation on a tree. -/
abbrev Operation := Action Tree Fault

/-- The components of the root. -/
def rootPath (tree : Tree) : Path :=
  Path.ofText tree.root

/-- Whether a directory stands at a path. -/
def hasDirectory (tree : Tree) (path : Path) : Bool :=
  tree.directories.contains path

/-- The path in the tree that a written path leads to. -/
def resolve (tree : Tree) (text : String) : Except Fault Path :=
  let path := Path.ofText text
  let full := Path.normal (if Path.isAbsolute text then path else tree.rootPath ++ path)
  if tree.rootPath.contains full then .ok full else .error (.outsideRoot text)

/-- The text of a file. -/
def read (tree : Tree) (text : String) : Except Fault String := do
  let path ← tree.resolve text
  if tree.hasDirectory path then .error (.isADirectory path.toText)
  else
    match tree.files.find? path with
    | some contents => .ok contents
    | none => .error (.notFound path.toText)

/-- What stands at a path. -/
def stat (tree : Tree) (text : String) : Except Fault Stat := do
  let path ← tree.resolve text
  if tree.hasDirectory path then .ok .directory
  else
    match tree.files.find? path with
    | some contents => .ok (.file contents.utf8ByteSize)
    | none => .error (.notFound path.toText)

/-- The path in the present tree that a written path leads to. -/
def resolved (text : String) : Operation Path := do
  Action.ofExcept ((← get).resolve text)

/-- Makes directories from the deepest up, as far as the root reaches. -/
def makeEach : List Path → Operation Unit
  | [] => pure ()
  | path :: above => do
    let tree ← get
    if !tree.rootPath.contains path then pure ()
    else if tree.files.contains path then throw (.notADirectory path.toText)
    else do
      set { tree with directories := tree.directories.insert path () }
      makeEach above

/-- Makes a directory and all directories above it. -/
def makeAll (path : Path) : Operation Unit :=
  makeEach path.ancestors

/-- Makes the directory at a written path and all directories above it. -/
def makeDirectory (text : String) : Operation Unit := do
  makeAll (← resolved text)

/-- Writes a file, and makes the directories above it. -/
def write (text contents : String) : Operation Unit := do
  let path ← resolved text
  if (← get).hasDirectory path then throw (.isADirectory path.toText)
  match path.parent? with
  | some parent => makeAll parent
  | none => pure ()
  modify fun tree => { tree with files := tree.files.insert path contents }

/-- Removes a file. -/
def remove (text : String) : Operation Unit := do
  let path ← resolved text
  let tree ← get
  if tree.files.contains path then set { tree with files := tree.files.erase path }
  else throw (.notFound path.toText)

/-- Writes some files one after the other and collects their paths. -/
def writeEach (changed : Table Path Unit) : List (String × String) →
    Operation (Table Path Unit)
  | [] => pure changed
  | (text, contents) :: rest => do
    write text contents
    let path ← resolved text
    writeEach (changed.insert path ()) rest

/-- Replaces all files. Answers the paths of the files that were there and of the new
ones. -/
def reset (files : Table String String) : Operation (List Path) := do
  let tree ← get
  set ({ root := tree.root } : Tree)
  let changed ← writeEach (tree.files.mapValues fun _ _ => ()) files.entries
  pure changed.keys

end Tree

end HotReload.Files
