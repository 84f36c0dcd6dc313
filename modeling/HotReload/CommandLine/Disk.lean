import HotReload.Files.Path

/-!
# Where the files of a command line lie

A command line reads files and looks for files below a path. It does so through a
`Disk`, which may be a real one or a `Folder` that is given as a whole.

A path into a folder is followed name by name. Every name but the last must lead to
a directory, a trailing slash or dot asks for a directory, and a path that leaves
the folder leads nowhere.
-/

set_option autoImplicit false

namespace HotReload.CommandLine

/-- What a command line asks of the place where its files lie. -/
structure Disk (m : Type → Type) where
  /-- The text of a file; none if there is no such file or its bytes are not UTF-8. -/
  read : String → m (Option String)
  /-- The files at and below a path, each by the names that lead to it from there. A
  file is at its own path, with no name. None if nothing is at the path. -/
  filesBelow : String → m (Option (List (List String)))

/-- Files and directories in one directory. -/
structure Folder where
  /-- The names that lead to each file or directory; a file has its bytes. -/
  entries : List (List String × Option ByteArray)

namespace Folder

/-- The folder of some paths. -/
def ofList (entries : List (String × Option ByteArray)) : Folder :=
  ⟨entries.map fun (path, bytes) => ((Text.splitAt '/' path.toList).map String.ofList, bytes)⟩

/-- The bytes of a file. -/
def bytes? (folder : Folder) (names : List String) : Option ByteArray :=
  folder.entries.findSome? fun (path, bytes) => if path = names then bytes else none

/-- Whether names lead to a directory: the folder itself, a directory of its own, or
one that something lies in. -/
def isDirectory (folder : Folder) (names : List String) : Bool :=
  names.isEmpty || folder.entries.any fun (path, bytes) =>
    names.isPrefixOf path && (bytes.isNone || names.length < path.length)

/-- Whether names lead to something. -/
def holds (folder : Folder) (names : List String) : Bool :=
  folder.isDirectory names || (folder.bytes? names).isSome

/-- Follows the pieces of a path from a place that names lead to. -/
def follow (folder : Folder) (here : List String) : List (List Char) → Option (List String)
  | [] => some here
  | piece :: rest =>
    if !folder.isDirectory here then none
    else if piece = [] ∨ piece = ['.'] then follow folder here rest
    else if piece = ['.', '.'] then if here.isEmpty then none else follow folder here.dropLast rest
    else
      let there := here ++ [String.ofList piece]
      if folder.holds there then follow folder there rest else none

/-- The names that a path leads to; none if nothing is there. -/
def locate (folder : Folder) (path : String) : Option (List String) :=
  if Files.Path.isAbsolute path then none else folder.follow [] (Text.splitAt '/' path.toList)

/-- The text of the file at a path. -/
def read (folder : Folder) (path : String) : Option String := do
  String.fromUTF8? (← folder.bytes? (← folder.locate path))

/-- The files at and below a path. -/
def filesBelow (folder : Folder) (path : String) : Option (List (List String)) := do
  let top ← folder.locate path
  pure (folder.entries.filterMap fun (names, bytes) =>
    if bytes.isSome && top.isPrefixOf names then some (names.drop top.length) else none)

/-- A folder as a disk. -/
def disk (folder : Folder) : Disk Id where
  read path := pure (folder.read path)
  filesBelow path := pure (folder.filesBelow path)

end Folder

end HotReload.CommandLine
