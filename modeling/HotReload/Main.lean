import HotReload.CommandLine.Reply

/-!
# The program

The command line on the real disk. Everything is decided by
`CommandLine.respond`; here files are read and directories walked.
-/

set_option autoImplicit false

namespace HotReload.CommandLine

/-- The text of a file on the real disk. -/
def readOnDisk (path : String) : IO (Option String) :=
  try
    pure (String.fromUTF8? (← IO.FS.readBinFile path))
  catch _ => pure none

/-- The files at and below an entry of a directory, behind the names that lead to
it. -/
partial def walkEntry (names : List String) (entry : IO.FS.DirEntry) :
    IO (List (List String)) := do
  match (← entry.path.symlinkMetadata).type with
  | .file => pure [names]
  | .dir =>
    let entries ← entry.path.readDir
    let found ← entries.toList.mapM fun inner => walkEntry (names ++ [inner.fileName]) inner
    pure found.flatten
  | _ => pure []

/-- The files at and below a path on the real disk. -/
def filesOnDisk (path : String) : IO (Option (List (List String))) :=
  try
    pure (some (← walkEntry [] { root := ".", fileName := path }))
  catch _ => pure none

/-- The real disk. -/
def realDisk : Disk IO where
  read := readOnDisk
  filesBelow := filesOnDisk

end HotReload.CommandLine

open HotReload.CommandLine in
/-- Answers the command line. -/
def main (arguments : List String) : IO UInt32 := do
  let names := Setting.all.filterMap Setting.environmentName?
  let values ← names.mapM fun name => do pure (name, ← IO.getEnv name)
  let environment (name : String) : Option String := (values.lookup name).join
  let reply ← respond realDisk environment arguments
  IO.print reply.output
  pure reply.exit.toUInt32
