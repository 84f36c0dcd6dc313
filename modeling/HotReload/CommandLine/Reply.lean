import HotReload.CommandLine.Arguments
import HotReload.CommandLine.Disk
import HotReload.Difference
import HotReload.Html
import HotReload.Outline
import HotReload.Spec.Printed
import HotReload.Yaml.Block

/-!
# Replies of the command line

A command line is answered with a text and an exit code: 0 if all went well, 1 if a
file cannot be used or a comparison shows a difference, 2 if the arguments do not
fit. A spec file is compiled with placeholders for its sub-procedures before
anything of it is shown.
-/

set_option autoImplicit false

namespace HotReload.CommandLine

open Files (Path Component)

/-- The answer to a command line. -/
structure Reply where
  exit : Nat
  output : String
deriving DecidableEq, Repr

namespace Reply

/-- A text is printed. -/
def shown (output : String) : Reply :=
  ⟨0, output⟩

/-- A file cannot be used. -/
def failed : Reply :=
  ⟨1, ""⟩

/-- The arguments do not fit. -/
def misused : Reply :=
  ⟨2, ""⟩

/-- The text if there is one. -/
def ofOutput : Option String → Reply
  | some output => shown output
  | none => failed

end Reply

/-- The name and version of the program. -/
def version : String :=
  "hmr-spec 0.1.0\n"

/-- How the program is called. -/
def usage : String :=
  "Usage: hmr-spec [OPTIONS] <COMMAND>\n"

/-! ## Spec files -/

/-- A spec file that has been read and compiled. -/
structure Loaded where
  document : Spec.Document
  /-- What it compiles to with placeholders. -/
  compiled : Spec.Compiled Unit

/-- Reads and compiles the text of a spec file. -/
def Loaded.ofText (file text : String) : Except Failure Loaded := do
  let document ← Spec.Document.read file text
  let compiled ← document.compile ⟨.compile, some file⟩ document.placeholders
  pure { document, compiled }

/-- Reads and compiles the text of a file, if it has one. -/
def Loaded.ofText? (file : String) (text : Option String) : Option Loaded :=
  text.bind fun text => (Loaded.ofText file text).toOption

/-- The document of a spec file, one field a line. -/
def Loaded.documentText (loaded : Loaded) : String :=
  loaded.document.form.block ++ "\n"

/-- The compiled spec in one of the two forms. -/
def Loaded.compiledText (loaded : Loaded) (format : Format) : String :=
  let text := match format with
    | .json => loaded.compiled.json.indented 0
    | .yaml => Yaml.document loaded.compiled.json
  String.ofList (Text.trimEnd text.toList) ++ "\n"

/-- The outline of a spec file. A spec without title goes by the name of its file. -/
def Loaded.outlineText (loaded : Loaded) (file : String) (config : Config) : String :=
  (Outline.ofEntries (loaded.compiled.title.getD file) loaded.compiled.expects config).text

/-! ## Comparing markup -/

/-- A run of lines behind its mark. Nothing is printed for an empty run. -/
def markedLine (mark : Char) (text : String) : String :=
  if text = "" then "" else String.singleton mark ++ text ++ "\n"

/-- A run of the difference of two normal forms. A normal form has no line breaks,
so a run is one line. -/
def differenceLine : Difference → String
  | .same text => markedLine ' ' text
  | .added text => markedLine '+' text
  | .removed text => markedLine '-' text

/-- How the second normal form differs from the first. -/
def comparison (first second : String) : Reply :=
  ⟨if first = second then 0 else 1,
    String.join ((Difference.between '\n' first second).map differenceLine)⟩

/-! ## Checking spec files -/

/-- Whether a path is that of a spec file. -/
def isSpecFile (path : Path) : Bool :=
  path.extension? == some "hmr"

/-- The path of a file below another path. -/
def below (top : String) (names : List String) : String :=
  names.foldl Path.join top

/-- The spec files among those below a path, in the order of their paths. -/
def specFiles (top : String) (files : List (List String)) : List (List String) :=
  (files.filter fun names => isSpecFile (Path.ofText (below top names))).mergeSort
    fun first second => (compare (first.map Component.name) (second.map Component.name)).isLE

/-- The line about one spec file. -/
def checkLine (names : List String) : Option Loaded → String
  | none => "✗ " ++ "/".intercalate names ++ "\n"
  | some loaded =>
    "✓ " ++ "/".intercalate names
      ++ (match loaded.compiled.title with
        | some title => " (" ++ title ++ ")"
        | none => "") ++ "\n"

/-- The lines about some spec files, and how many compiled and how many did not. -/
def checkReply (results : List (List String × Option Loaded)) : Reply :=
  let failures := (results.filter fun result => result.2.isNone).length
  ⟨if failures = 0 then 0 else 1,
    String.join (results.map fun (names, loaded) => checkLine names loaded) ++ "\n"
      ++ toString (results.length - failures) ++ " passed, " ++ toString failures ++ " failed\n"⟩

/-! ## Answers -/

variable {m : Type → Type} [Monad m]

/-- Reads and compiles a spec file on a disk. -/
def Disk.load (disk : Disk m) (file : String) : m (Option Loaded) := do
  pure (Loaded.ofText? file (← disk.read file))

/-- The normal form of a markup file on a disk. -/
def Disk.normal (disk : Disk m) (file : String) : m (Option String) := do
  pure ((← disk.read file).map Html.normalize)

/-- Answers a request. -/
def answer (disk : Disk m) (config : Config) : Request → m Reply
  | .parse file => do
    pure (.ofOutput ((← disk.load file).map Loaded.documentText))
  | .compile file format => do
    pure (.ofOutput ((← disk.load file).map (Loaded.compiledText · format)))
  | .normalize file none => do
    pure (.ofOutput ((← disk.normal file).map (· ++ "\n")))
  | .normalize file (some other) => do
    match ← disk.normal file, ← disk.normal other with
    | some first, some second => pure (comparison first second)
    | _, _ => pure .failed
  | .outline file => do
    pure (.ofOutput ((← disk.load file).map (Loaded.outlineText · file config)))
  | .check path => do
    match ← disk.filesBelow path with
    | none => pure .failed
    | some files =>
      let results ← (specFiles path files).mapM fun names => do
        pure (names, ← disk.load (below path names))
      pure (checkReply results)

/-- The value of a variable of a run: the setting behind the command counts, then the
one in front of it, then the environment. -/
def variableOf (environment : String → Option String) (before behind : Settings)
    (name : String) : Option String :=
  match Setting.all.find? fun setting => setting.environmentName? = some name with
  | none => none
  | some setting =>
    ((behind.value? setting).or (before.value? setting)).or (environment name)

/-- Answers a command line. -/
def respond (disk : Disk m) (environment : String → Option String) (arguments : List String) :
    m Reply :=
  match readArguments arguments with
  | .run before behind request =>
    answer disk (Config.ofVariables "" (variableOf environment before behind)) request
  | .version => pure (.shown version)
  | .help => pure (.shown usage)
  | .misuse => pure .misused

end HotReload.CommandLine
