import HotReload.Text.Lines

/-!
# Arguments of the command line

The arguments name one command with its file, and settings. A setting is written
`--name value` or `--name=value`; some settings may go without a value. Settings of
a run may stand in front of the command or behind it, and a variable of the
environment takes the place of one that is not given. A lone `--` ends the settings.

Reading goes from left to right, and the first argument that does not fit decides:
the arguments are misused (`Reading.misuse`), unless version or help was asked for
before. A setting may be given once in front of the command and once behind it; the
one behind it counts.
-/

set_option autoImplicit false

namespace HotReload.CommandLine

/-- What can be set. -/
inductive Setting
  | app
  | detail
  /-- Whether the build server and the page stay open. -/
  | watch
  /-- Whether the build server is controlled over the network. -/
  | remoteControl
  | endToEnd
  /-- The form of a compiled spec. -/
  | format
  /-- The file to compare with. -/
  | against
deriving DecidableEq, Repr

namespace Setting

/-- The name of a setting, behind two dashes. -/
def name : Setting → String
  | .app => "app"
  | .detail => "detail"
  | .watch => "watch"
  | .remoteControl => "rc-http"
  | .endToEnd => "e2e"
  | .format => "format"
  | .against => "against"

/-- All settings. -/
def all : List Setting :=
  [.app, .detail, .watch, .remoteControl, .endToEnd, .format, .against]

/-- Every setting is listed. -/
theorem mem_all (setting : Setting) : setting ∈ all := by
  cases setting <;> decide

/-- The setting of a name. -/
def ofName? (name : String) : Option Setting :=
  all.find? fun setting => setting.name = name

/-- Names tell settings apart. -/
theorem ofName?_name (setting : Setting) : ofName? setting.name = some setting := by
  cases setting <;> decide

/-- The variable of the environment that stands for a setting of a run. Other
settings belong to a single command. -/
def environmentName? : Setting → Option String
  | .app => some "APP"
  | .detail => some "DETAIL"
  | .watch => some "WATCH"
  | .remoteControl => some "RC_HTTP"
  | .endToEnd => some "E2E"
  | .format | .against => none

/-- The value of a setting that is given without one, if that is allowed. -/
def bareValue? : Setting → Option String
  | .watch | .remoteControl => some "1"
  | _ => none

end Setting

/-! ## Tokens -/

/-- An argument, or a setting with the argument that is its value. -/
inductive Token
  | setting (setting : Setting) (value : String)
  | operand (text : String)
  | separator
  | version
  | help
  | unknown
deriving DecidableEq, Repr

/-- Whether an argument can be the value of the setting in front of it. -/
def isValue (argument : String) : Bool :=
  argument = "-" || argument.toList.head? != some '-'

/-- The part of an argument in front of its first equals sign, and the part behind
it if there is one. -/
def splitAtEquals : List Char → List Char × Option (List Char)
  | [] => ([], none)
  | c :: rest =>
    if c = '=' then ([], some rest)
    else
      let (name, value) := splitAtEquals rest
      (c :: name, value)

/-- The token of an argument that begins with a single dash. -/
def shortToken : List Char → Token
  | 'h' :: _ => .help
  | 'V' :: _ => .version
  | _ => .unknown

/-- The token of a word behind two dashes that has no value with it. -/
def wordToken (word : String) : Token :=
  if word = "help" then .help else if word = "version" then .version else .unknown

/-- The tokens of some arguments. Behind an argument that fits nowhere there are
none. -/
def tokens : List String → List Token
  | [] => []
  | argument :: rest =>
    match argument.toList with
    | ['-', '-'] => .separator :: rest.map .operand
    | '-' :: '-' :: cs =>
      let (name, attached) := splitAtEquals cs
      match Setting.ofName? (String.ofList name), attached with
      | some setting, some value => .setting setting (String.ofList value) :: tokens rest
      | none, some _ => [.unknown]
      | none, none =>
        match wordToken (String.ofList name) with
        | .unknown => [.unknown]
        | token => token :: tokens rest
      | some setting, none =>
        match rest, setting.bareValue? with
        | [], none => [.unknown]
        | [], some bare => [.setting setting bare]
        | next :: behind, bare? =>
          if isValue next then .setting setting next :: tokens behind
          else
            match bare? with
            | some bare => .setting setting bare :: tokens (next :: behind)
            | none => [.unknown]
    | ['-'] => .operand argument :: tokens rest
    | '-' :: cs => shortToken cs :: tokens rest
    | _ => .operand argument :: tokens rest

/-! ## Requests -/

/-- The form of a compiled spec. -/
inductive Format
  | json
  | yaml
deriving DecidableEq, Repr

/-- The form of a name. -/
def Format.ofName? (name : String) : Option Format :=
  if name = "json" then some .json else if name = "yaml" then some .yaml else none

/-- What a command line asks for. -/
inductive Request
  /-- The document of a spec file. -/
  | parse (file : String)
  /-- The files and expectations of a spec file. -/
  | compile (file : String) (format : Format)
  /-- The normal form of a markup file, or how that of another file differs from
  it. -/
  | normalize (file : String) (against : Option String)
  /-- The tests of a spec file. -/
  | outline (file : String)
  /-- Whether every spec file below a path compiles. -/
  | check (path : String)
deriving DecidableEq, Repr

/-- The commands. -/
inductive Command
  | parse
  | compile
  | normalize
  | outline
  | check
deriving DecidableEq, Repr

namespace Command

/-- The command of a name. -/
def ofName? : String → Option Command
  | "parse" => some .parse
  | "compile" => some .compile
  | "normalize" => some .normalize
  | "outline" => some .outline
  | "check" => some .check
  | _ => none

/-- Whether a command takes a setting. All commands take the settings of a run. -/
def takes (command : Command) (setting : Setting) : Bool :=
  setting.environmentName?.isSome || (command == .compile && setting == .format)
    || (command == .normalize && setting == .against)

end Command

/-- Settings with their values, each at most once. -/
abbrev Settings := List (Setting × String)

/-- The value of a setting. -/
def Settings.value? (settings : Settings) (setting : Setting) : Option String :=
  List.lookup setting settings

/-- Adds a setting, unless it is there already or its value cannot be one. A format
must be known, and a file must have a name. -/
def Settings.add? (settings : Settings) (setting : Setting) (value : String) : Option Settings :=
  if (settings.value? setting).isSome then none
  else if setting = .format ∧ Format.ofName? value = none then none
  else if setting = .against ∧ value = "" then none
  else some ((setting, value) :: settings)

/-- What arguments amount to. -/
inductive Reading
  /-- A request, with the settings in front of the command and those behind it. -/
  | run (before behind : Settings) (request : Request)
  | version
  | help
  | misuse
deriving DecidableEq, Repr

/-- The request of a command with its settings and its operand. -/
def Command.request? (command : Command) (settings : Settings) (operand : Option String) :
    Option Request :=
  match command, operand with
  | .check, none => some (.check ".")
  | _, none => none
  | .parse, some file => some (.parse file)
  | .compile, some file =>
    some (.compile file (((settings.value? .format).bind Format.ofName?).getD .json))
  | .normalize, some file => some (.normalize file (settings.value? .against))
  | .outline, some file => some (.outline file)
  | .check, some path => some (.check path)

/-- Reads what stands behind a command. -/
def readBehind (before : Settings) (command : Command) (settings : Settings)
    (operand : Option String) : List Token → Reading
  | [] =>
    match command.request? settings operand with
    | some request => .run before settings request
    | none => .misuse
  | .setting setting value :: rest =>
    if command.takes setting then
      match settings.add? setting value with
      | some settings => readBehind before command settings operand rest
      | none => .misuse
    else .misuse
  | .operand text :: rest =>
    if operand.isSome || text = "" then .misuse
    else readBehind before command settings (some text) rest
  | .separator :: rest => readBehind before command settings operand rest
  | .help :: _ => .help
  | .version :: _ => .misuse
  | .unknown :: _ => .misuse

/-- Reads settings up to the command and what stands behind it. -/
def readTokens (settings : Settings) : List Token → Reading
  | .setting setting value :: rest =>
    if setting.environmentName?.isSome then
      match settings.add? setting value with
      | some settings => readTokens settings rest
      | none => .misuse
    else .misuse
  | .operand name :: rest =>
    match Command.ofName? name with
    | some command => readBehind settings command [] none rest
    | none => if name = "help" then .help else .misuse
  | .version :: _ => .version
  | .help :: _ => .help
  | .separator :: _ => .misuse
  | .unknown :: _ => .misuse
  | [] => .misuse

/-- What some arguments amount to. -/
def readArguments (arguments : List String) : Reading :=
  readTokens [] (tokens arguments)

end HotReload.CommandLine
