import HotReload.Files.Path
import HotReload.Text.Blank
import HotReload.Text.Numeral

/-!
# Configuration of a test run

A configuration says where the app under test lies, how its page is read, how
finely tests are named, and what is left running afterwards. It is built once, from
a few variables, and never changes.
-/

set_option autoImplicit false

namespace HotReload

open Files (Path)

/-- How a test run is carried out. -/
structure Config where
  /-- The directory of the app; its sources lie in `src` below it. -/
  appDirectory : String := "app"
  /-- The element whose markup is compared. -/
  appRootSelector : String := "body"
  /-- Markup the app always renders first, which is not compared. -/
  appHtmlPrefix : String := "<script src=\"bundle.js\"></script>"
  /-- Whether tests are named by spec (0), by update (1) or by step (2). -/
  detail : Nat := 1
  /-- Whether the build server and the page stay open after a run. -/
  keepRunning : Bool := false
  e2e : Bool := true
  /-- Whether the build server is controlled over the network. -/
  rcOverHttp : Bool := false
  /-- Whether one build server is reset between tests and keeps its output. -/
  fastReset : Bool := true
  /-- What the build reports once it is ready. -/
  readyMessage : String := "[HMR] Enabled"
  /-- What the build reports after an update. -/
  doneMessage : String := "[HMR] Up to date"
  /-- What the build reports when an update changed nothing. -/
  nothingChangedMessage : String := "[HMR] Nothing changed"
deriving DecidableEq, Repr, Inhabited

namespace Config

/-- Whether a variable is switched on: it is neither blank nor zero. -/
def isOn (value : String) : Bool :=
  let text := Text.trimmed value
  text != "" && text != "0"

/-- Whether a variable is left on: it is none of the words for off. -/
def isLeftOn (value : String) : Bool :=
  !(["0", "skip", "false", ""].contains (Text.trimmed value))

/-- The level a variable names; a level is at most 255. -/
def detail? (value : String) : Option Nat :=
  Text.numeral? 255 (Text.trim value.toList)

/-- The configuration that some variables ask for, in a current directory. -/
def ofVariables (directory : String) (lookup : String → Option String) : Config :=
  { appDirectory := Path.join directory ((lookup "APP").getD "app")
    detail := ((lookup "DETAIL").bind detail?).getD 1
    keepRunning := ((lookup "WATCH").map isOn).getD false
    e2e := ((lookup "E2E").map isLeftOn).getD true
    rcOverHttp := ((lookup "RC_HTTP").map isOn).getD false }

/-- The directory of the app's sources. -/
def sourceDirectory (config : Config) : String :=
  Path.join config.appDirectory "src"

/-- Whether a spec is a group of tests. -/
def groupsBySpec (config : Config) : Bool :=
  config.detail > 0

/-- Whether every step is a test. -/
def groupsByStep (config : Config) : Bool :=
  config.detail > 1

end Config

end HotReload
