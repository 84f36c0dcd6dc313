import HotReload.Config
import HotReload.Entry
import HotReload.Label

/-!
# Outlines

An outline names the tests that a spec is reported as: one test, one group with a
test for every update, or nested groups down to the steps. The detail level of the
configuration decides. A spec with one update stays one test unless every step is a
test.
-/

set_option autoImplicit false

namespace HotReload

/-- A test, or a group of tests. -/
inductive Outline
  | node (name : String) (children : List Outline)

namespace Outline

variable {α : Type}

/-- The name of a test or group. -/
def name : Outline → String
  | .node name _ => name

/-- What a group holds; nothing for a test. -/
def children : Outline → List Outline
  | .node _ children => children

/-- A single test. -/
def test (name : String) : Outline :=
  .node name []

mutual

/-- The number of tests. -/
def tests : Outline → Nat
  | .node _ [] => 1
  | .node _ (child :: rest) => testsOfAll (child :: rest)

/-- The number of tests of several outlines. -/
def testsOfAll : List Outline → Nat
  | [] => 0
  | child :: rest => child.tests + testsOfAll rest

end

mutual

/-- The lines of an outline, indented by two blanks for each level. -/
def lines (depth : Nat) : Outline → List String
  | .node name children =>
    (String.ofList (List.replicate (2 * depth) ' ') ++ name) :: linesOfAll (depth + 1) children

/-- The lines of several outlines. -/
def linesOfAll (depth : Nat) : List Outline → List String
  | [] => []
  | child :: rest => child.lines depth ++ linesOfAll depth rest

end

/-- The outline as a text, one name a line. -/
def text (outline : Outline) : String :=
  String.join ((outline.lines 0).map (· ++ "\n"))

/-- The name of an update. -/
def updateName (label : Label) (entry : Entry α) : String :=
  match entry.description with
  | some description => "after update " ++ label.name ++ " (" ++ description ++ ")"
  | none => "after update " ++ label.name

/-- The tests of the steps, which are numbered from `index`. -/
def ofSteps (index : Nat) : List (Step α) → List Outline
  | [] => []
  | step :: rest =>
    test ("step " ++ toString index ++ " (" ++ step.kind ++ ")") :: ofSteps (index + 1) rest

/-- The tests of one update. -/
def ofUpdate (config : Config) (label : Label) (entry : Entry α) : Outline :=
  .node (updateName label entry) (if config.groupsByStep then ofSteps 0 entry.steps else [])

/-- The tests of a spec. -/
def ofEntries (title : String) (entries : List (Label × Entry α)) (config : Config) : Outline :=
  if !config.groupsBySpec || (entries.length == 1 && !config.groupsByStep) then test title
  else .node title (entries.map fun entry => ofUpdate config entry.1 entry.2)

end Outline

end HotReload
