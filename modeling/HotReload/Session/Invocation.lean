import HotReload.Session.Runner

/-!
# Invocations

An invocation runs the procedure of one test from start to report, and closes the
app afterwards whatever happened. A spec with a title can be a test of its own: its
files and expectations are declared, its first update is the one the app starts
with, and every other update is reached by a change, in label order.
-/

set_option autoImplicit false

namespace HotReload

/-- How an invocation ended when it did not fail. -/
inductive Outcome
  /-- Everything expected was seen. -/
  | passed
  /-- Nothing was expected and the session never started. -/
  | skipped
deriving DecidableEq, Repr

/-- The name of an outcome. -/
def Outcome.name : Outcome → String
  | .passed => "passed"
  | .skipped => "skipped"

/-- What an invocation reports when it did not fail. -/
structure Report where
  title : Option String
  outcome : Outcome
  entriesRun : Nat
  stepsRun : Nat
deriving DecidableEq, Repr

namespace Invocation

variable {W α : Type}

/-- Runs a procedure and closes the app. A failure of the run counts before a failure
to close. -/
def run (setting : Setting W α) (title : Option String) (procedure : Procedure W α) :
    Runner.Act W α Report := do
  let result ← Action.attempt (Runner.driveToEnd setting procedure)
  let closed ← Action.attempt (Runner.close setting)
  let ran ← Action.ofExcept result
  Action.ofExcept closed
  let known ← Runner.standing
  pure {
    title
    outcome := if ran then .passed else .skipped
    entriesRun := known.entriesRun
    stepsRun := known.stepsRun }

/-- The labels that a spec expects something of, in ascending order. -/
def expectedLabels (document : Spec.Document) : List Label :=
  match document.expectations with
  | none => []
  | some expectations => Label.sorted expectations.conditions

/-- The commands of a spec that is a test of its own. -/
def specCommands (source : String) (subs : List α) : List Label → List (Command α)
  | [] => [.spec source subs]
  | first :: rest =>
    .spec source subs :: .init (.label first) :: rest.map fun label => .change (.label label)

/-- Runs a spec as a test of its own. -/
def runSpec (setting : Setting W α) (source : String) (subs : List α) :
    Runner.Act W α Report := do
  let document ← Action.ofExcept (Spec.Document.readTest "spec" source)
  run setting document.title
    (Procedure.sendAll (specCommands source subs (expectedLabels document)))

end Invocation

end HotReload
