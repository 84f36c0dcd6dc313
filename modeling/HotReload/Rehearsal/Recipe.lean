import HotReload.Rehearsal.Stage

/-!
# Rebuild recipes

A recipe is a rebuild hook that is written out as a list of steps on the file tree.
The first step that fails ends the rebuild.
-/

set_option autoImplicit false

namespace HotReload.Rehearsal

open Files (Path Tree)

/-- One step of a recipe. -/
inductive RecipeStep
  /-- Fails with a message if a file holds some text. A file that cannot be read holds
  nothing. -/
  | failIf (path part message : String)
  | write (path text : String)
  | copy (source path : String)
  /-- Joins all files in a directory into one file. -/
  | bundle (directory path : String)

/-- An operation on the file tree whose faults become messages. -/
def onTree {σ α : Type} (operation : Tree.Operation α) : Action (Tree × σ) String α :=
  operation.onPart Prod.fst (fun tree state => (tree, state.2)) Files.Fault.message

/-- The texts of the files in a directory, in path order, with semicolons between. -/
def bundled (tree : Tree) (directory : String) : String :=
  ";".intercalate ((tree.files.entries.filter fun file =>
    (Path.ofText directory).contains file.1).map Prod.snd)

/-- Carries out a step. -/
def RecipeStep.carryOut {σ : Type} : RecipeStep → Action (Tree × σ) String Unit
  | .failIf path part message => do
    let text := ((← get).1.read path).toOption.getD ""
    if occursIn part.toList text.toList then throw message
  | .write path text => onTree (Tree.write path text)
  | .copy source path => do
    let text ← onTree (do Action.ofExcept ((← get).read source))
    onTree (Tree.write path text)
  | .bundle directory path => do
    onTree (Tree.write path (bundled (← get).1 directory))

/-- Carries out the steps of a recipe. -/
def recipe {σ : Type} (steps : List RecipeStep) : Action (Tree × σ) String Unit :=
  steps.forM RecipeStep.carryOut

end HotReload.Rehearsal
