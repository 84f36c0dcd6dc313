import HotReload.Text.Lines

/-!
# File paths

A path is written with slashes. Its components are the root of an absolute path,
names, and the steps `.` and `..`; empty components vanish, and so does `.` except
at the beginning of a relative path. Paths compare component by component, so a
directory sorts with what is below it.

Joining works on the written form: an absolute path replaces what it is joined to.
-/

set_option autoImplicit false

namespace HotReload.Files

/-- One component of a path. -/
inductive Component
  /-- The root of an absolute path. -/
  | root
  /-- The step to the same directory. -/
  | here
  /-- The step to the directory above. -/
  | up
  | name (text : String)
deriving DecidableEq, Repr

namespace Component

/-- The root comes first, then the two steps, then all names. -/
def rank : Component → Nat
  | .root => 0
  | .here => 1
  | .up => 2
  | .name _ => 3

/-- The written form of a component. -/
def text : Component → String
  | .root => "/"
  | .here => "."
  | .up => ".."
  | .name text => text

instance : Ord Component where
  compare := compareLex (compareOn rank) (compareOn text)

instance : Std.TransOrd Component :=
  inferInstanceAs (Std.TransCmp (compareLex (compareOn rank) (compareOn text)))

instance : Std.LawfulEqOrd Component where
  eq_of_compare {first second} same := by
    have both : (compare first.rank second.rank).then (compare first.text second.text) = .eq := same
    rw [Ordering.then_eq_eq] at both
    have ranks := Std.LawfulEqOrd.eq_of_compare both.1
    have texts := Std.LawfulEqOrd.eq_of_compare both.2
    cases first <;> cases second <;> simp_all [rank, text]

end Component

/-- The components of a path. -/
abbrev Path := List Component

namespace Path

/-- Whether a written path is absolute. -/
def isAbsolute (text : String) : Bool :=
  text.toList.head? == some '/'

/-- The component a piece between slashes stands for; none if it vanishes. -/
def component? (piece : List Char) : Option Component :=
  if piece = [] ∨ piece = ['.'] then none
  else if piece = ['.', '.'] then some .up
  else some (.name (String.ofList piece))

/-- The components of a written path. -/
def ofText (text : String) : Path :=
  let pieces := Text.splitAt '/' text.toList
  let steps := pieces.filterMap component?
  if isAbsolute text then .root :: steps
  else if pieces.head? = some ['.'] then .here :: steps
  else steps

/-- The written form of some components. -/
def toText : Path → String
  | .root :: steps => "/" ++ "/".intercalate (steps.map Component.text)
  | steps => "/".intercalate (steps.map Component.text)

/-- A written path behind another one. An absolute path stands for itself. -/
def join (base path : String) : String :=
  if isAbsolute path then path
  else if base = "" ∨ base.toList.getLast? = some '/' then base ++ path
  else base ++ "/" ++ path

/-- Takes one step from a path. Above the root and above the beginning of a relative
path there is nothing, so going up stays there. -/
def step (path : Path) : Component → Path
  | .here => path
  | .up =>
    match path.getLast? with
    | none | some .root => path
    | _ => path.dropLast
  | .root => [.root]
  | .name text => path ++ [.name text]

/-- The path that steps lead to. -/
def normal (path : Path) : Path :=
  path.foldl step []

/-- Whether the second path is the first or lies below it. -/
def contains (top path : Path) : Bool :=
  top.isPrefixOf path

/-- The directory a path lies in, if it lies in one. -/
def parent? (path : Path) : Option Path :=
  match path.getLast? with
  | none | some .root => none
  | _ => some path.dropLast

/-- The first components of a path, one list for each length, longest first. -/
def fronts : Path → List Path
  | [] => [[]]
  | component :: rest => (fronts rest).map (component :: ·) ++ [[]]

/-- The path and the directories above it, from the deepest up. Above the root of an
absolute path there is nothing. -/
def ancestors (path : Path) : List Path :=
  if path.head? = some .root then (fronts path).dropLast else fronts path

/-- What stands behind the last dot of a name, unless that dot begins it. -/
def nameExtension? (name : List Char) : Option (List Char) :=
  match Text.splitAt '.' name with
  | [] => none
  | [_] => none
  | first :: rest => if first = [] ∧ rest.length = 1 then none else rest.getLast?

/-- The extension of a path that ends in a name. -/
def extension? (path : Path) : Option String :=
  match path.getLast? with
  | some (.name text) => (nameExtension? text.toList).map String.ofList
  | _ => none

end Path

end HotReload.Files
