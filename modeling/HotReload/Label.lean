import HotReload.Text.Form
import HotReload.Text.Numeral

/-!
# Labels

A label names one hot-reload update. Any text is a label; `*` is the universal
one, which stands for every update without a text of its own.

Labels that are numerals of a machine word come first, by value. Labels of equal
rank, which are two spellings of one number or two texts that are no numerals,
are ordered by their characters. The order is total and tells different labels
apart, so labels can be the keys of a table.
-/

set_option autoImplicit false

namespace HotReload

/-- The name of one update. -/
structure Label where
  name : String
deriving DecidableEq, Repr, Inhabited

namespace Label

/-- The label that stands for every update. -/
def universal : Label := ⟨"*"⟩

/-- Whether a label stands for every update. -/
def isUniversal (label : Label) : Bool :=
  label.name == "*"

/-- The number a label spells, if it is a numeral of a machine word. -/
def number? (label : Label) : Option Nat :=
  Text.word? label.name

/-- A numeral ranks by its value, every other label behind all numerals. -/
def rank (label : Label) : Nat :=
  label.number?.getD (Text.maxWord + 1)

/-- Labels compare by rank, then by their characters. -/
instance : Ord Label where
  compare := compareLex (compareOn rank) (compareOn name)

instance : Std.TransOrd Label :=
  inferInstanceAs (Std.TransCmp (compareLex (compareOn rank) (compareOn name)))

instance : Std.LawfulEqOrd Label where
  eq_of_compare {first second} same := by
    have both : (compare first.rank second.rank).then (compare first.name second.name) = .eq := same
    rw [Ordering.then_eq_eq] at both
    have names := Std.LawfulEqOrd.eq_of_compare both.2
    cases first; cases second
    simpa using names

/-- Whether the first label is at most the second. -/
def atMost (first second : Label) : Bool :=
  (compare first second).isLE

/-- Whether the first label comes strictly before the second. -/
def before (first second : Label) : Bool :=
  compare first second == .lt

/-- The label of a number. -/
def ofNat (n : Nat) : Label :=
  ⟨String.ofList (Text.decimal n)⟩

/-- The label of an integer. -/
def ofInt : Int → Label
  | .ofNat n => ofNat n
  | .negSucc n => ⟨String.ofList ('-' :: Text.decimal (n + 1))⟩

/-- A label shows its text. -/
def form (label : Label) : Text.Form :=
  .tagged "Label" [.text label.name]

/-- Puts a label in front of the first label that is not before it. -/
def insertInto (label : Label) : List Label → List Label
  | [] => [label]
  | here :: rest => if label.atMost here then label :: here :: rest
    else here :: insertInto label rest

/-- Some labels in ascending order. -/
def sorted (labels : List Label) : List Label :=
  labels.foldr insertInto []

end Label

end HotReload
