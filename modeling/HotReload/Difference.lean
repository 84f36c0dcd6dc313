import HotReload.Failure
import HotReload.Text.Lines

/-!
# Differences of two texts

Two texts are cut into words at one separator. A table holds, for every pair of a
word of the first and a word of the second text, the length of the longest common
subsequence up to there. Walking back through the table gives the common words,
and laying both texts along them gives runs of common, removed and added words.

The table is one row behind the other. The walk compares the cell in front of a
cell with the cell one row above; in the first column the cell in front is the last
one of the row above.

A runner takes any way to find differences; this one is that of the program.
-/

set_option autoImplicit false

namespace HotReload

/-- A run of words of one kind. -/
inductive Difference
  /-- Words that both texts have. -/
  | same (text : String)
  /-- Words of the second text alone. -/
  | added (text : String)
  /-- Words of the first text alone. -/
  | removed (text : String)
deriving DecidableEq, Repr

namespace Difference

/-! ## The table -/

/-- The cell at position `k`, from the cells in front of it. -/
def cell (first second : Array String) (cells : Array Nat) (k : Nat) : Nat :=
  let width := second.size
  let i := k / width
  let j := k % width
  if first[i]? = second[j]? then
    if i = 0 ∨ j = 0 then 1 else cells.getD (k - width - 1) 0 + 1
  else
    max (if j = 0 then 0 else cells.getD (k - 1) 0)
      (if i = 0 then 0 else cells.getD (k - width) 0)

/-- The lengths of the longest common subsequences, row by row. -/
def lengths (first second : Array String) : Array Nat :=
  (List.range (first.size * second.size)).foldl
    (fun cells k => cells.push (cell first second cells k)) #[]

/-- Walks back from row `i` and column `j`, for at most `steps` steps, and puts the
common words in front of `found`. -/
def walk (first second : Array String) (cells : Array Nat) :
    (steps i j : Nat) → (found : List String) → List String
  | 0, _, _, found => found
  | steps + 1, i, j, found =>
    let width := second.size
    if first[i]? = second[j]? then
      let found := (first[i]?).toList ++ found
      match i, j with
      | i + 1, j + 1 => walk first second cells steps i j found
      | _, _ => found
    else
      match i, j with
      | 0, 0 => found
      | 0, j + 1 => walk first second cells steps 0 j found
      | i + 1, j =>
        if cells.getD (i * width + j) 0 < cells.getD ((i + 1) * width + j - 1) 0 then
          match j with
          | 0 => found
          | j + 1 => walk first second cells steps (i + 1) j found
        else walk first second cells steps i j found

/-- The common words of two texts that have at least one word each. -/
def common (first second : Array String) : List String :=
  walk first second (lengths first second) (first.size + second.size) (first.size - 1)
    (second.size - 1) []

/-! ## Runs -/

/-- Splits off the words that head all three lists. -/
def takeSame : List String → List String → List String →
    List String × List String × List String × List String
  | a :: as, b :: bs, c :: cs =>
    if a = b ∧ b = c then
      let (run, rest) := takeSame as bs cs
      (a :: run, rest)
    else ([], a :: as, b :: bs, c :: cs)
  | as, bs, cs => ([], as, bs, cs)

/-- Whether a word is the next common one. -/
def isNext (shared : List String) (word : String) : Bool :=
  shared.head? == some word

/-- A run of one kind, unless it is empty. -/
def run (kind : String → Difference) (separator : String) (words : List String) :
    List Difference :=
  if words.isEmpty then [] else [kind (separator.intercalate words)]

/-- Lays two word lists along their common words, in at most `rounds` rounds. -/
def merge (separator : String) :
    (rounds : Nat) → (first second shared : List String) → List Difference
  | 0, _, _, _ => []
  | rounds + 1, first, second, shared =>
    if first.isEmpty && second.isEmpty then []
    else
      let (both, first, second, shared) := takeSame first second shared
      let gone := first.takeWhile fun word => !isNext shared word
      let new := second.takeWhile fun word => !isNext shared word
      run .same separator both ++ run .removed separator gone ++ run .added separator new
        ++ merge separator rounds (first.drop gone.length) (second.drop new.length) shared

/-- The words of a text; the empty text has one empty word. -/
def words (separator : Char) (text : String) : List String :=
  (Text.splitAt separator text.toList).map String.ofList

/-- The words to lay out; the empty text has none. -/
def laidOut (words : List String) : List String :=
  if words = [""] then [] else words

/-- The differences of two texts, as runs of words. -/
def between (separator : Char) (first second : String) : List Difference :=
  let firstWords := words separator first
  let secondWords := words separator second
  let shared := common firstWords.toArray secondWords.toArray
  merge (String.singleton separator) (firstWords.length + secondWords.length)
    (laidOut firstWords) (laidOut secondWords) (laidOut shared)

/-- A run as it stands in a line of words. -/
def inLine : Difference → String
  | .same text => text
  | .added text => "[+" ++ text ++ "]"
  | .removed text => "[-" ++ text ++ "]"

end Difference

/-- A way to find the differences of an expected text and the actual one. -/
abbrev Difference.Finder := (expected actual : String) → List Difference

/-- The failure of a page that shows something else than expected, with the
differences that are found word by word. -/
def Failure.mismatch (label : String) (step : Nat) (expected actual : String)
    (differences : Difference.Finder := Difference.between ' ') : Failure :=
  { cause := .mismatch label step expected actual
    phase := .expect
    help := some ("diff (-expected +actual): " ++
      " ".intercalate ((differences expected actual).map Difference.inLine)) }

end HotReload
