import HotReload.Json
import HotReload.Yaml.Scalar

/-!
# Block layout

A document holds one value. The fields of an object and the items of an array stand
on lines of their own. An object inside an object is indented by two blanks, an
array inside an object is not. A collection inside an item begins on the line of the
item's dash, so a list of pairs reads `- - first` and `  - second`. Empty
collections are written with brackets.

A key that has several lines or is very long stands behind a question mark; its
value then begins on the line of the colon, as behind a dash.
-/

set_option autoImplicit false

namespace HotReload.Yaml

/-- Ends a line, unless it has ended already. -/
def endLine (line : List Char) : List Char :=
  if endsIn isBreak line then line else line ++ ['\n']

/-- The most bytes a key may have in front of its colon. -/
def longestKey : Nat :=
  128

/-- Whether a key can stand on one line with its colon. -/
def isSimpleKey (key : String) : Bool :=
  !key.toList.any isBreak && key.utf8ByteSize ≤ longestKey

/-- A key with its colon in a block that is indented by `indent`. -/
def keyText (indent : Nat) (key : String) : List Char :=
  let text := scalar (indent + 2) key
  if isSimpleKey key then text ++ [':']
  else '?' :: ' ' :: endLine text ++ blanks indent ++ [':']

/-- Where a value stands. -/
inductive Place
  /-- Behind a simple key; a collection begins on the next line. -/
  | key
  /-- Behind a dash or a lone colon; a collection begins on the same line. -/
  | item
deriving DecidableEq, Repr

/-- The place of the value of a key. -/
def placeOf (key : String) : Place :=
  if isSimpleKey key then .key else .item

mutual

/-- What stands behind a key or a dash in a block that is indented by `indent`. -/
def behind (indent : Nat) (place : Place) : Json → List Char
  | .null => endLine " null".toList
  | .bool b => endLine (' ' :: (if b then "true" else "false").toList)
  | .number n => endLine (' ' :: n.text.toList)
  | .string s => endLine (' ' :: scalar (indent + 2) s)
  | .array items =>
    if items.isEmpty then endLine " []".toList
    else
      match place with
      | .key => '\n' :: dashed indent true items
      | .item => ' ' :: dashed (indent + 2) false items
  | .object fields =>
    if fields.isEmpty then endLine " \x7b\x7d".toList
    else
      match place with
      | .key => '\n' :: keyed (indent + 2) true fields
      | .item => ' ' :: keyed (indent + 2) false fields

/-- Items that are indented by `indent`; the first one only if its line is `fresh`. -/
def dashed (indent : Nat) (fresh : Bool) : List Json → List Char
  | [] => []
  | item :: rest =>
    (if fresh then blanks indent else []) ++ '-' :: behind indent .item item
      ++ dashed indent true rest

/-- Fields that are indented by `indent`; the first one only if its line is
`fresh`. -/
def keyed (indent : Nat) (fresh : Bool) : List (String × Json) → List Char
  | [] => []
  | (key, value) :: rest =>
    (if fresh then blanks indent else []) ++ keyText indent key
      ++ behind indent (placeOf key) value ++ keyed indent true rest

end

/-- The document that holds a value. -/
def document : Json → String
  | .array (item :: rest) => String.ofList (dashed 0 true (item :: rest))
  | .object (field :: rest) => String.ofList (keyed 0 true (field :: rest))
  | value => String.ofList ((behind 0 .item value).drop 1)

end HotReload.Yaml
