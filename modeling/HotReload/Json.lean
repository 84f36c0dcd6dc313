import HotReload.Text.Form

/-!
# JSON values

The values that a page takes and returns, and the documents that the command line
prints. An object keeps its fields in the order in which they are listed; the
objects of a page are listed in key order.

A value has a compact form on one line, an indented form with one item a line, and
a structural form.
-/

set_option autoImplicit false

namespace HotReload

/-- A decimal number, `mantissa` divided by ten to the power `exponent`. -/
structure JsonNumber where
  /-- The digits with the sign. -/
  mantissa : Int
  /-- The number of digits behind the point. -/
  exponent : Nat := 0
deriving DecidableEq, Repr

/-- A JSON value. -/
inductive Json
  | null
  | bool (b : Bool)
  | number (n : JsonNumber)
  | string (s : String)
  | array (items : List Json)
  | object (fields : List (String × Json))

instance : Inhabited Json := ⟨.null⟩

namespace JsonNumber

/-- Takes zeros off the end of the digits behind the point. -/
def shorten : (digits : Nat) → (exponent : Nat) → Nat × Nat
  | digits, 0 => (digits, 0)
  | digits, exponent + 1 =>
    if digits % 10 = 0 then shorten (digits / 10) exponent else (digits, exponent + 1)

/-- Digits behind a point, filled up with zeros in front. -/
def fraction (digits width : Nat) : String :=
  let text := Nat.toDigits 10 digits
  String.ofList (List.replicate (width - text.length) '0' ++ text)

/-- A number without sign that has digits behind its point. A number with a part
before the point or with at most four zeros behind it is written with a point, a
smaller one with a power of ten. -/
def fractionText (digits exponent : Nat) : String :=
  let (digits, exponent) := shorten digits exponent
  let text := Nat.toDigits 10 digits
  if exponent = 0 then String.ofList text ++ ".0"
  else if exponent < text.length + 5 then
    let unit := Nat.pow 10 exponent
    toString (digits / unit) ++ "." ++ fraction (digits % unit) exponent
  else
    let power := "e-" ++ toString (exponent - text.length + 1)
    match text with
    | [] => "0.0"
    | [digit] => String.ofList [digit] ++ power
    | digit :: rest => String.ofList (digit :: '.' :: rest) ++ power

/-- The text of a number. -/
def text (n : JsonNumber) : String :=
  if n.exponent = 0 then toString n.mantissa
  else (if n.mantissa < 0 then "-" else "") ++ fractionText n.mantissa.natAbs n.exponent

end JsonNumber

namespace Json

/-- An integer. -/
def ofInt (n : Int) : Json :=
  .number { mantissa := n }

/-- A natural number. -/
def ofNat (n : Nat) : Json :=
  ofInt n

/-! ## Strings -/

/-- The form of a character inside a string. -/
def escapedChar (c : Char) : List Char :=
  if c = '"' then ['\\', '"']
  else if c = '\\' then ['\\', '\\']
  else if c = '\x08' then ['\\', 'b']
  else if c = '\x0c' then ['\\', 'f']
  else if c = '\n' then ['\\', 'n']
  else if c = '\r' then ['\\', 'r']
  else if c = '\t' then ['\\', 't']
  else if c.toNat < 0x10 then ['\\', 'u', '0', '0', '0'] ++ Nat.toDigits 16 c.toNat
  else if c.toNat < 0x20 then ['\\', 'u', '0', '0'] ++ Nat.toDigits 16 c.toNat
  else [c]

/-- A string between quotation marks. -/
def quoted (s : String) : String :=
  String.ofList ('"' :: s.toList.flatMap escapedChar ++ ['"'])

/-! ## Compact form -/

mutual

/-- The value on one line, without blanks. -/
def compact : Json → String
  | .null => "null"
  | .bool b => if b then "true" else "false"
  | .number n => n.text
  | .string s => quoted s
  | .array items => "[" ++ ",".intercalate (compactItems items) ++ "]"
  | .object fields => "\x7b" ++ ",".intercalate (compactFields fields) ++ "\x7d"

/-- The items, each on one line. -/
def compactItems : List Json → List String
  | [] => []
  | item :: rest => item.compact :: compactItems rest

/-- The fields, each on one line. -/
def compactFields : List (String × Json) → List String
  | [] => []
  | (name, value) :: rest => (quoted name ++ ":" ++ value.compact) :: compactFields rest

end

/-! ## Indented form -/

/-- Blanks in front of a line. -/
def indent (depth : Nat) : String :=
  String.ofList (List.replicate (2 * depth) ' ')

/-- Puts items on lines of their own between two brackets. -/
def enclosed (depth : Nat) (opening closing : String) (items : List String) : String :=
  if items.isEmpty then opening ++ closing
  else
    opening ++ "\n" ++ ",\n".intercalate (items.map (indent (depth + 1) ++ ·)) ++ "\n"
      ++ indent depth ++ closing

mutual

/-- The value with one item a line, inside `depth` brackets. -/
def indented (depth : Nat) : Json → String
  | .null => "null"
  | .bool b => if b then "true" else "false"
  | .number n => n.text
  | .string s => quoted s
  | .array items => enclosed depth "[" "]" (indentedItems (depth + 1) items)
  | .object fields => enclosed depth "\x7b" "\x7d" (indentedFields (depth + 1) fields)

/-- The items inside `depth` brackets. -/
def indentedItems (depth : Nat) : List Json → List String
  | [] => []
  | item :: rest => item.indented depth :: indentedItems depth rest

/-- The fields inside `depth` brackets. -/
def indentedFields (depth : Nat) : List (String × Json) → List String
  | [] => []
  | (name, value) :: rest =>
    (quoted name ++ ": " ++ value.indented depth) :: indentedFields depth rest

end

/-! ## Structural form -/

mutual

/-- A value shows its kind and its parts. -/
def form : Json → Text.Form
  | .null => .atom "Null"
  | .bool b => .tagged "Bool" [.bool b]
  | .number n => .tagged "Number" [.atom n.text]
  | .string s => .tagged "String" [.text s]
  | .array items => .named "Array" (.sequence (formItems items))
  | .object fields => .named "Object" (.mapping (formFields fields))

/-- The forms of the items. -/
def formItems : List Json → List Text.Form
  | [] => []
  | item :: rest => item.form :: formItems rest

/-- The forms of the fields. -/
def formFields : List (String × Json) → List (String × Text.Form)
  | [] => []
  | (name, value) :: rest => (Text.quoted name, value.form) :: formFields rest

end

/-- A value read as text: a string is itself, nothing is empty, and anything else
is its compact form. -/
def asText : Json → String
  | .string s => s
  | .null => ""
  | value => value.compact

end Json

end HotReload
