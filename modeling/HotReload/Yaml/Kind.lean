import HotReload.Text.Numeral

/-!
# Texts that read as another kind of value

A YAML reader takes some unquoted texts for nothing, for a truth value or for a
number. A text of such a form has to be quoted, or it would come back as something
else (`readsAsOther`).

A number may have a sign. It is written in base ten, with a point or a power of ten
if it likes, or in base 16, 8 or 2 behind `0x`, `0o` or `0b`. Numbers that no reader
can hold stay texts: a decimal number that rounds to infinity as a double
(`Scientific.isFinite`) and a number in another base that needs more than 128 bits.
-/

set_option autoImplicit false

namespace HotReload.Yaml

open Text (isDigit digitsValue valueIn?)

/-- Whether a text stands for nothing. -/
def isNull (text : String) : Bool :=
  ["", "~", "null", "Null", "NULL"].contains text

/-- Whether a text is a truth value. -/
def isTruth (text : String) : Bool :=
  ["true", "True", "TRUE", "false", "False", "FALSE"].contains text

/-! ## Decimal numbers -/

/-- A decimal number without sign: the digits times a power of ten. -/
structure Scientific where
  /-- The digits in front of the point and behind it. -/
  digits : List Char
  /-- The power of ten of the last digit. -/
  power : Int
deriving DecidableEq, Repr

/-- The least number that rounds to infinity as a double: half a unit above the
largest finite one. -/
def overflow : Nat :=
  Nat.pow 2 1024 - Nat.pow 2 970

/-- Whether a number is finite as a double. With `places` digits in front of its
point it lies below ten to the power `places`, and `overflow` has 309 digits. -/
def Scientific.isFinite (number : Scientific) : Bool :=
  let digits := number.digits.dropWhile (· = '0')
  let places := digits.length + number.power
  if digits.isEmpty || places < 309 then true
  else if places > 309 then false
  else
    match number.power with
    | .ofNat power => digitsValue digits * Nat.pow 10 power < overflow
    | .negSucc less => digitsValue digits < overflow * Nat.pow 10 (less + 1)

/-- The value of digits; there is at least one. -/
def digits? (cs : List Char) : Option Nat :=
  if !cs.isEmpty && cs.all isDigit then some (digitsValue cs) else none

/-- The power of ten behind a number: nothing, or `e` with a sign or none and
digits. -/
def power? : List Char → Option Int
  | [] => some 0
  | mark :: rest =>
    if mark = 'e' ∨ mark = 'E' then
      match rest with
      | '-' :: digits => (digits? digits).map fun n => -n
      | '+' :: digits => (digits? digits).map Int.ofNat
      | digits => (digits? digits).map Int.ofNat
    else none

/-- The number a text without sign is. At least one digit stands in front of the
point or behind it. -/
def scientific? (cs : List Char) : Option Scientific :=
  let whole := cs.takeWhile isDigit
  let (fraction, rest) := match cs.dropWhile isDigit with
    | '.' :: rest => (rest.takeWhile isDigit, rest.dropWhile isDigit)
    | rest => ([], rest)
  if whole.isEmpty && fraction.isEmpty then none
  else (power? rest).map fun power => ⟨whole ++ fraction, power - fraction.length⟩

/-- The text behind a sign, if there is one. -/
def unsigned : List Char → List Char
  | '+' :: rest => rest
  | '-' :: rest => rest
  | cs => cs

/-- Whether a text is infinity or no number at all, as a reader spells them. -/
def isSpecial (text : String) : Bool :=
  [".inf", ".Inf", ".INF"].contains (String.ofList (unsigned text.toList))
    || [".nan", ".NaN", ".NAN"].contains text

/-- Whether a text is a decimal number. -/
def isDecimal (text : String) : Bool :=
  ((scientific? (unsigned text.toList)).map Scientific.isFinite).getD false

/-- Whether a text is digits that a zero begins, such as a postal code. -/
def isPadded (text : String) : Bool :=
  match unsigned text.toList with
  | '0' :: c :: rest => (c :: rest).all isDigit
  | _ => false

/-! ## Numbers in other bases -/

/-- The value of a number without sign in base 16, 8 or 2. -/
def based? : List Char → Option Nat
  | '0' :: mark :: c :: rest =>
    if mark = 'x' then valueIn? 16 (c :: rest)
    else if mark = 'o' then valueIn? 8 (c :: rest)
    else if mark = 'b' then valueIn? 2 (c :: rest)
    else none
  | _ => none

/-- Whether a text is a number in base 16, 8 or 2 that has at most 128 bits. -/
def isBased (text : String) : Bool :=
  match text.toList with
  | '-' :: rest => ((based? rest).map fun n => decide (n ≤ Nat.pow 2 127)).getD false
  | cs => ((based? (unsigned cs)).map fun n => decide (n < Nat.pow 2 128)).getD false

/-- Whether a text has a form that reads as another kind of value. -/
def readsAsOther (text : String) : Bool :=
  isNull text || isTruth text || isDecimal text || isSpecial text || isPadded text || isBased text

end HotReload.Yaml
