/-!
# Numerals

Labels, marker slots, ports and detail levels are read by one rule: at most one
leading plus sign, then one or more ASCII digits, with a value up to a stated
bound. Signs elsewhere, blanks, separators and non-ASCII digits are refused.

A marker slot admits no plus sign, since its digits are already cut out of the
marker; `digitsValue` reads those. Numbers in other bases have digits up to `f`, in
either case (`valueIn?`).
-/

set_option autoImplicit false

namespace HotReload.Text

/-- Whether a character is an ASCII digit. -/
def isDigit (c : Char) : Bool :=
  '0' ≤ c && c ≤ '9'

/-- The value of a digit sequence in base ten. -/
def digitsValue (digits : List Char) : Nat :=
  digits.foldl (fun value c => 10 * value + (c.toNat - '0'.toNat)) 0

/-- The value of a numeral, when the text is one and its value is at most
`bound`. -/
def numeral? (bound : Nat) (cs : List Char) : Option Nat :=
  let digits := match cs with
    | '+' :: rest => rest
    | _ => cs
  if !digits.isEmpty && digits.all isDigit && digitsValue digits ≤ bound then
    some (digitsValue digits)
  else none

/-- The largest number of an unsigned machine word of 64 bits. -/
def maxWord : Nat := 18446744073709551615

/-- The value of a label-like numeral. -/
def word? (s : String) : Option Nat :=
  numeral? maxWord s.toList

/-- The value of a digit, up to base 16. -/
def digitValue? (c : Char) : Option Nat :=
  if isDigit c then some (c.toNat - '0'.toNat)
  else if 'a' ≤ c && c ≤ 'f' then some (c.toNat - 'a'.toNat + 10)
  else if 'A' ≤ c && c ≤ 'F' then some (c.toNat - 'A'.toNat + 10)
  else none

/-- The value of a digit sequence in a base of at most 16. -/
def valueIn? (base : Nat) (cs : List Char) : Option Nat :=
  cs.foldlM (fun value c => do
    let digit ← digitValue? c
    if digit < base then some (base * value + digit) else none) 0

/-- The decimal numeral of a number, without leading zeros. -/
def decimal (n : Nat) : List Char :=
  Nat.toDigits 10 n

end HotReload.Text
