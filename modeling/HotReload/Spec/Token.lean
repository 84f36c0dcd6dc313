import HotReload.Failure
import HotReload.Text.Lines
import HotReload.Text.Numeral

/-!
# Tokens of a line of text

A line of text consists of characters and of markers. A marker is a dollar sign
with one or more digits in braces; anything less is plain characters. The digits
name a slot, which must fit a machine word.
-/

set_option autoImplicit false

namespace HotReload.Spec

/-- A character or a marker with its digits. -/
inductive Token
  | char (c : Char)
  | marker (digits : List Char)
deriving DecidableEq, Repr

/-- A character or a reference to a slot. -/
inductive Piece
  | char (c : Char)
  | slot (n : Nat)
deriving DecidableEq, Repr

namespace Token

/-- The digits of a marker at the beginning of a text. -/
def markerDigits? : List Char → Option (List Char)
  | '$' :: '{' :: cs =>
    if cs.takeWhile Text.isDigit ≠ [] ∧ (cs.dropWhile Text.isDigit).head? = some '}' then
      some (cs.takeWhile Text.isDigit)
    else none
  | _ => none

/-- The tokens of a text after `skip` characters that belong to a marker. -/
def scanFrom : (skip : Nat) → List Char → List Token
  | _, [] => []
  | skip + 1, _ :: cs => scanFrom skip cs
  | 0, c :: cs =>
    match markerDigits? (c :: cs) with
    | some digits => .marker digits :: scanFrom (digits.length + 2) cs
    | none => .char c :: scanFrom 0 cs

/-- The tokens of a text. -/
def scan (cs : List Char) : List Token :=
  scanFrom 0 cs

/-- The characters of a token. -/
def chars : Token → List Char
  | .char c => [c]
  | .marker digits => '$' :: '{' :: digits ++ ['}']

/-- The number of bytes of a token. -/
def byteLength (token : Token) : Nat :=
  Text.byteLength token.chars

/-- The pieces of some tokens, the first of which stands at byte `start`. Fails at
the first slot that does not fit a machine word. -/
def pieces (origin : Origin) : (start : Nat) → List Token → Except Failure (List Piece)
  | _, [] => pure []
  | start, .char c :: rest => do
    let more ← pieces origin (start + c.utf8Size) rest
    pure (.char c :: more)
  | start, .marker digits :: rest =>
    let stop := start + byteLength (.marker digits)
    if Text.digitsValue digits ≤ Text.maxWord then do
      let more ← pieces origin stop rest
      pure (.slot (Text.digitsValue digits) :: more)
    else
      .error (origin.report
        (.unexpectedToken "a sub-procedure slot" (String.ofList digits)) ⟨start, stop⟩)

end Token

/-- The pieces of a text that stands at byte `start`. -/
def piecesOf (origin : Origin) (start : Nat) (cs : List Char) : Except Failure (List Piece) :=
  Token.pieces origin start (Token.scan cs)

end HotReload.Spec
