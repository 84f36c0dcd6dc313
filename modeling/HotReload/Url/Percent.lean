import HotReload.Text.Numeral

/-!
# Percent encoding

A URL keeps only some ASCII characters as they are. Every other character is written
by the bytes of its UTF-8 form, each as a percent sign with two hexadecimal digits.
Which ASCII characters are written so depends on the part of the URL; the sets of
the parts are built up from each other.
-/

set_option autoImplicit false

namespace HotReload.Url

/-- A hexadecimal digit in upper case. -/
def hexDigit (n : Nat) : Char :=
  if n < 10 then Char.ofNat ('0'.toNat + n) else Char.ofNat ('A'.toNat + n - 10)

/-- A byte as a percent sign with two digits. -/
def encodedByte (byte : UInt8) : List Char :=
  ['%', hexDigit (byte.toNat / 16), hexDigit (byte.toNat % 16)]

/-- Writes by bytes what is not ASCII and what belongs to a set. -/
def encode (special : Char → Bool) (cs : List Char) : List Char :=
  cs.flatMap fun c =>
    if c.toNat < 0x80 && !special c then [c]
    else (String.utf8EncodeChar c).flatMap encodedByte

/-- Control characters. -/
def isControl (c : Char) : Bool :=
  c.toNat < 0x20 || c.toNat == 0x7F

/-- What is encoded in a fragment. -/
def inFragment (c : Char) : Bool :=
  isControl c || c == ' ' || c == '"' || c == '<' || c == '>' || c == '`'

/-- What is encoded in a query. URLs of the web also encode the apostrophe. -/
def inQuery (isWeb : Bool) (c : Char) : Bool :=
  isControl c || c == ' ' || c == '"' || c == '#' || c == '<' || c == '>'
    || (isWeb && c == '\'')

/-- What is encoded in a path. -/
def inPath (c : Char) : Bool :=
  inFragment c || c == '#' || c == '?' || c == '{' || c == '}'

/-- What is encoded in one segment that is appended to a path. -/
def inSegment (isWeb : Bool) (c : Char) : Bool :=
  inPath c || c == '/' || c == '%' || (isWeb && c == '\\')

/-- What is encoded in a user name or password. -/
def inUser (c : Char) : Bool :=
  inPath c || c == '/' || c == ':' || c == ';' || c == '=' || c == '@' || c == '['
    || c == '\\' || c == ']' || c == '^' || c == '|'

/-- The value of a hexadecimal digit at the beginning of a text. -/
def hexValue? (cs : List Char) : Option Nat :=
  cs.head?.bind Text.digitValue?

/-- The bytes of a text whose encoded bytes are put back. The first `skip` characters
belong to a byte that has been put back. -/
def decodedBytesFrom : (skip : Nat) → List Char → List UInt8
  | _, [] => []
  | skip + 1, _ :: cs => decodedBytesFrom skip cs
  | 0, c :: cs =>
    match c, hexValue? cs, hexValue? (cs.drop 1) with
    | '%', some high, some low => UInt8.ofNat (16 * high + low) :: decodedBytesFrom 2 cs
    | _, _, _ => String.utf8EncodeChar c ++ decodedBytesFrom 0 cs

/-- A text with its encoded bytes put back; none if they are no text. -/
def decode? (cs : List Char) : Option (List Char) :=
  (String.fromUTF8? (ByteArray.mk (decodedBytesFrom 0 cs).toArray)).map String.toList

end HotReload.Url
