import HotReload.Text.Extender

/-!
# Quoted texts

A quoted text stands between quotation marks. Inside, a quotation mark and a
backslash follow a backslash; the null character, the tab and the two line
terminators have letters; every other character that has no printed form, or
that would attach to the character before it, is written by its number in
hexadecimal. All other characters stand for themselves.
-/

set_option autoImplicit false

namespace HotReload.Text

/-- A character by its number, as in `\u{1b}`. -/
def numberedChar (c : Char) : List Char :=
  ['\\', 'u', '{'] ++ Nat.toDigits 16 c.toNat ++ ['}']

/-- The form of one character inside a quoted text. -/
def quotedChar (c : Char) : List Char :=
  if c = '\x00' then ['\\', '0']
  else if c = '\t' then ['\\', 't']
  else if c = '\r' then ['\\', 'r']
  else if c = '\n' then ['\\', 'n']
  else if c = '"' then ['\\', '"']
  else if c = '\\' then ['\\', '\\']
  else if ' ' ≤ c && c ≤ '~' then [c]
  else if isExtender c || isUnprinted c then numberedChar c
  else [c]

/-- The quoted form of a text. -/
def quotedChars (cs : List Char) : List Char :=
  '"' :: cs.flatMap quotedChar ++ ['"']

/-- The quoted form of a string. -/
def quoted (s : String) : String :=
  String.ofList (quotedChars s.toList)

end HotReload.Text
