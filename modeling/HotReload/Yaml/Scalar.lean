import HotReload.Yaml.Kind

/-!
# Scalars

A text is written in one of four styles. The plain style is for one line that
neither reads as another kind of value nor holds a mark of the notation. Single
quotation marks hold any other line. A text with line feeds is a literal: an
indented copy of its lines. Where a character has no printable form, or where
blanks would be lost at the end of a line, double quotation marks with escapes take
the place of the other styles.

The further lines of a scalar are indented. What ends a line is a line feed or one
of the other break characters (`isBreak`).
-/

set_option autoImplicit false

namespace HotReload.Yaml

/-- How a text is written. -/
inductive Style
  | plain
  /-- Between single quotation marks. -/
  | single
  /-- Between double quotation marks, with escapes. -/
  | double
  /-- As an indented copy of its lines. -/
  | literal
deriving DecidableEq, Repr

/-! ## Characters -/

/-- The characters that end a line. -/
def isBreak (c : Char) : Bool :=
  c = '\n' || c = '\r' || c = '\u0085' || c = '\u2028' || c = '\u2029'

/-- The characters that may stand unescaped: no controls but the line feed, no byte
order mark, and neither of the two last code points of the basic plane. -/
def isPrintable (c : Char) : Bool :=
  let n := c.toNat
  n == 0xA || (0x20 ≤ n && n ≤ 0x7E) || (0xA0 ≤ n && n ≤ 0xFFFD && n != 0xFEFF) || 0x10000 ≤ n

/-- The characters that cannot begin a plain text. -/
def indicators : List Char :=
  "#,[]\x7b\x7d&*!|>'\"%@`".toList

/-! ## Which style a text admits -/

/-- Whether a character of the first class stands directly in front of one of the
second. -/
def adjoins (first second : Char → Bool) : List Char → Bool
  | a :: b :: rest => (first a && second b) || adjoins first second (b :: rest)
  | _ => false

/-- Whether a character is a space. -/
def isSpace (c : Char) : Bool :=
  c = ' '

/-- Whether the last character is in a class. -/
def endsIn (kind : Char → Bool) (cs : List Char) : Bool :=
  (cs.getLast?.map kind).getD false

/-- Whether the first character is in a class. -/
def beginsIn (kind : Char → Bool) (cs : List Char) : Bool :=
  (cs.head?.map kind).getD false

/-- Whether a text can only be written with escapes: it has a character without
printable form, or a space that ends a line. -/
def needsEscapes (cs : List Char) : Bool :=
  !cs.all isPrintable || adjoins isSpace isBreak cs

/-- Whether a text can be a literal. -/
def admitsLiteral (cs : List Char) : Bool :=
  !needsEscapes cs && !endsIn isSpace cs

/-- Whether a text can stand between single quotation marks, where the blanks that
begin a line are lost. -/
def admitsSingle (cs : List Char) : Bool :=
  !needsEscapes cs && !adjoins isBreak isSpace cs

/-- Whether a line holds a mark of the notation: a colon that ends it or stands in
front of a space, or a number sign behind a space. -/
def hasMark (cs : List Char) : Bool :=
  endsIn (· = ':') cs || adjoins (· = ':') isSpace cs || adjoins isSpace (· = '#') cs

/-- Whether a line begins with a mark of the notation. A dash or a question mark is
one if nothing or a space is behind it. -/
def beginsWithMark (cs : List Char) : Bool :=
  beginsIn indicators.contains cs || "---".toList.isPrefixOf cs || "...".toList.isPrefixOf cs
    || (beginsIn (fun c => c = '-' || c = '?') cs && (cs.tail.isEmpty || beginsIn isSpace cs.tail))

/-- Whether a text can be plain. -/
def admitsPlain (cs : List Char) : Bool :=
  cs.all isPrintable && !cs.any isBreak && !beginsIn isSpace cs && !endsIn isSpace cs
    && !beginsWithMark cs && !hasMark cs

/-- The style of a text. -/
def style (text : String) : Style :=
  let cs := text.toList
  if cs.contains '\n' then if admitsLiteral cs then .literal else .double
  else if !readsAsOther text && admitsPlain cs then .plain
  else if admitsSingle cs then .single
  else .double

/-! ## Written forms -/

/-- Some blanks. -/
def blanks (count : Nat) : List Char :=
  List.replicate count ' '

/-- Puts blanks in front of every line that holds something. The first line counts
only if it is `fresh`. -/
def indentLines (indent : Nat) (fresh : Bool) : List Char → List Char
  | [] => []
  | c :: rest =>
    if isBreak c then c :: indentLines indent true rest
    else (if fresh then blanks indent else []) ++ c :: indentLines indent false rest

/-- A code point as that many digits in base 16. -/
def hexadecimal (width n : Nat) : List Char :=
  let digits := (Nat.toDigits 16 n).map Char.toUpper
  List.replicate (width - digits.length) '0' ++ digits

/-- The escape of a character, behind its backslash. -/
def escape (c : Char) : List Char :=
  match c with
  | '\x00' => ['0']
  | '\x07' => ['a']
  | '\x08' => ['b']
  | '\t' => ['t']
  | '\n' => ['n']
  | '\x0b' => ['v']
  | '\x0c' => ['f']
  | '\r' => ['r']
  | '\x1b' => ['e']
  | '"' => ['"']
  | '\\' => ['\\']
  | '\u0085' => ['N']
  | '\u2028' => ['L']
  | '\u2029' => ['P']
  | c =>
    if c.toNat ≤ 0xFF then 'x' :: hexadecimal 2 c.toNat
    else if c.toNat ≤ 0xFFFF then 'u' :: hexadecimal 4 c.toNat
    else 'U' :: hexadecimal 8 c.toNat

/-- A character between double quotation marks. -/
def escaped (c : Char) : List Char :=
  if !isPrintable c || isBreak c || c = '"' || c = '\\' then '\\' :: escape c else [c]

/-- A character between single quotation marks. -/
def doubled (c : Char) : List Char :=
  if c = '\'' then [c, c] else [c]

/-- What the header of a literal says about the line breaks at its end: a minus sign
if there is none, a plus sign if there is more than one, or nothing else in front of
it. -/
def chomping (cs : List Char) : List Char :=
  match cs.reverse with
  | [] => ['-']
  | [c] => if isBreak c then ['+'] else ['-']
  | c :: before :: _ => if !isBreak c then ['-'] else if isBreak before then ['+'] else []

/-- The header of a literal. It states the indentation if the first line does not
show it. -/
def header (cs : List Char) : List Char :=
  '|' :: (if beginsIn (fun c => isSpace c || isBreak c) cs then ['2'] else []) ++ chomping cs

/-- A text as a scalar whose further lines are indented by `indent`. -/
def scalar (indent : Nat) (text : String) : List Char :=
  let cs := text.toList
  match style text with
  | .plain => cs
  | .single => '\'' :: indentLines indent false (cs.flatMap doubled ++ ['\''])
  | .double => '"' :: cs.flatMap escaped ++ ['"']
  | .literal => header cs ++ '\n' :: indentLines indent true cs

end HotReload.Yaml
