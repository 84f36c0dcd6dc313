import HotReload.Text.Blank

/-!
# Directives

Every line of a spec is one directive or one line of text. Spaces and tabs in
front of it never change what it is. The forms are tried in a fixed order and the
first that fits decides:

* `---- path ----` opens a file block;
* `****` divides the files from the expectations;
* `::label:: description` opens a condition block, `::` closes it;
* `::label text` is text of one label;
* any other line that begins with `::` or `----` is malformed;
* `# title` is a title line;
* everything else is text.

The first three marks may be longer than shown, and only spaces and tabs may
stand behind a mark that ends a line.
-/

set_option autoImplicit false

namespace HotReload.Spec

/-- Spaces and tabs, which indent a line and separate its words. -/
def isSpace (c : Char) : Bool :=
  c == ' ' || c == '\t'

/-- The characters of a label in the notation. -/
def isLabelChar (c : Char) : Bool :=
  c.isAlphanum || c == '_' || c == '-' || c == '.'

/-- What a line is. -/
inductive Directive
  | fileOpen (path : List Char)
  | divider
  /-- The opening of a condition block, with what stands behind it. -/
  | blockOpen (label description : List Char)
  | blockClose
  /-- A line of one label, with the text behind the label. -/
  | condition (label text : List Char)
  /-- A line that begins like a delimiter and is none. -/
  | malformed
  | title (text : List Char)
  | text
deriving DecidableEq, Repr

namespace Directive

/-! ## Pieces of a line -/

/-- What stands behind a mark at the beginning of a text. -/
def behind? : (mark : List Char) → List Char → Option (List Char)
  | [], cs => some cs
  | _ :: _, [] => none
  | m :: mark, c :: cs => if m = c then behind? mark cs else none

/-- What stands behind one or more spaces at the beginning of a text. -/
def behindSpaces? : List Char → Option (List Char)
  | [] => none
  | c :: cs => if isSpace c then some (cs.dropWhile isSpace) else none

/-- What stands behind a word that ends the line or is followed by a space. -/
def behindWord? : List Char → Option (List Char)
  | [] => some []
  | c :: cs => behindSpaces? (c :: cs)

/-- A text that is not empty. -/
def nonempty? (cs : List Char) : Option (List Char) :=
  if cs.isEmpty then none else some cs

/-! ## The forms -/

/-- The path of a line `---- path ----`. -/
def fileOpen? (cs : List Char) : Option (List Char) := do
  let cs ← behind? ['-', '-', '-', '-'] cs
  let cs ← behindSpaces? (cs.dropWhile (· == '-'))
  let path ← nonempty? (cs.takeWhile fun c => !isSpace c)
  let cs ← behindSpaces? (cs.dropWhile fun c => !isSpace c)
  let cs ← behind? ['-', '-', '-'] cs
  if (cs.dropWhile (· == '-')).all isSpace then some path else none

/-- Whether a line is `****`. -/
def isDivider (cs : List Char) : Bool :=
  match behind? ['*', '*', '*', '*'] cs with
  | some cs => (cs.dropWhile (· == '*')).all isSpace
  | none => false

/-- The label behind `::`, and what stands behind the label. -/
def labelled? (cs : List Char) : Option (List Char × List Char) := do
  let cs ← behind? [':', ':'] cs
  let label ← nonempty? (cs.takeWhile isLabelChar)
  pure (label, cs.dropWhile isLabelChar)

/-- The label and the description of a line `::label:: description`. -/
def blockOpen? (cs : List Char) : Option (List Char × List Char) := do
  let (label, cs) ← labelled? cs
  let words ← behindWord? (← behind? [':', ':'] cs)
  pure (label, words)

/-- Whether a line is `::`. -/
def isBlockClose (cs : List Char) : Bool :=
  match behind? [':', ':'] cs with
  | some cs => (cs.dropWhile (· == ':')).all isSpace
  | none => false

/-- The label and the text of a line `::label text`. -/
def condition? (cs : List Char) : Option (List Char × List Char) := do
  let (label, cs) ← labelled? cs
  let words ← behindWord? cs
  pure (label, words)

/-- Whether a line begins like a delimiter. -/
def isDelimiterLike (cs : List Char) : Bool :=
  (behind? [':', ':'] cs).isSome || (behind? ['-', '-', '-', '-'] cs).isSome

/-- The text of a line `# title`. -/
def title? (cs : List Char) : Option (List Char) := do
  behindSpaces? (← behind? ['#'] cs)

/-- What a line without its indentation is. -/
def ofBody (cs : List Char) : Directive :=
  match fileOpen? cs with
  | some path => .fileOpen path
  | none =>
  if isDivider cs then .divider else
  match blockOpen? cs with
  | some (label, description) => .blockOpen label description
  | none =>
  if isBlockClose cs then .blockClose else
  match condition? cs with
  | some (label, words) => .condition label words
  | none =>
  if isDelimiterLike cs then .malformed else
  match title? cs with
  | some words => .title words
  | none => .text

/-- What a line is. -/
def ofLine (cs : List Char) : Directive :=
  ofBody (cs.dropWhile isSpace)

/-- Indentation never changes what a line is. -/
theorem ofLine_space (c : Char) (cs : List Char) (space : isSpace c = true) :
    ofLine (c :: cs) = ofLine cs := by
  simp [ofLine, space]

end Directive

end HotReload.Spec
