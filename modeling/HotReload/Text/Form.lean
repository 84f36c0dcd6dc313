import HotReload.Text.Quoted

/-!
# Structural forms

A structural form shows a value by its parts: records with named fields, tagged
values with positional parts, sequences and maps. `Form.inline` writes it on one
line. `Form.block` gives every part a line of its own, indented by four blanks
for each level and closed by a comma; empty sequences and maps stay on one line.
-/

set_option autoImplicit false

namespace HotReload.Text

/-- The parts of a value, as they are shown. -/
inductive Form
  /-- A text that is shown as it is. -/
  | atom (text : String)
  | record (name : String) (fields : List (String × Form))
  /-- A tag with positional parts; the tag of a plain tuple is empty. -/
  | tagged (name : String) (parts : List Form)
  | sequence (items : List Form)
  /-- A map, in key order; the keys are texts that are shown as they are. -/
  | mapping (entries : List (String × Form))
  /-- A part with a name in front of it. -/
  | named (name : String) (part : Form)

namespace Form

/-! ## Common values -/

/-- A string, quoted. -/
def text (s : String) : Form :=
  .atom (quoted s)

/-- A truth value. -/
def bool (b : Bool) : Form :=
  .atom (if b then "true" else "false")

/-- A natural number. -/
def nat (n : Nat) : Form :=
  .atom (toString n)

/-- An optional value. -/
def option : Option Form → Form
  | none => .atom "None"
  | some form => .tagged "Some" [form]

/-! ## One line -/

mutual

/-- The form on one line. -/
def inline : Form → String
  | .atom text => text
  | .record name [] => name
  | .record name (field :: fields) =>
    name ++ " \x7b " ++ ", ".intercalate (inlineFields (field :: fields)) ++ " \x7d"
  | .tagged name parts => name ++ "(" ++ ", ".intercalate (inlineParts parts) ++ ")"
  | .sequence items => "[" ++ ", ".intercalate (inlineParts items) ++ "]"
  | .mapping entries => "\x7b" ++ ", ".intercalate (inlineFields entries) ++ "\x7d"
  | .named name part => name ++ " " ++ part.inline

/-- The positional parts, each on one line. -/
def inlineParts : List Form → List String
  | [] => []
  | part :: rest => part.inline :: inlineParts rest

/-- The named parts, each on one line. -/
def inlineFields : List (String × Form) → List String
  | [] => []
  | (name, part) :: rest => (name ++ ": " ++ part.inline) :: inlineFields rest

end

/-! ## One part a line -/

/-- Puts a text before the first of some lines. -/
def leadWith (lead : String) : List String → List String
  | [] => [lead]
  | line :: rest => (lead ++ line) :: rest

/-- Puts a comma behind the last of some lines. -/
def endWithComma : List String → List String
  | [] => [","]
  | [line] => [line ++ ","]
  | line :: rest => line :: endWithComma rest

/-- Opens and closes a group of parts, which are indented by one level. -/
def enclosed (opening closing : String) (parts : List String) : List String :=
  if parts.isEmpty then [opening ++ closing]
  else opening :: parts.map ("    " ++ ·) ++ [closing]

mutual

/-- The lines of the form. -/
def blockLines : Form → List String
  | .atom text => [text]
  | .record name [] => [name]
  | .record name (field :: fields) =>
    enclosed (name ++ " \x7b") "\x7d" (blockFields (field :: fields))
  | .tagged name parts => enclosed (name ++ "(") ")" (blockParts parts)
  | .sequence items => enclosed "[" "]" (blockParts items)
  | .mapping entries => enclosed "\x7b" "\x7d" (blockFields entries)
  | .named name part => leadWith (name ++ " ") part.blockLines

/-- The lines of the positional parts. -/
def blockParts : List Form → List String
  | [] => []
  | part :: rest => endWithComma part.blockLines ++ blockParts rest

/-- The lines of the named parts. -/
def blockFields : List (String × Form) → List String
  | [] => []
  | (name, part) :: rest =>
    endWithComma (leadWith (name ++ ": ") part.blockLines) ++ blockFields rest

end

/-- The form with one part a line. -/
def block (form : Form) : String :=
  "\n".intercalate form.blockLines

end Form

end HotReload.Text
