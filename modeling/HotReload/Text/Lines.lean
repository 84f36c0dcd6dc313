/-!
# Lines of a text

A line ends at a line feed, at a carriage return, or at a carriage return with
the line feed right behind it. The text after the last terminator is a line of
its own, so every text has at least one line.

Each line carries the byte offset of its first character. Offsets and lengths
count the bytes of the UTF-8 form.
-/

set_option autoImplicit false

namespace HotReload.Text

/-- The number of bytes of a text in UTF-8. -/
def byteLength : List Char → Nat
  | [] => 0
  | c :: rest => c.utf8Size + byteLength rest

@[simp] theorem byteLength_nil : byteLength [] = 0 := rfl

@[simp] theorem byteLength_cons (c : Char) (rest : List Char) :
    byteLength (c :: rest) = c.utf8Size + byteLength rest := rfl

/-- Lengths of neighbouring texts add up. -/
@[simp] theorem byteLength_append (first second : List Char) :
    byteLength (first ++ second) = byteLength first + byteLength second := by
  induction first with
  | nil => simp
  | cons c rest ih => simp [ih, Nat.add_assoc]

/-- One line of a text, without its terminator. -/
structure Line where
  /-- Byte offset of the first character. -/
  start : Nat
  /-- The characters up to the terminator. -/
  chars : List Char
deriving Repr, DecidableEq

/-- Byte offset just behind the last character of a line. -/
def Line.stop (line : Line) : Nat :=
  line.start + byteLength line.chars

/-- The lines of a text that begins at byte offset `start`. -/
def linesFrom (start : Nat) : List Char → List Line
  | [] => [⟨start, []⟩]
  | '\r' :: '\n' :: rest => ⟨start, []⟩ :: linesFrom (start + 2) rest
  | c :: rest =>
    if c = '\n' ∨ c = '\r' then ⟨start, []⟩ :: linesFrom (start + 1) rest
    else
      match linesFrom (start + c.utf8Size) rest with
      | [] => [⟨start, [c]⟩]
      | line :: more => ⟨start, c :: line.chars⟩ :: more

/-- The lines of a text, in order. -/
def lines (cs : List Char) : List Line :=
  linesFrom 0 cs

/-- A text has at least one line. -/
theorem linesFrom_ne_nil (start : Nat) (cs : List Char) : linesFrom start cs ≠ [] := by
  fun_cases linesFrom start cs <;> simp_all

/-- The pieces of a text between the characters equal to `separator`. -/
def splitAt (separator : Char) : List Char → List (List Char)
  | [] => [[]]
  | c :: rest =>
    if c = separator then [] :: splitAt separator rest
    else
      match splitAt separator rest with
      | [] => [[c]]
      | piece :: more => (c :: piece) :: more

end HotReload.Text
