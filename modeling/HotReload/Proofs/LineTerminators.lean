import HotReload.Proofs.Spanless

/-!
# Line terminators

A text whose lines end at line feeds may as well end them at carriage returns, with or without a
line feed behind each. Its lines have the same characters (`lines_terminated`), and so it is read
alike (`read_terminated`).
-/

set_option autoImplicit false

namespace HotReload

namespace Text

/-- The text with something else in the place of each line feed. -/
def terminated (terminator cs : List Char) : List Char :=
  cs.flatMap fun c => if c = '\n' then terminator else [c]

/-- The terminators of a line that begin with a carriage return. -/
def returns : List (List Char) :=
  [['\r', '\n'], ['\r']]

variable {cs terminator : List Char}

/-- A character that ends no line belongs to the first one. -/
theorem map_chars_linesFrom_cons {c : Char} (feed : c ≠ '\n') (carriage : c ≠ '\r') (start : Nat)
    (rest : List Char) : (linesFrom start (c :: rest)).map Line.chars =
      ((linesFrom (start + c.utf8Size) rest).map Line.chars).modifyHead (c :: ·) := by
  rw [linesFrom, if_neg (by simp [feed, carriage])]
  · split
    · exact absurd (by assumption) (linesFrom_ne_nil _ _)
    · rename_i whole
      simp [whole]
  · simp [carriage]

/-- A line ends at a carriage return, together with the line feed behind it. -/
theorem linesFrom_returns (ends : terminator ∈ returns) {rest : List Char}
    (other : rest.head? ≠ some '\n') (start : Nat) :
    linesFrom start (terminator ++ rest) =
      ⟨start, []⟩ :: linesFrom (start + byteLength terminator) rest := by
  simp only [returns, List.mem_cons, List.not_mem_nil, or_false] at ends
  rcases ends with rfl | rfl
  · rfl
  · cases rest with
    | nil => rfl
    | cons c rest =>
        have other : c ≠ '\n' := by simpa using other
        rw [List.singleton_append, linesFrom]
        · rfl
        · simp [other]

/-- No line feed stands at the beginning, which a carriage return could take. -/
theorem head?_terminated (ends : terminator ∈ returns) (cs : List Char) :
    (terminated terminator cs).head? ≠ some '\n' := by
  cases cs with
  | nil => simp [terminated]
  | cons c rest =>
      simp only [returns, List.mem_cons, List.not_mem_nil, or_false] at ends
      by_cases feed : c = '\n'
      · rcases ends with rfl | rfl <;> simp [terminated, feed]
      · simp [terminated, feed]

/-- **Other terminators leave the characters of the lines.** -/
theorem lines_terminated (ends : terminator ∈ returns) (plain : '\r' ∉ cs) (start start' : Nat) :
    (linesFrom start (terminated terminator cs)).map Line.chars =
      (linesFrom start' cs).map Line.chars := by
  induction cs generalizing start start' with
  | nil => rfl
  | cons c rest ih =>
      obtain ⟨carriage, later⟩ := not_or.1 (mt List.mem_cons.2 plain)
      by_cases feed : c = '\n'
      · subst feed
        have front : terminated terminator ('\n' :: rest) =
            terminator ++ terminated terminator rest := by
          simp [terminated]
        rw [front, linesFrom_returns ends (head?_terminated ends rest)]
        simp [linesFrom, ih later _ (start' + 1)]
      · have front : terminated terminator (c :: rest) = c :: terminated terminator rest := by
          simp [terminated, feed]
        rw [front, map_chars_linesFrom_cons feed (Ne.symm carriage),
          map_chars_linesFrom_cons feed (Ne.symm carriage), ih later]

end Text

namespace Spec

/-- **Line terminators do not matter.** A text without carriage returns is read alike when its lines
end at carriage returns, with or without line feeds: as a document that differs in its spans only,
or it is refused for the same reason. So is the text of a test. -/
theorem read_terminated (source : String) {text : String} (plain : '\r' ∉ text.toList)
    {terminator : List Char} (ends : terminator ∈ Text.returns) :
    outcome Document.spanless
        (Document.read source (String.ofList (Text.terminated terminator text.toList))) =
      outcome Document.spanless (Document.read source text) ∧
    outcome Document.spanless
        (Document.readTest source (String.ofList (Text.terminated terminator text.toList))) =
      outcome Document.spanless (Document.readTest source text) := by
  have same : (Text.lines (String.ofList (Text.terminated terminator text.toList)).toList).map
      Text.Line.chars = (Text.lines text.toList).map Text.Line.chars := by
    rw [String.toList_ofList]
    exact Text.lines_terminated ends plain 0 0
  exact ⟨read_congr same source, readTest_congr same source⟩

/-- A text in which spaces, a block and a marker stand at the ends of lines. -/
def trailingSource : String :=
  "# t \n---- f ----  \n::0:: d \nx\n\n::\n****\n::0 <p>$\x7b1\x7d\n"

/-- What is read from it, with other terminators or without. -/
theorem read_terminated_trailingSource :
    '\r' ∉ trailingSource.toList ∧ ['\r', '\n'] ∈ Text.returns ∧
      ∃ document document',
        Document.read "input" trailingSource = .ok document ∧
        Document.read "input"
          (String.ofList (Text.terminated ['\r', '\n'] trailingSource.toList)) = .ok document' ∧
        document'.spanless = document.spanless ∧ document' ≠ document := by
  have plain : '\r' ∉ trailingSource.toList := by decide +kernel
  have ends : ['\r', '\n'] ∈ Text.returns := List.mem_cons_self
  have moved : (Document.read "input"
      (String.ofList (Text.terminated ['\r', '\n'] trailingSource.toList))).toOption ≠
        (Document.read "input" trailingSource).toOption := by
    decide +kernel
  have accepted : (Document.read "input" trailingSource).isOk = true := by decide +kernel
  exact ⟨plain, ends, exists_ok_of_moved accepted (read_terminated "input" plain ends).1 moved⟩

end Spec

end HotReload
