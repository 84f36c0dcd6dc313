import HotReload.Proofs.Markers
import HotReload.Spec.Steps

/-!
# Texts with their markers put back

A part keeps its text without markers, and for each marker the slot and the byte offset at
which it stood. So what was written can be told from a part: `Part.written` cuts the text at
the offsets and puts a marker at each cut. A buffer that has only taken pieces gives these
pieces back, except that slots lose their leading zeros (`restored_markersFrom`), and this
holds line by line: each line that a buffer takes becomes one more whole line of its text
(`Buffer.Spells.addLine`).
-/

set_option autoImplicit false

namespace HotReload.Spec

/-! ## Markers and their places -/

/-- A marker as it is written, without leading zeros. -/
def markerText (slot : Nat) : List Char :=
  (Token.marker (Text.decimal slot)).chars

/-- Puts markers back into a text that begins at byte `left` of its part. -/
def restored (left : Nat) : List Marker → List Char → List Char
  | [], cs => cs
  | marker :: rest, cs =>
    (cut (marker.offset - left) cs).1 ++ markerText marker.slot ++
      restored marker.offset rest (cut (marker.offset - left) cs).2

/-- The text of a part with its markers. -/
def Part.written (part : Part) : List Char :=
  restored 0 part.markers part.text.toList

/-- The text of a buffer with its markers. -/
def Buffer.written (buffer : Buffer) : List Char :=
  restored 0 buffer.markers buffer.text

/-- The characters of a piece as it is written. -/
def Piece.chars : Piece → List Char
  | .char c => [c]
  | .slot n => markerText n

/-- The characters of a piece that a buffer takes over into its text. -/
def Piece.plain : Piece → List Char
  | .char c => [c]
  | .slot _ => []

/-- A text with its slots written without leading zeros. -/
def keptText (cs : List Char) : List Char :=
  (piecesIn cs).flatMap Piece.chars

/-- The markers among some pieces, the first of which stands at byte `offset`. -/
def markersFrom (offset : Nat) : List Piece → List Marker
  | [] => []
  | .char c :: rest => markersFrom (offset + c.utf8Size) rest
  | .slot n :: rest => ⟨n, offset⟩ :: markersFrom offset rest

variable {cs : List Char} {pieces more : List Piece} {offset : Nat} {c : Char}

theorem markersFrom_append :
    markersFrom offset (pieces ++ more) = markersFrom offset pieces ++
      markersFrom (offset + Text.byteLength (pieces.flatMap Piece.plain)) more := by
  induction pieces generalizing offset with
  | nil => simp [markersFrom]
  | cons piece pieces ih =>
      cases piece <;> simp [markersFrom, Piece.plain, ih, Nat.add_assoc]

theorem le_offset_of_mem_markersFrom {marker : Marker}
    (mem : marker ∈ markersFrom offset pieces) : offset ≤ marker.offset := by
  induction pieces generalizing offset with
  | nil => exact absurd mem List.not_mem_nil
  | cons piece pieces ih =>
      cases piece with
      | char c =>
          have := ih mem
          omega
      | slot n =>
          rcases List.mem_cons.1 mem with rfl | later
          · exact Nat.le_refl _
          · exact ih later

@[simp] theorem cut_zero : cut 0 cs = ([], cs) := by
  cases cs with
  | nil => rfl
  | cons c cs =>
      have := c.utf8Size_pos
      simp [cut]
      omega

/-- A character in front of all markers stays in front. -/
theorem restored_cons {markers : List Marker}
    (behind : ∀ marker ∈ markers, offset + c.utf8Size ≤ marker.offset) :
    restored offset markers (c :: cs) = c :: restored (offset + c.utf8Size) markers cs := by
  cases markers with
  | nil => rfl
  | cons marker rest =>
      have le := behind marker List.mem_cons_self
      have fits : c.utf8Size ≤ marker.offset - offset := by omega
      have left : marker.offset - offset - c.utf8Size = marker.offset - (offset + c.utf8Size) := by
        omega
      simp [restored, cut, fits, left]

/-- **Putting the markers back gives the pieces as they were written.** -/
theorem restored_markersFrom (offset : Nat) (pieces : List Piece) :
    restored offset (markersFrom offset pieces) (pieces.flatMap Piece.plain) =
      pieces.flatMap Piece.chars := by
  induction pieces generalizing offset with
  | nil => rfl
  | cons piece pieces ih =>
      cases piece with
      | char c =>
          have behind : ∀ marker ∈ markersFrom (offset + c.utf8Size) pieces,
              offset + c.utf8Size ≤ marker.offset :=
            fun _ mem => le_offset_of_mem_markersFrom mem
          simp [markersFrom, Piece.plain, Piece.chars, restored_cons behind, ih]
      | slot n => simp [markersFrom, Piece.plain, Piece.chars, restored, ih]

/-! ## What is kept of a text -/

theorem isBlank_of_isDigit (digit : c.isDigit = true) : Text.isBlank c = false := by
  have range : 48 ≤ c.toNat ∧ c.toNat ≤ 57 := by
    simpa [Char.isDigit, UInt32.le_iff_toNat_le] using digit
  simp only [Text.isBlank, Bool.or_eq_false_iff, Bool.and_eq_false_iff, decide_eq_false_iff_not,
    beq_eq_false_iff_ne]
  omega

theorem isBlank_of_mem_markerText {slot : Nat} (mem : c ∈ markerText slot) :
    Text.isBlank c = false := by
  have digits : ∀ d ∈ Text.decimal slot, Text.isBlank d = false := fun d there =>
    isBlank_of_isDigit (Nat.isDigit_of_mem_toDigits (by decide) (by decide) there)
  simp only [markerText, Token.chars, List.cons_append, List.mem_cons, List.mem_append,
    List.not_mem_nil, or_false] at mem
  rcases mem with rfl | rfl | there | rfl
  · decide
  · decide
  · exact digits c there
  · decide

theorem keptText_eq (cs : List Char) :
    keptText cs = (Token.scan cs).flatMap fun token => token.piece.chars := by
  rw [keptText, piecesIn, List.flatMap_map]

/-- A blank text is blank all over when its slots are written in full, and the other way round. -/
theorem allBlank_keptText (cs : List Char) : Text.allBlank (keptText cs) = Text.allBlank cs := by
  have alike (token : Token) :
      token.piece.chars.all Text.isBlank = token.chars.all Text.isBlank := by
    cases token with
    | char c => rfl
    | marker digits =>
        have shown : Text.isBlank '$' = false := by decide
        simp [Token.piece, Piece.chars, markerText, Token.chars, shown]
  calc Text.allBlank (keptText cs)
      = (Token.scan cs).all fun token => token.piece.chars.all Text.isBlank := by
        rw [keptText_eq, Text.allBlank, List.all_flatMap]
    _ = ((Token.scan cs).flatMap Token.chars).all Text.isBlank := by
        rw [List.all_flatMap]
        simp only [alike]
    _ = Text.allBlank cs := by rw [flatMap_chars_scan, Text.allBlank]

/-- A text without line feeds gets none. -/
theorem lineFeed_notMem_keptText (free : '\n' ∉ cs) : '\n' ∉ keptText cs := by
  rw [keptText_eq]
  intro mem
  obtain ⟨token, found, there⟩ := List.mem_flatMap.1 mem
  cases token with
  | char c =>
      obtain rfl := List.mem_singleton.1 there
      apply free
      rw [← flatMap_chars_scan cs]
      exact List.mem_flatMap.2 ⟨_, found, List.mem_singleton_self _⟩
  | marker digits => exact absurd (isBlank_of_mem_markerText there) (by decide)

theorem piecesIn_eq_nil_iff : piecesIn cs = [] ↔ cs = [] := by
  cases cs with
  | nil => simp [piecesIn, Token.scan, Token.scanFrom]
  | cons c cs =>
      simp only [piecesIn, Token.scan, Token.scanFrom, List.map_eq_nil_iff]
      split <;> simp

/-! ## Whole lines -/

/-- A line together with the line feed that ends it. -/
def EndedLine (line : List Char) : Prop :=
  ∃ cs, '\n' ∉ cs ∧ line = cs ++ ['\n']

theorem wholeLines_append_of_notMem {rest : List Char} (free : '\n' ∉ cs) :
    wholeLines (cs ++ '\n' :: rest) = (cs ++ ['\n']) :: wholeLines rest := by
  induction cs with
  | nil => simp [wholeLines]
  | cons c cs ih =>
      obtain ⟨other, free⟩ := not_or.1 (mt List.mem_cons.2 free)
      rw [List.cons_append, wholeLines, if_neg (Ne.symm other), ih free]
      rfl

/-- Lines that are put together are told apart again. -/
theorem wholeLines_flatten {lines : List (List Char)} (ended : ∀ line ∈ lines, EndedLine line) :
    wholeLines lines.flatten = lines := by
  induction lines with
  | nil => rfl
  | cons line lines ih =>
      obtain ⟨cs, free, rfl⟩ := ended line List.mem_cons_self
      have later := ih fun other mem => ended other (List.mem_cons_of_mem _ mem)
      rw [List.flatten_cons, List.append_assoc, List.singleton_append,
        wholeLines_append_of_notMem free, later]

/-- The lines of a text put together again. -/
theorem flatten_wholeLines (cs : List Char) : (wholeLines cs).flatten = cs := by
  fun_induction wholeLines cs with
  | case1 => rfl
  | case2 cs ih => simp [ih]
  | case3 c cs _ none ih =>
      rw [none] at ih
      simp [← ih]
  | case4 c cs _ line more whole ih =>
      rw [whole] at ih
      simp [← ih]

/-! ## Buffers -/

namespace Buffer

/-- A buffer has taken some lines. -/
structure Spells (buffer : Buffer) (lines : List (List Char)) : Prop where
  pieces : ∃ pieces, buffer.text = pieces.flatMap Piece.plain ∧
    buffer.markers = markersFrom 0 pieces ∧ pieces.flatMap Piece.chars = lines.flatten
  ended : ∀ line ∈ lines, EndedLine line

variable {buffer : Buffer} {lines : List (List Char)} {span : Span}

theorem foldl_add (pieces : List Piece) (buffer : Buffer) :
    pieces.foldl add buffer =
      { buffer with
        text := buffer.text ++ pieces.flatMap Piece.plain
        markers := buffer.markers ++ markersFrom (Text.byteLength buffer.text) pieces } := by
  induction pieces generalizing buffer with
  | nil => simp [markersFrom]
  | cons piece pieces ih =>
      cases piece <;> simp [ih, add, Piece.plain, markersFrom]

theorem Spells.empty (span : Span) : Spells { span } [] where
  pieces := ⟨[], rfl, rfl, rfl⟩
  ended := List.forall_mem_nil _

/-- With its markers put back, a buffer has the lines it took. -/
theorem Spells.written (spells : buffer.Spells lines) : buffer.written = lines.flatten := by
  obtain ⟨pieces, text, markers, same⟩ := spells.pieces
  rw [Buffer.written, text, markers, restored_markersFrom, same]

theorem Spells.wholeLines (spells : buffer.Spells lines) : wholeLines buffer.written = lines := by
  rw [spells.written, wholeLines_flatten spells.ended]

/-- **A buffer takes one line more.** -/
theorem Spells.addLine (spells : buffer.Spells lines) (free : '\n' ∉ cs) :
    (buffer.addLine (piecesIn cs) span).Spells (lines ++ [keptText cs ++ ['\n']]) where
  pieces := by
    obtain ⟨pieces, text, markers, same⟩ := spells.pieces
    refine ⟨pieces ++ piecesIn cs ++ [.char '\n'], ?_, ?_, ?_⟩
    · simp [Buffer.addLine, foldl_add, text, Piece.plain]
    · simp [Buffer.addLine, foldl_add, text, markers, markersFrom_append, markersFrom]
    · simp [same, keptText, Piece.chars]
  ended line mem := by
    rcases List.mem_append.1 mem with earlier | last
    · exact spells.ended line earlier
    · obtain rfl := List.mem_singleton.1 last
      exact ⟨keptText cs, lineFeed_notMem_keptText free, rfl⟩

end Buffer

end HotReload.Spec
