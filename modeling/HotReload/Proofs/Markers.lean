import HotReload.Proofs.SpecReading

/-!
# The markers that a reader finds

A text contains a marker when a dollar sign with digits in braces occurs anywhere in it. The
scan goes from left to right and jumps behind each marker it finds. It misses none, because a
dollar sign only stands at the front of a marker, so that two markers never overlap
(`mem_scan_iff`).

A text can be cut into pieces exactly when all its slots fit a machine word
(`piecesOf_eq_ok_iff`), and a buffer that takes these pieces gets a marker exactly when the
text contains one (`markers_addLine_piecesIn_iff`).
-/

set_option autoImplicit false

namespace HotReload.Spec

/-! ## Occurrences -/

/-- A text contains the marker with some digits. -/
def HasMarker (digits cs : List Char) : Prop :=
  digits ≠ [] ∧ digits.all Text.isDigit = true ∧ (Token.marker digits).chars <:+: cs

/-- A text contains no marker. -/
def Unmarked (cs : List Char) : Prop :=
  ∀ digits, ¬ HasMarker digits cs

/-- The slots of a text fit a machine word. -/
def SlotsFit (cs : List Char) : Prop :=
  ∀ digits, HasMarker digits cs → Text.digitsValue digits ≤ Text.maxWord

variable {digits cs : List Char} {c : Char}

theorem not_hasMarker_nil : ¬ HasMarker digits [] := by
  rintro ⟨-, -, inside⟩
  exact nomatch List.infix_nil.1 inside

/-- A marker stands at the front of a text or behind its first character. -/
theorem hasMarker_cons_iff :
    HasMarker digits (c :: cs) ↔
      (digits ≠ [] ∧ digits.all Text.isDigit = true ∧ (Token.marker digits).chars <+: c :: cs) ∨
        HasMarker digits cs := by
  simp only [HasMarker, List.infix_cons_iff, and_or_left]

/-- No marker begins in front of the first dollar sign. -/
theorem hasMarker_append_iff {front : List Char} (free : '$' ∉ front) :
    HasMarker digits (front ++ cs) ↔ HasMarker digits cs := by
  induction front with
  | nil => rfl
  | cons c front ih =>
      obtain ⟨other, rest⟩ := not_or.1 (mt List.mem_cons.2 free)
      rw [List.cons_append, hasMarker_cons_iff, ih rest, or_iff_right_iff_imp]
      rintro ⟨-, -, opening⟩
      exact absurd (List.cons_prefix_cons.1 opening).1 other

theorem dollar_notMem_takeWhile {kind : Char → Bool} (outside : kind '$' = false) :
    '$' ∉ cs.takeWhile kind := fun mem =>
  Bool.false_ne_true (outside.symm.trans (List.all_eq_true.1 List.all_takeWhile _ mem))

/-! ## The scan -/

/-- The digits that a reader finds are those of a marker at the front of the text. -/
theorem markerDigits?_eq_some_iff :
    Token.markerDigits? cs = some digits ↔
      digits ≠ [] ∧ digits.all Text.isDigit = true ∧ (Token.marker digits).chars <+: cs := by
  constructor
  · intro found
    unfold Token.markerDigits? at found
    split at found
    · rename_i rest
      split at found
      · rename_i closed
        obtain rfl := Option.some.inj found
        obtain ⟨back, ends⟩ : ∃ back, rest.dropWhile Text.isDigit = '}' :: back := by
          obtain ⟨nonempty, closed⟩ := closed
          cases shape : rest.dropWhile Text.isDigit with
          | nil => simp [shape] at closed
          | cons first back => exact ⟨back, by simpa [shape] using closed⟩
        refine ⟨closed.1, List.all_takeWhile, back, ?_⟩
        have whole := List.takeWhile_append_dropWhile (p := Text.isDigit) (l := rest)
        rw [ends] at whole
        simp [Token.chars, whole]
      · exact nomatch found
    · exact nomatch found
  · rintro ⟨nonempty, numeral, back, rfl⟩
    have every : ∀ c ∈ digits, Text.isDigit c = true := List.all_eq_true.1 numeral
    have front : (digits ++ '}' :: back).takeWhile Text.isDigit = digits := by
      rw [List.takeWhile_append_of_pos every]
      simp [Text.isDigit]
    have behind : (digits ++ '}' :: back).dropWhile Text.isDigit = '}' :: back := by
      rw [List.dropWhile_append_of_pos every]
      simp [Text.isDigit]
    simp [Token.chars, Token.markerDigits?, front, behind, nonempty]

/-- Behind a marker at the front of a text, the search goes on behind the marker. -/
theorem hasMarker_of_markerDigits? {found : List Char}
    (atFront : Token.markerDigits? (c :: cs) = some found) :
    HasMarker digits (c :: cs) ↔
      digits = found ∨ HasMarker digits (cs.drop (found.length + 2)) := by
  obtain ⟨-, numeral, back, whole⟩ := markerDigits?_eq_some_iff.1 atFront
  have tail : cs = ('{' :: found ++ ['}']) ++ back := by
    simpa [Token.chars] using (List.cons.inj whole).2.symm
  have free : '$' ∉ '{' :: found ++ ['}'] := by
    have digit : '$' ∉ found := fun mem => absurd (List.all_eq_true.1 numeral _ mem) (by decide)
    simp [digit]
  have behind : cs.drop (found.length + 2) = back := by
    rw [tail]
    exact List.drop_left' (by simp)
  rw [behind, hasMarker_cons_iff, ← markerDigits?_eq_some_iff, atFront, Option.some_inj,
    eq_comm (a := found), tail, hasMarker_append_iff free]

/-- **The scan finds exactly the markers of a text.** -/
theorem mem_scan_iff : .marker digits ∈ Token.scan cs ↔ HasMarker digits cs := by
  suffices every : ∀ skip cs, .marker digits ∈ Token.scanFrom skip cs ↔
      HasMarker digits (cs.drop skip) from every 0 cs
  intro skip cs
  fun_induction Token.scanFrom skip cs with
  | case1 => simp [not_hasMarker_nil]
  | case2 skip c cs ih => simpa using ih
  | case3 c cs found atFront ih =>
      rw [List.mem_cons, ih, List.drop_zero, hasMarker_of_markerDigits? atFront,
        Token.marker.injEq]
  | case4 c cs none ih =>
      rw [List.mem_cons, ih, List.drop_zero, List.drop_zero, hasMarker_cons_iff,
        ← markerDigits?_eq_some_iff, none]
      simp

/-- The tokens of a text put together again. -/
theorem flatMap_chars_scan (cs : List Char) : (Token.scan cs).flatMap Token.chars = cs := by
  suffices every : ∀ skip cs, (Token.scanFrom skip cs).flatMap Token.chars = cs.drop skip from
    every 0 cs
  intro skip cs
  fun_induction Token.scanFrom skip cs with
  | case1 => simp
  | case2 skip c cs ih => simpa using ih
  | case3 c cs found atFront ih =>
      obtain ⟨-, -, back, whole⟩ := markerDigits?_eq_some_iff.1 atFront
      have tail : cs = '{' :: found ++ ['}'] ++ back := by
        simpa [Token.chars] using (List.cons.inj whole).2.symm
      have behind : cs.drop (found.length + 2) = back := by
        rw [tail]
        exact List.drop_left' (by simp)
      rw [List.flatMap_cons, ih, behind, List.drop_zero, whole]
  | case4 c cs none ih => simp [Token.chars, ih]

/-! ## Pieces -/

/-- The piece of a token whose slot fits. -/
def Token.piece : Token → Piece
  | .char c => .char c
  | .marker digits => .slot (Text.digitsValue digits)

variable {origin : Origin} {start : Nat} {pieces : List Piece} {buffer : Buffer} {span : Span}

theorem pieces_eq_ok_iff {tokens : List Token} :
    Token.pieces origin start tokens = .ok pieces ↔
      (∀ digits, .marker digits ∈ tokens → Text.digitsValue digits ≤ Text.maxWord) ∧
        tokens.map Token.piece = pieces := by
  induction tokens generalizing start pieces with
  | nil => simp [Token.pieces, pure, Except.pure]
  | cons token rest ih =>
      cases token with
      | char c => simp [Token.pieces, Token.piece, bind_eq_ok_iff, ih, pure, Except.pure]
      | marker digits =>
          by_cases fits : Text.digitsValue digits ≤ Text.maxWord
          · simp [Token.pieces, Token.piece, bind_eq_ok_iff, ih, pure, Except.pure, fits]
          · simp [Token.pieces, fits]

/-- The pieces of a text whose slots fit. -/
def piecesIn (cs : List Char) : List Piece :=
  (Token.scan cs).map Token.piece

/-- A text can be cut into pieces exactly when its slots fit. -/
theorem piecesOf_eq_ok_iff :
    piecesOf origin start cs = .ok pieces ↔ SlotsFit cs ∧ piecesIn cs = pieces := by
  simp only [piecesOf, pieces_eq_ok_iff, mem_scan_iff, SlotsFit, piecesIn]

/-- A text has a slot among its pieces exactly when it contains a marker. -/
theorem forall_notMem_piecesIn_iff : (∀ slot, .slot slot ∉ piecesIn cs) ↔ Unmarked cs := by
  constructor
  · intro free digits has
    exact free _ (List.mem_map_of_mem (mem_scan_iff.2 has))
  · intro unmarked slot mem
    obtain ⟨token, found, same⟩ := List.mem_map.1 mem
    cases token with
    | char c => exact nomatch same
    | marker digits => exact unmarked digits (mem_scan_iff.1 found)

theorem markers_addLine_eq_nil_iff :
    (buffer.addLine pieces span).markers = [] ↔
      buffer.markers = [] ∧ ∀ slot, .slot slot ∉ pieces := by
  show (pieces.foldl Buffer.add buffer).markers = [] ↔ _
  induction pieces generalizing buffer with
  | nil => simp
  | cons piece pieces ih =>
      rw [List.foldl_cons, ih]
      cases piece with
      | char c => simp [Buffer.add]
      | slot n => simpa [Buffer.add] using fun _ => ⟨n, fun fresh => absurd rfl fresh⟩

/-- A buffer that takes a text gets no marker exactly when the text contains none. -/
theorem markers_addLine_piecesIn_iff :
    (buffer.addLine (piecesIn cs) span).markers = [] ↔ buffer.markers = [] ∧ Unmarked cs := by
  rw [markers_addLine_eq_nil_iff, forall_notMem_piecesIn_iff]

/-! ## Markers of a condition -/

namespace Directive

theorem eq_append_of_behind? {mark rest : List Char} (found : behind? mark cs = some rest) :
    cs = mark ++ rest := by
  fun_induction behind? mark cs with
  | case1 => exact Option.some.inj found
  | case2 => exact nomatch found
  | case3 m mark cs ih => rw [ih found, List.cons_append]
  | case4 => exact nomatch found

theorem eq_append_of_behindWord? {rest : List Char} (found : behindWord? cs = some rest) :
    ∃ spaces, '$' ∉ spaces ∧ cs = spaces ++ rest := by
  cases cs with
  | nil => exact ⟨[], List.not_mem_nil, Option.some.inj found⟩
  | cons c cs =>
      simp only [behindWord?, behindSpaces?, Option.ite_none_right_eq_some] at found
      obtain ⟨space, same⟩ := found
      obtain rfl := Option.some.inj same
      refine ⟨c :: cs.takeWhile isSpace, fun mem => ?_, ?_⟩
      · rcases List.mem_cons.1 mem with rfl | later
        · exact absurd space (by decide)
        · exact dollar_notMem_takeWhile (by decide) later
      · rw [List.cons_append, List.takeWhile_append_dropWhile]

/-- What stands in front of the text of a condition has no dollar sign. -/
theorem eq_append_of_condition? {label words : List Char}
    (found : condition? cs = some (label, words)) :
    ∃ front, '$' ∉ front ∧ cs = front ++ words := by
  simp only [condition?, labelled?, bind, Option.bind_eq_some_iff, pure, Option.some.injEq,
    Prod.mk.injEq, Prod.exists] at found
  obtain ⟨_, _, ⟨behind, opened, _, -, -, rfl⟩, _, ended, -, rfl⟩ := found
  obtain ⟨spaces, free, rest⟩ := eq_append_of_behindWord? ended
  refine ⟨[':', ':'] ++ behind.takeWhile isLabelChar ++ spaces, ?_, ?_⟩
  · have label : '$' ∉ behind.takeWhile isLabelChar := dollar_notMem_takeWhile (by decide)
    simp [label, free]
  · rw [List.append_assoc, ← rest, List.append_assoc, List.takeWhile_append_dropWhile]
    exact eq_append_of_behind? opened

theorem condition?_of_ofBody {label words : List Char}
    (is : ofBody cs = .condition label words) : condition? cs = some (label, words) := by
  unfold ofBody at is
  grind

end Directive

/-- The text of a condition stands at the end of its line. -/
theorem eq_append_of_condition {label words : List Char}
    (is : Directive.ofLine cs = .condition label words) : ∃ front, cs = front ++ words := by
  obtain ⟨front, -, whole⟩ := Directive.eq_append_of_condition? (Directive.condition?_of_ofBody is)
  refine ⟨cs.takeWhile isSpace ++ front, ?_⟩
  rw [List.append_assoc, ← whole, List.takeWhile_append_dropWhile]

/-- The markers of a condition stand in its text. -/
theorem hasMarker_condition_iff {label words : List Char}
    (is : Directive.ofLine cs = .condition label words) :
    HasMarker digits cs ↔ HasMarker digits words := by
  obtain ⟨front, free, whole⟩ :=
    Directive.eq_append_of_condition? (Directive.condition?_of_ofBody is)
  have indent : '$' ∉ cs.takeWhile isSpace := dollar_notMem_takeWhile (by decide)
  calc HasMarker digits cs
      ↔ HasMarker digits (cs.takeWhile isSpace ++ cs.dropWhile isSpace) := by
        rw [List.takeWhile_append_dropWhile]
    _ ↔ HasMarker digits (front ++ words) := by rw [hasMarker_append_iff indent, whole]
    _ ↔ HasMarker digits words := hasMarker_append_iff free

theorem unmarked_condition_iff {label words : List Char}
    (is : Directive.ofLine cs = .condition label words) : Unmarked cs ↔ Unmarked words := by
  simp only [Unmarked, hasMarker_condition_iff is]

theorem slotsFit_condition_iff {label words : List Char}
    (is : Directive.ofLine cs = .condition label words) : SlotsFit cs ↔ SlotsFit words := by
  simp only [SlotsFit, hasMarker_condition_iff is]

end HotReload.Spec
