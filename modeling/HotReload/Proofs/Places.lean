import HotReload.Failure
import HotReload.Text.Lines

/-!
# Places in a text

A span names bytes of a text. `Text.Under` says which piece of the text these are: the piece
with as many bytes in front of it as the span leaves out. A span under which no piece stands
begins or ends within a character, or lies outside the text.

Two pieces of one text stand together under the smallest span that covers both
(`Under.join`), and every line stands in its text between its two offsets (`under_line`).
-/

set_option autoImplicit false

namespace HotReload

/-- A span, counted from bytes further back. -/
def Span.moved (span : Span) (bytes : Nat) : Span :=
  ⟨span.start + bytes, span.stop + bytes⟩

@[simp] theorem Span.moved_zero (span : Span) : span.moved 0 = span := rfl

namespace Text

variable {cs piece other : List Char} {span : Span}

/-! ## Prefixes and their bytes -/

theorem byteLength_eq_zero_iff : byteLength cs = 0 ↔ cs = [] := by
  cases cs with
  | nil => simp
  | cons c rest =>
      have := c.utf8Size_pos
      simp
      omega

/-- Of two prefixes of a text, the one with fewer bytes is a prefix of the other. -/
theorem prefix_of_byteLength_le {first second : List Char} (one : first <+: cs)
    (two : second <+: cs) (le : byteLength first ≤ byteLength second) : first <+: second := by
  rcases List.prefix_or_prefix_of_prefix one two with shorter | ⟨rest, rfl⟩
  · exact shorter
  · have none : byteLength rest = 0 := by
      rw [byteLength_append] at le
      omega
    obtain rfl := byteLength_eq_zero_iff.1 none
    exact ⟨[], by simp⟩

/-- A prefix of a text is given by the number of its bytes. -/
theorem prefix_ext (cs : List Char) {first second : List Char} (one : first <+: cs)
    (two : second <+: cs) (same : byteLength first = byteLength second) : first = second := by
  obtain ⟨rest, rfl⟩ := prefix_of_byteLength_le one two (Nat.le_of_eq same)
  have none : byteLength rest = 0 := by
    rw [byteLength_append] at same
    omega
  rw [byteLength_eq_zero_iff.1 none, List.append_nil]

/-- What two prefixes of a text share, and what they cover. -/
theorem exists_inner_outer (cs : List Char) {first second : List Char} (one : first <+: cs)
    (two : second <+: cs) :
    (∃ inner, inner <+: first ∧ inner <+: second ∧
        byteLength inner = min (byteLength first) (byteLength second)) ∧
      ∃ outer, first <+: outer ∧ second <+: outer ∧ outer <+: cs ∧
        byteLength outer = max (byteLength first) (byteLength second) := by
  rcases Nat.le_total (byteLength first) (byteLength second) with le | le
  · have shorter := prefix_of_byteLength_le one two le
    exact ⟨⟨first, List.prefix_refl _, shorter, (Nat.min_eq_left le).symm⟩,
      second, shorter, List.prefix_refl _, two, (Nat.max_eq_right le).symm⟩
  · have shorter := prefix_of_byteLength_le two one le
    exact ⟨⟨second, shorter, List.prefix_refl _, (Nat.min_eq_right le).symm⟩,
      first, List.prefix_refl _, shorter, one, (Nat.max_eq_left le).symm⟩

/-! ## Pieces under spans -/

/-- A piece of a text stands under a span: the span has the bytes of the piece. -/
def Under (cs : List Char) (span : Span) (piece : List Char) : Prop :=
  ∃ front back, cs = front ++ (piece ++ back) ∧
    span = ⟨byteLength front, byteLength (front ++ piece)⟩

/-- A span has its ends in order and within a text. -/
def Within (cs : List Char) (span : Span) : Prop :=
  span.start ≤ span.stop ∧ span.stop ≤ byteLength cs

/-- A span lies within a text if it does so further back. -/
theorem Within.of_moved {bytes : Nat} (within : Within cs (span.moved bytes)) :
    Within cs span := by
  obtain ⟨ordered, inside⟩ := within
  simp only [Span.moved] at ordered inside
  constructor <;> omega

theorem Under.within (under : Under cs span piece) : Within cs span := by
  obtain ⟨front, back, rfl, rfl⟩ := under
  constructor <;> simp

/-- At most one piece stands under a span. -/
theorem Under.unique (first : Under cs span piece) (second : Under cs span other) :
    piece = other := by
  obtain ⟨front, back, whole, rfl⟩ := first
  obtain ⟨front', back', whole', same⟩ := second
  obtain ⟨starts, stops⟩ := Span.mk.inj same
  have fronts : front = front' :=
    prefix_ext cs ⟨_, whole.symm⟩ ⟨_, whole'.symm⟩ starts
  have ends : front ++ piece = front' ++ other :=
    prefix_ext cs ⟨back, by rw [whole, List.append_assoc]⟩
      ⟨back', by rw [whole', List.append_assoc]⟩ stops
  rw [fronts] at ends
  exact List.append_cancel_left ends

/-- A piece of a piece stands further back in the text. -/
theorem Under.within_piece {inner : Span} (outside : Under cs span piece)
    (inside : Under piece inner other) : Under cs (inner.moved span.start) other := by
  obtain ⟨front, back, rfl, rfl⟩ := outside
  obtain ⟨before, behind, rfl, rfl⟩ := inside
  refine ⟨front ++ before, behind ++ back, by simp, ?_⟩
  simp [Span.moved]
  omega

/-- Two pieces of a text lie in the piece under the smallest span that covers both. -/
theorem Under.join {first second : Span} (one : Under cs first piece)
    (two : Under cs second other) :
    ∃ whole, Under cs (first.join second) whole ∧ piece <:+: whole ∧ other <:+: whole := by
  obtain ⟨front, back, text, rfl⟩ := one
  obtain ⟨front', back', text', rfl⟩ := two
  obtain ⟨⟨inner, ⟨skip, rfl⟩, ⟨skip', rfl⟩, starts⟩, -⟩ :=
    exists_inner_outer cs ⟨_, text.symm⟩ ⟨_, text'.symm⟩
  obtain ⟨-, outer, ⟨rest, stop⟩, ⟨rest', stop'⟩, ⟨behind, whole⟩, stops⟩ :=
    exists_inner_outer cs (⟨back, by rw [text, List.append_assoc]⟩ : inner ++ skip ++ piece <+: cs)
      (⟨back', by rw [text', List.append_assoc]⟩ : inner ++ skip' ++ other <+: cs)
  -- the covering piece begins behind the shared front
  have covers : inner ++ (skip ++ piece ++ rest) = outer := by simpa using stop
  have covers' : inner ++ (skip' ++ other ++ rest') = outer := by simpa using stop'
  have same : skip ++ piece ++ rest = skip' ++ other ++ rest' :=
    List.append_cancel_left (covers.trans covers'.symm)
  refine ⟨skip ++ piece ++ rest, ⟨inner, behind, ?_, ?_⟩, ⟨skip, rest, rfl⟩,
    ⟨skip', rest', same.symm⟩⟩
  · rw [← whole, ← covers, List.append_assoc]
  · rw [covers, stops, starts]
    rfl

/-! ## Lines -/

/-- The first line of a text begins where the text begins. -/
theorem start_of_linesFrom {start : Nat} {line : Line} {more : List Line}
    (first : linesFrom start cs = line :: more) : line.start = start := by
  revert first
  fun_cases linesFrom start cs with
  | case4 => exact absurd (by assumption) (linesFrom_ne_nil _ _)
  | _ =>
      intro first
      rw [← (List.cons.inj first).1]

theorem under_linesFrom (front : List Char) {line : Line}
    (mem : line ∈ linesFrom (byteLength front) cs) :
    Under (front ++ cs) ⟨line.start, line.stop⟩ line.chars := by
  generalize begins : byteLength front = start at mem
  fun_induction linesFrom start cs generalizing front line with
  | case1 start =>
      obtain rfl := List.mem_singleton.1 mem
      exact ⟨front, [], by simp, by simp [Line.stop, begins]⟩
  | case2 start rest ih =>
      rcases List.mem_cons.1 mem with rfl | later
      · exact ⟨front, _, rfl, by simp [Line.stop, begins]⟩
      · have begins' : byteLength (front ++ ['\r', '\n']) = start + 2 := by
          simp [begins]
          decide
        have next := ih _ begins' later
        simpa using next
  | case3 start c rest _ ends ih =>
      rcases List.mem_cons.1 mem with rfl | later
      · exact ⟨front, _, rfl, by simp [Line.stop, begins]⟩
      · have size : c.utf8Size = 1 := by
          rcases ends with rfl | rfl <;> decide
        have begins' : byteLength (front ++ [c]) = start + 1 := by simp [begins, size]
        have next := ih _ begins' later
        simpa using next
  | case4 start c rest _ _ none => exact absurd none (linesFrom_ne_nil _ _)
  | case5 start c rest _ _ first more whole ih =>
      have begins' : byteLength (front ++ [c]) = start + c.utf8Size := by simp [begins]
      rcases List.mem_cons.1 mem with rfl | later
      · -- the first character belongs to the first of the other lines
        have there : first ∈ linesFrom (start + c.utf8Size) rest := whole ▸ List.mem_cons_self
        obtain ⟨before, back, text, place⟩ := ih _ begins' there
        obtain ⟨starts, -⟩ := Span.mk.inj place
        have same : front ++ [c] = before := by
          apply prefix_ext (front ++ [c] ++ rest) (List.prefix_append _ _) ⟨_, text.symm⟩
          rw [begins', ← starts, start_of_linesFrom whole]
        obtain rfl : rest = first.chars ++ back := List.append_cancel_left (same ▸ text)
        exact ⟨front, back, by simp, by simp [Line.stop, begins]⟩
      · have next := ih _ begins' (whole ▸ List.mem_cons_of_mem _ later)
        simpa using next

theorem le_start_of_mem_linesFrom {start : Nat} {line : Line} (mem : line ∈ linesFrom start cs) :
    start ≤ line.start := by
  fun_induction linesFrom start cs generalizing line with
  | case1 start =>
      obtain rfl := List.mem_singleton.1 mem
      exact Nat.le_refl _
  | case2 start rest ih | case3 start c rest _ _ ih =>
      rcases List.mem_cons.1 mem with rfl | later
      · exact Nat.le_refl _
      · have := ih later
        omega
  | case4 start c rest _ _ none => exact absurd none (linesFrom_ne_nil _ _)
  | case5 start c rest _ _ first more whole ih =>
      rcases List.mem_cons.1 mem with rfl | later
      · exact Nat.le_refl _
      · have := ih (whole ▸ List.mem_cons_of_mem _ later)
        omega

/-- Only the first line of a text begins where the text begins. -/
theorem start_lt_of_mem_tail {start : Nat} {line : Line}
    (mem : line ∈ (linesFrom start cs).tail) : start < line.start := by
  fun_induction linesFrom start cs generalizing line with
  | case1 start => exact absurd mem List.not_mem_nil
  | case2 start rest ih | case3 start c rest _ _ ih =>
      have := le_start_of_mem_linesFrom mem
      omega
  | case4 start c rest _ _ none => exact absurd none (linesFrom_ne_nil _ _)
  | case5 start c rest _ _ first more whole ih =>
      have := ih (by rw [whole]; exact mem)
      omega

/-- Every line begins behind the lines in front of it. -/
theorem pairwise_start_linesFrom (start : Nat) (cs : List Char) :
    (linesFrom start cs).Pairwise fun first second => first.start < second.start := by
  fun_induction linesFrom start cs with
  | case1 start => exact List.pairwise_singleton _ _
  | case2 start rest ih | case3 start c rest _ _ ih =>
      refine List.pairwise_cons.2 ⟨fun line mem => ?_, ih⟩
      have := le_start_of_mem_linesFrom mem
      show start < line.start
      omega
  | case4 start c rest _ _ none => exact absurd none (linesFrom_ne_nil _ _)
  | case5 start c rest _ _ first more whole ih =>
      rw [whole] at ih
      obtain ⟨behind, apart⟩ := List.pairwise_cons.1 ih
      refine List.pairwise_cons.2 ⟨fun line mem => ?_, apart⟩
      have := behind line mem
      have := start_of_linesFrom whole
      show start < line.start
      omega

/-- A line holds no line feed. -/
theorem lineFeed_notMem_linesFrom {start : Nat} {line : Line} (mem : line ∈ linesFrom start cs) :
    '\n' ∉ line.chars := by
  fun_induction linesFrom start cs generalizing line with
  | case1 start =>
      obtain rfl := List.mem_singleton.1 mem
      exact List.not_mem_nil
  | case2 start rest ih | case3 start c rest _ _ ih =>
      rcases List.mem_cons.1 mem with rfl | later
      · exact List.not_mem_nil
      · exact ih later
  | case4 start c rest _ _ none => exact absurd none (linesFrom_ne_nil _ _)
  | case5 start c rest _ other first more whole ih =>
      rcases List.mem_cons.1 mem with rfl | later
      · intro there
        rcases List.mem_cons.1 there with same | there
        · exact other (.inl same.symm)
        · exact ih (whole ▸ List.mem_cons_self) there
      · exact ih (whole ▸ List.mem_cons_of_mem _ later)

/-- **Every line stands in its text between its offsets.** -/
theorem under_line {line : Line} (mem : line ∈ lines cs) :
    Under cs ⟨line.start, line.stop⟩ line.chars :=
  under_linesFrom [] mem

end Text

end HotReload
