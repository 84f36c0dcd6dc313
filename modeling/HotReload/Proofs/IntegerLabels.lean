import HotReload.Label
import Mathlib.Data.String.Basic

/-!
# Integers as labels

The label of an integer is its decimal numeral. Numerals of a machine word come in front of all
other labels and in the order of their values. A numeral with a minus sign, or of a value beyond the
machine word, is one of the other labels, which are ordered by their characters.

So an integer comes in front of all larger ones, and of every label that is no integer, as long as
it is a numeral of a machine word. Of integers that are none the characters decide
(`Label.integer_order_iff`), which puts negative ones in reverse (`Label.negative_out_of_order`).
-/

set_option autoImplicit false

namespace HotReload.Label

open Text (digitsValue maxWord)

/-- One or more digits. -/
def IsDigits (cs : List Char) : Prop :=
  cs ≠ [] ∧ cs.all Text.isDigit = true

instance (cs : List Char) : Decidable (IsDigits cs) :=
  inferInstanceAs (Decidable (cs ≠ [] ∧ cs.all Text.isDigit = true))

/-- A label spells an integer: it consists of digits, perhaps behind a minus sign. -/
inductive Spells : Label → Int → Prop
  | digits {cs : List Char} (isDigits : IsDigits cs) :
      Spells ⟨String.ofList cs⟩ (digitsValue cs)
  | minus {cs : List Char} (isDigits : IsDigits cs) :
      Spells ⟨String.ofList ('-' :: cs)⟩ (-digitsValue cs)

/-- A label that can be read as an integer: digits, perhaps behind a sign. -/
def IsInteger (label : Label) : Prop :=
  ∃ digits, IsDigits digits ∧
    (label.name.toList = digits ∨ label.name.toList = '+' :: digits ∨
      label.name.toList = '-' :: digits)

/-- A label of an integer is a numeral of a machine word: it has no minus sign, and its value is not
too large. -/
def IsWord (label : Label) (n : Int) : Prop :=
  label.name.toList.head? ≠ some '-' ∧ n ≤ maxWord

instance (label : Label) (n : Int) : Decidable (label.IsWord n) :=
  inferInstanceAs (Decidable (label.name.toList.head? ≠ some '-' ∧ n ≤ maxWord))

variable {label first second : Label} {n : Int} {cs : List Char}

/-- Labels compare by rank, and by their characters when the ranks are the same. -/
theorem compare_eq_lt_iff :
    compare first second = .lt ↔
      first.rank < second.rank ∨ first.rank = second.rank ∧ first.name < second.name := by
  show (compare first.rank second.rank).then (compare first.name second.name) = .lt ↔ _
  rw [Ordering.then_eq_lt, compare_lt_iff_lt, compare_eq_iff_eq, compare_lt_iff_lt]

theorem isDigits_decimal (n : Nat) : IsDigits (Text.decimal n) := by
  refine ⟨Nat.toDigits_ne_nil, List.all_eq_true.2 ?_⟩
  intro c mem
  have digit := Nat.isDigit_of_mem_toDigits (by decide) (by decide) mem
  simpa [Char.isDigit, Text.isDigit, Char.le_def] using digit

theorem digitsValue_decimal (n : Nat) : digitsValue (Text.decimal n) = n :=
  Nat.ofDigitChars_ten_toDigits

/-- **The label of an integer spells it.** -/
theorem spells_ofInt (n : Int) : (ofInt n).Spells n := by
  cases n with
  | ofNat n =>
      have spells := Spells.digits (isDigits_decimal n)
      rwa [digitsValue_decimal] at spells
  | negSucc n =>
      have spells := Spells.minus (isDigits_decimal (n + 1))
      rwa [digitsValue_decimal] at spells

theorem IsDigits.ne_sign {sign : Char} (isDigits : IsDigits cs)
    (noDigit : Text.isDigit sign = false) (rest : List Char) : cs ≠ sign :: rest := by
  rintro rfl
  have digit := List.all_eq_true.1 isDigits.2 sign List.mem_cons_self
  exact Bool.false_ne_true (noDigit.symm.trans digit)

/-- A numeral without a plus sign is digits whose value is in bounds. -/
theorem numeral?_of_unsigned {bound : Nat} (unsigned : ∀ rest, cs ≠ '+' :: rest) :
    Text.numeral? bound cs =
      if IsDigits cs ∧ digitsValue cs ≤ bound then some (digitsValue cs) else none := by
  unfold Text.numeral?
  split
  · exact absurd rfl (unsigned _)
  · simp [IsDigits, and_assoc]

/-- A plus sign in front of a numeral counts for nothing. -/
theorem numeral?_plus {bound : Nat} (cs : List Char) :
    Text.numeral? bound ('+' :: cs) =
      if IsDigits cs ∧ digitsValue cs ≤ bound then some (digitsValue cs) else none := by
  simp [Text.numeral?, IsDigits, and_assoc]

/-- Digits are read as their value when this fits a machine word. -/
theorem number?_of_digits (isDigits : IsDigits cs) :
    number? ⟨String.ofList cs⟩ =
      if digitsValue cs ≤ maxWord then some (digitsValue cs) else none := by
  rw [number?, Text.word?, String.toList_ofList,
    numeral?_of_unsigned (isDigits.ne_sign (by decide))]
  simp [isDigits]

/-- Only digits, perhaps behind a plus sign, are read as a number. -/
theorem exists_digits_of_number? {value : Nat} (reads : label.number? = some value) :
    ∃ digits, IsDigits digits ∧
      (label.name.toList = digits ∨ label.name.toList = '+' :: digits) := by
  rw [number?, Text.word?] at reads
  by_cases signed : ∃ rest, label.name.toList = '+' :: rest
  · obtain ⟨rest, shape⟩ := signed
    rw [shape, numeral?_plus] at reads
    exact ⟨rest, (Option.ite_none_right_eq_some.1 reads).1.1, .inr shape⟩
  · rw [numeral?_of_unsigned (not_exists.1 signed)] at reads
    exact ⟨_, (Option.ite_none_right_eq_some.1 reads).1.1, .inl rfl⟩

/-- A label with a minus sign is read as no number. -/
theorem number?_of_minus (minus : label.name.toList.head? = some '-') : label.number? = none := by
  apply Option.eq_none_iff_forall_ne_some.2
  intro value reads
  obtain ⟨digits, isDigits, shape | shape⟩ := exists_digits_of_number? reads
  · obtain ⟨rest, front⟩ := List.head?_eq_some_iff.1 minus
    exact isDigits.ne_sign (by decide) rest (shape.symm.trans front)
  · rw [shape] at minus
    cases minus

/-- A label that is no integer is read as no number. -/
theorem number?_of_not_isInteger (other : ¬label.IsInteger) : label.number? = none := by
  apply Option.eq_none_iff_forall_ne_some.2
  intro value reads
  obtain ⟨digits, isDigits, shape⟩ := exists_digits_of_number? reads
  exact other ⟨digits, isDigits, shape.imp_right .inl⟩

/-- The rank of a numeral of a machine word is its value. All other integers have the last rank. -/
theorem Spells.rank_eq (spells : label.Spells n) :
    (label.IsWord n → (label.rank : Int) = n) ∧ (¬label.IsWord n → label.rank = maxWord + 1) := by
  cases spells with
  | @digits cs isDigits =>
      have unsigned : cs.head? ≠ some '-' := by
        intro minus
        obtain ⟨rest, shape⟩ := List.head?_eq_some_iff.1 minus
        exact isDigits.ne_sign (by decide) rest shape
      rw [rank, number?_of_digits isDigits]
      by_cases fits : digitsValue cs ≤ maxWord
      · simp [IsWord, unsigned, fits]
      · simp [IsWord, fits]
  | @minus cs isDigits =>
      rw [rank, number?_of_minus (by simp)]
      simp [IsWord]

/-- Only numerals of a machine word rank that low. -/
theorem Spells.isWord_iff (spells : label.Spells n) : label.IsWord n ↔ label.rank ≤ maxWord := by
  obtain ⟨word, other⟩ := spells.rank_eq
  constructor
  · intro isWord
    have rank := word isWord
    have bound := isWord.2
    omega
  · intro low
    by_contra notWord
    have rank := other notWord
    omega

/-- **When integers are in order.** The label of an integer spells it. A label that spells it comes
in front of one that spells a larger integer exactly when it is a numeral of a machine word, or when
none of the two is and its characters come first. It comes in front of a label that is no integer
exactly when it is a numeral of a machine word or its characters come first. -/
theorem integer_order_iff (a : Int) :
    (ofInt a).Spells a ∧ ∀ first : Label, first.Spells a →
      (∀ (second : Label) (b : Int), second.Spells b → a < b →
        (compare first second = .lt ↔
          first.IsWord a ∨ ¬second.IsWord b ∧ first.name < second.name)) ∧
      (∀ other : Label, ¬other.IsInteger →
        (compare first other = .lt ↔ first.IsWord a ∨ first.name < other.name)) := by
  refine ⟨spells_ofInt a, ?_⟩
  intro first spells
  obtain ⟨word, notWord⟩ := spells.rank_eq
  have low := spells.isWord_iff
  constructor
  · intro second b spellsSecond less
    obtain ⟨wordSecond, notWordSecond⟩ := spellsSecond.rank_eq
    have lowSecond := spellsSecond.isWord_iff
    rw [compare_eq_lt_iff]
    grind
  · intro other noInteger
    have last : other.rank = maxWord + 1 := by
      rw [rank, number?_of_not_isInteger noInteger]
      rfl
    rw [compare_eq_lt_iff]
    grind

theorem not_isInteger_universal : ¬universal.IsInteger := by
  rintro ⟨digits, isDigits, rfl | shape | shape⟩
  · exact absurd isDigits.2 (by decide)
  · exact absurd (List.cons.inj shape).1 (by decide)
  · exact absurd (List.cons.inj shape).1 (by decide)

/-- A numeral of a machine word, one that is too large and a negative one. -/
theorem integer_order_mixed :
    (ofInt 7).Spells 7 ∧ (ofInt 18446744073709551616).Spells 18446744073709551616 ∧
      (ofInt (-5)).Spells (-5) ∧ ¬universal.IsInteger ∧
      compare (ofInt 7) (ofInt 18446744073709551616) = .lt ∧
      compare (ofInt 7) universal = .lt ∧
      compare (ofInt (-5)) (ofInt 7) ≠ .lt ∧
      compare (ofInt (-5)) (ofInt 18446744073709551616) = .lt := by
  obtain ⟨spellsSeven, seven⟩ := integer_order_iff 7
  obtain ⟨spellsFive, five⟩ := integer_order_iff (-5)
  obtain ⟨beforeLarger, beforeOther⟩ := seven _ spellsSeven
  have spellsHuge := spells_ofInt 18446744073709551616
  have isWord : (ofInt 7).IsWord 7 := by decide +kernel
  have negative : ¬(ofInt (-5)).IsWord (-5) := by decide +kernel
  have tooLarge : ¬(ofInt 18446744073709551616).IsWord 18446744073709551616 := by decide +kernel
  refine ⟨spellsSeven, spellsHuge, spellsFive, not_isInteger_universal, ?_, ?_, ?_, ?_⟩
  · exact (beforeLarger _ _ spellsHuge (by decide)).2 (.inl isWord)
  · exact (beforeOther _ not_isInteger_universal).2 (.inl isWord)
  · intro less
    rcases ((five _ spellsFive).1 _ _ spellsSeven (by decide)).1 less with word | ⟨notWord, -⟩
    · exact negative word
    · exact notWord isWord
  · exact ((five _ spellsFive).1 _ _ spellsHuge (by decide)).2 (.inr ⟨tooLarge, by decide +kernel⟩)

/-- **Negative integers come in reverse order** when they have the same length, and behind those
that are not negative and the universal label. -/
theorem negative_out_of_order :
    compare (ofInt (-2)) (ofInt (-1)) = .gt ∧ compare (ofInt (-1)) (ofInt 0) = .gt ∧
      ¬universal.IsInteger ∧ compare (ofInt (-1)) universal = .gt := by
  refine ⟨?_, ?_, not_isInteger_universal, ?_⟩
  · decide +kernel
  · decide +kernel
  · decide +kernel

end HotReload.Label
