import HotReload.Proofs.IntegerLabels
import Mathlib.Data.List.Induction

/-!
# The total order of labels

Labels are compared as numbers where they denote one, and as texts else. A label denotes a number
when it is the decimal numeral of a machine word, behind any zeros and perhaps a plus sign
(`Denotes`). These are exactly the labels that are read as a number (`number?_eq_some_iff`). So
different labels can denote one number, and digits that are too large for a machine word are a text
like any other.

Nevertheless the order is total and tells all labels apart (`order_total`). One label comes in front
of another when it denotes the smaller number, or the same number by a smaller text, or when it is
the only numeral of the two, or when none of them is a numeral and its text is smaller (`Precedes`).
-/

set_option autoImplicit false

namespace HotReload.Label

open Text (digitsValue decimal maxWord)

/-! ## Numerals -/

/-- A label denotes a number of a machine word: it consists of the decimal digits of the number,
behind any zeros and perhaps a plus sign. -/
inductive Denotes : Label → Nat → Prop
  | unsigned {n : Nat} (zeros : Nat) (fits : n ≤ maxWord) :
      Denotes ⟨String.ofList (List.replicate zeros '0' ++ decimal n)⟩ n
  | signed {n : Nat} (zeros : Nat) (fits : n ≤ maxWord) :
      Denotes ⟨String.ofList ('+' :: (List.replicate zeros '0' ++ decimal n))⟩ n

/-- A label that denotes a number. -/
def IsNumeral (label : Label) : Prop :=
  ∃ n, label.Denotes n

variable {label first second : Label} {n : Nat} {c : Char} {cs : List Char}

theorem digitsValue_concat (cs : List Char) (c : Char) :
    digitsValue (cs ++ [c]) = 10 * digitsValue cs + (c.toNat - '0'.toNat) := by
  rw [digitsValue, List.foldl_append]
  rfl

/-- Zeros in front of digits do not change their value. -/
theorem digitsValue_zeros (zeros : Nat) (cs : List Char) :
    digitsValue (List.replicate zeros '0' ++ cs) = digitsValue cs := by
  induction zeros with
  | zero => rfl
  | succ zeros ih => exact ih

theorem isDigits_zeros (zeros n : Nat) : IsDigits (List.replicate zeros '0' ++ decimal n) := by
  obtain ⟨nonempty, all⟩ := isDigits_decimal n
  refine ⟨List.append_ne_nil_of_right_ne_nil _ nonempty, ?_⟩
  rw [List.all_append, all, List.all_replicate]
  cases zeros <;> rfl

/-- A digit is the numeral of its value. -/
theorem decimal_digit (isDigit : Text.isDigit c = true) :
    c.toNat - '0'.toNat < 10 ∧ decimal (c.toNat - '0'.toNat) = [c] := by
  simp only [Text.isDigit, Bool.and_eq_true, decide_eq_true_eq, Char.le_def] at isDigit
  have low : 48 ≤ c.toNat := isDigit.1
  have high : c.toNat ≤ 57 := isDigit.2
  have small : c.toNat - '0'.toNat < 10 := by
    show c.toNat - 48 < 10
    omega
  refine ⟨small, ?_⟩
  rw [decimal, Nat.toDigits_of_lt_base small]
  refine congrArg (· :: []) (Char.toNat_inj.1 ?_)
  rw [Nat.toNat_digitChar_of_lt_ten small]
  show 48 + (c.toNat - 48) = c.toNat
  omega

/-- A digit behind the numeral of a positive number. -/
theorem decimal_concat (positive : 0 < n) (isDigit : Text.isDigit c = true) :
    decimal (10 * n + (c.toNat - '0'.toNat)) = decimal n ++ [c] := by
  obtain ⟨small, digit⟩ := decimal_digit isDigit
  rw [← digit]
  exact (Nat.toDigits_append_toDigits (by decide) positive small).symm

/-- **Digits are zeros and then the numeral of their value.** -/
theorem exists_zeros (isDigits : IsDigits cs) :
    ∃ zeros, cs = List.replicate zeros '0' ++ decimal (digitsValue cs) := by
  obtain ⟨nonempty, all⟩ := isDigits
  induction cs using List.reverseRecOn with
  | nil => exact absurd rfl nonempty
  | append_singleton cs c ih =>
      rw [List.all_append, Bool.and_eq_true, List.all_cons, Bool.and_eq_true] at all
      obtain ⟨front, isDigit, -⟩ := all
      rw [digitsValue_concat]
      cases cs with
      | nil =>
          refine ⟨0, ?_⟩
          rw [show digitsValue [] = 0 from rfl, Nat.mul_zero, Nat.zero_add,
            (decimal_digit isDigit).2]
          rfl
      | cons head rest =>
          obtain ⟨zeros, shape⟩ := ih (List.cons_ne_nil _ _) front
          rcases Nat.eq_zero_or_pos (digitsValue (head :: rest)) with zero | positive
          · -- the digits in front are zeros, the numeral of zero among them
            refine ⟨zeros + 1, ?_⟩
            rw [zero] at shape
            rw [zero, Nat.mul_zero, Nat.zero_add, (decimal_digit isDigit).2, shape,
              List.replicate_succ']
            rfl
          · refine ⟨zeros, ?_⟩
            rw [decimal_concat positive isDigit, ← List.append_assoc, ← shape]

theorem Denotes.fits (denotes : label.Denotes n) : n ≤ maxWord := by
  cases denotes with
  | unsigned zeros fits => exact fits
  | signed zeros fits => exact fits

/-- **The numerals are the labels that are read as a number.** -/
theorem number?_eq_some_iff : label.number? = some n ↔ label.Denotes n := by
  constructor
  · intro reads
    obtain ⟨digits, isDigits, shape | shape⟩ := exists_digits_of_number? reads
    · obtain rfl : label = ⟨String.ofList digits⟩ := by
        rw [← shape, String.ofList_toList]
      rw [number?_of_digits isDigits, Option.ite_none_right_eq_some] at reads
      obtain ⟨fits, value⟩ := reads
      obtain ⟨zeros, spelled⟩ := exists_zeros isDigits
      rw [Option.some.inj value] at fits spelled
      rw [spelled]
      exact .unsigned zeros fits
    · obtain rfl : label = ⟨String.ofList ('+' :: digits)⟩ := by
        rw [← shape, String.ofList_toList]
      rw [number?, Text.word?, String.toList_ofList, numeral?_plus,
        Option.ite_none_right_eq_some] at reads
      obtain ⟨⟨-, fits⟩, value⟩ := reads
      obtain ⟨zeros, spelled⟩ := exists_zeros isDigits
      rw [Option.some.inj value] at fits spelled
      rw [spelled]
      exact .signed zeros fits
  · intro denotes
    have value (zeros : Nat) : digitsValue (List.replicate zeros '0' ++ decimal n) = n := by
      rw [digitsValue_zeros, digitsValue_decimal]
    cases denotes with
    | unsigned zeros fits =>
        rw [number?_of_digits (isDigits_zeros zeros n), value, if_pos fits]
    | signed zeros fits =>
        rw [number?, Text.word?, String.toList_ofList, numeral?_plus, value,
          if_pos ⟨isDigits_zeros zeros n, fits⟩]

theorem number?_eq_none_iff : label.number? = none ↔ ¬label.IsNumeral := by
  rw [Option.eq_none_iff_forall_ne_some, IsNumeral, not_exists]
  exact forall_congr' fun n => not_congr number?_eq_some_iff

/-! ## The order -/

/-- A label comes in front of another one. -/
inductive Precedes (first second : Label) : Prop
  /-- It denotes a smaller number. -/
  | value {m n : Nat} (former : first.Denotes m) (latter : second.Denotes n) (less : m < n)
  /-- It denotes the same number, and its text is smaller. -/
  | spelling {n : Nat} (former : first.Denotes n) (latter : second.Denotes n)
      (less : first.name < second.name)
  /-- It alone is a numeral. -/
  | numeral (former : first.IsNumeral) (latter : ¬second.IsNumeral)
  /-- None of the two is a numeral, and its text is smaller. -/
  | text (former : ¬first.IsNumeral) (latter : ¬second.IsNumeral)
      (less : first.name < second.name)

theorem Denotes.rank_eq (denotes : label.Denotes n) : label.rank = n := by
  rw [rank, number?_eq_some_iff.2 denotes, Option.getD_some]

theorem rank_of_not_isNumeral (other : ¬label.IsNumeral) : label.rank = maxWord + 1 := by
  rw [rank, number?_eq_none_iff.2 other, Option.getD_none]

/-- **Comparing ranks and then texts decides which label comes in front.** -/
theorem compare_eq_lt_iff_precedes : compare first second = .lt ↔ first.Precedes second := by
  rw [compare_eq_lt_iff]
  constructor
  · intro less
    by_cases former : first.IsNumeral
    · obtain ⟨m, denotes⟩ := former
      by_cases latter : second.IsNumeral
      · obtain ⟨n, other⟩ := latter
        rw [denotes.rank_eq, other.rank_eq] at less
        rcases less with smaller | ⟨rfl, smaller⟩
        · exact .value denotes other smaller
        · exact .spelling denotes other smaller
      · exact .numeral ⟨m, denotes⟩ latter
    · rw [rank_of_not_isNumeral former] at less
      by_cases latter : second.IsNumeral
      · obtain ⟨n, other⟩ := latter
        have fits := other.fits
        rw [other.rank_eq] at less
        omega
      · rw [rank_of_not_isNumeral latter] at less
        rcases less with smaller | ⟨-, smaller⟩
        · exact absurd smaller (Nat.lt_irrefl _)
        · exact .text former latter smaller
  · intro precedes
    cases precedes with
    | value former latter less =>
        rw [former.rank_eq, latter.rank_eq]
        exact .inl less
    | spelling former latter less =>
        rw [former.rank_eq, latter.rank_eq]
        exact .inr ⟨rfl, less⟩
    | numeral former latter =>
        obtain ⟨m, denotes⟩ := former
        rw [denotes.rank_eq, rank_of_not_isNumeral latter]
        exact .inl (Nat.lt_succ_of_le denotes.fits)
    | text former latter less =>
        rw [rank_of_not_isNumeral former, rank_of_not_isNumeral latter]
        exact .inr ⟨rfl, less⟩

/-- **Labels are in a total order that tells different labels apart.** Two labels compare as equal
if and only if they are one text, and in reverse when they change places. A label in front of
another one is in front of everything behind that one. Numbers decide which label comes in front,
then texts do, and numerals come in front of all other labels. The tests whether a label is before
or at most another one are tests of this order. -/
theorem order_total (first second third : Label) :
    (compare first second = .eq ↔ first.name = second.name) ∧
      compare second first = (compare first second).swap ∧
      (compare first second = .lt → compare second third = .lt → compare first third = .lt) ∧
      (compare first second = .lt ↔ first.Precedes second) ∧
      (first.before second = true ↔ first.Precedes second) ∧
      (first.atMost second = true ↔ first = second ∨ first.Precedes second) := by
  have equal : compare first second = .eq ↔ first = second := Std.LawfulEqOrd.compare_eq_iff_eq
  refine ⟨?_, Std.OrientedCmp.eq_swap, Std.TransCmp.lt_trans, compare_eq_lt_iff_precedes, ?_, ?_⟩
  · rw [equal, mk.injEq]
  · rw [before, beq_iff_eq, compare_eq_lt_iff_precedes]
  · rw [atMost, ← compare_eq_lt_iff_precedes, ← equal]
    cases compare first second <;> decide

/-- Two spellings of one number, and digits that denote none because it is too large. -/
theorem order_total_sevens :
    compare (⟨"+7"⟩ : Label) ⟨"007"⟩ = .lt ∧
      compare (⟨"007"⟩ : Label) ⟨"18446744073709551616"⟩ = .lt ∧
      compare (⟨"+7"⟩ : Label) ⟨"18446744073709551616"⟩ = .lt ∧
      Precedes ⟨"+7"⟩ ⟨"007"⟩ := by
  have spellings : compare (⟨"+7"⟩ : Label) ⟨"007"⟩ = .lt := by decide +kernel
  have tooLarge : compare (⟨"007"⟩ : Label) ⟨"18446744073709551616"⟩ = .lt := by decide +kernel
  obtain ⟨-, -, trans, precedes, -⟩ := order_total ⟨"+7"⟩ ⟨"007"⟩ ⟨"18446744073709551616"⟩
  exact ⟨spellings, tooLarge, trans spellings tooLarge, precedes.1 spellings⟩

end HotReload.Label
