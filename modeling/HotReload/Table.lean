/-!
# Tables in key order

A table is a list of keys with their values in strictly ascending key order. The
order is part of the type, so two tables with the same look-ups are equal
(`Table.ext_find?`), and listing a table needs no sorting.

The list operations behind it, in the namespace `Assoc`, also serve trees whose
children are keyed lists; there the order is kept by `Assoc.insert` but cannot be
part of the type.
-/

set_option autoImplicit false

namespace HotReload

variable {κ ν : Type} [Ord κ]

/-! ## Keyed lists -/

namespace Assoc

/-- The value at a key. -/
def find? (key : κ) : List (κ × ν) → Option ν
  | [] => none
  | (here, value) :: rest =>
    match compare key here with
    | .lt => none
    | .eq => some value
    | .gt => find? key rest

/-- Puts a value at a key, in place of the value that was there. -/
def insert (key : κ) (value : ν) : List (κ × ν) → List (κ × ν)
  | [] => [(key, value)]
  | (here, old) :: rest =>
    match compare key here with
    | .lt => (key, value) :: (here, old) :: rest
    | .eq => (here, value) :: rest
    | .gt => (here, old) :: insert key value rest

/-- Takes a key out. -/
def erase (key : κ) : List (κ × ν) → List (κ × ν)
  | [] => []
  | (here, value) :: rest =>
    match compare key here with
    | .lt => (here, value) :: rest
    | .eq => rest
    | .gt => (here, value) :: erase key rest

/-- Strictly ascending keys. -/
def Ascending (entries : List (κ × ν)) : Prop :=
  entries.Pairwise fun first second => compare first.1 second.1 = .lt

/-- A key of the changed list is the new key or was there before. -/
theorem key_of_mem_insert {key : κ} {value : ν} {entries : List (κ × ν)} {entry : κ × ν}
    (mem : entry ∈ insert key value entries) :
    entry.1 = key ∨ ∃ old ∈ entries, old.1 = entry.1 := by
  induction entries with
  | nil => simp_all [insert]
  | cons head rest ih =>
    obtain ⟨here, old⟩ := head
    simp only [insert] at mem
    split at mem
    · rcases List.mem_cons.1 mem with rfl | mem
      · exact Or.inl rfl
      · exact Or.inr ⟨entry, mem, rfl⟩
    · rcases List.mem_cons.1 mem with rfl | mem
      · exact Or.inr ⟨(here, old), List.mem_cons_self, rfl⟩
      · exact Or.inr ⟨entry, List.mem_cons_of_mem _ mem, rfl⟩
    · rcases List.mem_cons.1 mem with rfl | mem
      · exact Or.inr ⟨(here, old), List.mem_cons_self, rfl⟩
      · rcases ih mem with same | ⟨other, found, same⟩
        · exact Or.inl same
        · exact Or.inr ⟨other, List.mem_cons_of_mem _ found, same⟩

/-- Putting a value keeps the keys ascending. -/
theorem ascending_insert [Std.TransOrd κ] {entries : List (κ × ν)} (key : κ) (value : ν)
    (ascending : Ascending entries) : Ascending (insert key value entries) := by
  induction entries with
  | nil => simp [insert, Ascending]
  | cons head rest ih =>
    obtain ⟨here, old⟩ := head
    obtain ⟨above, tail⟩ := List.pairwise_cons.1 ascending
    simp only [insert]
    split
    · rename_i lt
      refine List.pairwise_cons.2 ⟨fun entry mem => ?_, ascending⟩
      rcases List.mem_cons.1 mem with rfl | mem
      · exact lt
      · exact Std.TransCmp.lt_trans lt (above entry mem)
    · exact List.pairwise_cons.2 ⟨above, tail⟩
    · rename_i gt
      refine List.pairwise_cons.2 ⟨fun entry mem => ?_, ih tail⟩
      rcases key_of_mem_insert mem with same | ⟨other, found, same⟩
      · rw [same]
        exact Std.OrientedCmp.lt_of_gt gt
      · rw [← same]
        exact above other found

/-- Taking a key out leaves a part of the list. -/
theorem erase_sublist (key : κ) (entries : List (κ × ν)) :
    (erase key entries).Sublist entries := by
  induction entries with
  | nil => exact List.Sublist.refl _
  | cons head rest ih =>
    obtain ⟨here, value⟩ := head
    simp only [erase]
    split
    · exact List.Sublist.refl _
    · exact List.sublist_cons_self _ _
    · exact ih.cons_cons _

section Lookup

variable [Std.TransOrd κ] [Std.LawfulEqOrd κ]

/-- A look-up finds exactly the listed entries. -/
theorem find?_eq_some_iff {entries : List (κ × ν)} (ascending : Ascending entries) {key : κ}
    {value : ν} : find? key entries = some value ↔ (key, value) ∈ entries := by
  induction entries with
  | nil => simp [find?]
  | cons head rest ih =>
    obtain ⟨here, old⟩ := head
    obtain ⟨above, tail⟩ := List.pairwise_cons.1 ascending
    simp only [find?, List.mem_cons, Prod.mk.injEq]
    split
    · rename_i lt
      refine ⟨nofun, ?_⟩
      rintro (⟨rfl, rfl⟩ | mem)
      · simp at lt
      · have gt := above _ mem
        simp [Std.OrientedCmp.gt_of_lt gt] at lt
    · rename_i eq
      obtain rfl := Std.LawfulEqCmp.eq_of_compare eq
      refine ⟨fun same => Or.inl ⟨rfl, (Option.some.inj same).symm⟩, ?_⟩
      rintro (⟨-, rfl⟩ | mem)
      · rfl
      · have gt := above _ mem
        simp at gt
    · rename_i gt
      rw [ih tail]
      refine ⟨Or.inr, ?_⟩
      rintro (⟨rfl, rfl⟩ | mem)
      · simp at gt
      · exact mem

/-- Two ascending lists with the same look-ups are equal. -/
theorem eq_of_find? {first second : List (κ × ν)} (firstAscending : Ascending first)
    (secondAscending : Ascending second)
    (same : ∀ key, find? key first = find? key second) : first = second := by
  have members : ∀ entry, entry ∈ first ↔ entry ∈ second := fun ⟨key, value⟩ => by
    rw [← find?_eq_some_iff firstAscending, ← find?_eq_some_iff secondAscending, same]
  clear same
  induction first generalizing second with
  | nil =>
    cases second with
    | nil => rfl
    | cons entry rest => exact absurd ((members entry).2 List.mem_cons_self) List.not_mem_nil
  | cons entry rest ih =>
    cases second with
    | nil => exact absurd ((members entry).1 List.mem_cons_self) List.not_mem_nil
    | cons other more =>
      obtain ⟨above, tail⟩ := List.pairwise_cons.1 firstAscending
      obtain ⟨otherAbove, otherTail⟩ := List.pairwise_cons.1 secondAscending
      have heads : entry = other := by
        rcases List.mem_cons.1 ((members entry).1 List.mem_cons_self) with eq | later
        · exact eq
        rcases List.mem_cons.1 ((members other).2 List.mem_cons_self) with eq | earlier
        · exact eq.symm
        have up := above _ earlier
        have down := otherAbove _ later
        simp [Std.OrientedCmp.gt_of_lt up] at down
      subst heads
      refine congrArg _ (ih tail otherTail fun candidate => ⟨fun mem => ?_, fun mem => ?_⟩)
      · rcases List.mem_cons.1 ((members candidate).1 (List.mem_cons_of_mem _ mem)) with rfl | found
        · have loop := above _ mem
          simp at loop
        · exact found
      · rcases List.mem_cons.1 ((members candidate).2 (List.mem_cons_of_mem _ mem)) with rfl | found
        · have loop := otherAbove _ mem
          simp at loop
        · exact found

/-- Putting a value at a key changes the look-up of that key alone. -/
theorem find?_insert (entries : List (κ × ν)) (key other : κ) (value : ν) :
    find? other (insert key value entries) =
      if compare other key = .eq then some value else find? other entries := by
  induction entries with
  | nil =>
    simp only [insert, find?]
    cases compare other key <;> rfl
  | cons head rest ih =>
    obtain ⟨here, old⟩ := head
    simp only [insert]
    split
    · rename_i lt
      simp only [find?]
      cases step : compare other key with
      | lt => simp only [Std.TransCmp.lt_trans step lt, reduceCtorEq, if_false]
      | eq => rfl
      | gt => rfl
    · rename_i eq
      obtain rfl := Std.LawfulEqCmp.eq_of_compare eq
      simp only [find?]
      cases compare other key <;> rfl
    · rename_i gt
      simp only [find?, ih]
      have before : compare here key = .lt := Std.OrientedCmp.lt_of_gt gt
      cases step : compare other here with
      | lt => simp [Std.TransCmp.lt_trans step before]
      | eq =>
        obtain rfl := Std.LawfulEqCmp.eq_of_compare step
        simp [before]
      | gt => rfl

end Lookup

end Assoc

/-! ## Tables -/

/-- Keys with values, in strictly ascending key order. -/
structure Table (κ ν : Type) [Ord κ] where
  entries : List (κ × ν)
  ascending : Assoc.Ascending entries := by exact List.Pairwise.nil

namespace Table

/-- The table without keys. -/
def empty : Table κ ν :=
  ⟨[], List.Pairwise.nil⟩

instance : EmptyCollection (Table κ ν) := ⟨empty⟩

instance : Inhabited (Table κ ν) := ⟨empty⟩

/-- Tables with the same entries are equal. -/
@[ext] theorem ext {first second : Table κ ν} (same : first.entries = second.entries) :
    first = second := by
  cases first; cases second; cases same; rfl

instance [DecidableEq κ] [DecidableEq ν] : DecidableEq (Table κ ν) := fun first second =>
  decidable_of_iff (first.entries = second.entries) ⟨ext, fun same => same ▸ rfl⟩

/-- Whether a table has no keys. -/
def isEmpty (table : Table κ ν) : Bool :=
  table.entries.isEmpty

/-- The number of keys. -/
def size (table : Table κ ν) : Nat :=
  table.entries.length

/-- The keys, ascending. -/
def keys (table : Table κ ν) : List κ :=
  table.entries.map Prod.fst

/-- The value at a key. -/
def find? (table : Table κ ν) (key : κ) : Option ν :=
  Assoc.find? key table.entries

/-- Whether a key has a value. -/
def contains (table : Table κ ν) (key : κ) : Bool :=
  (table.find? key).isSome

/-- The table without a key. -/
def erase (table : Table κ ν) (key : κ) : Table κ ν :=
  ⟨Assoc.erase key table.entries, table.ascending.sublist (Assoc.erase_sublist _ _)⟩

/-- The entries that pass a test. -/
def filter (keep : κ → ν → Bool) (table : Table κ ν) : Table κ ν :=
  ⟨table.entries.filter fun entry => keep entry.1 entry.2,
    table.ascending.sublist List.filter_sublist⟩

/-- The entry with the least key, and the table without it. -/
def takeFirst? (table : Table κ ν) : Option ((κ × ν) × Table κ ν) :=
  match table with
  | ⟨[], _⟩ => none
  | ⟨entry :: rest, ascending⟩ => some (entry, ⟨rest, (List.pairwise_cons.1 ascending).2⟩)

/-- Applies a function to every value. -/
def mapValues {μ : Type} (f : κ → ν → μ) (table : Table κ ν) : Table κ μ :=
  ⟨table.entries.map fun entry => (entry.1, f entry.1 entry.2),
    by simpa only [Assoc.Ascending, List.pairwise_map] using table.ascending⟩

variable [Std.TransOrd κ]

/-- Puts a value at a key, in place of the value that was there. -/
def insert (table : Table κ ν) (key : κ) (value : ν) : Table κ ν :=
  ⟨Assoc.insert key value table.entries, Assoc.ascending_insert key value table.ascending⟩

/-- The table of some pairs; of two pairs with one key the later one counts. -/
def ofList (pairs : List (κ × ν)) : Table κ ν :=
  pairs.foldl (fun table pair => table.insert pair.1 pair.2) empty

/-- The first table with the entries of the second written over it. -/
def override (first second : Table κ ν) : Table κ ν :=
  second.entries.foldl (fun table pair => table.insert pair.1 pair.2) first

variable [Std.LawfulEqOrd κ]

/-- A look-up finds exactly the listed entries. -/
theorem find?_eq_some_iff {table : Table κ ν} {key : κ} {value : ν} :
    table.find? key = some value ↔ (key, value) ∈ table.entries :=
  Assoc.find?_eq_some_iff table.ascending

/-- Tables with the same look-ups are equal. -/
theorem ext_find? {first second : Table κ ν}
    (same : ∀ key, first.find? key = second.find? key) : first = second :=
  ext (Assoc.eq_of_find? first.ascending second.ascending same)

/-- Putting a value changes the look-up of its key alone. -/
theorem find?_insert (table : Table κ ν) (key other : κ) (value : ν) :
    (table.insert key value).find? other =
      if compare other key = .eq then some value else table.find? other :=
  Assoc.find?_insert table.entries key other value

/-- The value that was put is found. -/
@[simp] theorem find?_insert_self (table : Table κ ν) (key : κ) (value : ν) :
    (table.insert key value).find? key = some value := by
  simp [find?_insert]

/-- Taking a key out changes the look-up of that key alone. -/
theorem find?_erase (table : Table κ ν) (key other : κ) :
    (table.erase key).find? other =
      if compare other key = .eq then none else table.find? other := by
  have listed : ∀ {entries : List (κ × ν)}, Assoc.Ascending entries → ∀ entry,
      entry ∈ Assoc.erase key entries ↔ entry ∈ entries ∧ compare entry.1 key ≠ .eq := by
    intro entries ascending entry
    induction entries with
    | nil => simp [Assoc.erase]
    | cons head rest ih =>
      obtain ⟨here, old⟩ := head
      obtain ⟨above, tail⟩ := List.pairwise_cons.1 ascending
      simp only [Assoc.erase]
      split
      · rename_i lt
        refine ⟨fun mem => ⟨mem, fun eq => ?_⟩, And.left⟩
        rcases List.mem_cons.1 mem with rfl | later
        · obtain rfl := Std.LawfulEqCmp.eq_of_compare eq
          simp at lt
        · have up := Std.TransCmp.lt_trans lt (above _ later)
          obtain same := Std.LawfulEqCmp.eq_of_compare eq
          simp [same] at up
      · rename_i eq
        obtain rfl := Std.LawfulEqCmp.eq_of_compare eq
        refine ⟨fun mem => ⟨List.mem_cons_of_mem _ mem, fun same => ?_⟩, fun ⟨mem, apart⟩ => ?_⟩
        · have up := above _ mem
          obtain equal := Std.LawfulEqCmp.eq_of_compare same
          simp [equal] at up
        · rcases List.mem_cons.1 mem with rfl | later
          · simp at apart
          · exact later
      · rename_i gt
        simp only [List.mem_cons, ih tail]
        constructor
        · rintro (rfl | ⟨mem, apart⟩)
          · refine ⟨Or.inl rfl, fun eq => ?_⟩
            obtain rfl := Std.LawfulEqCmp.eq_of_compare eq
            simp at gt
          · exact ⟨Or.inr mem, apart⟩
        · rintro ⟨rfl | mem, apart⟩
          · exact Or.inl rfl
          · exact Or.inr ⟨mem, apart⟩
  apply Option.ext
  intro value
  rw [find?_eq_some_iff]
  show (other, value) ∈ Assoc.erase key table.entries ↔ _
  rw [listed table.ascending]
  split
  · rename_i eq
    simp [eq]
  · rename_i apart
    rw [find?_eq_some_iff]
    exact ⟨And.left, fun mem => ⟨mem, apart⟩⟩

end Table

end HotReload
