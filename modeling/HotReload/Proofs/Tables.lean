import HotReload.Table
import Mathlib.Data.List.Induction
import Mathlib.Data.List.Nodup

/-!
# What the table of a list holds

A table is made from a list of pairs by putting one pair after the other. So a key is
looked up in the last pair that has it (`Table.find?_ofList`), every entry of the table is
one of the pairs, and if no key stands in two pairs the entries are the pairs.
-/

set_option autoImplicit false

namespace HotReload.Table

variable {κ ν μ : Type} [Ord κ] [Std.TransOrd κ] [Std.LawfulEqOrd κ]

/-! ## Look-ups -/

omit [Std.TransOrd κ] [Std.LawfulEqOrd κ] in
/-- Nothing is found in an empty table. -/
theorem find?_of_isEmpty {table : Table κ ν} (isEmpty : table.isEmpty = true) (key : κ) :
    table.find? key = none := by
  obtain ⟨entries, ascending⟩ := table
  cases entries with
  | nil => rfl
  | cons entry rest => exact nomatch isEmpty

omit [Std.LawfulEqOrd κ] in
/-- One more pair is put into the table of those before it. -/
theorem ofList_concat (pairs : List (κ × ν)) (pair : κ × ν) :
    ofList (pairs ++ [pair]) = (ofList pairs).insert pair.1 pair.2 := by
  simp only [ofList, List.foldl_append, List.foldl_cons, List.foldl_nil]

/-- The last pair with a key counts. -/
theorem find?_ofList (pairs : List (κ × ν)) (key : κ) :
    (ofList pairs).find? key =
      (pairs.reverse.find? fun pair => compare key pair.1 == .eq).map Prod.snd := by
  induction pairs using List.reverseRecOn with
  | nil => rfl
  | append_singleton pairs pair ih =>
      rw [ofList_concat, find?_insert, ih, List.reverse_append, List.reverse_singleton,
        List.singleton_append]
      by_cases same : compare key pair.1 = .eq
      · simp [same]
      · simp [same]

/-- A pair in front plays no role for the other keys. -/
theorem find?_ofList_cons_of_ne {pair : κ × ν} {key : κ} (apart : key ≠ pair.1)
    (pairs : List (κ × ν)) : (ofList (pair :: pairs)).find? key = (ofList pairs).find? key := by
  have differs : compare key pair.1 ≠ .eq := mt Std.LawfulEqOrd.eq_of_compare apart
  rw [find?_ofList, find?_ofList, List.reverse_cons, List.find?_append]
  simp [differs]

theorem find?_mapValues (f : κ → ν → μ) (table : Table κ ν) (key : κ) :
    (table.mapValues f).find? key = (table.find? key).map (f key) := by
  apply Option.ext
  intro value
  rw [find?_eq_some_iff, Option.map_eq_some_iff, mapValues, List.mem_map]
  constructor
  · rintro ⟨⟨here, old⟩, listed, same⟩
    obtain ⟨rfl, rfl⟩ := Prod.mk.inj same
    exact ⟨old, find?_eq_some_iff.2 listed, rfl⟩
  · rintro ⟨old, found, rfl⟩
    exact ⟨(key, old), find?_eq_some_iff.1 found, rfl⟩

/-! ## Entries -/

omit [Std.TransOrd κ] in
/-- The last pair with a key is one of the pairs, and has the key. -/
theorem mem_of_isLast {pairs : List (κ × ν)} {key : κ} {last : κ × ν}
    (isLast : (pairs.reverse.find? fun pair => compare key pair.1 == .eq) = some last) :
    last ∈ pairs ∧ key = last.1 := by
  have holds := List.find?_some isLast
  have key := Std.LawfulEqOrd.eq_of_compare (beq_iff_eq.1 holds)
  exact ⟨List.mem_reverse.1 (List.mem_of_find?_eq_some isLast), key⟩

/-- Every entry of the table is one of the pairs. -/
theorem mem_of_mem_ofList {pairs : List (κ × ν)} {pair : κ × ν}
    (listed : pair ∈ (ofList pairs).entries) : pair ∈ pairs := by
  have found : (ofList pairs).find? pair.1 = some pair.2 := find?_eq_some_iff.2 listed
  rw [find?_ofList, Option.map_eq_some_iff] at found
  obtain ⟨last, isLast, value⟩ := found
  obtain ⟨mem, key⟩ := mem_of_isLast isLast
  have same : pair = last := Prod.ext key value.symm
  rw [same]
  exact mem

/-- Pairs with different keys are all in the table. -/
theorem mem_ofList_of_mem {pairs : List (κ × ν)} (apart : (pairs.map Prod.fst).Nodup)
    {pair : κ × ν} (mem : pair ∈ pairs) : pair ∈ (ofList pairs).entries := by
  refine find?_eq_some_iff.1 (?_ : (ofList pairs).find? pair.1 = some pair.2)
  rw [find?_ofList, Option.map_eq_some_iff]
  have there : (pairs.reverse.find? fun other => compare pair.1 other.1 == .eq).isSome := by
    rw [List.find?_isSome]
    exact ⟨pair, List.mem_reverse.2 mem, by simp⟩
  obtain ⟨last, isLast⟩ := Option.isSome_iff_exists.1 there
  obtain ⟨listed, key⟩ := mem_of_isLast isLast
  have same : last = pair := List.inj_on_of_nodup_map apart listed mem key.symm
  exact ⟨last, isLast, by rw [same]⟩

omit [Std.TransOrd κ] [Std.LawfulEqOrd κ] in
/-- The keys of a table are different. -/
theorem nodup_keys [Std.ReflOrd κ] (table : Table κ ν) : table.keys.Nodup := by
  rw [keys, List.Nodup, List.pairwise_map]
  refine table.ascending.imp ?_
  intro first second less same
  rw [same, Std.ReflOrd.compare_self] at less
  exact nomatch less

/-- The keys of a table are those that are found. -/
theorem mem_keys_iff {table : Table κ ν} {key : κ} :
    key ∈ table.keys ↔ (table.find? key).isSome = true := by
  rw [keys, List.mem_map, Option.isSome_iff_exists]
  constructor
  · rintro ⟨entry, listed, rfl⟩
    exact ⟨entry.2, find?_eq_some_iff.2 listed⟩
  · rintro ⟨value, found⟩
    exact ⟨(key, value), find?_eq_some_iff.1 found, rfl⟩

/-- The keys of the table are the keys of the pairs. -/
theorem mem_keys_ofList {pairs : List (κ × ν)} {key : κ} :
    key ∈ (ofList pairs).keys ↔ key ∈ pairs.map Prod.fst := by
  rw [mem_keys_iff, find?_ofList, Option.isSome_map, List.find?_isSome, List.mem_map]
  simp only [List.mem_reverse, beq_iff_eq, Std.LawfulEqOrd.compare_eq_iff_eq]
  exact exists_congr fun pair => and_congr_right fun _ => eq_comm

/-- A key that stands in no pair is not found. -/
theorem find?_ofList_of_notMem {pairs : List (κ × ν)} {key : κ}
    (absent : key ∉ pairs.map Prod.fst) : (ofList pairs).find? key = none := by
  rw [← Option.not_isSome_iff_eq_none, ← mem_keys_iff, mem_keys_ofList]
  exact absent

/-- Among pairs with different keys a key is looked up as in the list. -/
theorem find?_ofList_of_lookup [DecidableEq κ] {pairs : List (κ × ν)}
    (apart : (pairs.map Prod.fst).Nodup) {key : κ} {value : ν}
    (there : pairs.lookup key = some value) : (ofList pairs).find? key = some value := by
  obtain ⟨before, behind, rfl, -⟩ := List.lookup_eq_some_iff.1 there
  exact find?_eq_some_iff.2 (mem_ofList_of_mem apart (by simp))

/-- The table of pairs with different keys holds just these pairs. -/
theorem perm_ofList {pairs : List (κ × ν)} (apart : (pairs.map Prod.fst).Nodup) :
    (ofList pairs).entries.Perm pairs := by
  have entriesApart : (ofList pairs).entries.Nodup := List.Nodup.of_map Prod.fst (nodup_keys _)
  rw [List.perm_ext_iff_of_nodup entriesApart (List.Nodup.of_map Prod.fst apart)]
  intro pair
  exact ⟨mem_of_mem_ofList, mem_ofList_of_mem apart⟩

/-- A table is the table of its entries. -/
theorem ofList_entries (table : Table κ ν) : ofList table.entries = table := by
  refine ext_find? fun key => Option.ext fun value => ?_
  rw [find?_eq_some_iff, find?_eq_some_iff]
  exact ⟨mem_of_mem_ofList, mem_ofList_of_mem (nodup_keys table)⟩

/-! ## Pairs put into a table -/

/-- A key is looked up among the pairs that were put in, and else in the table before. -/
theorem find?_foldl_insert (table : Table κ ν) (pairs : List (κ × ν)) (key : κ) :
    (pairs.foldl (fun table pair => table.insert pair.1 pair.2) table).find? key =
      ((ofList pairs).find? key).or (table.find? key) := by
  induction pairs using List.reverseRecOn with
  | nil => rfl
  | append_singleton pairs pair ih =>
      rw [List.foldl_append, List.foldl_cons, List.foldl_nil, ofList_concat, find?_insert,
        find?_insert, ih]
      split <;> rfl

/-- A pair in front only counts for a key that no later pair has. -/
theorem find?_ofList_cons (pair : κ × ν) (pairs : List (κ × ν)) (key : κ) :
    (ofList (pair :: pairs)).find? key =
      ((ofList pairs).find? key).or (if compare key pair.1 = .eq then some pair.2 else none) := by
  have placed : ofList (pair :: pairs) =
      pairs.foldl (fun table pair => table.insert pair.1 pair.2) (empty.insert pair.1 pair.2) := rfl
  rw [placed, find?_foldl_insert, find?_insert]
  rfl

/-- What is written over a table is found first. -/
theorem find?_override (first second : Table κ ν) (key : κ) :
    (first.override second).find? key = (second.find? key).or (first.find? key) := by
  rw [override, find?_foldl_insert, ofList_entries]

/-- **Putting pairs into a table one at a time writes the table of the pairs over it.** -/
theorem override_ofList (table : Table κ ν) (pairs : List (κ × ν)) :
    table.override (ofList pairs) =
      pairs.foldl (fun table pair => table.insert pair.1 pair.2) table := by
  refine ext_find? fun key => ?_
  rw [find?_override, find?_foldl_insert]

end HotReload.Table
