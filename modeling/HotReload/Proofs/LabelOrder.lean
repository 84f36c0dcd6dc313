import HotReload.Label
import HotReload.Proofs.Tables

/-!
# Labels in order

Sorting labels rearranges them (`Label.perm_sorted`) and puts them in ascending order
(`Label.pairwise_sorted`). Different labels have only one ascending order, so the keys of
a table of labels are what sorting these labels gives (`Label.keys_ofList`).
-/

set_option autoImplicit false

namespace HotReload.Label

variable {ν : Type}

theorem atMost_of_not_atMost {first second : Label} (above : first.atMost second = false) :
    second.atMost first = true := by
  rw [atMost, Ordering.isLE_eq_false] at above
  rw [atMost, Std.OrientedCmp.lt_of_gt above]
  rfl

theorem atMost_trans {first second third : Label} (below : first.atMost second = true)
    (above : second.atMost third = true) : first.atMost third = true :=
  Std.TransCmp.isLE_trans below above

theorem atMost_antisymm {first second : Label} (below : first.atMost second = true)
    (above : second.atMost first = true) : first = second :=
  Std.LawfulEqCmp.eq_of_compare (Std.OrientedCmp.isLE_antisymm below above)

/-- A label that comes before another is at most that label. -/
theorem atMost_of_lt {first second : Label} (less : compare first second = .lt) :
    first.atMost second = true := by
  rw [atMost, less]
  rfl

theorem not_atMost_of_lt {first second : Label} (less : compare first second = .lt) :
    second.atMost first = false := by
  rw [atMost, Std.OrientedCmp.gt_of_lt less]
  rfl

@[simp] theorem atMost_self (label : Label) : label.atMost label = true := by
  rw [atMost, Std.ReflOrd.compare_self]
  rfl

/-- A label that is at most another and does not come before it is that label. -/
theorem eq_of_atMost {first second : Label} (below : first.atMost second = true)
    (notBefore : first.before second = false) : first = second := by
  refine Std.LawfulEqCmp.eq_of_compare (?_ : compare first second = .eq)
  unfold atMost at below
  unfold before at notBefore
  cases compared : compare first second with
  | lt => rw [compared] at notBefore; exact nomatch notBefore
  | eq => rfl
  | gt => rw [compared] at below; exact nomatch below

/-! ## Sorting -/

theorem perm_insertInto (label : Label) (labels : List Label) :
    (insertInto label labels).Perm (label :: labels) := by
  induction labels with
  | nil => exact .refl _
  | cons here rest ih =>
      rw [insertInto]
      split
      · exact .refl _
      · exact (ih.cons here).trans (.swap label here rest)

/-- Sorting labels rearranges them. -/
theorem perm_sorted (labels : List Label) : (sorted labels).Perm labels := by
  induction labels with
  | nil => exact .refl _
  | cons first rest ih => exact (perm_insertInto first _).trans (ih.cons first)

theorem pairwise_insertInto (label : Label) {labels : List Label}
    (ascending : labels.Pairwise fun first second => first.atMost second = true) :
    (insertInto label labels).Pairwise fun first second => first.atMost second = true := by
  induction labels with
  | nil => exact List.pairwise_singleton _ _
  | cons here rest ih =>
      obtain ⟨above, tail⟩ := List.pairwise_cons.1 ascending
      rw [insertInto]
      split
      · rename_i below
        refine List.pairwise_cons.2 ⟨?_, ascending⟩
        rw [List.forall_mem_cons]
        exact ⟨below, fun other mem => atMost_trans below (above other mem)⟩
      · rename_i notBelow
        refine List.pairwise_cons.2 ⟨fun other mem => ?_, ih tail⟩
        rcases List.mem_cons.1 ((perm_insertInto label rest).subset mem) with rfl | later
        · exact atMost_of_not_atMost (Bool.eq_false_iff.2 notBelow)
        · exact above other later

/-- Sorted labels are in ascending order. -/
theorem pairwise_sorted (labels : List Label) :
    (sorted labels).Pairwise fun first second => first.atMost second = true := by
  induction labels with
  | nil => exact List.Pairwise.nil
  | cons first rest ih => exact pairwise_insertInto first ih

/-- The keys of the table of pairs with different labels are these labels, sorted. -/
theorem keys_ofList {pairs : List (Label × ν)} (apart : (pairs.map Prod.fst).Nodup) :
    (Table.ofList pairs).keys = sorted (pairs.map Prod.fst) := by
  have ascending : (Table.ofList pairs).keys.Pairwise
      fun first second => first.atMost second = true := by
    rw [Table.keys, List.pairwise_map]
    exact (Table.ofList pairs).ascending.imp atMost_of_lt
  have same : (Table.ofList pairs).keys.Perm (sorted (pairs.map Prod.fst)) :=
    ((Table.perm_ofList apart).map Prod.fst).trans (perm_sorted _).symm
  exact same.eq_of_pairwise (fun _ _ _ _ => atMost_antisymm) ascending (pairwise_sorted _)

end HotReload.Label
