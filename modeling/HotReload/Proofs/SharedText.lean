import HotReload.Content
import HotReload.Proofs.Expectations
import HotReload.Proofs.Tables

/-!
# Files and expectations put texts together alike

A conditional text can be read as the content of a file and as expectations. Both readings give a
label the unconditional parts and its own, in order, and neither is touched by what other labels
have in between (`Content.find?_ofText`, `Spec.textsOf_of_unmarked`). So a label whose parts have no
markers is compared with the normal form of the text that the file has for it
(`Spec.plain_label_shows_file`).

The universal label stands apart. In a file its bucket is made before those of the recorded labels,
so a part that names it falls into another bucket than the one that counts.
-/

set_option autoImplicit false

namespace HotReload

open Spec (ConditionalText Part)

variable {label : Label} {parts : List Part} {part : Part}

/-! ## Buckets -/

namespace Content

variable {held : List (Label × String)} {other : Label} {text old : String}

/-- A part whose text is put into the bucket of a label. -/
def reaches (label : Label) (part : Part) : Bool :=
  part.condition == none || part.condition == some label

/-- The texts that are put into the bucket of a label. -/
def textsFor (label : Label) (parts : List Part) : List String :=
  (parts.filter (reaches label)).map Part.text

theorem textsFor_cons :
    textsFor label (part :: parts) =
      if reaches label part then part.text :: textsFor label parts else textsFor label parts := by
  rw [textsFor, List.filter_cons]
  split <;> rfl

theorem lookup_addTo_self (there : held.lookup label = some old) :
    (addTo label text held).lookup label = some (old ++ text) := by
  induction held with
  | nil => exact nomatch there
  | cons bucket rest ih =>
      obtain ⟨here, first⟩ := bucket
      rw [addTo]
      split
      · rename_i same
        subst same
        rw [List.lookup_cons_self] at there ⊢
        rw [Option.some.inj there]
      · rename_i apart
        have other : (label == here) = false := beq_eq_false_iff_ne.2 (Ne.symm apart)
        rw [List.lookup_cons, other] at there ⊢
        exact ih there

theorem lookup_addTo_other (apart : label ≠ other) :
    (addTo other text held).lookup label = held.lookup label := by
  have differs : (label == other) = false := beq_eq_false_iff_ne.2 apart
  induction held with
  | nil => rw [addTo, List.lookup_cons, differs]
  | cons bucket rest ih =>
      obtain ⟨here, first⟩ := bucket
      rw [addTo]
      split
      · rename_i same
        rw [same, List.lookup_cons, List.lookup_cons, differs]
      · rw [List.lookup_cons, List.lookup_cons, ih]

/-- A text that is added to all buckets is added to the one of a label. -/
theorem lookup_map_append (there : held.lookup label = some old) :
    (held.map fun bucket => (bucket.1, bucket.2 ++ text)).lookup label = some (old ++ text) := by
  induction held with
  | nil => exact nomatch there
  | cons bucket rest ih =>
      obtain ⟨here, first⟩ := bucket
      rw [List.map_cons, List.lookup_cons]
      rw [List.lookup_cons] at there
      split
      · rename_i same
        rw [same] at there
        rw [Option.some.inj there]
      · rename_i other
        rw [other] at there
        exact ih there

/-- One more part is added to the bucket of each label that it reaches. -/
theorem lookup_addPart (there : held.lookup label = some old) (part : Part) :
    (addPart held part).lookup label =
      some (if reaches label part then old ++ part.text else old) := by
  unfold addPart reaches
  cases own : part.condition with
  | none => exact lookup_map_append there
  | some other =>
      by_cases same : other = label
      · subst same
        simpa using lookup_addTo_self there
      · simpa [same] using (lookup_addTo_other (Ne.symm same)).trans there

/-- **All parts that reach a label come into its bucket, in order.** -/
theorem lookup_addParts (there : held.lookup label = some old) (parts : List Part) :
    (parts.foldl addPart held).lookup label =
      some (old ++ String.join (textsFor label parts)) := by
  induction parts generalizing held old with
  | nil => simpa [textsFor] using there
  | cons part rest ih =>
      rw [List.foldl_cons, ih (lookup_addPart there part), textsFor_cons]
      split
      · rw [String.join_cons, String.append_assoc]
      · rfl

/-! ## Keys -/

theorem map_fst_addTo (listed : label ∈ held.map Prod.fst) (text : String) :
    (addTo label text held).map Prod.fst = held.map Prod.fst := by
  induction held with
  | nil => exact absurd listed List.not_mem_nil
  | cons bucket rest ih =>
      obtain ⟨here, first⟩ := bucket
      rw [addTo]
      split
      · rfl
      · rename_i apart
        rw [List.map_cons, List.map_cons, ih (List.mem_of_ne_of_mem (Ne.symm apart) listed)]

/-- A part whose label has a bucket adds none. -/
theorem map_fst_addPart
    (listed : ∀ label, part.condition = some label → label ∈ held.map Prod.fst) :
    (addPart held part).map Prod.fst = held.map Prod.fst := by
  unfold addPart
  cases own : part.condition with
  | none => simp
  | some label => exact map_fst_addTo (listed label own) part.text

theorem map_fst_addParts
    (listed : ∀ part ∈ parts, ∀ label, part.condition = some label →
      label ∈ held.map Prod.fst) :
    (parts.foldl addPart held).map Prod.fst = held.map Prod.fst := by
  induction parts generalizing held with
  | nil => rfl
  | cons part rest ih =>
      obtain ⟨here, later⟩ := List.forall_mem_cons.1 listed
      have same := map_fst_addPart here
      rw [List.foldl_cons, ih (same.symm ▸ later), same]

/-- A text that is built part by part has a bucket for each label that it mentions. -/
theorem map_fst_buckets (parts : List Part) :
    (buckets (.ofParts parts)).map Prod.fst = .universal :: Spec.labelsIn parts := by
  unfold buckets
  have start :
      ((Label.universal :: Spec.labelsIn parts).map fun label => (label, "")).map Prod.fst =
        .universal :: Spec.labelsIn parts := by
    rw [List.map_map]
    exact List.map_id' _
  rw [Spec.parts_ofParts, Spec.conditions_ofParts, map_fst_addParts, start]
  intro part mem label own
  rw [start]
  exact List.mem_cons_of_mem _ (Spec.mem_labelsIn.2 ⟨part, mem, own⟩)

/-- **A file has for a label the parts that reach it, in order.** -/
theorem find?_ofText (apart : label ≠ .universal) (listed : label ∈ Spec.labelsIn parts) :
    (ofText (.ofParts parts)).find? label = some (String.join (textsFor label parts)) := by
  have empty :
      ((Label.universal :: Spec.labelsIn parts).map fun label => (label, "")).lookup label =
        some "" := List.lookup_graph _ (List.mem_cons_of_mem _ listed)
  have there : (buckets (.ofParts parts)).lookup label =
      some (String.join (textsFor label parts)) := by
    unfold buckets
    rw [Spec.parts_ofParts, Spec.conditions_ofParts, lookup_addParts empty, String.empty_append]
  have keys := map_fst_buckets parts
  obtain ⟨first, rest, all, isUniversal, labels⟩ := List.map_eq_cons_iff.1 keys
  have other : label ≠ first.1 := isUniversal ▸ apart
  unfold ofText
  rw [all, List.lookup_cons, beq_eq_false_iff_ne.2 other] at there
  rw [all, Table.find?_ofList_cons_of_ne other]
  exact Table.find?_ofList_of_lookup (labels ▸ Spec.nodup_labelsIn parts) there

end Content

/-! ## Labels without markers -/

namespace Spec

variable {α : Type} {origin : Origin} {subs : List α}

/-- Without markers the texts of a label are those that a file has for it. -/
theorem textsOf_of_unmarked
    (plain : ∀ part ∈ parts, part.condition = some label → part.markers = []) :
    textsOf label parts = Content.textsFor label parts := by
  unfold textsOf Content.textsFor
  congr 1
  refine List.filter_congr fun part mem => ?_
  by_cases own : part.condition = some label
  · simp [Part.addsText, Content.reaches, own, plain part mem own]
  · simp [Part.addsText, Content.reaches, beq_eq_false_iff_ne.2 own]

/-- Without markers a label gets one step and no hooks. -/
theorem gathered_of_unmarked
    (plain : ∀ part ∈ parts, part.condition = some label → part.markers = []) :
    (Draft.gathered subs parts label).entry =
      { steps := [.html (Html.normalize (String.join (textsOf label parts)))]
        before := none, after := none, description := firstDescription label parts } := by
  have noBlock : firstBlock subs label parts = none :=
    firstBlock_eq_none_iff.2 fun part mem block => by
      obtain ⟨own, marked, -⟩ := Part.isStepBlock_iff.1 block
      exact marked (plain part mem own)
  have noHooks : hookMarkers label parts = [] := by
    rw [hookMarkers, List.filter_eq_nil_iff.2, List.flatMap_nil]
    intro part mem hook
    obtain ⟨own, marked, -⟩ := Part.isHookPart_iff.1 hook
    exact marked (plain part mem own)
  simp [Draft.entry, Draft.entrySteps, Draft.gathered, noBlock, noHooks, handles]

/-- **A label without markers is compared with what a file shows for it.** Its entry has the normal
form of the text that the same parts give the label in a file as its only step, and no hooks. -/
theorem plain_label_shows_file {expects : List (Label × Entry α)}
    (compiled : entries origin (.ofParts parts) subs = .ok expects)
    (apart : label ≠ .universal) (occurs : ∃ part ∈ parts, part.condition = some label)
    (plain : ∀ part ∈ parts, part.condition = some label → part.markers = []) :
    ∃ entry text, expects.lookup label = some entry ∧
      (Content.ofText (.ofParts parts)).find? label = some text ∧
      entry.steps = [.html (Html.normalize text)] ∧ entry.before = none ∧ entry.after = none := by
  obtain ⟨-, rfl⟩ := admitted_of_entries compiled
  have listed := mem_labelsIn.2 occurs
  refine ⟨_, _, lookup_gatheredEntries listed, Content.find?_ofText apart listed, ?_⟩
  rw [gathered_of_unmarked plain, textsOf_of_unmarked plain]
  exact ⟨rfl, rfl, rfl⟩

/-- A line of the label `0` between a step block of `1`, a hook of `2` and the frame. -/
def linedParts : List Part := [
  .unconditional "<main>\n" .zero,
  { condition := some ⟨"1"⟩, text := "<i></i>\n", block := some true, markers := [⟨0, 0⟩, ⟨1, 8⟩],
    description := none, span := .zero },
  { condition := some ⟨"0"⟩, text := "<p>0</p>\n", block := some false, markers := [],
    description := none, span := .zero },
  { condition := some ⟨"2"⟩, text := "\n", block := some false, markers := [⟨1, 0⟩],
    description := none, span := .zero },
  .unconditional "</main>\n" .zero]

theorem plain_label_shows_file_between :
    ∃ expects entry text,
      entries ⟨.compile, none⟩ (.ofParts linedParts) ["first", "second"] = .ok expects ∧
      expects.lookup ⟨"0"⟩ = some entry ∧
      (Content.ofText (.ofParts linedParts)).find? ⟨"0"⟩ = some text ∧
      entry.steps = [.html (Html.normalize text)] ∧ entry.before = none ∧ entry.after = none ∧
      text = "<main>\n<p>0</p>\n</main>\n" := by
  have compiled : entries ⟨.compile, none⟩ (.ofParts linedParts) ["first", "second"] =
      .ok (gatheredEntries ["first", "second"] linedParts) := rfl
  obtain ⟨entry, text, listed, found, steps, before, after⟩ :=
    plain_label_shows_file compiled (by decide : (⟨"0"⟩ : Label) ≠ .universal) (by decide)
      (by decide)
  refine ⟨_, entry, text, compiled, listed, found, steps, before, after, ?_⟩
  exact Option.some.inj (found.symm.trans rfl)

end Spec

end HotReload
