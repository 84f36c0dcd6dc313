import HotReload.Proofs.SharedText

/-!
# The content of a file, label by label

The content of a file has a text for the universal label and for every label that a part names, and
for no other. The universal text is made of the unconditional parts, the text of another label of
these and its own parts, in the order of the source (`content_exact`). So a label does not notice
what is written for others.

That holds even if parts name the universal label itself. The universal label then has two buckets,
the one that is made first and a recorded one. Its parts go to the first
(`foldl_addPart_universal`), the recorded one gets the unconditional parts alone, and the last
bucket of a label is the one that counts.
-/

set_option autoImplicit false

namespace HotReload

open Spec (ConditionalText Part)

namespace Content

variable {label : Label} {parts : List Part} {part : Part}

/-- The texts of the parts that belong to every update. -/
def unconditionalTexts (parts : List Part) : List String :=
  (parts.filter fun part => !part.isConditional).map Part.text

/-- The parts that do not name the universal label. -/
def unstarred (parts : List Part) : List Part :=
  parts.filter fun part => part.condition ≠ some .universal

theorem unstarred_cons :
    unstarred (part :: parts) =
      if part.condition = some .universal then unstarred parts else part :: unstarred parts := by
  by_cases starred : part.condition = some .universal <;> simp [unstarred, starred]

/-- The first bucket takes the parts that name its label, so the others do without them. -/
theorem foldl_addPart_universal (parts : List Part) (old : String)
    (held : List (Label × String)) :
    parts.foldl addPart ((.universal, old) :: held) =
      (.universal, old ++ String.join (textsFor .universal parts)) ::
        (unstarred parts).foldl addPart held := by
  induction parts generalizing old held with
  | nil => simp [textsFor, unstarred]
  | cons part rest ih =>
      rw [List.foldl_cons, textsFor_cons, unstarred_cons, addPart]
      cases own : part.condition with
      | none => simp [ih, reaches, own, addPart, String.append_assoc]
      | some label =>
          by_cases starred : label = .universal
          · simp [ih, reaches, own, starred, addTo, String.append_assoc]
          · have other : ¬Label.universal = label := fun same => starred same.symm
            simp [ih, reaches, own, starred, addTo, addPart, other]

/-- Without the parts that name it, the universal label is reached by the unconditional parts. -/
theorem textsFor_unstarred (parts : List Part) :
    textsFor .universal (unstarred parts) = unconditionalTexts parts := by
  rw [textsFor, unstarred, unconditionalTexts, List.filter_filter]
  congr 1
  refine List.filter_congr fun part _ => ?_
  cases own : part.condition with
  | none => simp [reaches, Part.isConditional, own]
  | some label => by_cases starred : label = .universal <;>
      simp [reaches, Part.isConditional, own, starred]

theorem unstarred_eq_self (absent : .universal ∉ Spec.labelsIn parts) :
    unstarred parts = parts := by
  rw [unstarred, List.filter_eq_self]
  intro part mem
  refine decide_eq_true fun starred => absent ?_
  exact Spec.mem_labelsIn.2 ⟨part, mem, starred⟩

/-- The recorded buckets when all parts are placed: what is put into the first one is left out. -/
def recordedBuckets (parts : List Part) : List (Label × String) :=
  (unstarred parts).foldl addPart ((Spec.labelsIn parts).map fun label => (label, ""))

theorem buckets_ofParts (parts : List Part) :
    buckets (.ofParts parts) =
      (.universal, String.join (textsFor .universal parts)) :: recordedBuckets parts := by
  rw [buckets, Spec.parts_ofParts, Spec.conditions_ofParts, List.map_cons,
    foldl_addPart_universal, String.empty_append, recordedBuckets]

theorem map_fst_recordedBuckets (parts : List Part) :
    (recordedBuckets parts).map Prod.fst = Spec.labelsIn parts := by
  have keys := map_fst_buckets parts
  rw [buckets_ofParts, List.map_cons] at keys
  exact (List.cons.inj keys).2

/-- A file has the unconditional parts for the universal label, whether or not a part names it. -/
theorem find?_ofText_universal (parts : List Part) :
    (ofText (.ofParts parts)).find? .universal =
      some (String.join (unconditionalTexts parts)) := by
  rw [ofText, buckets_ofParts, Table.find?_ofList_cons]
  by_cases named : .universal ∈ Spec.labelsIn parts
  · have empty :
        ((Spec.labelsIn parts).map fun label => (label, "")).lookup .universal = some "" :=
      List.lookup_graph _ named
    have there : (recordedBuckets parts).lookup .universal =
        some (String.join (unconditionalTexts parts)) := by
      rw [recordedBuckets, lookup_addParts empty, String.empty_append, textsFor_unstarred]
    have apart : ((recordedBuckets parts).map Prod.fst).Nodup :=
      map_fst_recordedBuckets parts ▸ Spec.nodup_labelsIn parts
    rw [Table.find?_ofList_of_lookup apart there, Option.some_or]
  · have nothing : (Table.ofList (recordedBuckets parts)).find? .universal = none := by
      rw [← Option.not_isSome_iff_eq_none, ← Table.mem_keys_iff, Table.mem_keys_ofList,
        map_fst_recordedBuckets]
      exact named
    have same : textsFor .universal parts = unconditionalTexts parts := by
      rw [← textsFor_unstarred, unstarred_eq_self named]
    rw [nothing, same]
    simp

/-- A file has a text for the universal label and for each label that a part names. -/
theorem mem_keys_ofText :
    label ∈ (ofText (.ofParts parts)).keys ↔
      label = .universal ∨ ∃ part ∈ parts, part.condition = some label := by
  rw [ofText, Table.mem_keys_ofList, map_fst_buckets, List.mem_cons, Spec.mem_labelsIn]

/-- A label is named by one of the parts that reach it, if it is named at all. -/
theorem named_iff_reached :
    (∃ part ∈ parts, part.condition = some label) ↔
      ∃ part ∈ parts.filter (reaches label), part.condition = some label := by
  constructor
  · rintro ⟨part, mem, own⟩
    exact ⟨part, List.mem_filter.2 ⟨mem, by simp [reaches, own]⟩, own⟩
  · rintro ⟨part, mem, own⟩
    exact ⟨part, List.mem_of_mem_filter mem, own⟩

/-- Parts that do not reach a label play no role for its text. -/
theorem find?_ofText_congr {others : List Part} (apart : label ≠ .universal)
    (same : parts.filter (reaches label) = others.filter (reaches label)) :
    (ofText (.ofParts parts)).find? label = (ofText (.ofParts others)).find? label := by
  have absent {parts : List Part} (unnamed : ¬∃ part ∈ parts, part.condition = some label) :
      (ofText (.ofParts parts)).find? label = none := by
    rw [← Option.not_isSome_iff_eq_none, ← Table.mem_keys_iff, mem_keys_ofText]
    exact not_or.2 ⟨apart, unnamed⟩
  by_cases named : ∃ part ∈ parts, part.condition = some label
  · have otherNamed : ∃ part ∈ others, part.condition = some label := by
      rwa [named_iff_reached, ← same, ← named_iff_reached]
    rw [find?_ofText apart (Spec.mem_labelsIn.2 named),
      find?_ofText apart (Spec.mem_labelsIn.2 otherNamed), textsFor, textsFor, same]
  · have otherUnnamed : ¬∃ part ∈ others, part.condition = some label := by
      rwa [named_iff_reached, ← same, ← named_iff_reached]
    rw [absent named, absent otherUnnamed]

/-- **The content of a file, label by label.** The universal label has the unconditional parts, each
other label that a part names has these and its own parts, all in the order of the source, and no
further label has a text. So labels with the same parts in two files have the same text, whatever
other labels have there. -/
theorem content_exact (parts : List Part) :
    let content := ofText (.ofParts parts)
    (∀ label, label ∈ content.keys ↔
      label = .universal ∨ ∃ part ∈ parts, part.condition = some label) ∧
    content.find? .universal = some (String.join (unconditionalTexts parts)) ∧
    (∀ label, label ≠ .universal → (∃ part ∈ parts, part.condition = some label) →
      content.find? label = some (String.join (textsFor label parts))) ∧
    ∀ label others, label ≠ .universal →
      parts.filter (reaches label) = others.filter (reaches label) →
      content.find? label = (ofText (.ofParts others)).find? label := by
  refine ⟨fun label => mem_keys_ofText, find?_ofText_universal parts, ?_, ?_⟩
  · intro label apart named
    exact find?_ofText apart (Spec.mem_labelsIn.2 named)
  · intro label others apart same
    exact find?_ofText_congr apart same

/-- Lines of a file that name the universal label and two others, between unconditional ones. -/
def starredParts : List Part :=
  let line (label : String) (text : String) : Part :=
    { condition := some ⟨label⟩, text, block := some false, markers := [], description := none
      span := .zero }
  [.unconditional "a" .zero, line "*" "s", line "1" "b", .unconditional "c" .zero, line "0" "d",
    line "*" "t", line "1" "e", .unconditional "f" .zero]

theorem content_exact_starred :
    (ofText (.ofParts starredParts)).keys = [⟨"0"⟩, ⟨"1"⟩, .universal] ∧
      (ofText (.ofParts starredParts)).find? .universal = some "acf" ∧
      (∃ part ∈ starredParts, part.condition = some ⟨"1"⟩) ∧
      (ofText (.ofParts starredParts)).find? ⟨"1"⟩ = some "abcef" ∧
      ∃ others, others ≠ starredParts ∧
        starredParts.filter (reaches ⟨"1"⟩) = others.filter (reaches ⟨"1"⟩) ∧
        (ofText (.ofParts starredParts)).find? ⟨"1"⟩ = (ofText (.ofParts others)).find? ⟨"1"⟩ := by
  have named : ∃ part ∈ starredParts, part.condition = some ⟨"1"⟩ := by decide
  have apart : (⟨"1"⟩ : Label) ≠ .universal := by decide
  have same : starredParts.filter (reaches ⟨"1"⟩) =
      (starredParts.filter (reaches ⟨"1"⟩)).filter (reaches ⟨"1"⟩) := rfl
  obtain ⟨-, universal, own, untouched⟩ := content_exact starredParts
  exact ⟨rfl, universal, named, own _ apart named, _, by decide, same, untouched _ _ apart same⟩

end Content

end HotReload
