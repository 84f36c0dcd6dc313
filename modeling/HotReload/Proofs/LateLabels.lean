import HotReload.Proofs.FileContent

/-!
# Labels that are not recorded

Conditional text lists the labels of its parts, and text that is built part by part lists all of
them. Both ways to compile it make a bucket for each listed label before they go through the parts.
A label that is not listed gets its bucket late, at its first part, and what stands in front of that
part is not put into it. So such a label is compiled as if the text began with its first part
(`heard`), in the content of a file as in the expectations, which fill the same buckets
(`Spec.exists_addParts`).

That is the text the label has when it is listed exactly if the frame in front of its first part has
no text (`late_label_exact`). A frame that is lost is shown at the end (`late_label_loses_frame`).
-/

set_option autoImplicit false

namespace HotReload

open Spec (ConditionalText Part)

variable {label : Label} {parts : List Part} {part : Part} {conditions : List Label}

/-! ## Buckets that are made late -/

namespace Content

variable {held : List (Label × String)} {text : String}

theorem map_fst_addTo_eq (label : Label) (text : String) (held : List (Label × String)) :
    (addTo label text held).map Prod.fst =
      ConditionalText.mention (held.map Prod.fst) (some label) := by
  rw [Spec.ConditionalText.mention_eq]
  split
  · rename_i listed
    exact map_fst_addTo listed text
  · rename_i absent
    induction held with
    | nil => rfl
    | cons bucket rest ih =>
        obtain ⟨here, old⟩ := bucket
        obtain ⟨other, absent⟩ := not_or.1 (mt List.mem_cons.2 absent)
        rw [addTo, if_neg (Ne.symm other), List.map_cons, ih absent]
        rfl

/-- A part makes a bucket for its label if there is none. -/
theorem map_fst_addPart_eq (held : List (Label × String)) (part : Part) :
    (addPart held part).map Prod.fst =
      ConditionalText.mention (held.map Prod.fst) part.condition := by
  unfold addPart
  cases part.condition with
  | none => simp [ConditionalText.mention]
  | some label => exact map_fst_addTo_eq label part.text held

theorem nodup_addParts (apart : (held.map Prod.fst).Nodup) (parts : List Part) :
    ((parts.foldl addPart held).map Prod.fst).Nodup := by
  induction parts generalizing held with
  | nil => exact apart
  | cons part rest ih =>
      refine ih ?_
      rw [map_fst_addPart_eq]
      exact Spec.ConditionalText.nodup_mention apart _

theorem lookup_eq_none_iff : held.lookup label = none ↔ label ∉ held.map Prod.fst := by
  rw [List.lookup_eq_none_iff, List.mem_map]
  simp only [bne_iff_ne, not_exists, not_and]
  exact forall₂_congr fun bucket _ => ne_comm

theorem lookup_addTo_absent (absent : held.lookup label = none) :
    (addTo label text held).lookup label = some text := by
  induction held with
  | nil => rw [addTo, List.lookup_cons_self]
  | cons bucket rest ih =>
      obtain ⟨here, old⟩ := bucket
      rw [List.lookup_cons] at absent
      cases same : label == here with
      | true =>
          rw [same] at absent
          exact absurd absent (Option.some_ne_none _)
      | false =>
          rw [same] at absent
          rw [addTo, if_neg (Ne.symm (beq_eq_false_iff_ne.1 same)), List.lookup_cons, same]
          exact ih absent

/-- Parts of other labels make no bucket for a label. -/
theorem lookup_addPart_absent (absent : held.lookup label = none)
    (other : part.condition ≠ some label) : (addPart held part).lookup label = none := by
  rw [lookup_eq_none_iff] at absent ⊢
  rw [map_fst_addPart_eq]
  cases own : part.condition with
  | none => exact absent
  | some name =>
      have apart : label ≠ name := fun same => other (own.trans (congrArg some same.symm))
      rw [Spec.ConditionalText.mention_eq]
      split
      · exact absent
      · simpa [apart] using absent

/-- The parts from the first one of a label on. -/
def fromFirst (label : Label) (parts : List Part) : List Part :=
  parts.dropWhile fun part => part.condition != some label

/-- The parts in front of the first one of a label. -/
def beforeFirst (label : Label) (parts : List Part) : List Part :=
  parts.takeWhile fun part => part.condition != some label

/-- **A bucket that is made late has the parts from the first one of its label on.** -/
theorem lookup_addParts_late (absent : held.lookup label = none)
    (named : ∃ part ∈ parts, part.condition = some label) :
    (parts.foldl addPart held).lookup label =
      some (String.join (textsFor label (fromFirst label parts))) := by
  induction parts generalizing held with
  | nil => simp at named
  | cons part rest ih =>
      rw [List.foldl_cons, fromFirst, List.dropWhile_cons]
      by_cases own : part.condition = some label
      · have made : (addPart held part).lookup label = some part.text := by
          rw [addPart, own]
          exact lookup_addTo_absent absent
        have stays : (part.condition != some label) = false := by simp [own]
        have reached : reaches label part = true := by simp [reaches, own]
        rw [lookup_addParts made, stays, if_neg Bool.false_ne_true, textsFor_cons, if_pos reached,
          String.join_cons]
      · have later : ∃ part ∈ rest, part.condition = some label := by
          simpa [own] using named
        have goesOn : (part.condition != some label) = true := by simpa using own
        rw [goesOn, if_pos rfl]
        exact ih (lookup_addPart_absent absent own) later

/-- The parts that are put into the bucket of a label: all of them if it is listed, and otherwise
those from its first part on. -/
def heard (conditions : List Label) (label : Label) (parts : List Part) : List Part :=
  if label ∈ conditions then parts else fromFirst label parts

/-- The buckets of the listed labels and of those that parts add. -/
def labelBuckets (text : ConditionalText) : List (Label × String) :=
  text.parts.foldl addPart (text.conditions.map fun label => (label, ""))

theorem lookup_labelBuckets (named : ∃ part ∈ parts, part.condition = some label) :
    (labelBuckets ⟨parts, conditions⟩).lookup label =
      some (String.join (textsFor label (heard conditions label parts))) := by
  unfold labelBuckets heard
  split
  · rename_i listed
    have empty : (conditions.map fun label => (label, "")).lookup label = some "" :=
      List.lookup_graph _ listed
    rw [lookup_addParts empty, String.empty_append]
  · rename_i unlisted
    refine lookup_addParts_late ?_ named
    rw [lookup_eq_none_iff, List.map_map]
    simpa using unlisted

/-- A file has for a label what is put into its bucket. -/
theorem find?_ofText_heard (unstarred : ∀ part ∈ parts, part.condition ≠ some .universal)
    (apart : conditions.Nodup) (named : ∃ part ∈ parts, part.condition = some label) :
    (ofText ⟨parts, conditions⟩).find? label =
      some (String.join (textsFor label (heard conditions label parts))) := by
  have other : label ≠ .universal := by
    obtain ⟨part, mem, own⟩ := named
    exact fun same => unstarred part mem (own.trans (congrArg some same))
  have whole : Content.unstarred parts = parts :=
    List.filter_eq_self.2 fun part mem => decide_eq_true (unstarred part mem)
  have listed : (conditions.map fun label => (label, "")).map Prod.fst = conditions := by
    rw [List.map_map]
    exact List.map_id' _
  have keys : ((labelBuckets ⟨parts, conditions⟩).map Prod.fst).Nodup :=
    nodup_addParts (listed.symm ▸ apart) parts
  have shape : buckets ⟨parts, conditions⟩ =
      (.universal, "" ++ String.join (textsFor .universal parts)) ::
        labelBuckets ⟨parts, conditions⟩ := by
    rw [buckets, List.map_cons, foldl_addPart_universal, whole, labelBuckets]
  rw [ofText, shape, Table.find?_ofList_cons_of_ne other]
  exact Table.find?_ofList_of_lookup keys (lookup_labelBuckets named)

/-- What is put into the bucket of a label is all that reaches it exactly if the label is listed or
nothing in front of its first part has a text. -/
theorem join_heard_eq_iff :
    String.join (textsFor label (heard conditions label parts)) =
        String.join (textsFor label parts) ↔
      label ∈ conditions ∨ String.join (textsFor label (beforeFirst label parts)) = "" := by
  have split : String.join (textsFor label parts) =
      String.join (textsFor label (beforeFirst label parts)) ++
        String.join (textsFor label (fromFirst label parts)) := by
    conv_lhs => rw [← List.takeWhile_append_dropWhile (l := parts)
      (p := fun part => part.condition != some label)]
    rw [textsFor, List.filter_append, List.map_append, String.join_append]
    rfl
  unfold heard
  split
  · rename_i listed
    simp [listed]
  · rename_i unlisted
    rw [split, or_iff_right unlisted]
    constructor
    · intro same
      have lengths := congrArg String.length same
      rw [String.length_append] at lengths
      exact String.length_eq_zero_iff.1 (by omega)
    · intro none
      rw [none, String.empty_append]

end Content

/-! ## Entries that are made late -/

namespace Spec

open Content (heard beforeFirst textsFor labelBuckets)

variable {α : Type} {drafts : List (Draft α)}

namespace Draft

/-- What a draft has for its label outside a step block. -/
def bucket (draft : Draft α) : Label × String :=
  (draft.label, String.join draft.lines)

/-- A draft without a step block. -/
def Whole (draft : Draft α) : Prop :=
  draft.steps = none

theorem bucket_addLine (draft : Draft α) (text : String) :
    (draft.addLine text).bucket = (draft.label, String.join draft.lines ++ text) := by
  simp [bucket, addLine, String.join_append]

/-- A part without markers is one more text. -/
theorem exists_addPart_unmarked (origin : Origin) (subs : List α) (plain : part.markers = [])
    {draft : Draft α} (whole : draft.Whole) :
    ∃ made, draft.addPart origin subs part = .ok made ∧
      made.bucket = (draft.label, String.join draft.lines ++ part.text) ∧ made.Whole := by
  refine ⟨({ draft with description := draft.description.or part.description }).addLine part.text,
    ?_, bucket_addLine _ _, whole⟩
  rw [addPart, resolve, plain]
  rfl

end Draft

/-- A part without markers is put into the draft of its label as into a bucket. -/
theorem exists_changeDraft (origin : Origin) (subs : List α) (plain : part.markers = [])
    (whole : ∀ draft ∈ drafts, draft.Whole) :
    ∃ made, changeDraft label (Draft.addPart origin subs part) drafts = .ok made ∧
      made.map Draft.bucket = Content.addTo label part.text (drafts.map Draft.bucket) ∧
      ∀ draft ∈ made, draft.Whole := by
  induction drafts with
  | nil =>
      have fresh : Draft.Whole ({ label } : Draft α) := rfl
      obtain ⟨made, added, bucket, ended⟩ :=
        Draft.exists_addPart_unmarked origin subs plain fresh
      refine ⟨[made], ?_, ?_, by simpa using ended⟩
      · rw [changeDraft, added]
        rfl
      · simp [bucket, Content.addTo]
  | cons draft rest ih =>
      obtain ⟨here, later⟩ := List.forall_mem_cons.1 whole
      rw [changeDraft, List.map_cons, Draft.bucket, Content.addTo]
      by_cases own : draft.label = label
      · obtain ⟨made, added, bucket, ended⟩ :=
          Draft.exists_addPart_unmarked origin subs plain here
        refine ⟨made :: rest, ?_, ?_, List.forall_mem_cons.2 ⟨ended, later⟩⟩
        · rw [if_pos own, added]
          rfl
        · rw [if_pos own, List.map_cons, bucket]
      · obtain ⟨made, changed, buckets, ended⟩ := ih later
        refine ⟨draft :: made, ?_, ?_, List.forall_mem_cons.2 ⟨here, ended⟩⟩
        · rw [if_neg own, changed]
          rfl
        · rw [if_neg own, List.map_cons, buckets, Draft.bucket]

/-- A part without markers changes the drafts as it changes the buckets. -/
theorem exists_addPart (origin : Origin) (subs : List α) (plain : part.markers = [])
    (whole : ∀ draft ∈ drafts, draft.Whole) :
    ∃ made, addPart origin subs drafts part = .ok made ∧
      made.map Draft.bucket = Content.addPart (drafts.map Draft.bucket) part ∧
      ∀ draft ∈ made, draft.Whole := by
  unfold addPart Content.addPart
  cases part.condition with
  | some label => exact exists_changeDraft origin subs plain whole
  | none =>
      rw [plain]
      refine ⟨_, rfl, ?_, ?_⟩
      · rw [List.map_map, List.map_map]
        exact List.map_congr_left fun draft _ => draft.bucket_addLine part.text
      · rw [List.forall_mem_map]
        exact whole

/-- **Without markers the expectations fill the same buckets as the content of a file.** -/
theorem exists_addParts (origin : Origin) (subs : List α)
    (plain : ∀ part ∈ parts, part.markers = []) (whole : ∀ draft ∈ drafts, draft.Whole) :
    ∃ made, parts.foldlM (addPart origin subs) drafts = .ok made ∧
      made.map Draft.bucket = parts.foldl Content.addPart (drafts.map Draft.bucket) ∧
      ∀ draft ∈ made, draft.Whole := by
  induction parts generalizing drafts with
  | nil => exact ⟨drafts, rfl, rfl, whole⟩
  | cons part rest ih =>
      obtain ⟨here, later⟩ := List.forall_mem_cons.1 plain
      obtain ⟨next, added, buckets, between⟩ := exists_addPart origin subs here whole
      obtain ⟨made, run, ends, ended⟩ := ih later between
      refine ⟨made, ?_, ?_, ended⟩
      · rw [List.foldlM_cons, added]
        exact run
      · rw [ends, buckets, List.foldl_cons]

/-- The entry of a whole draft has its bucket as its only step. -/
theorem exists_entry {text : String} (whole : ∀ draft ∈ drafts, draft.Whole)
    (there : (drafts.map Draft.bucket).lookup label = some text) :
    ∃ entry, (drafts.map fun draft => (draft.label, draft.entry)).lookup label = some entry ∧
      entry.steps = [.html (Html.normalize text)] := by
  induction drafts with
  | nil => exact nomatch there
  | cons draft rest ih =>
      obtain ⟨here, later⟩ := List.forall_mem_cons.1 whole
      rw [List.map_cons, Draft.bucket, List.lookup_cons] at there
      rw [List.map_cons, List.lookup_cons]
      cases same : label == draft.label with
      | false =>
          rw [same] at there
          exact ih later there
      | true =>
          rw [same] at there
          refine ⟨_, rfl, ?_⟩
          rw [← Option.some.inj there, Draft.entry, Draft.entrySteps, here]

/-- The expectations have for a label what is put into its bucket. -/
theorem exists_lookup_entries (origin : Origin) (subs : List α) (conditions : List Label)
    (plain : ∀ part ∈ parts, part.markers = [])
    (named : ∃ part ∈ parts, part.condition = some label) :
    ∃ expects entry, entries origin ⟨parts, conditions⟩ subs = .ok expects ∧
      expects.lookup label = some entry ∧
      entry.steps =
        [.html (Html.normalize (String.join (textsFor label (heard conditions label parts))))] := by
  have fresh : ∀ draft ∈ conditions.map fun label => ({ label } : Draft α), draft.Whole := by
    rw [List.forall_mem_map]
    exact fun label _ => rfl
  obtain ⟨made, run, buckets, whole⟩ := exists_addParts origin subs plain fresh
  have same : made.map Draft.bucket = labelBuckets ⟨parts, conditions⟩ := by
    rw [buckets, List.map_map, labelBuckets]
    rfl
  obtain ⟨entry, listed, steps⟩ :=
    exists_entry whole (same ▸ Content.lookup_labelBuckets named)
  refine ⟨made.map fun draft => (draft.label, draft.entry), entry, ?_, listed, steps⟩
  rw [entries, run]
  rfl

/-- **A label that is not listed is compiled from its first part on.** Let the parts have no markers
and no part name the universal label. Then a label that a part names has one and the same text in
the content of a file and, normalized, as the only step of its entry: that of the unconditional
parts and its own, in order, where those in front of its first part are left out if the label is not
listed. So the label has all its text exactly if it is listed, or if the frame in front of its first
part has no text. -/
theorem late_label_exact (origin : Origin) (subs : List α)
    (unstarred : ∀ part ∈ parts, part.condition ≠ some .universal)
    (plain : ∀ part ∈ parts, part.markers = []) (apart : conditions.Nodup)
    (named : ∃ part ∈ parts, part.condition = some label) :
    ∃ text expects entry,
      (Content.ofText ⟨parts, conditions⟩).find? label = some text ∧
      entries origin ⟨parts, conditions⟩ subs = .ok expects ∧
      expects.lookup label = some entry ∧
      entry.steps = [.html (Html.normalize text)] ∧
      text = String.join (textsFor label (heard conditions label parts)) ∧
      (text = String.join (textsFor label parts) ↔
        label ∈ conditions ∨ String.join (textsFor label (beforeFirst label parts)) = "") := by
  obtain ⟨expects, entry, compiled, listed, steps⟩ :=
    exists_lookup_entries origin subs conditions plain named
  exact ⟨_, expects, entry, Content.find?_ofText_heard unstarred apart named, compiled, listed,
    steps, rfl, Content.join_heard_eq_iff⟩

/-- A frame with one line for each of two labels. -/
def framedParts : List Part :=
  let line (label : String) (text : String) : Part :=
    { condition := some ⟨label⟩, text, block := some false, markers := [], description := none
      span := .zero }
  [line "1" "<i>1</i>", .unconditional "<p>" .zero, line "0" "0", .unconditional "</p>" .zero,
    line "1" "<b>1</b>"]

/-- Only `1` comes in front of the frame, so `0` is the label that has to be listed. -/
theorem late_label_exact_framed :
    let conditions : List Label := [⟨"2"⟩]
    (∀ part ∈ framedParts, part.condition ≠ some .universal) ∧
      (∀ part ∈ framedParts, part.markers = []) ∧ conditions.Nodup ∧
      (∃ part ∈ framedParts, part.condition = some ⟨"1"⟩) ∧
      (∃ part ∈ framedParts, part.condition = some ⟨"0"⟩) ∧
      (Content.ofText ⟨framedParts, conditions⟩).find? ⟨"1"⟩ =
        some "<i>1</i><p></p><b>1</b>" ∧
      (Content.ofText ⟨framedParts, conditions⟩).find? ⟨"0"⟩ = some "0</p>" ∧
      String.join (textsFor ⟨"0"⟩ framedParts) = "<p>0</p>" := by
  intro conditions
  have unstarred : ∀ part ∈ framedParts, part.condition ≠ some .universal := by decide
  have plain : ∀ part ∈ framedParts, part.markers = [] := by decide
  have apart : conditions.Nodup := by decide
  have first : ∃ part ∈ framedParts, part.condition = some ⟨"1"⟩ := by decide
  have second : ∃ part ∈ framedParts, part.condition = some ⟨"0"⟩ := by decide
  obtain ⟨text, -, -, found, -, -, -, heard, -⟩ :=
    late_label_exact ⟨.compile, none⟩ ([] : List Unit) unstarred plain apart first
  obtain ⟨other, -, -, foundOther, -, -, -, heardOther, -⟩ :=
    late_label_exact ⟨.compile, none⟩ ([] : List Unit) unstarred plain apart second
  refine ⟨unstarred, plain, apart, first, second, ?_, ?_, by decide⟩
  · rw [found, heard]
    decide
  · rw [foundOther, heardOther]
    decide

/-- An unconditional line with a line of the label `0` behind it. -/
def lateParts : List Part := [.unconditional "a" .zero,
  { condition := some ⟨"0"⟩, text := "b", block := some false, markers := [], description := none
    span := .zero }]

/-- **A frame can be lost.** The first line of `lateParts` belongs to every label. It is missing in
the text of the label `0` if this label is not listed, in the content of a file as in the step. -/
theorem late_label_loses_frame :
    String.join (textsFor ⟨"0"⟩ lateParts) = "ab" ∧
      (Content.ofText ⟨lateParts, []⟩).find? ⟨"0"⟩ ≠ some "ab" ∧
      ¬∃ expects entry, entries ⟨.compile, none⟩ ⟨lateParts, []⟩ ([] : List Unit) = .ok expects ∧
        expects.lookup ⟨"0"⟩ = some entry ∧ entry.steps = [.html (Html.normalize "ab")] := by
  refine ⟨rfl, by decide, ?_⟩
  rintro ⟨expects, entry, compiled, listed, steps⟩
  have made : entries ⟨.compile, none⟩ ⟨lateParts, []⟩ ([] : List Unit) =
      .ok [(⟨"0"⟩, { steps := [.html "b"], before := none, after := none, description := none })] :=
    rfl
  obtain rfl := Except.ok.inj (made.symm.trans compiled)
  obtain rfl := Option.some.inj listed
  exact absurd steps (by decide)

end Spec

end HotReload
