import HotReload.Proofs.NormalMarkup
import HotReload.Proofs.SpecReading
import HotReload.Spec.Compiled

/-!
# What the entries of a compiled spec look like

A spec that has been read compiles to one entry for each of its labels, in the order in
which the labels are recorded (`labels_of_expects`). The steps of these entries compare
the page with markup in normal form or drive sub-procedures of the test, and so do the
hooks (`compiled_of_expects`). No step of a spec calls a function.
-/

set_option autoImplicit false

namespace HotReload

variable {α : Type}

/-- A step of a compiled spec: markup in normal form, or one of the sub-procedures. -/
def Step.Compiled (subs : List α) : Step α → Prop
  | .html markup => Html.normalize markup = markup
  | .sub handle => handle ∈ subs
  | .call _ => False

/-- An entry of a compiled spec. -/
structure Entry.Compiled (subs : List α) (entry : Entry α) : Prop where
  steps : ∀ step ∈ entry.steps, step.Compiled subs
  before : ∀ handle ∈ entry.before, handle ∈ subs
  after : ∀ handle ∈ entry.after, handle ∈ subs

namespace Spec

/-- The labels that a document expects something of, in the order of their first part. -/
def Document.labels (document : Document) : List Label :=
  match document.expectations with
  | none => []
  | some expectations => expectations.conditions

/-! ## Pieces -/

/-- A piece holds no other sub-procedure than those supplied. -/
def BlockPiece.Supplied (subs : List α) : BlockPiece α → Prop
  | .text _ => True
  | .sub handle => handle ∈ subs

theorem supplied_cutPieces {subs : List α} {markers : List (Nat × α)}
    (supplied : ∀ marker ∈ markers, marker.2 ∈ subs) (left : Nat) (cs : List Char) :
    ∀ piece ∈ cutPieces left cs markers, piece.Supplied subs := by
  fun_induction cutPieces left cs markers with
  | case1 => exact List.forall_mem_nil _
  | case2 => exact List.forall_mem_singleton.2 trivial
  | case3 left cs offset handle rest inside ih =>
      rw [List.forall_mem_cons] at supplied
      rw [List.forall_mem_cons, List.forall_mem_cons]
      exact ⟨trivial, supplied.1, ih supplied.2⟩
  | case4 left cs offset handle rest outside ih =>
      rw [List.forall_mem_cons] at supplied
      rw [List.forall_mem_cons]
      exact ⟨supplied.1, ih supplied.2⟩

theorem supplied_stepPieces {subs : List α} {markers : List (Nat × α)}
    (supplied : ∀ marker ∈ markers, marker.2 ∈ subs) (text : String) :
    ∀ piece ∈ stepPieces text markers, piece.Supplied subs := by
  intro piece mem
  exact supplied_cutPieces supplied _ _ piece (List.mem_filter.1 mem).1

/-! ## Drafts -/

namespace Draft

/-- A draft holds no other sub-procedures than those supplied. -/
structure Supplied (subs : List α) (draft : Draft α) : Prop where
  steps : ∀ front pieces, draft.steps = some (front, pieces) →
    ∀ piece ∈ pieces, piece.Supplied subs
  before : ∀ handle ∈ draft.before, handle ∈ subs
  after : ∀ handle ∈ draft.after, handle ∈ subs

variable {subs : List α} {draft made : Draft α} {origin : Origin}

theorem Supplied.empty (label : Label) : Supplied subs { label } where
  steps _ _ same := nomatch same
  before _ mem := nomatch mem
  after _ mem := nomatch mem

theorem supplied_resolve {part : Part} {markers : List (Nat × α)}
    (done : resolve origin subs part = .ok markers) : ∀ marker ∈ markers, marker.2 ∈ subs := by
  unfold resolve at done
  generalize part.markers = list at done
  induction list generalizing markers with
  | nil =>
      obtain rfl := Except.ok.inj done
      exact List.forall_mem_nil _
  | cons first rest ih =>
      rw [List.mapM_cons] at done
      obtain ⟨found, isFound, done⟩ := exists_of_bind_ok done
      obtain ⟨others, ran, done⟩ := exists_of_bind_ok done
      obtain rfl := Except.ok.inj done
      rw [List.forall_mem_cons]
      refine ⟨?_, ih ran⟩
      split at isFound
      · rename_i handle there
        obtain rfl := Except.ok.inj isFound
        exact List.mem_of_getElem? there
      · exact nomatch isFound

/-- Adding a hook keeps the label and takes the hook from those given. -/
theorem addHook_keeps {span : Span} {handle : α} (supplied : draft.Supplied subs)
    (mem : handle ∈ subs) (done : draft.addHook origin span handle = .ok made) :
    made.label = draft.label ∧ made.Supplied subs := by
  unfold addHook at done
  split at done
  · obtain rfl := Except.ok.inj done
    refine ⟨rfl, supplied.steps, fun other same => ?_, supplied.after⟩
    obtain rfl := Option.mem_some_iff.1 same
    exact mem
  · split at done
    · obtain rfl := Except.ok.inj done
      refine ⟨rfl, supplied.steps, supplied.before, fun other same => ?_⟩
      obtain rfl := Option.mem_some_iff.1 same
      exact mem
    · exact nomatch done

theorem addHooks_keeps {span : Span} {handles : List α} (supplied : draft.Supplied subs)
    (mem : ∀ handle ∈ handles, handle ∈ subs)
    (done : handles.foldlM (addHook origin span) draft = .ok made) :
    made.label = draft.label ∧ made.Supplied subs := by
  induction handles generalizing draft with
  | nil =>
      obtain rfl := Except.ok.inj done
      exact ⟨rfl, supplied⟩
  | cons handle rest ih =>
      rw [List.forall_mem_cons] at mem
      rw [List.foldlM_cons] at done
      obtain ⟨middle, added, done⟩ := exists_of_bind_ok done
      obtain ⟨label, still⟩ := addHook_keeps supplied mem.1 added
      obtain ⟨same, ended⟩ := ih still mem.2 done
      exact ⟨same.trans label, ended⟩

/-- Adding a part keeps the label and takes sub-procedures from those supplied. -/
theorem addPart_keeps {part : Part} (supplied : draft.Supplied subs)
    (done : addPart origin subs part draft = .ok made) :
    made.label = draft.label ∧ made.Supplied subs := by
  have described :
      Supplied subs { draft with description := draft.description.or part.description } :=
    ⟨supplied.steps, supplied.before, supplied.after⟩
  obtain ⟨markers, resolved, done⟩ := exists_of_bind_ok done
  have known := supplied_resolve resolved
  dsimp only at done
  split at done
  · obtain rfl := Except.ok.inj done
    exact ⟨rfl, supplied.steps, supplied.before, supplied.after⟩
  · split at done
    · split at done
      · exact nomatch done
      · obtain rfl := Except.ok.inj done
        refine ⟨rfl, fun front pieces same => ?_, supplied.before, supplied.after⟩
        obtain ⟨-, rfl⟩ := Prod.mk.inj (Option.some.inj same)
        exact supplied_stepPieces known part.text
    · have handles : ∀ handle ∈ markers.map Prod.snd, handle ∈ subs := by
        rw [List.forall_mem_map]
        exact known
      have kept := addHooks_keeps described handles done
      exact kept

/-- The steps of a draft are those of a compiled spec. -/
theorem compiled_entrySteps (supplied : draft.Supplied subs) :
    ∀ step ∈ draft.entrySteps, step.Compiled subs := by
  unfold entrySteps
  split
  · exact List.forall_mem_singleton.2 (Html.normalize_normalize _)
  · rename_i front pieces same
    rw [List.forall_mem_map]
    intro piece mem
    cases piece with
    | text cs => exact Html.normalize_normalize _
    | sub handle => exact supplied.steps front pieces same _ mem

theorem compiled_entry (supplied : draft.Supplied subs) : draft.entry.Compiled subs :=
  ⟨compiled_entrySteps supplied, supplied.before, supplied.after⟩

end Draft

/-! ## All drafts -/

/-- The drafts of some labels, with no other sub-procedures than those supplied. -/
structure Drafted (labels : List Label) (subs : List α) (drafts : List (Draft α)) : Prop where
  labels : drafts.map Draft.label = labels
  supplied : ∀ draft ∈ drafts, draft.Supplied subs

variable {labels : List Label} {subs : List α} {drafts made : List (Draft α)} {origin : Origin}

theorem drafted_changeDraft {label : Label} {f : Draft α → Except Failure (Draft α)}
    (keeps : ∀ draft changed, draft.Supplied subs → f draft = .ok changed →
      changed.label = draft.label ∧ changed.Supplied subs)
    (drafted : Drafted labels subs drafts) (listed : label ∈ labels)
    (done : changeDraft label f drafts = .ok made) : Drafted labels subs made := by
  obtain ⟨rfl, supplied⟩ := drafted
  induction drafts generalizing made with
  | nil => exact absurd listed List.not_mem_nil
  | cons first rest ih =>
      rw [List.forall_mem_cons] at supplied
      unfold changeDraft at done
      split at done
      · obtain ⟨changed, ran, done⟩ := exists_of_bind_ok done
        obtain rfl := Except.ok.inj done
        obtain ⟨same, still⟩ := keeps first changed supplied.1 ran
        refine ⟨?_, List.forall_mem_cons.2 ⟨still, supplied.2⟩⟩
        rw [List.map_cons, List.map_cons, same]
      · rename_i other
        obtain ⟨changed, ran, done⟩ := exists_of_bind_ok done
        obtain rfl := Except.ok.inj done
        have behind : label ∈ rest.map Draft.label := by
          rcases List.mem_cons.1 listed with same | later
          · exact absurd same.symm other
          · exact later
        obtain ⟨sameLabels, still⟩ := ih ran supplied.2 behind
        refine ⟨?_, List.forall_mem_cons.2 ⟨supplied.1, still⟩⟩
        rw [List.map_cons, List.map_cons, sameLabels]

theorem drafted_addPart {part : Part} (drafted : Drafted labels subs drafts)
    (listed : ∀ label, part.condition = some label → label ∈ labels)
    (done : addPart origin subs drafts part = .ok made) : Drafted labels subs made := by
  unfold addPart at done
  split at done
  · rename_i label condition
    exact drafted_changeDraft (fun _ _ supplied ran => Draft.addPart_keeps supplied ran) drafted
      (listed label condition) done
  · split at done
    · exact nomatch done
    · obtain rfl := Except.ok.inj done
      refine ⟨?_, ?_⟩
      · rw [List.map_map]
        exact drafted.labels
      · rw [List.forall_mem_map]
        intro draft mem
        have supplied := drafted.supplied draft mem
        exact ⟨supplied.steps, supplied.before, supplied.after⟩

theorem drafted_addParts {parts : List Part} (drafted : Drafted labels subs drafts)
    (listed : ∀ part ∈ parts, ∀ label, part.condition = some label → label ∈ labels)
    (done : parts.foldlM (addPart origin subs) drafts = .ok made) : Drafted labels subs made := by
  induction parts generalizing drafts with
  | nil =>
      obtain rfl := Except.ok.inj done
      exact drafted
  | cons part rest ih =>
      rw [List.forall_mem_cons] at listed
      rw [List.foldlM_cons] at done
      obtain ⟨middle, added, done⟩ := exists_of_bind_ok done
      exact ih (drafted_addPart drafted listed.1 added) listed.2 done

/-- **Recorded expectations have one entry for each label, in the order of the labels.** -/
theorem compiled_entries {expectations : ConditionalText} (recorded : expectations.Recorded)
    {expects : List (Label × Entry α)} (done : entries origin expectations subs = .ok expects) :
    expects.map Prod.fst = expectations.conditions ∧
      ∀ expect ∈ expects, expect.2.Compiled subs := by
  obtain ⟨drafts, ran, done⟩ := exists_of_bind_ok done
  obtain rfl := Except.ok.inj done
  have start : Drafted expectations.conditions subs
      (expectations.conditions.map fun label => { label }) := by
    refine ⟨?_, List.forall_mem_map.2 fun label _ => Draft.Supplied.empty label⟩
    rw [List.map_map]
    exact List.map_id' _
  have drafted := drafted_addParts start recorded.mentioned ran
  refine ⟨?_, ?_⟩
  · rw [List.map_map]
    exact drafted.labels
  · rw [List.forall_mem_map]
    exact fun draft mem => Draft.compiled_entry (drafted.supplied draft mem)

/-- **A document that has been read has one entry for each label, each label once.** -/
theorem compiled_expects {source text : String} {document : Document}
    (isRead : Document.read source text = .ok document) {expects : List (Label × Entry α)}
    (done : document.expects origin subs = .ok expects) :
    expects.map Prod.fst = document.labels ∧ document.labels.Nodup ∧
      ∀ expect ∈ expects, expect.2.Compiled subs := by
  unfold Document.expects at done
  unfold Document.labels
  cases there : document.expectations with
  | none =>
      rw [there] at done
      obtain rfl := Except.ok.inj done
      exact ⟨rfl, List.nodup_nil, List.forall_mem_nil _⟩
  | some expectations =>
      rw [there] at done
      have recorded := recorded_of_read isRead expectations there
      obtain ⟨labels, compiled⟩ := compiled_entries recorded done
      exact ⟨labels, recorded.apart, compiled⟩

end Spec

end HotReload
