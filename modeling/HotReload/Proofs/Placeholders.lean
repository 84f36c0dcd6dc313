import HotReload.Proofs.CompiledEntries
import HotReload.Proofs.FailureSpans

/-!
# Compiling with placeholders

A spec is looked at on its own by compiling it with placeholders, as many as its markers need. What
this shows holds for every test that supplies at least as many sub-procedures
(`compile_with_placeholders`).

Handles are only passed along. As long as the markers of a document find their handles in both of
two lists, compiling with one of them and with the other goes the same way part by part, and
ends with the same entries but for the handles, or with the same failure (`compile_carried`). A
list that is too short is found out at the latest at the marker of the highest slot
(`lt_of_compile`).
-/

set_option autoImplicit false

namespace HotReload

/-- A failure, as it is reported at another place. -/
def Failure.reportedAt (origin : Origin) (failure : Failure) : Failure :=
  { failure with phase := origin.phase, source := origin.source }

namespace Spec

variable {α β : Type}

/-! ## Results that are carried over -/

section Carried

variable {γ δ σ τ : Type}

/-- A result with another value, or with its failure reported at another place. -/
def carried (other : Origin) (change : γ → δ) (result : Except Failure γ) : Except Failure δ :=
  (result.map change).mapError (Failure.reportedAt other)

variable {other : Origin} {change : γ → δ}

theorem carried_bind {change' : σ → τ} {first : Except Failure γ} {next : γ → Except Failure σ}
    {next' : δ → Except Failure τ}
    (goesOn : ∀ value, carried other change' (next value) = next' (change value)) :
    carried other change' (first >>= next) = carried other change first >>= next' := by
  cases first with
  | error failure => rfl
  | ok value => exact goesOn value

theorem carried_mapM {make : σ → Except Failure γ} {make' : σ → Except Failure δ} {items : List σ}
    (same : ∀ item ∈ items, carried other change (make item) = make' item) :
    carried other (List.map change) (items.mapM make) = items.mapM make' := by
  induction items with
  | nil => rfl
  | cons item rest ih =>
      obtain ⟨first, later⟩ := List.forall_mem_cons.1 same
      rw [List.mapM_cons, List.mapM_cons, ← first, ← ih later]
      exact carried_bind fun value => carried_bind fun values => rfl

/-- Steps that are carried over one by one are carried over as a whole. -/
theorem carried_foldlM {step : γ → σ → Except Failure γ} {step' : δ → σ → Except Failure δ}
    {items : List σ}
    (same : ∀ state, ∀ item ∈ items,
      carried other change (step state item) = step' (change state) item) (state : γ) :
    carried other change (items.foldlM step state) = items.foldlM step' (change state) := by
  induction items generalizing state with
  | nil => rfl
  | cons item rest ih =>
      rw [List.foldlM_cons, List.foldlM_cons, ← same state item List.mem_cons_self]
      exact carried_bind fun middle =>
        ih (fun state item mem => same state item (List.mem_cons_of_mem _ mem)) middle

end Carried

/-! ## Drafts with other handles -/

variable (f : α → β)

/-- Renames the handle of a piece. -/
def BlockPiece.map : BlockPiece α → BlockPiece β
  | .text cs => .text cs
  | .sub handle => .sub (f handle)

/-- Renames the handle of a marker. -/
def renameMarker (marker : Nat × α) : Nat × β :=
  (marker.1, f marker.2)

/-- Renames the handles of a draft. -/
def Draft.map (draft : Draft α) : Draft β where
  label := draft.label
  lines := draft.lines
  steps := draft.steps.map fun block => (block.1, block.2.map (BlockPiece.map f))
  before := draft.before.map f
  after := draft.after.map f
  description := draft.description

variable {f}

theorem cutPieces_map (left : Nat) (cs : List Char) (markers : List (Nat × α)) :
    cutPieces left cs (markers.map (renameMarker f)) =
      (cutPieces left cs markers).map (BlockPiece.map f) := by
  fun_induction cutPieces left cs markers with
  | case1 left cs empty => simp [cutPieces, empty]
  | case2 left cs some => simp [cutPieces, some, BlockPiece.map]
  | case3 left cs offset handle rest inside ih =>
      simp [cutPieces, renameMarker, inside, BlockPiece.map, ← ih]
  | case4 left cs offset handle rest outside ih =>
      simp [cutPieces, renameMarker, outside, BlockPiece.map, ← ih]

theorem stepPieces_map (text : String) (markers : List (Nat × α)) :
    stepPieces text (markers.map (renameMarker f)) =
      (stepPieces text markers).map (BlockPiece.map f) := by
  have steps : BlockPiece.isStep ∘ BlockPiece.map f = BlockPiece.isStep := by
    funext piece
    cases piece <;> rfl
  rw [stepPieces, cutPieces_map, List.filter_map, steps, stepPieces]

namespace Draft

theorem entry_map (draft : Draft α) : (draft.map f).entry = draft.entry.map f := by
  have pieces (head tail : String) (piece : BlockPiece α) :
      framed head tail (piece.map f) = (framed head tail piece).map f := by
    cases piece <;> rfl
  have steps : (draft.map f).entrySteps = draft.entrySteps.map (Step.map f) := by
    unfold entrySteps
    cases blocks : draft.steps with
    | none => simp [Draft.map, blocks, Step.map]
    | some block => simp [Draft.map, blocks, pieces]
  rw [entry, steps]
  rfl

variable {origin other : Origin} {subs : List α} {others : List β} {part : Part}

theorem addHook_carried (span : Span) (draft : Draft α) (handle : α) :
    carried other (Draft.map f) (draft.addHook origin span handle) =
      (draft.map f).addHook other span (f handle) := by
  unfold addHook
  cases before : draft.before with
  | none => simp [Draft.map, before, carried, Except.map, Except.mapError]
  | some first =>
      cases after : draft.after with
      | none => simp [Draft.map, before, after, carried, Except.map, Except.mapError]
      | some second =>
          simp [Draft.map, before, after, carried, Except.map, Except.mapError,
            Failure.reportedAt, Origin.report, Failure.withHelp]

/-- Every marker finds its handle in one list and the renamed one in the other. -/
def Served (f : α → β) (subs : List α) (others : List β) (markers : List Marker) : Prop :=
  ∀ marker ∈ markers, ∃ handle, subs[marker.slot]? = some handle ∧
    others[marker.slot]? = some (f handle)

variable (served : Served f subs others part.markers)
include served

theorem resolve_carried :
    carried other (List.map (renameMarker f)) (resolve origin subs part) =
      resolve other others part := by
  refine carried_mapM fun marker mem => ?_
  obtain ⟨handle, here, there⟩ := served marker mem
  rw [here, there]
  rfl

theorem addPart_carried (draft : Draft α) :
    carried other (Draft.map f) (draft.addPart origin subs part) =
      (draft.map f).addPart other others part := by
  unfold addPart
  rw [← resolve_carried served]
  refine carried_bind fun markers => ?_
  dsimp only
  rw [List.isEmpty_map]
  by_cases none : markers.isEmpty = true
  · rw [if_pos none, if_pos none]
    rfl
  · rw [if_neg none, if_neg none]
    by_cases block : part.block = some true
    · rw [if_pos block, if_pos block]
      cases blocks : draft.steps with
      | some present => simp [Draft.map, blocks, carried, Except.map, Except.mapError]; rfl
      | none =>
          simp [Draft.map, blocks, carried, Except.map, Except.mapError, pure, Except.pure,
            stepPieces_map]
    · have handles :
          (markers.map (renameMarker f)).map Prod.snd = (markers.map Prod.snd).map f := by
        rw [List.map_map, List.map_map]
        rfl
      rw [if_neg block, if_neg block, handles]
      conv_rhs => rw [List.foldlM_map]
      refine carried_foldlM (fun draft handle _ => ?_) _
      exact addHook_carried part.span draft handle

end Draft

/-! ## All drafts -/

section Compiling

variable {origin other : Origin} {subs : List α} {others : List β}

theorem changeDraft_carried {label : Label} {change : Draft α → Except Failure (Draft α)}
    {change' : Draft β → Except Failure (Draft β)}
    (same : ∀ draft, carried other (Draft.map f) (change draft) = change' (draft.map f))
    (drafts : List (Draft α)) :
    carried other (List.map (Draft.map f)) (changeDraft label change drafts) =
      changeDraft label change' (drafts.map (Draft.map f)) := by
  induction drafts with
  | nil =>
      unfold changeDraft
      refine (carried_bind fun draft => ?_).trans (congrArg (· >>= _) (same { label }))
      rfl
  | cons draft rest ih =>
      rw [List.map_cons]
      unfold changeDraft
      by_cases here : draft.label = label
      · rw [if_pos here, if_pos (show (draft.map f).label = label from here), ← same draft]
        exact carried_bind fun made => rfl
      · rw [if_neg here, if_neg (show (draft.map f).label ≠ label from here), ← ih]
        exact carried_bind fun made => rfl

theorem addPart_carried {part : Part} (served : Draft.Served f subs others part.markers)
    (drafts : List (Draft α)) :
    carried other (List.map (Draft.map f)) (addPart origin subs drafts part) =
      addPart other others (drafts.map (Draft.map f)) part := by
  unfold addPart
  cases part.condition with
  | some label => exact changeDraft_carried (Draft.addPart_carried served) drafts
  | none =>
      cases part.markers with
      | nil =>
          show Except.ok _ = Except.ok _
          rw [List.map_map, List.map_map]
          rfl
      | cons marker more => rfl

/-- A document refers to a sub-procedure. -/
def Document.Refers (document : Document) (slot : Nat) : Prop :=
  ∃ content ∈ document.expectations, ∃ part ∈ content.parts, ∃ marker ∈ part.markers,
    marker.slot = slot

variable {document : Document}

/-- **Handles are only passed along.** When the markers of a document find their handles in one
list and the renamed handles in another one, it compiles to the same with both, but for the
handles and for the place at which a failure is reported. -/
theorem compile_carried
    (served : ∀ slot, document.Refers slot →
      ∃ handle, subs[slot]? = some handle ∧ others[slot]? = some (f handle)) :
    carried other (Compiled.map f) (document.compile origin subs) =
      document.compile other others := by
  have expects : carried other (List.map fun expect => (expect.1, expect.2.map f))
      (document.expects origin subs) = document.expects other others := by
    unfold Document.expects
    cases expected : document.expectations with
    | none => rfl
    | some content =>
        have start : (content.conditions.map fun label => ({ label } : Draft α)).map (Draft.map f) =
            content.conditions.map fun label => { label } := by
          rw [List.map_map]
          rfl
        have entry (draft : Draft α) :
            ((draft.map f).label, (draft.map f).entry) = (draft.label, draft.entry.map f) := by
          rw [Draft.entry_map]
          rfl
        show carried other _ (entries origin content subs) = entries other content others
        unfold entries
        rw [← start, ← carried_foldlM fun drafts part mem =>
          addPart_carried (fun marker among => served marker.slot
            ⟨content, expected, part, mem, marker, among, rfl⟩) drafts]
        refine carried_bind fun drafts => ?_
        show Except.ok _ = Except.ok _
        rw [List.map_map, List.map_map]
        exact congrArg _ (List.map_congr_left fun draft _ => (entry draft).symm)
  unfold Document.compile
  rw [← expects]
  exact carried_bind fun entries => rfl

/-! ## Lists that are too short -/

section Succeeds

variable {γ σ : Type}

theorem exists_of_mapM_ok {make : σ → Except Failure γ} {items : List σ} {values : List γ}
    (done : items.mapM make = .ok values) : ∀ item ∈ items, ∃ value, make item = .ok value := by
  induction items generalizing values with
  | nil => exact List.forall_mem_nil _
  | cons item rest ih =>
      rw [List.mapM_cons] at done
      obtain ⟨value, made, done⟩ := exists_of_bind_ok done
      obtain ⟨later, ran, -⟩ := exists_of_bind_ok done
      exact List.forall_mem_cons.2 ⟨⟨value, made⟩, ih ran⟩

theorem exists_of_foldlM_ok {step : γ → σ → Except Failure γ} {items : List σ} {state after : γ}
    (done : items.foldlM step state = .ok after) :
    ∀ item ∈ items, ∃ before next, step before item = .ok next := by
  induction items generalizing state with
  | nil => exact List.forall_mem_nil _
  | cons item rest ih =>
      rw [List.foldlM_cons] at done
      obtain ⟨middle, made, done⟩ := exists_of_bind_ok done
      exact List.forall_mem_cons.2 ⟨⟨state, middle, made⟩, ih done⟩

end Succeeds

theorem exists_of_changeDraft_ok {label : Label} {change : Draft α → Except Failure (Draft α)}
    {drafts made : List (Draft α)} (done : changeDraft label change drafts = .ok made) :
    ∃ draft next, change draft = .ok next := by
  induction drafts generalizing made with
  | nil =>
      obtain ⟨next, ran, -⟩ := exists_of_bind_ok done
      exact ⟨_, next, ran⟩
  | cons draft rest ih =>
      unfold changeDraft at done
      split at done
      · obtain ⟨next, ran, -⟩ := exists_of_bind_ok done
        exact ⟨draft, next, ran⟩
      · obtain ⟨later, ran, -⟩ := exists_of_bind_ok done
        exact ih ran

/-- A part that is gone through has all its sub-procedures. -/
theorem lt_of_addPart {part : Part} {drafts made : List (Draft α)}
    (done : addPart origin subs drafts part = .ok made) :
    ∀ marker ∈ part.markers, marker.slot < subs.length := by
  unfold addPart at done
  split at done
  · obtain ⟨draft, next, added⟩ := exists_of_changeDraft_ok done
    obtain ⟨markers, resolved, -⟩ := exists_of_bind_ok added
    intro marker mem
    obtain ⟨found, isFound⟩ := exists_of_mapM_ok resolved marker mem
    split at isFound
    · rename_i handle there
      exact List.getElem?_eq_some_iff.1 there |>.1
    · exact nomatch isFound
  · split at done
    · exact nomatch done
    · rename_i none
      rw [none]
      exact List.forall_mem_nil _

/-- **A document that compiles has all the sub-procedures it refers to.** -/
theorem lt_of_compile {compiled : Compiled α} (done : document.compile origin subs = .ok compiled)
    {slot : Nat} (refers : document.Refers slot) : slot < subs.length := by
  obtain ⟨content, expected, part, mem, marker, among, rfl⟩ := refers
  obtain ⟨expects, ran, -⟩ := exists_of_bind_ok done
  rw [Document.expects, Option.mem_def.1 expected] at ran
  obtain ⟨drafts, ran, -⟩ := exists_of_bind_ok ran
  obtain ⟨before, next, added⟩ := exists_of_foldlM_ok ran part mem
  exact lt_of_addPart added marker among

theorem foldl_max_le_iff {markers : List Marker} {most bound : Nat} :
    markers.foldl (fun most marker => max most (marker.slot + 1)) most ≤ bound ↔
      most ≤ bound ∧ ∀ marker ∈ markers, marker.slot < bound := by
  induction markers generalizing most with
  | nil => simp
  | cons marker rest ih =>
      rw [List.foldl_cons, ih, Nat.max_le, List.forall_mem_cons, Nat.succ_le_iff, and_assoc]

/-- The number of placeholders is one more than the highest slot. -/
theorem slots_le_iff {bound : Nat} :
    document.slots ≤ bound ↔ ∀ slot, document.Refers slot → slot < bound := by
  unfold Document.slots Document.Refers
  cases document.expectations with
  | none => simp
  | some content =>
      rw [foldl_max_le_iff]
      simp only [List.mem_flatMap, Option.mem_some_iff]
      constructor
      · rintro ⟨-, below⟩ slot ⟨_, rfl, part, mem, marker, among, rfl⟩
        exact below marker ⟨part, mem, among⟩
      · intro below
        refine ⟨Nat.zero_le _, ?_⟩
        rintro marker ⟨part, mem, among⟩
        exact below marker.slot ⟨content, rfl, part, mem, marker, among, rfl⟩

theorem lt_slots {slot : Nat} (refers : document.Refers slot) : slot < document.slots :=
  slots_le_iff.1 le_rfl slot refers

theorem length_placeholders (document : Document) :
    document.placeholders.length = document.slots := by
  rw [Document.placeholders, List.length_replicate]

/-- With enough sub-procedures, each marker finds its own and its placeholder. -/
theorem served_placeholders (enough : document.slots ≤ subs.length) :
    ∀ slot, document.Refers slot →
      ∃ handle, subs[slot]? = some handle ∧ document.placeholders[slot]? = some () := by
  intro slot refers
  have below := lt_slots refers
  have there : slot < subs.length := Nat.lt_of_lt_of_le below enough
  exact ⟨subs[slot], List.getElem?_eq_getElem there, by simp [Document.placeholders, below]⟩

theorem Part.Fails.reportedAt {available : Nat} {part : Part} {failure : Failure}
    (fails : part.Fails origin available failure) : failure.reportedAt origin = failure := by
  cases fails <;> rfl

/-- With enough sub-procedures, all that is seen of a compilation is seen with placeholders. -/
theorem view_compile (enough : document.slots ≤ subs.length) :
    (document.compile origin subs).map Compiled.view =
      document.compile origin document.placeholders := by
  have same : carried origin Compiled.view (document.compile origin subs) =
      document.compile origin document.placeholders :=
    compile_carried (served_placeholders enough)
  rw [← same]
  cases failed : document.compile origin subs with
  | ok compiled => rfl
  | error failure =>
      have ends := compile_ends_part origin subs document
      rw [failed] at ends
      obtain ⟨content, expected, part, mem, fails⟩ := ends
      exact congrArg Except.error fails.reportedAt.symm

end Compiling

/-- **A spec that compiles with placeholders compiles the same in a test.** With them a document
that has been read fails only for a second step block or a third hook of a label. With at least as
many sub-procedures it compiles to what it compiles to with the placeholders, but for the handles,
or fails with the same failure, wherever this is reported. With fewer it fails. The number of
placeholders is a word exactly when all slots are below the highest word. -/
theorem compile_with_placeholders {source text : String} {document : Document}
    (isRead : Document.read source text = .ok document) (origin : Origin) :
    (∀ failure, document.compile origin document.placeholders = .error failure →
      ∃ label, failure.cause = .secondStepBlock label ∨ failure.cause = .tooManyHooks label) ∧
    (∀ {α : Type} (other : Origin) (subs : List α),
      document.placeholders.length ≤ subs.length →
        (document.compile other subs).map Compiled.view =
          ((document.compile origin document.placeholders).map Compiled.view).mapError
            (Failure.reportedAt other)) ∧
    (∀ {α : Type} (other : Origin) (subs : List α),
      subs.length < document.placeholders.length →
        ∃ failure, document.compile other subs = .error failure) ∧
    (document.placeholders.length ≤ Text.maxWord ↔
      ∀ slot, document.Refers slot → slot < Text.maxWord) := by
  have built := built_of_read isRead
  rw [length_placeholders]
  refine ⟨fun failure failed => ?_, fun other subs enough => ?_, fun other subs few => ?_,
    slots_le_iff⟩
  · have ends := compile_ends_part origin document.placeholders document
    rw [failed] at ends
    obtain ⟨content, expected, part, mem, fails⟩ := ends
    cases fails with
    | @unknown marker among missing =>
        rw [length_placeholders] at missing
        have below := lt_slots ⟨content, expected, part, mem, marker, among, rfl⟩
        exact absurd missing (Nat.not_le.2 below)
    | @outside marker free among =>
        rw [(built content expected).unmarked part mem free] at among
        exact absurd among List.not_mem_nil
    | secondBlock label => exact ⟨label.name, .inl rfl⟩
    | thirdHook label => exact ⟨label.name, .inr rfl⟩
  · have same : carried other Compiled.view (document.compile origin document.placeholders) =
        document.compile other document.placeholders :=
      compile_carried (served_placeholders (length_placeholders document).ge)
    exact (view_compile enough).trans same.symm
  · cases compiles : document.compile other subs with
    | error failure => exact ⟨failure, rfl⟩
    | ok compiled =>
        have below := slots_le_iff.2 fun slot refers => lt_of_compile compiles refers
        exact absurd few (Nat.not_lt.2 below)

/-! ## A spec that leaves out a slot -/

/-- A spec that refers to the first and the third of three sub-procedures. -/
def gapSource : String :=
  "****\n::0::\n$\x7b2\x7da\n::\n::1 $\x7b0\x7d\n"

/-- What is read from `gapSource`. -/
def Document.gap : Document where
  expectations := some {
    parts := [
      { condition := some ⟨"0"⟩, text := "a\n", block := some true, markers := [⟨2, 0⟩],
        description := none, span := ⟨5, 16⟩ },
      { condition := some ⟨"1"⟩, text := "\n", block := some false, markers := [⟨0, 0⟩],
        description := none, span := ⟨20, 28⟩ }]
    conditions := [⟨"0"⟩, ⟨"1"⟩] }

/-- With placeholders and with any four sub-procedures the spec compiles to the same. Two are too
few. -/
theorem compile_with_placeholders_gap :
    Document.read "spec" gapSource = .ok .gap ∧ Document.gap.placeholders = [(), (), ()] ∧
      (∃ placed compiled,
        Document.gap.compile ⟨.discover, none⟩ Document.gap.placeholders = .ok placed ∧
        Document.gap.compile ⟨.compile, some "spec"⟩ [true, false, true, false] = .ok compiled ∧
        compiled.view = placed.view) ∧
      ∃ failure, Document.gap.compile ⟨.compile, some "spec"⟩ [true, false] = .error failure := by
  have isRead : Document.read "spec" gapSource = .ok .gap := by rfl
  obtain ⟨-, same, short, -⟩ := compile_with_placeholders isRead ⟨.discover, none⟩
  obtain ⟨placed, compiles⟩ : ∃ placed,
      Document.gap.compile ⟨.discover, none⟩ Document.gap.placeholders = .ok placed := ⟨_, rfl⟩
  have agrees := same ⟨.compile, some "spec"⟩ [true, false, true, false] (by decide)
  rw [compiles] at agrees
  refine ⟨isRead, rfl, ?_, short _ _ (by decide)⟩
  cases also : Document.gap.compile ⟨.compile, some "spec"⟩ [true, false, true, false] with
  | error failure =>
      rw [also] at agrees
      exact nomatch agrees
  | ok compiled =>
      rw [also] at agrees
      exact ⟨placed, compiled, compiles, rfl, Except.ok.inj agrees⟩

end Spec

end HotReload
