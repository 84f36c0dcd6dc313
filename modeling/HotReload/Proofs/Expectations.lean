import HotReload.Proofs.FailureSpans
import Mathlib.Data.List.Induction

/-!
# What the parts of the expectations come to

The expectations are compiled in one pass, in which the drafts of all labels grow side by side.
What a label gets can be said without the pass, by picking its parts out of the whole list: its
texts, its hook markers, its first step block with the number of texts in front of it, and its
first description (`Draft.gathered`). Behind any front of the parts the drafts are what has been
gathered from this front (`addParts_gathered`), since one more part changes what is gathered for a
label in the same way as it changes the draft (`Draft.addPart_gathered`).

The pass ends early at the first part that breaks one of four rules (`Part.Breaks`). The rules can
be said of the whole list as well (`Admitted`), and the pass succeeds exactly when the list keeps
them (`entries_exact`).
-/

set_option autoImplicit false

namespace HotReload.Spec

variable {α : Type} {origin : Origin} {subs : List α} {available : Nat} {label : Label}
  {front back parts : List Part} {part : Part}

/-! ## The parts of a label -/

/-- A block of a label with markers. -/
def Part.isStepBlock (label : Label) (part : Part) : Bool :=
  part.condition == some label && !part.markers.isEmpty && part.block == some true

/-- Another part of a label with markers. -/
def Part.isHookPart (label : Label) (part : Part) : Bool :=
  part.condition == some label && !part.markers.isEmpty && part.block != some true

theorem Part.isStepBlock_iff :
    part.isStepBlock label = true ↔
      part.condition = some label ∧ part.markers ≠ [] ∧ part.block = some true := by
  simp [isStepBlock, and_assoc]

theorem Part.isHookPart_iff :
    part.isHookPart label = true ↔
      part.condition = some label ∧ part.markers ≠ [] ∧ part.block ≠ some true := by
  simp [isHookPart, and_assoc]

/-- A part whose text belongs to a label: one of the frame, or one of its own without markers. -/
def Part.addsText (label : Label) (part : Part) : Bool :=
  part.condition == none || (part.condition == some label && part.markers.isEmpty)

/-- The labels that parts mention, in the order of their first part. -/
def labelsIn (parts : List Part) : List Label :=
  (parts.filterMap Part.condition).eraseDups

/-- The texts of a label outside its step block. -/
def textsOf (label : Label) (parts : List Part) : List String :=
  (parts.filter (Part.addsText label)).map Part.text

/-- The markers on the hook parts of a label, in order. -/
def hookMarkers (label : Label) (parts : List Part) : List Marker :=
  (parts.filter (Part.isHookPart label)).flatMap Part.markers

/-- The first description among the parts of a label. -/
def firstDescription (label : Label) (parts : List Part) : Option String :=
  (parts.filter fun part => part.condition == some label).findSome? Part.description

/-- The sub-procedures that markers refer to, with the offsets of the markers. -/
def served (subs : List α) (markers : List Marker) : List (Nat × α) :=
  markers.filterMap fun marker => subs[marker.slot]?.map fun handle => (marker.offset, handle)

/-- The sub-procedures that markers refer to. -/
def handles (subs : List α) (markers : List Marker) : List α :=
  markers.filterMap fun marker => subs[marker.slot]?

/-- The first step block of a label, with the number of the label's texts in front of it. -/
def firstBlock (subs : List α) (label : Label) (parts : List Part) :
    Option (Nat × List (BlockPiece α)) :=
  (parts.find? (Part.isStepBlock label)).map fun block =>
    ((textsOf label (parts.takeWhile fun part => !part.isStepBlock label)).length,
      stepPieces block.text (served subs block.markers))

/-- What some parts come to for a label. -/
def Draft.gathered (subs : List α) (parts : List Part) (label : Label) : Draft α where
  label
  lines := textsOf label parts
  steps := firstBlock subs label parts
  before := (handles subs (hookMarkers label parts))[0]?
  after := (handles subs (hookMarkers label parts))[1]?
  description := firstDescription label parts

/-! ## The rules -/

/-- The rules that parts have to keep when some number of sub-procedures is supplied. -/
structure Admitted (available : Nat) (parts : List Part) : Prop where
  /-- Parts that belong to every update have no markers. -/
  inside : ∀ part ∈ parts, part.condition = none → part.markers = []
  /-- The other parts refer to sub-procedures that are there. -/
  supplied : ∀ part ∈ parts, part.isConditional = true →
    ∀ marker ∈ part.markers, marker.slot < available
  /-- No label has two step blocks. -/
  blocks : ∀ label, parts.countP (Part.isStepBlock label) ≤ 1
  /-- No label has more than two markers on its hook parts. -/
  hooks : ∀ label, (hookMarkers label parts).length ≤ 2

/-- How a part breaks a rule that the parts in front of it keep, and how this is reported. -/
inductive Part.Breaks (origin : Origin) (available : Nat) (front : List Part) (part : Part) :
    Failure → Prop
  | outside {marker : Marker} (free : part.condition = none)
      (first : part.markers.head? = some marker) :
      Breaks origin available front part
        (origin.report (.markerOutsideCondition marker.slot) part.span)
  | unsupplied {marker : Marker} (own : part.isConditional = true)
      (first : part.markers.find? (fun marker => available ≤ marker.slot) = some marker) :
      Breaks origin available front part
        (origin.report (.unknownSub marker.slot available) part.span)
  | secondBlock {label : Label} (block : part.isStepBlock label = true)
      (supplied : ∀ marker ∈ part.markers, marker.slot < available)
      (earlier : ∃ other ∈ front, other.isStepBlock label = true) :
      Breaks origin available front part
        (origin.report (.secondStepBlock label.name) part.span)
  | thirdHook {label : Label} (hook : part.isHookPart label = true)
      (supplied : ∀ marker ∈ part.markers, marker.slot < available)
      (many : 2 < (hookMarkers label front).length + part.markers.length) :
      Breaks origin available front part
        ((origin.report (.tooManyHooks label.name) part.span).withHelp
          "the first marker is the before hook, the second the after hook")

/-- A part keeps the rules behind some others. -/
structure Part.Keeps (available : Nat) (front : List Part) (part : Part) : Prop where
  inside : part.condition = none → part.markers = []
  supplied : part.isConditional = true → ∀ marker ∈ part.markers, marker.slot < available
  blocks : ∀ label, part.isStepBlock label = true →
    ∀ other ∈ front, ¬ other.isStepBlock label = true
  hooks : ∀ label, part.isHookPart label = true →
    (hookMarkers label front).length + part.markers.length ≤ 2

/-- The markers on hook parts find their sub-procedures. -/
theorem Admitted.supplied_hookMarkers (admitted : Admitted available parts) (label : Label) :
    ∀ marker ∈ hookMarkers label parts, marker.slot < available := by
  intro marker mem
  obtain ⟨part, listed, among⟩ := List.mem_flatMap.1 mem
  obtain ⟨there, hook⟩ := List.mem_filter.1 listed
  have own := (Part.isHookPart_iff.1 hook).1
  exact admitted.supplied part there (by simp [Part.isConditional, own]) marker among

/-! ## One more part -/

theorem textsOf_append :
    textsOf label (front ++ back) = textsOf label front ++ textsOf label back := by
  rw [textsOf, List.filter_append, List.map_append, ← textsOf, ← textsOf]

theorem textsOf_concat :
    textsOf label (front ++ [part]) =
      textsOf label front ++ if part.addsText label then [part.text] else [] := by
  rw [textsOf_append]
  cases adds : part.addsText label <;> simp [textsOf, adds]

theorem hookMarkers_append :
    hookMarkers label (front ++ back) = hookMarkers label front ++ hookMarkers label back := by
  rw [hookMarkers, List.filter_append, List.flatMap_append, ← hookMarkers, ← hookMarkers]

theorem hookMarkers_concat :
    hookMarkers label (front ++ [part]) =
      hookMarkers label front ++ if part.isHookPart label then part.markers else [] := by
  rw [hookMarkers_append]
  cases hook : part.isHookPart label <;> simp [hookMarkers, hook]

theorem firstDescription_concat :
    firstDescription label (front ++ [part]) =
      (firstDescription label front).or
        (if part.condition = some label then part.description else none) := by
  rw [firstDescription, List.filter_append, List.findSome?_append, ← firstDescription]
  by_cases own : part.condition = some label <;> simp [own]

/-- The first step block stands behind all texts that are gathered in front of it. -/
theorem firstBlock_append (none : ∀ other ∈ front, ¬ other.isStepBlock label = true)
    (block : part.isStepBlock label = true) :
    firstBlock subs label (front ++ part :: back) =
      some ((textsOf label front).length, stepPieces part.text (served subs part.markers)) := by
  have stops : ((front ++ part :: back).takeWhile fun part => !part.isStepBlock label) = front := by
    rw [List.takeWhile_append_of_pos (by simpa using none)]
    simp [block]
  have first : (front ++ part :: back).find? (Part.isStepBlock label) = some part := by
    rw [List.find?_append, List.find?_eq_none.2 none]
    simp [block]
  rw [firstBlock, first, stops, Option.map_some]

theorem firstBlock_eq_none_iff :
    firstBlock subs label parts = none ↔ ∀ part ∈ parts, ¬ part.isStepBlock label = true := by
  rw [firstBlock, Option.map_eq_none_iff, List.find?_eq_none]

theorem firstBlock_concat :
    firstBlock subs label (front ++ [part]) =
      (firstBlock subs label front).or
        (if part.isStepBlock label then
          some ((textsOf label front).length, stepPieces part.text (served subs part.markers))
        else none) := by
  by_cases none : ∀ other ∈ front, ¬ other.isStepBlock label = true
  · rw [firstBlock_eq_none_iff.2 none, Option.none_or]
    split
    · rename_i block
      exact firstBlock_append none block
    · rename_i other
      rw [firstBlock_eq_none_iff, List.forall_mem_append, List.forall_mem_singleton]
      exact ⟨none, other⟩
  · -- the first step block stands in front, and so do the texts in front of it
    obtain ⟨block, first⟩ := Option.ne_none_iff_exists'.1 (mt List.find?_eq_none.1 none)
    obtain ⟨isBlock, before, behind, rfl, others⟩ := List.find?_eq_some_iff_append.1 first
    have earlier : ∀ other ∈ before, ¬ other.isStepBlock label = true := by simpa using others
    rw [List.append_assoc, List.cons_append, firstBlock_append earlier isBlock,
      firstBlock_append earlier isBlock, Option.some_or]

/-- A part of another label changes nothing. -/
theorem gathered_concat_other {other : Label} (own : part.condition = some other)
    (apart : other ≠ label) :
    Draft.gathered subs (front ++ [part]) label = Draft.gathered subs front label := by
  simp [Draft.gathered, textsOf_concat, hookMarkers_concat, firstDescription_concat,
    firstBlock_concat, Part.addsText, Part.isHookPart, Part.isStepBlock, own, apart]

/-- A part of the frame adds its text. -/
theorem gathered_concat_frame (free : part.condition = none) :
    Draft.gathered subs (front ++ [part]) label =
      (Draft.gathered subs front label).addLine part.text := by
  simp [Draft.gathered, Draft.addLine, textsOf_concat, hookMarkers_concat, firstDescription_concat,
    firstBlock_concat, Part.addsText, Part.isHookPart, Part.isStepBlock, free]

section Own

/-- The draft of a label with the description of one more part. -/
def Draft.describedBy (part : Part) (draft : Draft α) : Draft α :=
  { draft with description := draft.description.or part.description }

/-- A part of the label without markers adds its text. -/
theorem gathered_concat_text (own : part.condition = some label) (plain : part.markers = []) :
    Draft.gathered subs (front ++ [part]) label =
      ((Draft.gathered subs front label).describedBy part).addLine part.text := by
  simp [Draft.gathered, Draft.addLine, Draft.describedBy, textsOf_concat, hookMarkers_concat,
    firstDescription_concat, firstBlock_concat, Part.addsText, Part.isHookPart, Part.isStepBlock,
    own, plain]

/-- A step block of the label becomes its first one, unless there is one already. -/
theorem gathered_concat_block (own : part.condition = some label) (marked : part.markers ≠ [])
    (block : part.block = some true) :
    Draft.gathered subs (front ++ [part]) label =
      { (Draft.gathered subs front label).describedBy part with
        steps := (firstBlock subs label front).or (some ((textsOf label front).length,
          stepPieces part.text (served subs part.markers))) } := by
  simp [Draft.gathered, Draft.describedBy, textsOf_concat, hookMarkers_concat,
    firstDescription_concat, firstBlock_concat, Part.addsText, Part.isHookPart, Part.isStepBlock,
    own, marked, block]

/-- A hook part of the label adds its hooks. -/
theorem gathered_concat_hooks (own : part.condition = some label) (marked : part.markers ≠ [])
    (inline : part.block ≠ some true) :
    Draft.gathered subs (front ++ [part]) label =
      { (Draft.gathered subs front label).describedBy part with
        before := (handles subs (hookMarkers label front) ++ handles subs part.markers)[0]?
        after := (handles subs (hookMarkers label front) ++ handles subs part.markers)[1]? } := by
  simp [Draft.gathered, Draft.describedBy, textsOf_concat, hookMarkers_concat, handles,
    firstDescription_concat, firstBlock_concat, Part.addsText, Part.isHookPart, Part.isStepBlock,
    own, marked, inline]

end Own

/-! ## The rules for a front -/

theorem Admitted.empty (available : Nat) : Admitted available [] where
  inside := List.forall_mem_nil _
  supplied := List.forall_mem_nil _
  blocks _ := Nat.zero_le _
  hooks _ := Nat.zero_le _

theorem Admitted.of_append (admitted : Admitted available (front ++ back)) :
    Admitted available front where
  inside part mem := admitted.inside part (List.mem_append_left _ mem)
  supplied part mem := admitted.supplied part (List.mem_append_left _ mem)
  blocks label := by
    have both := admitted.blocks label
    rw [List.countP_append] at both
    omega
  hooks label := by
    have both := admitted.hooks label
    rw [hookMarkers_append, List.length_append] at both
    omega

theorem Admitted.of_cons (admitted : Admitted available (front ++ part :: back)) :
    Admitted available (front ++ [part]) := by
  rw [← List.singleton_append, ← List.append_assoc] at admitted
  exact admitted.of_append

/-- Parts keep the rules when each of them does so behind those in front of it. -/
theorem admitted_concat_iff :
    Admitted available (front ++ [part]) ↔
      Admitted available front ∧ part.Keeps available front := by
  have last : part ∈ front ++ [part] := List.mem_append_right _ (List.mem_singleton_self part)
  constructor
  · intro admitted
    refine ⟨admitted.of_append, admitted.inside part last, admitted.supplied part last,
      fun label block other mem earlier => ?_, fun label hook => ?_⟩
    · have both := admitted.blocks label
      have one := List.countP_pos_iff.2 ⟨other, mem, earlier⟩
      rw [List.countP_append, List.countP_singleton, if_pos block] at both
      omega
    · have both := admitted.hooks label
      rwa [hookMarkers_concat, if_pos hook, List.length_append] at both
  · rintro ⟨admitted, keeps⟩
    refine ⟨?_, ?_, fun label => ?_, fun label => ?_⟩
    · exact List.forall_mem_append.2 ⟨admitted.inside, List.forall_mem_singleton.2 keeps.inside⟩
    · exact List.forall_mem_append.2
        ⟨admitted.supplied, List.forall_mem_singleton.2 keeps.supplied⟩
    · rw [List.countP_append, List.countP_singleton]
      split
      · rename_i block
        have none := List.countP_eq_zero.2 (keeps.blocks label block)
        omega
      · exact admitted.blocks label
    · rw [hookMarkers_concat, List.length_append]
      split
      · rename_i hook
        exact keeps.hooks label hook
      · exact admitted.hooks label

/-- A part of a label keeps the rules when it does so for this label. -/
theorem Part.Keeps.of_own (own : part.condition = some label)
    (supplied : ∀ marker ∈ part.markers, marker.slot < available)
    (blocks : part.isStepBlock label = true →
      ∀ other ∈ front, ¬ other.isStepBlock label = true)
    (hooks : part.isHookPart label = true →
      (hookMarkers label front).length + part.markers.length ≤ 2) :
    part.Keeps available front where
  inside free := nomatch free.symm.trans own
  supplied _ := supplied
  blocks other isBlock := by
    obtain rfl := Option.some.inj ((Part.isStepBlock_iff.1 isBlock).1.symm.trans own)
    exact blocks isBlock
  hooks other hook := by
    obtain rfl := Option.some.inj ((Part.isHookPart_iff.1 hook).1.symm.trans own)
    exact hooks hook

/-- A part that breaks a rule does not keep the rules. -/
theorem Part.Breaks.not_keeps {failure : Failure}
    (breaks : part.Breaks origin available front failure) : ¬ part.Keeps available front := by
  intro keeps
  cases breaks with
  | outside free first =>
      rw [keeps.inside free] at first
      exact nomatch first
  | unsupplied own first =>
      have missing := List.find?_some first
      have there := keeps.supplied own _ (List.mem_of_find?_eq_some first)
      exact absurd there (Nat.not_lt.2 (of_decide_eq_true missing))
  | secondBlock block supplied earlier =>
      obtain ⟨other, mem, isBlock⟩ := earlier
      exact keeps.blocks _ block other mem isBlock
  | thirdHook hook supplied many =>
      exact absurd (keeps.hooks _ hook) (Nat.not_le.2 many)

theorem Part.Breaks.not_admitted {failure : Failure}
    (breaks : part.Breaks origin available front failure) :
    ¬ Admitted available (front ++ [part]) :=
  fun admitted => breaks.not_keeps (admitted_concat_iff.1 admitted).2

/-- A part breaks a rule in one way only. -/
theorem Part.Breaks.unique {failure other : Failure}
    (breaks : part.Breaks origin available front failure)
    (again : part.Breaks origin available front other) : failure = other := by
  cases breaks <;> cases again <;>
    grind [Part.isStepBlock_iff, Part.isHookPart_iff, Part.isConditional]

/-! ## Markers that find their sub-procedures -/

section Supplied

variable {markers : List Marker}

theorem length_served (supplied : ∀ marker ∈ markers, marker.slot < subs.length) :
    (served subs markers).length = markers.length := by
  rw [served, List.length_filterMap_eq_countP, List.countP_eq_length]
  intro marker mem
  simp [supplied marker mem]

theorem map_snd_served : (served subs markers).map Prod.snd = handles subs markers := by
  simp [served, handles, List.map_filterMap, Option.map_map, Function.comp_def]

theorem length_handles (supplied : ∀ marker ∈ markers, marker.slot < subs.length) :
    (handles subs markers).length = markers.length := by
  rw [← map_snd_served, List.length_map, length_served supplied]

theorem getElem?_handles (supplied : ∀ marker ∈ markers, marker.slot < subs.length) (n : Nat) :
    (handles subs markers)[n]? = markers[n]?.bind fun marker => subs[marker.slot]? := by
  induction markers generalizing n with
  | nil => rfl
  | cons marker rest ih =>
      obtain ⟨here, later⟩ := List.forall_mem_cons.1 supplied
      have cons : handles subs (marker :: rest) = subs[marker.slot] :: handles subs rest := by
        simp [handles, here]
      rw [cons]
      cases n with
      | zero => simp [here]
      | succ n => simpa using ih later n

/-- The first marker without a sub-procedure is reported. -/
theorem resolve_served (origin : Origin) (subs : List α) (part : Part) :
    Ends (fun resolved => (∀ marker ∈ part.markers, marker.slot < subs.length) ∧
        resolved = served subs part.markers)
      (fun failure => ∃ marker,
        part.markers.find? (fun marker => subs.length ≤ marker.slot) = some marker ∧
          failure = origin.report (.unknownSub marker.slot subs.length) part.span)
      (Draft.resolve origin subs part) := by
  unfold Draft.resolve
  induction part.markers with
  | nil => exact ⟨List.forall_mem_nil _, rfl⟩
  | cons marker rest ih =>
      rw [List.mapM_cons]
      cases found : subs[marker.slot]? with
      | none =>
          have missing := List.getElem?_eq_none_iff.1 found
          exact ⟨marker, by simp [missing], rfl⟩
      | some handle =>
          have here := (List.getElem?_eq_some_iff.1 found).1
          refine (ih.mono fun failure reported => ?_).bind fun resolved _ both => ?_
          · obtain ⟨missing, first, rfl⟩ := reported
            exact ⟨missing, by simp [here, first], rfl⟩
          · obtain ⟨supplied, rfl⟩ := both
            refine ⟨List.forall_mem_cons.2 ⟨here, supplied⟩, ?_⟩
            simp [served, found]

end Supplied

/-! ## One more part of a label -/

namespace Draft

variable {draft : Draft α} {held given : List α}

/-- A hook is taken up when there are fewer than two before it. -/
theorem addHook_held (origin : Origin) (span : Span) (handle : α) (before : draft.before = held[0]?)
    (after : draft.after = held[1]?) :
    Ends (fun made => held.length < 2 ∧
        made = { draft with before := (held ++ [handle])[0]?, after := (held ++ [handle])[1]? })
      (fun failure => 2 ≤ held.length ∧
        failure = (origin.report (.tooManyHooks draft.label.name) span).withHelp
          "the first marker is the before hook, the second the after hook")
      (draft.addHook origin span handle) := by
  unfold addHook
  rw [before, after]
  match held with
  | [] => exact ⟨Nat.zero_lt_two, by simp⟩
  | [first] => exact ⟨Nat.one_lt_two, by simp⟩
  | first :: second :: rest => exact ⟨by simp, rfl⟩

/-- Hooks are taken up as long as there are no more than two of them. -/
theorem addHooks_held (origin : Origin) (span : Span) (draft : Draft α) (held given : List α)
    (fits : held.length ≤ 2) (before : draft.before = held[0]?) (after : draft.after = held[1]?) :
    Ends (fun made => (held ++ given).length ≤ 2 ∧
        made = { draft with before := (held ++ given)[0]?, after := (held ++ given)[1]? })
      (fun failure => 2 < (held ++ given).length ∧
        failure = (origin.report (.tooManyHooks draft.label.name) span).withHelp
          "the first marker is the before hook, the second the after hook")
      (given.foldlM (addHook origin span) draft) := by
  induction given generalizing held draft with
  | nil => exact ⟨by simpa using fits, by simp [← before, ← after]⟩
  | cons handle rest ih =>
      rw [List.foldlM_cons]
      refine ((addHook_held origin span handle before after).mono fun failure refused => ?_).bind
        fun made _ taken => ?_
      · refine ⟨?_, refused.2⟩
        rw [List.length_append, List.length_cons]
        have := refused.1
        omega
      · obtain ⟨room, rfl⟩ := taken
        have fits : (held ++ [handle]).length ≤ 2 := by simpa using Nat.le_of_lt_succ room
        have next := ih { draft with
          before := (held ++ [handle])[0]?, after := (held ++ [handle])[1]? } _ fits rfl rfl
        rw [List.append_assoc, List.singleton_append] at next
        exact next

/-- The hooks of a part are taken up behind those that are gathered. -/
theorem addHooks_gathered (origin : Origin) (admitted : Admitted subs.length front)
    (own : part.condition = some label) (marked : part.markers ≠ [])
    (inline : part.block ≠ some true)
    (supplied : ∀ marker ∈ part.markers, marker.slot < subs.length) :
    Ends (fun made => part.Keeps subs.length front ∧ made = gathered subs (front ++ [part]) label)
      (part.Breaks origin subs.length front)
      ((handles subs part.markers).foldlM (addHook origin part.span)
        ((gathered subs front label).describedBy part)) := by
  have known := length_handles (admitted.supplied_hookMarkers label)
  have total : (handles subs (hookMarkers label front) ++ handles subs part.markers).length =
      (hookMarkers label front).length + part.markers.length := by
    rw [List.length_append, known, length_handles supplied]
  have added := addHooks_held origin part.span ((gathered subs front label).describedBy part)
    (handles subs (hookMarkers label front)) (handles subs part.markers)
    (Nat.le_trans (Nat.le_of_eq known) (admitted.hooks label)) rfl rfl
  rw [total] at added
  refine added.imp ?_ ?_
  · rintro made ⟨fits, rfl⟩
    refine ⟨Part.Keeps.of_own own supplied (fun isBlock => ?_) fun _ => fits,
      (gathered_concat_hooks own marked inline).symm⟩
    exact absurd (Part.isStepBlock_iff.1 isBlock).2.2 inline
  · rintro failure ⟨many, rfl⟩
    exact .thirdHook (Part.isHookPart_iff.2 ⟨own, marked, inline⟩) supplied many

/-- **One more part of a label changes its draft as it changes what is gathered,** unless it breaks
a rule. -/
theorem addPart_gathered (origin : Origin) (admitted : Admitted subs.length front)
    (own : part.condition = some label) :
    Ends (fun made => part.Keeps subs.length front ∧ made = gathered subs (front ++ [part]) label)
      (part.Breaks origin subs.length front)
      ((gathered subs front label).addPart origin subs part) := by
  unfold addPart
  refine ((resolve_served origin subs part).mono ?_).bind fun resolved _ both => ?_
  · rintro failure ⟨marker, first, rfl⟩
    exact .unsupplied (by simp [Part.isConditional, own]) first
  obtain ⟨supplied, rfl⟩ := both
  have empty : (served subs part.markers).isEmpty = true ↔ part.markers = [] := by
    rw [List.isEmpty_iff, ← List.length_eq_zero_iff, length_served supplied,
      List.length_eq_zero_iff]
  dsimp only
  by_cases plain : part.markers = []
  · rw [if_pos (empty.2 plain)]
    refine ⟨Part.Keeps.of_own own supplied (fun block => ?_) fun hook => ?_,
      (gathered_concat_text own plain).symm⟩
    · exact absurd plain (Part.isStepBlock_iff.1 block).2.1
    · exact absurd plain (Part.isHookPart_iff.1 hook).2.1
  rw [if_neg (mt empty.1 plain)]
  by_cases block : part.block = some true
  · rw [if_pos block]
    split
    · rename_i found earlier
      have first : firstBlock subs label front ≠ none := fun none => nomatch none.symm.trans earlier
      refine .secondBlock (Part.isStepBlock_iff.2 ⟨own, plain, block⟩) supplied ?_
      simpa [gathered] using mt firstBlock_eq_none_iff.2 first
    · rename_i absent
      have none : firstBlock subs label front = none := absent
      refine ⟨.of_own own supplied (fun _ => firstBlock_eq_none_iff.1 none) fun hook => ?_, ?_⟩
      · exact absurd block (Part.isHookPart_iff.1 hook).2.2
      · rw [gathered_concat_block own plain block, none]
        rfl
  · rw [if_neg block, map_snd_served]
    exact addHooks_gathered origin admitted own plain block supplied

end Draft

/-! ## One more part among all labels -/

section Labels

variable {labels : List Label}

/-- One draft among those of different labels is changed. -/
theorem changeDraft_map {change : Draft α → Except Failure (Draft α)} {draft : Label → Draft α}
    (named : ∀ label, (draft label).label = label) (apart : labels.Nodup)
    (listed : label ∈ labels) :
    changeDraft label change (labels.map draft) =
      change (draft label) >>= fun made =>
        .ok (labels.map fun other => if other = label then made else draft other) := by
  induction labels with
  | nil => exact absurd listed List.not_mem_nil
  | cons first rest ih =>
      obtain ⟨fresh, apart⟩ := List.nodup_cons.1 apart
      rw [List.map_cons, changeDraft, named]
      by_cases here : first = label
      · subst here
        have others (made : Draft α) :
            (rest.map fun other => if other = first then made else draft other) =
              rest.map draft :=
          List.map_congr_left fun other mem => if_neg (ne_of_mem_of_not_mem mem fresh)
        simp only [if_pos, List.map_cons, others]
        rfl
      · have later := List.mem_of_ne_of_mem (Ne.symm here) listed
        rw [if_neg here, ih apart later, bind_assoc]
        simp only [List.map_cons, if_neg here]
        rfl

/-- **One more part changes the drafts of all labels as it changes what is gathered for them.** -/
theorem addPart_gathered (origin : Origin) (admitted : Admitted subs.length front)
    (apart : labels.Nodup) (listed : ∀ label, part.condition = some label → label ∈ labels) :
    Ends (fun made => part.Keeps subs.length front ∧
        made = labels.map (Draft.gathered subs (front ++ [part])))
      (part.Breaks origin subs.length front)
      (addPart origin subs (labels.map (Draft.gathered subs front)) part) := by
  unfold addPart
  cases own : part.condition with
  | none =>
      dsimp only
      cases marked : part.markers with
      | cons marker more => exact .outside own (by rw [marked, List.head?_cons])
      | nil =>
          have unlabelled {label : Label} (there : part.condition = some label) : False :=
            nomatch own.symm.trans there
          refine ⟨⟨fun _ => marked, fun _ => marked ▸ List.forall_mem_nil _,
            fun _ block => (unlabelled (Part.isStepBlock_iff.1 block).1).elim,
            fun _ hook => (unlabelled (Part.isHookPart_iff.1 hook).1).elim⟩, ?_⟩
          rw [List.map_map]
          exact List.map_congr_left fun label _ => (gathered_concat_frame own).symm
  | some label =>
      dsimp only
      rw [changeDraft_map (fun _ => rfl) apart (listed label own)]
      refine (Draft.addPart_gathered origin admitted own).bind fun made _ both => ?_
      obtain ⟨keeps, rfl⟩ := both
      refine ⟨keeps, List.map_congr_left fun other mem => ?_⟩
      split
      · rename_i same
        rw [same]
      · rename_i another
        exact (gathered_concat_other own (Ne.symm another)).symm

/-- **Behind any front of the parts the drafts are what has been gathered from this front.** -/
theorem addParts_gathered (origin : Origin) (admitted : Admitted subs.length front)
    (apart : labels.Nodup)
    (listed : ∀ part ∈ back, ∀ label, part.condition = some label → label ∈ labels) :
    Ends (fun made => Admitted subs.length (front ++ back) ∧
        made = labels.map (Draft.gathered subs (front ++ back)))
      (fun failure => ∃ before part behind, front ++ back = before ++ part :: behind ∧
        Admitted subs.length before ∧ part.Breaks origin subs.length before failure)
      (back.foldlM (addPart origin subs) (labels.map (Draft.gathered subs front))) := by
  induction back generalizing front with
  | nil => exact ⟨by simpa using admitted, by simp⟩
  | cons part rest ih =>
      obtain ⟨here, later⟩ := List.forall_mem_cons.1 listed
      rw [List.foldlM_cons]
      refine ((addPart_gathered origin admitted apart here).mono fun failure breaks => ?_).bind
        fun made _ both => ?_
      · exact ⟨front, part, rest, rfl, admitted, breaks⟩
      · obtain ⟨keeps, rfl⟩ := both
        have next := ih (admitted_concat_iff.2 ⟨admitted, keeps⟩) later
        rw [List.append_assoc, List.singleton_append] at next
        exact next

end Labels

/-! ## Text that is built part by part -/

theorem ofParts_concat (parts : List Part) (part : Part) :
    ConditionalText.ofParts (parts ++ [part]) = (ConditionalText.ofParts parts).push part := by
  rw [ConditionalText.ofParts, List.foldl_append, List.foldl_cons, List.foldl_nil,
    ConditionalText.ofParts]

@[simp] theorem parts_ofParts (parts : List Part) :
    (ConditionalText.ofParts parts).parts = parts := by
  induction parts using List.reverseRecOn with
  | nil => rfl
  | append_singleton parts part ih => rw [ofParts_concat, ConditionalText.push, ih]

theorem mention_labelsIn (parts : List Part) (part : Part) :
    ConditionalText.mention (labelsIn parts) part.condition = labelsIn (parts ++ [part]) := by
  unfold labelsIn
  rw [List.filterMap_append]
  cases own : part.condition with
  | none => simp [own, ConditionalText.mention]
  | some label =>
      have last : [part].filterMap Part.condition = [label] := by simp [own]
      rw [last, eraseDups_concat, ConditionalText.mention_eq]
      simp only [List.mem_eraseDups]

/-- All labels are recorded, in the order of their first part. -/
@[simp] theorem conditions_ofParts (parts : List Part) :
    (ConditionalText.ofParts parts).conditions = labelsIn parts := by
  induction parts using List.reverseRecOn with
  | nil => rfl
  | append_singleton parts part ih =>
      rw [ofParts_concat, ConditionalText.push, ih, mention_labelsIn]

theorem recorded_ofParts (parts : List Part) : (ConditionalText.ofParts parts).Recorded := by
  induction parts using List.reverseRecOn with
  | nil => exact .empty
  | append_singleton parts part ih =>
      rw [ofParts_concat]
      exact ih.push part

theorem nodup_labelsIn (parts : List Part) : (labelsIn parts).Nodup := by
  rw [← conditions_ofParts]
  exact (recorded_ofParts parts).apart

/-- A label is mentioned by one of the parts. -/
theorem mem_labelsIn : label ∈ labelsIn parts ↔ ∃ part ∈ parts, part.condition = some label := by
  rw [labelsIn, List.mem_eraseDups, List.mem_filterMap]

/-! ## The whole list -/

/-- The entries that parts come to. -/
def gatheredEntries (subs : List α) (parts : List Part) : List (Label × Entry α) :=
  (labelsIn parts).map fun label => (label, (Draft.gathered subs parts label).entry)

theorem map_fst_gatheredEntries (subs : List α) (parts : List Part) :
    (gatheredEntries subs parts).map Prod.fst = labelsIn parts := by
  rw [gatheredEntries, List.map_map]
  exact List.map_id' _

theorem mem_gatheredEntries {entry : Entry α} :
    (label, entry) ∈ gatheredEntries subs parts ↔
      label ∈ labelsIn parts ∧ (Draft.gathered subs parts label).entry = entry := by
  simp only [gatheredEntries, List.mem_map, Prod.mk.injEq]
  constructor
  · rintro ⟨label, listed, rfl, same⟩
    exact ⟨listed, same⟩
  · rintro ⟨listed, same⟩
    exact ⟨label, listed, rfl, same⟩

/-- Each label that is mentioned has the entry that is gathered for it. -/
theorem lookup_gatheredEntries (listed : label ∈ labelsIn parts) :
    (gatheredEntries subs parts).lookup label = some (Draft.gathered subs parts label).entry :=
  List.lookup_graph (fun label => (Draft.gathered subs parts label).entry) listed

/-- **The entries are what is gathered from all parts,** unless one of these breaks a rule. -/
theorem entries_gathered (origin : Origin) (parts : List Part) (subs : List α) :
    Ends (fun expects => Admitted subs.length parts ∧ expects = gatheredEntries subs parts)
      (fun failure => ∃ front part back, parts = front ++ part :: back ∧
        Admitted subs.length front ∧ part.Breaks origin subs.length front failure)
      (entries origin (.ofParts parts) subs) := by
  unfold entries
  rw [parts_ofParts, conditions_ofParts]
  have listed : ∀ part ∈ parts, ∀ label, part.condition = some label → label ∈ labelsIn parts :=
    fun part mem label own => mem_labelsIn.2 ⟨part, mem, own⟩
  have run := addParts_gathered origin (Admitted.empty subs.length) (nodup_labelsIn parts) listed
  refine run.bind fun drafts _ both => ?_
  obtain ⟨admitted, rfl⟩ := both
  refine ⟨admitted, ?_⟩
  rw [List.map_map]
  rfl

/-- Parts that keep the rules are compiled. -/
theorem entries_of_admitted (origin : Origin) (admitted : Admitted subs.length parts) :
    entries origin (.ofParts parts) subs = .ok (gatheredEntries subs parts) := by
  have gathered := entries_gathered origin parts subs
  cases compiled : entries origin (.ofParts parts) subs with
  | ok expects =>
      rw [compiled] at gathered
      rw [gathered.2]
  | error failure =>
      rw [compiled] at gathered
      obtain ⟨front, part, back, rfl, -, breaks⟩ := gathered
      exact absurd admitted.of_cons breaks.not_admitted

theorem admitted_of_entries {expects : List (Label × Entry α)}
    (compiled : entries origin (.ofParts parts) subs = .ok expects) :
    Admitted subs.length parts ∧ expects = gatheredEntries subs parts := by
  have gathered := entries_gathered origin parts subs
  rwa [compiled] at gathered

/-- The part at which the rules are broken first is one and the same. -/
theorem Admitted.split_unique {front' back' : List Part} {part' : Part}
    (same : front ++ part :: back = front' ++ part' :: back') (admitted : Admitted available front)
    (broken : ¬ Admitted available (front ++ [part])) (admitted' : Admitted available front')
    (broken' : ¬ Admitted available (front' ++ [part'])) : front = front' ∧ part = part' := by
  rcases List.append_eq_append_iff.1 same with ⟨gap, rfl, rest⟩ | ⟨gap, rfl, rest⟩
  · cases gap with
    | nil => exact ⟨(List.append_nil _).symm, (List.cons.inj rest).1⟩
    | cons first gap =>
        obtain ⟨rfl, -⟩ := List.cons.inj rest
        exact absurd admitted'.of_cons broken
  · cases gap with
    | nil => exact ⟨List.append_nil _, (List.cons.inj rest).1.symm⟩
    | cons first gap =>
        obtain ⟨rfl, -⟩ := List.cons.inj rest
        exact absurd admitted.of_cons broken'

/-- **Expectations are compiled exactly when their parts keep the rules.** They succeed just then.
Otherwise the failure is that of the first part that breaks a rule. On success each label has one
entry, in the order of the labels' first parts, with the sub-procedures of its first two hook
markers as hooks and with the first description among its parts. The places of the markers in their
texts play no role. -/
theorem entries_exact (origin : Origin) (parts : List Part) (subs : List α) :
    ((∃ expects, entries origin (.ofParts parts) subs = .ok expects) ↔
      Admitted subs.length parts) ∧
    (∀ failure, entries origin (.ofParts parts) subs = .error failure ↔
      ∃ front part back, parts = front ++ part :: back ∧ Admitted subs.length front ∧
        ¬ Admitted subs.length (front ++ [part]) ∧
        part.Breaks origin subs.length front failure) ∧
    (∀ expects, entries origin (.ofParts parts) subs = .ok expects →
      expects.map Prod.fst = labelsIn parts ∧
      ∀ label entry, (label, entry) ∈ expects →
        entry.before = (hookMarkers label parts)[0]?.bind (fun marker => subs[marker.slot]?) ∧
        entry.after = (hookMarkers label parts)[1]?.bind (fun marker => subs[marker.slot]?) ∧
        entry.description = firstDescription label parts) := by
  have succeeds : (∃ expects, entries origin (.ofParts parts) subs = .ok expects) ↔
      Admitted subs.length parts :=
    ⟨fun ⟨_, compiled⟩ => (admitted_of_entries compiled).1,
      fun admitted => ⟨_, entries_of_admitted origin admitted⟩⟩
  refine ⟨succeeds, fun failure => ?_, fun expects compiled => ?_⟩
  · have gathered := entries_gathered origin parts subs
    constructor
    · intro failed
      rw [failed] at gathered
      obtain ⟨front, part, back, whole, admitted, breaks⟩ := gathered
      exact ⟨front, part, back, whole, admitted, breaks.not_admitted, breaks⟩
    · rintro ⟨front, part, back, rfl, admitted, broken, breaks⟩
      cases compiled : entries origin (.ofParts (front ++ part :: back)) subs with
      | ok expects => exact absurd (succeeds.1 ⟨_, compiled⟩).of_cons broken
      | error other =>
          rw [compiled] at gathered
          obtain ⟨front', part', back', same, admitted', breaks'⟩ := gathered
          obtain ⟨rfl, rfl⟩ :=
            Admitted.split_unique same admitted broken admitted' breaks'.not_admitted
          exact congrArg Except.error (breaks'.unique breaks)
  · obtain ⟨admitted, rfl⟩ := admitted_of_entries compiled
    refine ⟨map_fst_gatheredEntries subs parts, fun label entry mem => ?_⟩
    obtain ⟨-, rfl⟩ := mem_gatheredEntries.1 mem
    have known := admitted.supplied_hookMarkers label
    exact ⟨getElem?_handles known 0, getElem?_handles known 1, rfl⟩

end HotReload.Spec
