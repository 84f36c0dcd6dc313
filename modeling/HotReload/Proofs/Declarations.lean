import HotReload.Proofs.SpecRegistration

/-!
# Declaring is gathering

Before the session starts, entries are declared by expectations, hooks and specs. Every such
command gives pieces of entries, each for one label (`Command.Gives`), and a piece is merged into
the entry of its label. What a whole sequence of commands makes of its pieces can be said without
merging (`declarations_gather`): it succeeds when no label gets a hook twice, and then there is
one entry for each label, in the order in which the labels came up, which puts the pieces of
its label together.

The pieces are followed one by one from the last (`mergeEach_nil_eq_some_iff`), since each of them
finds what the ones before it have been put together to.
-/

set_option autoImplicit false

namespace HotReload

variable {W α : Type}

/-! ## Pieces of entries -/

/-- One of the two hooks of an entry. -/
def Entry.hook (entry : Entry α) : Hook → Option α
  | .before => entry.before
  | .after => entry.after

/-- The pieces that are given for a label. -/
def piecesOf (given : List (Label × Entry α)) (label : Label) : List (Entry α) :=
  (given.filter fun piece => piece.1 == label).map Prod.snd

/-- The hooks of one kind that a label gets. -/
def hooksOf (given : List (Label × Entry α)) (label : Label) (hook : Hook) : List α :=
  (piecesOf given label).filterMap fun piece => piece.hook hook

/-- No label gets a hook twice. -/
def HooksOnce (given : List (Label × Entry α)) : Prop :=
  ∀ label hook, (hooksOf given label hook).length ≤ 1

/-- The entry that pieces of one label add up to: all steps one after the other, the hooks that are
given, and the first description. -/
def Entry.together (pieces : List (Entry α)) : Entry α where
  steps := pieces.flatMap Entry.steps
  before := pieces.findSome? Entry.before
  after := pieces.findSome? Entry.after
  description := pieces.findSome? Entry.description

/-- The labels that pieces are given for, in the order in which they come up. -/
def labelsOf (given : List (Label × Entry α)) : List Label :=
  (given.map Prod.fst).eraseDups

/-- The entries that pieces add up to: one for each label. -/
def gathered (given : List (Label × Entry α)) : List (Label × Entry α) :=
  (labelsOf given).map fun label => (label, Entry.together (piecesOf given label))

section Pieces

variable {given : List (Label × Entry α)} {more : Label × Entry α} {label : Label}

theorem piecesOf_concat_self :
    piecesOf (given ++ [more]) more.1 = piecesOf given more.1 ++ [more.2] := by
  simp [piecesOf]

theorem piecesOf_concat_of_ne (apart : more.1 ≠ label) :
    piecesOf (given ++ [more]) label = piecesOf given label := by
  simp [piecesOf, apart]

theorem mem_labelsOf : label ∈ labelsOf given ↔ label ∈ given.map Prod.fst :=
  List.mem_eraseDups

/-- There are no pieces for a label that has not come up. -/
theorem piecesOf_eq_nil (new : label ∉ labelsOf given) : piecesOf given label = [] := by
  rw [piecesOf, List.map_eq_nil_iff, List.filter_eq_nil_iff]
  intro piece mem same
  exact new (mem_labelsOf.2 (List.mem_map.2 ⟨piece, mem, beq_iff_eq.1 same⟩))

theorem labelsOf_concat_old (old : more.1 ∈ labelsOf given) :
    labelsOf (given ++ [more]) = labelsOf given := by
  rw [labelsOf, List.map_append, List.map_singleton, Spec.eraseDups_concat,
    if_pos (mem_labelsOf.1 old), labelsOf]

theorem labelsOf_concat_new (new : more.1 ∉ labelsOf given) :
    labelsOf (given ++ [more]) = labelsOf given ++ [more.1] := by
  rw [labelsOf, List.map_append, List.map_singleton, Spec.eraseDups_concat,
    if_neg (mt mem_labelsOf.2 new), labelsOf]

/-! ## One more piece -/

theorem Entry.clash_iff {first second : Entry α} :
    first.Clash second ↔
      ∃ hook, (first.hook hook).isSome = true ∧ (second.hook hook).isSome = true := by
  constructor
  · rintro (both | both)
    · exact ⟨.before, both⟩
    · exact ⟨.after, both⟩
  · rintro ⟨hook, both⟩
    cases hook with
    | before => exact .inl both
    | after => exact .inr both

theorem hook_together (pieces : List (Entry α)) (hook : Hook) :
    (Entry.together pieces).hook hook = (pieces.filterMap fun piece => piece.hook hook).head? := by
  rw [List.head?_filterMap]
  cases hook <;> rfl

theorem isSome_hook_together {hook : Hook} :
    ((Entry.together (piecesOf given label)).hook hook).isSome = true ↔
      0 < (hooksOf given label hook).length := by
  rw [hook_together, List.isSome_head?, List.length_pos_iff, ne_eq, hooksOf]

theorem length_hooksOf_concat (hook : Hook) :
    (hooksOf (given ++ [more]) label hook).length =
      (hooksOf given label hook).length +
        if more.1 = label then (more.2.hook hook).toList.length else 0 := by
  by_cases same : more.1 = label
  · subst same
    rw [if_pos rfl, hooksOf, piecesOf_concat_self, List.filterMap_append, List.length_append,
      hooksOf]
    cases given : more.2.hook hook <;> simp [given]
  · rw [if_neg same, hooksOf, piecesOf_concat_of_ne same, hooksOf, Nat.add_zero]

/-- Hooks are given once as long as no piece clashes with those in front of it. -/
theorem hooksOnce_concat :
    HooksOnce (given ++ [more]) ↔
      HooksOnce given ∧ ¬ (Entry.together (piecesOf given more.1)).Clash more.2 := by
  rw [Entry.clash_iff]
  constructor
  · intro once
    refine ⟨fun label hook => ?_, ?_⟩
    · exact Nat.le_trans (Nat.le_add_right _ _) (length_hooksOf_concat hook ▸ once label hook)
    · rintro ⟨hook, earlier, again⟩
      have two := once more.1 hook
      obtain ⟨handle, gives⟩ := Option.isSome_iff_exists.1 again
      rw [length_hooksOf_concat, if_pos rfl, gives, Option.toList_some,
        List.length_singleton] at two
      have one := isSome_hook_together.1 earlier
      omega
  · rintro ⟨once, free⟩ label hook
    have before := once label hook
    rw [length_hooksOf_concat]
    split
    · rename_i same
      subst same
      cases gives : more.2.hook hook with
      | none => simpa using before
      | some handle =>
          have none : ¬ 0 < (hooksOf given more.1 hook).length := fun some =>
            free ⟨hook, isSome_hook_together.2 some, by rw [gives, Option.isSome_some]⟩
          rw [Option.toList_some, List.length_singleton]
          omega
    · exact before

/-- One more piece is merged into what the others have been put together to. -/
theorem together_concat {pieces : List (Entry α)} {entry : Entry α}
    (free : ¬ (Entry.together pieces).Clash entry) :
    Entry.together (pieces ++ [entry]) = ((Entry.together pieces).merge entry).1 := by
  rw [Entry.merge_of_free free]
  simp [Entry.together, List.findSome?_append]

theorem together_singleton (entry : Entry α) : Entry.together [entry] = entry := by
  simp [Entry.together]

theorem gathered_concat_new (new : more.1 ∉ labelsOf given) :
    gathered (given ++ [more]) = gathered given ++ [more] := by
  rw [gathered, labelsOf_concat_new new, List.map_append, List.map_singleton,
    piecesOf_concat_self, piecesOf_eq_nil new, List.nil_append, together_singleton, gathered]
  congr 1
  refine List.map_congr_left fun label listed => ?_
  have apart : more.1 ≠ label := fun same => new (same ▸ listed)
  rw [piecesOf_concat_of_ne apart]

theorem gathered_concat_old (old : more.1 ∈ labelsOf given)
    (free : ¬ (Entry.together (piecesOf given more.1)).Clash more.2) :
    gathered (given ++ [more]) =
      (gathered given).map fun expect =>
        if expect.1 == more.1 then
          (more.1, ((Entry.together (piecesOf given more.1)).merge more.2).1)
        else expect := by
  rw [gathered, labelsOf_concat_old old, gathered, List.map_map]
  refine List.map_congr_left fun label listed => ?_
  by_cases same : more.1 = label
  · subst same
    rw [piecesOf_concat_self, together_concat free]
    simp
  · rw [piecesOf_concat_of_ne same]
    simp [Ne.symm same]

theorem labels_gathered (given : List (Label × Entry α)) :
    (gathered given).map Prod.fst = labelsOf given := by
  rw [gathered, List.map_map]
  exact List.map_id' _

theorem find?_gathered_new (new : more.1 ∉ labelsOf given) :
    ((gathered given).find? fun expect => expect.1 == more.1) = none :=
  find?_label_eq_none_iff.2 (labels_gathered given ▸ new)

theorem find?_gathered_old (old : more.1 ∈ labelsOf given) :
    ((gathered given).find? fun expect => expect.1 == more.1) =
      some (more.1, Entry.together (piecesOf given more.1)) := by
  cases found : (gathered given).find? fun expect => expect.1 == more.1 with
  | none => exact absurd (labels_gathered given ▸ old) (find?_label_eq_none_iff.1 found)
  | some expect =>
      have same : expect.1 = more.1 := by simpa using List.find?_some found
      obtain ⟨label, -, rfl⟩ := List.mem_map.1 (List.mem_of_find?_eq_some found)
      obtain rfl : label = more.1 := same
      rfl

/-- **A piece is merged into what has been gathered,** unless a hook is given twice. -/
theorem mergeInto_gathered {result : List (Label × Entry α)} :
    mergeInto (gathered given) more = some result ↔
      ¬ (Entry.together (piecesOf given more.1)).Clash more.2 ∧
        gathered (given ++ [more]) = result := by
  rw [mergeInto]
  by_cases old : more.1 ∈ labelsOf given
  · rw [find?_gathered_old old]
    by_cases clash : (Entry.together (piecesOf given more.1)).Clash more.2
    · have refused : ((Entry.together (piecesOf given more.1)).merge more.2).2 ≠ none :=
        fun none => Entry.merge_refused_iff.1 none clash
      simp [clash, refused]
    · have merged := Entry.merge_refused_iff.2 clash
      simp [clash, merged, gathered_concat_old old clash]
  · have free : ¬ (Entry.together (piecesOf given more.1)).Clash more.2 := by
      rw [piecesOf_eq_nil old, Entry.clash_iff]
      rintro ⟨hook, earlier, -⟩
      rw [hook_together] at earlier
      exact absurd earlier (by simp)
    simp [find?_gathered_new old, free, gathered_concat_new old]

/-- Each label has one entry. -/
theorem nodup_labelsOf (given : List (Label × Entry α)) : (labelsOf given).Nodup := by
  induction given using List.reverseRecOn with
  | nil => exact List.nodup_nil
  | append_singleton given more ih =>
      by_cases old : more.1 ∈ labelsOf given
      · rwa [labelsOf_concat_old old]
      · rw [labelsOf_concat_new old, ← List.concat_eq_append]
        exact ih.concat old

/-- **Merging pieces one by one is gathering them.** It succeeds when no hook is given twice. -/
theorem mergeEach_nil_eq_some_iff {result : List (Label × Entry α)} :
    mergeEach [] given = some result ↔ HooksOnce given ∧ gathered given = result := by
  induction given using List.reverseRecOn generalizing result with
  | nil =>
      have once : HooksOnce ([] : List (Label × Entry α)) := fun _ _ => Nat.zero_le 1
      exact ⟨fun same => ⟨once, Option.some.inj same⟩, fun both => congrArg some both.2⟩
  | append_singleton given more ih =>
      rw [mergeEach_append, Option.bind_eq_some_iff, hooksOnce_concat, and_assoc]
      constructor
      · rintro ⟨earlier, merged, last⟩
        obtain ⟨once, rfl⟩ := ih.1 merged
        rw [mergeEach_singleton] at last
        exact ⟨once, mergeInto_gathered.1 last⟩
      · rintro ⟨once, added⟩
        refine ⟨gathered given, ih.2 ⟨once, rfl⟩, ?_⟩
        rw [mergeEach_singleton]
        exact mergeInto_gathered.2 added

end Pieces

/-! ## Commands that declare entries -/

/-- The pieces that a command gives. A spec gives the entries it compiles to. -/
inductive Command.Gives : Command α → List (Label × Entry α) → Prop
  | expect (steps : List (Label × Step α)) :
      Gives (.expect steps)
        (steps.map fun step => (step.1, { steps := [Runner.normalStep step.2] }))
  | before (label : Label) (sub : α) : Gives (.before label sub) [(label, { before := some sub })]
  | after (label : Label) (sub : α) : Gives (.after label sub) [(label, { after := some sub })]
  | spec {source : String} {subs : List α} {document : Spec.Document} {compiled : Spec.Compiled α}
      (isRead : Spec.Document.read "spec" source = .ok document)
      (compiles : document.compile ⟨.compile, some "spec"⟩ subs = .ok compiled) :
      Gives (.spec source subs) compiled.expects
  | contents (files : Table String ContentSource) : Gives (.contents files) []

namespace Runner

variable {run after : Run W α} {command : Command α} {more : List (Label × Entry α)}

theorem runOn_bind_done_eq_ok_iff {act : Act W α Unit} {reply : Reply} :
    (act >>= fun _ => pure Reply.done).runOn run = (.ok reply, after) ↔
      reply = .done ∧ act.runOn run = (.ok (), after) := by
  constructor
  · intro done
    obtain ⟨_, middle, ran, last⟩ := Action.exists_of_runOn_bind_ok done
    obtain ⟨same, rfl⟩ := Prod.mk.inj last
    exact ⟨(Except.ok.inj same).symm, ran⟩
  · rintro ⟨rfl, ran⟩
    exact Action.runOn_bind_ok ran _

variable (setting : Setting W α) (due : Option Label → Act W α Unit)

/-- Carrying out a command that declares entries merges its pieces one by one. Apart from the
entries it changes at most the declared files. -/
theorem runOn_handle_gives (gives : command.Gives more) (setup : run.standing.started = false) :
    ∃ specs, ∀ reply after, (handle setting due command).runOn run = (.ok reply, after) ↔
      reply = .done ∧ ∃ expects, mergeEach run.standing.expects more = some expects ∧
        run.knowing { run.standing with specs, expects } = after := by
  cases gives with
  | expect steps =>
      refine ⟨run.standing.specs, fun reply after => ?_⟩
      rw [runOn_handle_setup run setting (by rfl), perform, runOn_bind_done_eq_ok_iff,
        runOn_registerEach_eq_ok_iff setup]
  | before label sub =>
      refine ⟨run.standing.specs, fun reply after => ?_⟩
      rw [runOn_handle_setup run setting (by rfl), perform, runOn_bind_done_eq_ok_iff,
        mergeEach_singleton, runOn_register_eq_ok_iff setup (label, _)]
  | after label sub =>
      refine ⟨run.standing.specs, fun reply after => ?_⟩
      rw [runOn_handle_setup run setting (by rfl), perform, runOn_bind_done_eq_ok_iff,
        mergeEach_singleton, runOn_register_eq_ok_iff setup (label, _)]
  | @spec source subs document compiled isRead compiles =>
      refine ⟨run.standing.specs.override compiled.files, fun reply after => ?_⟩
      rw [runOn_handle_spec_eq_ok_iff setting due setup]
      constructor
      · rintro ⟨_, ⟨other, others, expects, same, alike, merged, rfl⟩, rfl, rfl⟩
        obtain rfl := Except.ok.inj (isRead.symm.trans same)
        obtain rfl := Except.ok.inj (compiles.symm.trans alike)
        exact ⟨rfl, expects, merged, rfl⟩
      · rintro ⟨rfl, expects, merged, rfl⟩
        exact ⟨_, ⟨document, compiled, expects, isRead, compiles, merged, rfl⟩, rfl, rfl⟩
  | contents files =>
      refine ⟨(files.entries.map fun file => (file.1, file.2.content)).foldl
        (fun specs file => specs.insert file.1 file.2) run.standing.specs, fun reply after => ?_⟩
      rw [runOn_handle_setup run setting (by rfl), perform, runOn_bind_done_eq_ok_iff,
        registerContents, runOn_revise, Prod.mk.injEq]
      simp [mergeEach]

/-- Answering such a command leaves a runner that collects declarations as before. -/
theorem runOn_answer_gives (gives : command.Gives more) (setup : run.standing.started = false)
    (goesOn : run.standing.aborted = none) :
    (∀ reply after, (answer setting due command).runOn run = (.ok reply, after) →
      mergeEach run.standing.expects more = some after.standing.expects ∧
        after.standing.started = false ∧ after.standing.aborted = none) ∧
    ∀ expects, mergeEach run.standing.expects more = some expects →
      ∃ reply after, (answer setting due command).runOn run = (.ok reply, after) := by
  have noted : (run.noting (.dispatched command)).standing.started = false := setup
  obtain ⟨specs, handled⟩ := runOn_handle_gives setting due gives noted
  constructor
  · intro reply after answered
    obtain ⟨middle, ran, rfl⟩ := (runOn_answer_eq_ok_iff setting due goesOn).1 answered
    obtain ⟨rfl, expects, merged, rfl⟩ := (handled _ _).1 ran
    exact ⟨merged, setup, goesOn⟩
  · intro expects merged
    have ran := (handled _ _).2 ⟨rfl, expects, merged, rfl⟩
    exact ⟨_, _, (runOn_answer_eq_ok_iff setting due goesOn).2 ⟨_, ran, rfl⟩⟩

/-- A sequence of such commands merges all their pieces one by one. -/
theorem runOn_sendAll_gives {commands : List (Command α)} {pieces : List (List (Label × Entry α))}
    (gives : List.Forall₂ Command.Gives commands pieces) (setup : run.standing.started = false)
    (goesOn : run.standing.aborted = none) {result : List (Label × Entry α)} :
    (∃ after, (drive (answer setting due) (.sendAll commands)).runOn run = (.ok (), after) ∧
        after.standing.expects = result) ↔
      mergeEach run.standing.expects pieces.flatten = some result := by
  induction gives generalizing run with
  | nil =>
      rw [Procedure.sendAll, runOn_drive_finish]
      simp [mergeEach]
  | @cons command more commands pieces first _ ih =>
      obtain ⟨whenOk, isOk⟩ := runOn_answer_gives setting due first setup goesOn
      rcases answered : (answer setting due command).runOn run with ⟨outcome, middle⟩
      rw [List.flatten_cons, mergeEach_append]
      cases outcome with
      | ok reply =>
          obtain ⟨merged, setup, goesOn⟩ := whenOk reply middle answered
          rw [runOn_drive_sendAll_ok _ answered, merged, Option.bind_some]
          exact ih setup goesOn
      | error failure =>
          rw [runOn_drive_sendAll_error _ answered]
          constructor
          · rintro ⟨_, ran, -⟩
            cases ran
          · intro merged
            obtain ⟨expects, merged, -⟩ := Option.bind_eq_some_iff.1 merged
            obtain ⟨reply, after, ran⟩ := isOk expects merged
            rw [answered] at ran
            cases ran

/-- **Declaring is gathering.** Expectations, hooks and specs that are declared one after the other,
before anything else, are all accepted exactly when no label gets a hook twice. Then the
declared entries are what was given, gathered by label: one entry for each label, in the order in
which the labels came up. -/
theorem declarations_gather (world : W) {commands : List (Command α)}
    {pieces : List (List (Label × Entry α))}
    (gives : List.Forall₂ Command.Gives commands pieces) :
    let ended := (drive (answer setting due) (.sendAll commands)).runOn { world }
    (ended.1 = .ok () ↔ HooksOnce pieces.flatten) ∧
      (ended.1 = .ok () →
        ended.2.standing.expects = gathered pieces.flatten ∧
          (ended.2.standing.expects.map Prod.fst).Nodup) := by
  intro ended
  have merges : ∀ {result}, (∃ after, (drive (answer setting due) (.sendAll commands)).runOn
      { world } = (.ok (), after) ∧ after.standing.expects = result) ↔
        mergeEach [] pieces.flatten = some result :=
    runOn_sendAll_gives setting due gives rfl rfl
  have whenOk : ended.1 = .ok () →
      HooksOnce pieces.flatten ∧ gathered pieces.flatten = ended.2.standing.expects := fun ok =>
    mergeEach_nil_eq_some_iff.1 (merges.1 ⟨ended.2, Prod.ext ok rfl, rfl⟩)
  refine ⟨⟨fun ok => (whenOk ok).1, fun once => ?_⟩, fun ok => ?_⟩
  · obtain ⟨after, ran, -⟩ := merges.2 (mergeEach_nil_eq_some_iff.2 ⟨once, rfl⟩)
    exact congrArg Prod.fst ran
  · have same := (whenOk ok).2
    refine ⟨same.symm, ?_⟩
    rw [← same, labels_gathered]
    exact nodup_labelsOf _

/-- An expectation of two labels, a spec with a piece for one of them and one for a new label,
files, and a hook for the new label. -/
def mixedCommands : List (Command Unit) := [
  .expect [(⟨"2"⟩, .sub ()), (⟨"1"⟩, .call ())], .spec repeatedSource [()], .contents {},
  .after ⟨"0"⟩ ()]

/-- The pieces that `mixedCommands` give. -/
def mixedPieces : List (List (Label × Entry Unit)) := [
  [(⟨"2"⟩, { steps := [.sub ()] }), (⟨"1"⟩, { steps := [.call ()] })],
  Spec.Compiled.repeated.expects, [], [(⟨"0"⟩, { after := some () })]]

/-- What `mixedPieces` are gathered to. -/
def mixedEntries : List (Label × Entry Unit) := [
  (⟨"2"⟩, { steps := [.sub ()] }),
  (⟨"1"⟩, { steps := [.call (), .html (Html.normalize "b\n")], before := some () }),
  (⟨"0"⟩, { steps := [.html (Html.normalize "a\n")], after := some () })]

theorem declarations_gather_mixed :
    let ended := (drive (answer (Setting.plain TestBed.still) fun _ => pure ())
      (.sendAll mixedCommands)).runOn { world := () }
    List.Forall₂ Command.Gives mixedCommands mixedPieces ∧
      ended.1 = .ok () ∧ ended.2.standing.expects = mixedEntries := by
  have read : Spec.Document.read "spec" repeatedSource = .ok .repeated := by rfl
  have compiled : Spec.Document.repeated.compile ⟨.compile, some "spec"⟩ [()] =
      .ok Spec.Compiled.repeated := by rfl
  have gives : List.Forall₂ Command.Gives mixedCommands mixedPieces :=
    .cons (.expect _) (.cons (.spec read compiled) (.cons (.contents _) (.cons (.after _ _) .nil)))
  have merged : mergeEach [] mixedPieces.flatten = some mixedEntries := by rfl
  obtain ⟨succeeds, result⟩ :=
    declarations_gather (Setting.plain TestBed.still) (fun _ => pure ()) () gives
  obtain ⟨once, gathers⟩ := mergeEach_nil_eq_some_iff.1 merged
  exact ⟨gives, succeeds.2 once, (result (succeeds.2 once)).1.trans gathers⟩

end Runner

end HotReload
