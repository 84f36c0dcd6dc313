import HotReload.Proofs.CompiledEntries
import HotReload.Proofs.Moves
import HotReload.Proofs.Tables

/-!
# Registering a spec and compiling it

A spec text is used in two ways. It can be compiled as a whole, and it can be declared in a
test, which declares its files one at a time and its entries one at a time. Before the session
starts both agree (`spec_command_agrees`): the declaration succeeds exactly when the text can be
read and compiled and no hook is given twice, and then the files of the compiled spec have been
written over the declared ones, and its entries have been merged into the declared ones.

Declaring entries is followed by `mergeEach` step by step. Since a compiled spec has each label
once, no entry is merged into another one of the same spec, so that merging can be said at one
go: declared entries take what the spec has for their label, and new labels come behind them in
the order of the spec (`mergeEach_eq_some_iff`).
-/

set_option autoImplicit false

namespace HotReload

variable {W α : Type}

/-! ## Merging entries -/

/-- The declared entries with one more, which is merged into the entry of its label. There are
none when a hook would be given twice. -/
def mergeInto (expects : List (Label × Entry α)) (more : Label × Entry α) :
    Option (List (Label × Entry α)) :=
  match expects.find? fun expect => expect.1 == more.1 with
  | none => some (expects ++ [more])
  | some (_, current) =>
    if (current.merge more.2).2.isNone then
      some (expects.map fun expect =>
        if expect.1 == more.1 then (more.1, (current.merge more.2).1) else expect)
    else none

/-- The declared entries with others merged into them one by one. -/
def mergeEach (expects more : List (Label × Entry α)) : Option (List (Label × Entry α)) :=
  more.foldlM mergeInto expects

/-- Two entries give the same hook. -/
def Entry.Clash (first second : Entry α) : Prop :=
  (first.before.isSome = true ∧ second.before.isSome = true) ∨
    (first.after.isSome = true ∧ second.after.isSome = true)

/-- What a declared entry becomes with the entries of a spec. -/
def withMore (more : List (Label × Entry α)) (expect : Label × Entry α) : Label × Entry α :=
  match more.find? fun other => other.1 == expect.1 with
  | none => expect
  | some (_, entry) => (expect.1, (expect.2.merge entry).1)

/-- Declared entries take what there is for their labels, and new labels come behind them. -/
def mergedWith (expects more : List (Label × Entry α)) : List (Label × Entry α) :=
  expects.map (withMore more) ++ more.filter fun other => other.1 ∉ expects.map Prod.fst

theorem Entry.merge_refused_iff {first second : Entry α} :
    (first.merge second).2 = none ↔ ¬ first.Clash second := by
  unfold Entry.merge Entry.Clash
  cases first.before <;> cases second.before <;> cases first.after <;> cases second.after <;> simp

/-- What merging makes of two entries that give no hook twice. -/
theorem Entry.merge_of_free {first second : Entry α} (free : ¬ first.Clash second) :
    (first.merge second).1 =
      { steps := first.steps ++ second.steps
        before := first.before.or second.before
        after := first.after.or second.after
        description := first.description.or second.description } := by
  obtain ⟨before, after⟩ := not_or.1 free
  rw [← Bool.and_eq_true] at before after
  rw [Entry.merge, if_neg before]
  exact congrArg Prod.fst (if_neg after)

variable {expects rest result : List (Label × Entry α)} {other : Label × Entry α}

theorem find?_label_eq_none_iff :
    (expects.find? fun expect => expect.1 == other.1) = none ↔
      other.1 ∉ expects.map Prod.fst := by
  rw [List.find?_eq_none, List.mem_map]
  constructor
  · rintro none ⟨expect, mem, same⟩
    exact none expect mem (beq_iff_eq.2 same)
  · intro absent expect mem same
    exact absent ⟨expect, mem, beq_iff_eq.1 same⟩

/-- What there is for another label does not count. -/
theorem withMore_cons_of_ne {expect : Label × Entry α} (apart : other.1 ≠ expect.1) :
    withMore (other :: rest) expect = withMore rest expect := by
  simp [withMore, apart]

theorem withMore_of_notMem {expect : Label × Entry α} (absent : expect.1 ∉ rest.map Prod.fst) :
    withMore rest expect = expect := by
  rw [withMore, find?_label_eq_none_iff.2 absent]

/-- An entry of a new label comes behind the others. -/
theorem mergedWith_concat (new : other.1 ∉ expects.map Prod.fst)
    (once : other.1 ∉ rest.map Prod.fst) :
    mergedWith (expects ++ [other]) rest = mergedWith expects (other :: rest) := by
  have kept : expects.map (withMore (other :: rest)) = expects.map (withMore rest) := by
    refine List.map_congr_left fun expect mem => withMore_cons_of_ne ?_
    rintro same
    exact new (same ▸ List.mem_map_of_mem mem)
  have others : (rest.filter fun more => more.1 ∉ (expects ++ [other]).map Prod.fst) =
      rest.filter fun more => more.1 ∉ expects.map Prod.fst := by
    refine List.filter_congr fun more mem => ?_
    have apart : more.1 ≠ other.1 := fun same => once (same ▸ List.mem_map_of_mem mem)
    simp [apart]
  rw [mergedWith, mergedWith, others, kept, List.map_append, List.map_singleton,
    withMore_of_notMem once, List.filter_cons_of_pos (by simpa using new), List.append_assoc]
  rfl

/-- An entry of a label that is there is merged into the entry of this label. -/
theorem mergedWith_map {current : Entry α} (apart : (expects.map Prod.fst).Nodup)
    (there : (other.1, current) ∈ expects) (once : other.1 ∉ rest.map Prod.fst) :
    mergedWith
        (expects.map fun expect =>
          if expect.1 == other.1 then (other.1, (current.merge other.2).1) else expect) rest =
      mergedWith expects (other :: rest) := by
  have listed : other.1 ∈ expects.map Prod.fst := List.mem_map.2 ⟨_, there, rfl⟩
  rw [mergedWith, mergedWith, Runner.labels_map_merged, List.map_map,
    List.filter_cons_of_neg (by simpa using listed)]
  congr 1
  refine List.map_congr_left fun expect mem => ?_
  by_cases same : expect.1 = other.1
  · obtain rfl : expect = (other.1, current) := List.inj_on_of_nodup_map apart mem there same
    have taken : withMore (other :: rest) (other.1, current) =
        (other.1, (current.merge other.2).1) := by
      simp [withMore]
    rw [taken, Function.comp_apply, beq_self_eq_true, if_pos rfl]
    exact withMore_of_notMem once
  · simp [same, withMore_cons_of_ne (Ne.symm same)]

theorem mergeEach_cons (expects rest : List (Label × Entry α)) (other : Label × Entry α) :
    mergeEach expects (other :: rest) =
      (mergeInto expects other).bind fun expects => mergeEach expects rest := by
  rw [mergeEach, List.foldlM_cons]
  rfl

theorem mergeEach_append (expects first more : List (Label × Entry α)) :
    mergeEach expects (first ++ more) =
      (mergeEach expects first).bind fun expects => mergeEach expects more := by
  rw [mergeEach, List.foldlM_append]
  rfl

theorem mergeEach_singleton (expects : List (Label × Entry α)) (more : Label × Entry α) :
    mergeEach expects [more] = mergeInto expects more := by
  rw [mergeEach_cons]
  exact Option.bind_fun_some _

/-- **Merging entries of different labels one by one is merging them at one go.** It succeeds when
no hook is given twice. -/
theorem mergeEach_eq_some_iff {more : List (Label × Entry α)}
    (apart : (expects.map Prod.fst).Nodup) (once : (more.map Prod.fst).Nodup) :
    mergeEach expects more = some result ↔
      (∀ other ∈ more, ∀ expect ∈ expects, expect.1 = other.1 → ¬ expect.2.Clash other.2) ∧
        mergedWith expects more = result := by
  induction more generalizing expects with
  | nil =>
      have same : mergedWith expects [] = expects := by
        rw [mergedWith, List.filter_nil, List.append_nil]
        exact List.map_id' expects
      simp [mergeEach, same]
  | cons other rest ih =>
      obtain ⟨once, later⟩ := List.nodup_cons.1 once
      rw [mergeEach_cons, mergeInto]
      cases found : expects.find? fun expect => expect.1 == other.1 with
      | none =>
          have new := find?_label_eq_none_iff.1 found
          have grown : ((expects ++ [other]).map Prod.fst).Nodup :=
            Runner.nodup_labels_append apart found other.2
          rw [Option.bind_some, ih grown later, mergedWith_concat new once, and_congr_left_iff]
          intro _
          constructor
          · intro free more mem expect listed same
            rcases List.mem_cons.1 mem with rfl | mem
            · exact absurd (List.mem_map.2 ⟨expect, listed, same⟩) new
            · exact free more mem expect (List.mem_append_left _ listed) same
          · intro free more mem expect listed same
            rcases List.mem_append.1 listed with listed | last
            · exact free more (List.mem_cons_of_mem _ mem) expect listed same
            · obtain rfl := List.mem_singleton.1 last
              exact absurd (List.mem_map.2 ⟨more, mem, same.symm⟩) once
      | some expect =>
          obtain ⟨here, current⟩ := expect
          have same : here = other.1 := by simpa using List.find?_some found
          obtain rfl := same
          have there := List.mem_of_find?_eq_some found
          have only : ∀ expect ∈ expects, expect.1 = other.1 → expect = (other.1, current) :=
            fun expect mem same => List.inj_on_of_nodup_map apart mem there same
          cases clash : (current.merge other.2).2 with
          | some hook =>
              -- the entry is refused, and there is a clash
              have refused : current.Clash other.2 := by
                by_contra free
                rw [Entry.merge_refused_iff.2 free] at clash
                exact nomatch clash
              simp only [clash, Option.isNone_some, Bool.false_eq_true, if_false]
              constructor
              · exact nofun
              · rintro ⟨free, -⟩
                exact absurd refused (free other List.mem_cons_self _ there rfl)
          | none =>
              have free := Entry.merge_refused_iff.1 clash
              simp only [clash, Option.isNone_none, if_true, Option.bind_some]
              rw [ih (by rwa [Runner.labels_map_merged]) later, mergedWith_map apart there once,
                and_congr_left_iff]
              intro _
              constructor
              · intro every more mem expect listed same
                rcases List.mem_cons.1 mem with rfl | mem
                · rw [only expect listed same]
                  exact free
                · have away : expect.1 ≠ other.1 := fun here =>
                    once (List.mem_map.2 ⟨more, mem, same.symm.trans here⟩)
                  refine every more mem expect (List.mem_map.2 ⟨expect, listed, ?_⟩) same
                  simp [away]
              · intro every more mem expect listed same
                obtain ⟨old, among, rfl⟩ := List.mem_map.1 listed
                by_cases here : old.1 = other.1
                · have label : other.1 = more.1 := by simpa [here] using same
                  exact absurd (List.mem_map.2 ⟨more, mem, label.symm⟩) once
                · simp only [beq_iff_eq, here, if_false] at same ⊢
                  exact every more (List.mem_cons_of_mem _ mem) old among same

/-! ## Declaring entries -/

namespace Runner

variable {run after : Run W α}

/-- Before the session starts, declaring an entry is merging it. -/
theorem runOn_register_eq_ok_iff (setup : run.standing.started = false)
    (more : Label × Entry α) :
    (register more.1 more.2).runOn run = (.ok (), after) ↔
      ∃ expects, mergeInto run.standing.expects more = some expects ∧
        run.knowing { run.standing with expects } = after := by
  rw [register, Action.runOn_bind_ok (runOn_standing run), setup]
  simp only [Bool.false_eq_true, if_false, mergeInto]
  cases found : run.standing.expects.find? fun expect => expect.1 == more.1 with
  | none =>
      show ((.ok (), run.knowing _) : Except Failure Unit × Run W α) = _ ↔ _
      simp
  | some expect =>
      obtain ⟨here, current⟩ := expect
      simp only
      rw [Action.runOn_bind_ok (runOn_revise run _)]
      cases refused : (current.merge more.2).2 with
      | none =>
          show ((.ok (), run.knowing _) : Except Failure Unit × Run W α) = _ ↔ _
          simp
      | some hook =>
          show ((.error _, _) : Except Failure Unit × Run W α) = _ ↔ _
          simp

/-- Before the session starts, declaring entries is merging them one by one. -/
theorem runOn_registerEach_eq_ok_iff (setup : run.standing.started = false)
    (more : List (Label × Entry α)) :
    (registerEach more).runOn run = (.ok (), after) ↔
      ∃ expects, mergeEach run.standing.expects more = some expects ∧
        run.knowing { run.standing with expects } = after := by
  induction more generalizing run with
  | nil =>
      show ((.ok (), run) : Except Failure Unit × Run W α) = _ ↔ _
      simp only [Prod.mk.injEq, true_and, mergeEach, List.foldlM_nil, pure, Option.some.injEq,
        exists_eq_left']
      rfl
  | cons first rest ih =>
      obtain ⟨label, entry⟩ := first
      rw [mergeEach_cons]
      constructor
      · intro done
        obtain ⟨_, middle, ran, done⟩ := Action.exists_of_runOn_bind_ok done
        obtain ⟨grown, merged, rfl⟩ := (runOn_register_eq_ok_iff setup (label, entry)).1 ran
        have fresh : (run.knowing { run.standing with expects := grown }).standing.started =
            false := setup
        obtain ⟨expects, later, rfl⟩ := (ih fresh).1 done
        exact ⟨expects, by rw [merged]; exact later, rfl⟩
      · rintro ⟨expects, merged, rfl⟩
        obtain ⟨grown, first, later⟩ := Option.bind_eq_some_iff.1 merged
        have ran : (register label entry).runOn run =
            (.ok (), run.knowing { run.standing with expects := grown }) :=
          (runOn_register_eq_ok_iff setup (label, entry)).2 ⟨grown, first, rfl⟩
        have fresh : (run.knowing { run.standing with expects := grown }).standing.started =
            false := setup
        rw [registerEach, Action.runOn_bind_ok ran]
        exact (ih fresh).2 ⟨expects, later, rfl⟩

end Runner

/-! ## The whole spec -/

/-- What a spec text makes of what is known: it can be read and compiled, its entries can be
merged one by one, its files are written over the others, and nothing else changes. -/
def Standing.Registers (old : Standing α) (source : String) (subs : List α)
    (known : Standing α) : Prop :=
  ∃ document compiled expects,
    Spec.Document.read "spec" source = .ok document ∧
      document.compile ⟨.compile, some "spec"⟩ subs = .ok compiled ∧
      mergeEach old.expects compiled.expects = some expects ∧
      { old with specs := old.specs.override compiled.files, expects } = known

namespace Runner

variable {run after : Run W α}

theorem runOn_registerSpec_eq_ok_iff (setup : run.standing.started = false) (source : String)
    (subs : List α) :
    (registerSpec source subs).runOn run = (.ok (), after) ↔
      ∃ known, run.standing.Registers source subs known ∧ run.knowing known = after := by
  unfold Standing.Registers
  have filed (document : Spec.Document) :
      (registerContents document.contents : Act W α Unit).runOn run =
        (.ok (), run.knowing { run.standing with
          specs := run.standing.specs.override (Table.ofList document.contents) }) := by
    rw [Table.override_ofList]
    rfl
  constructor
  · intro done
    obtain ⟨document, middle, ran, done⟩ := Action.exists_of_runOn_bind_ok done
    rw [Action.runOn_ofExcept] at ran
    obtain ⟨isRead, rfl⟩ := Prod.mk.inj ran
    rw [Action.runOn_bind_ok (filed document)] at done
    obtain ⟨more, middle, ran, done⟩ := Action.exists_of_runOn_bind_ok done
    rw [Action.runOn_ofExcept] at ran
    obtain ⟨compiled, rfl⟩ := Prod.mk.inj ran
    obtain ⟨expects, merged, rfl⟩ := (runOn_registerEach_eq_ok_iff (by exact setup) more).1 done
    refine ⟨_, ⟨document, ⟨document.title, Table.ofList document.contents, more⟩, expects, isRead,
      ?_, merged, rfl⟩, rfl⟩
    rw [Spec.Document.compile, compiled]
    rfl
  · rintro ⟨known, ⟨document, compiled, expects, isRead, compiles, merged, rfl⟩, rfl⟩
    obtain ⟨more, entries, same⟩ := Spec.exists_of_bind_ok compiles
    obtain rfl := Except.ok.inj same
    rw [registerSpec, Action.runOn_bind_ok (by rw [Action.runOn_ofExcept, isRead]),
      Action.runOn_bind_ok (filed document),
      Action.runOn_bind_ok (by rw [Action.runOn_ofExcept, entries])]
    exact (runOn_registerEach_eq_ok_iff (by exact setup) more).2 ⟨expects, merged, rfl⟩

variable (setting : Setting W α) (due : Option Label → Act W α Unit)

/-- Carrying out the declaration of a spec is registering it. -/
theorem runOn_handle_spec_eq_ok_iff (setup : run.standing.started = false) (source : String)
    (subs : List α) {reply : Reply} :
    (handle setting due (.spec source subs)).runOn run = (.ok reply, after) ↔
      ∃ known, run.standing.Registers source subs known ∧ reply = .done ∧
        after = run.knowing known := by
  rw [runOn_handle_setup run setting (by rfl)]
  constructor
  · intro done
    obtain ⟨_, middle, ran, done⟩ := Action.exists_of_runOn_bind_ok done
    obtain ⟨known, registers, rfl⟩ := (runOn_registerSpec_eq_ok_iff setup source subs).1 ran
    obtain ⟨same, rfl⟩ := Prod.mk.inj done
    exact ⟨known, registers, (Except.ok.inj same).symm, rfl⟩
  · rintro ⟨known, registers, rfl, rfl⟩
    have ran := (runOn_registerSpec_eq_ok_iff setup source subs).2 ⟨known, registers, rfl⟩
    rw [perform, Action.runOn_bind_ok ran]
    rfl

/-- A command that is not refused succeeds when carrying it out does. -/
theorem runOn_answer_eq_ok_iff (goesOn : run.standing.aborted = none) {command : Command α}
    {reply : Reply} :
    (answer setting due command).runOn run = (.ok reply, after) ↔
      ∃ middle, (handle setting due command).runOn (run.noting (.dispatched command)) =
          (.ok reply, middle) ∧
        middle.noting (.answered command (.ok reply)) = after := by
  rw [runOn_answer, runOn_carryOut _ setting (by exact goesOn)]
  rcases (handle setting due command).runOn (run.noting (.dispatched command)) with ⟨result, middle⟩
  cases result with
  | error failure => simp
  | ok other =>
      simp only [Prod.mk.injEq, Except.ok.injEq]
      constructor
      · rintro ⟨rfl, rfl⟩
        exact ⟨middle, ⟨rfl, rfl⟩, rfl⟩
      · rintro ⟨_, ⟨rfl, rfl⟩, rfl⟩
        exact ⟨rfl, rfl⟩

end Runner

/-- The entries that a spec registers are merged at one go. -/
theorem Standing.Registers.expects_eq {old known : Standing α} {source : String} {subs : List α}
    (registers : old.Registers source subs known) (apart : (old.expects.map Prod.fst).Nodup) :
    ∃ document compiled, Spec.Document.read "spec" source = .ok document ∧
      document.compile ⟨.compile, some "spec"⟩ subs = .ok compiled ∧
      known.expects = mergedWith old.expects compiled.expects := by
  obtain ⟨document, compiled, expects, isRead, compiles, merged, rfl⟩ := registers
  obtain ⟨more, entries, same⟩ := Spec.exists_of_bind_ok compiles
  obtain rfl := Except.ok.inj same
  obtain ⟨labels, once, -⟩ := Spec.compiled_expects isRead entries
  rw [← labels] at once
  exact ⟨document, _, isRead, compiles, ((mergeEach_eq_some_iff apart once).1 merged).2.symm⟩

/-- **Declaring a spec agrees with compiling it.** Before the session starts, the declaration
succeeds exactly when the text can be read and compiled and its entries can be merged; then its
files have been written over the declared ones, its entries have been merged into the declared
ones, and nothing else has changed. New labels have come behind the others. -/
theorem spec_command_agrees (setting : Setting W α) (due : Option Label → Runner.Act W α Unit)
    (source : String) (subs : List α) (run : Run W α) (setup : run.standing.started = false) :
    (∀ reply after, (Runner.handle setting due (.spec source subs)).runOn run = (.ok reply, after) ↔
      ∃ known, run.standing.Registers source subs known ∧ reply = .done ∧
        after = run.knowing known) ∧
    (run.standing.aborted = none → ∀ reply after,
      (Runner.answer setting due (.spec source subs)).runOn run = (.ok reply, after) ↔
        ∃ known, run.standing.Registers source subs known ∧ reply = .done ∧
          after = ((run.noting (.dispatched (.spec source subs))).knowing known).noting
            (.answered (.spec source subs) (.ok .done))) ∧
    ∀ known, run.standing.Registers source subs known →
      (run.standing.expects.map Prod.fst).Nodup →
        ∃ document compiled, Spec.Document.read "spec" source = .ok document ∧
          document.compile ⟨.compile, some "spec"⟩ subs = .ok compiled ∧
          known.expects = mergedWith run.standing.expects compiled.expects := by
  refine ⟨fun reply after => Runner.runOn_handle_spec_eq_ok_iff setting due setup source subs,
    fun goesOn reply after => ?_, fun known registers apart => registers.expects_eq apart⟩
  rw [Runner.runOn_answer_eq_ok_iff setting due goesOn]
  constructor
  · rintro ⟨middle, handled, rfl⟩
    obtain ⟨known, registers, rfl, rfl⟩ :=
      (Runner.runOn_handle_spec_eq_ok_iff setting due (by exact setup) source subs).1 handled
    exact ⟨known, registers, rfl, rfl⟩
  · rintro ⟨known, registers, rfl, rfl⟩
    exact ⟨_, (Runner.runOn_handle_spec_eq_ok_iff setting due (by exact setup) source subs).2
      ⟨known, registers, rfl, rfl⟩, rfl⟩

/-! ## A spec with a path of two blocks and a label that is there already -/

/-- A spec whose file has two blocks, and a label with a hook and a text. -/
def repeatedSource : String :=
  "---- f ----\nx\n---- f ----\ny\n****\n::1 b\n::1 $\x7b0\x7d\n::0 a\n"

/-- What is read from `repeatedSource`. -/
def Spec.Document.repeated : Spec.Document where
  files := [
    ⟨"f", .ofParts [.unconditional "x\n" ⟨12, 13⟩], ⟨0, 11⟩⟩,
    ⟨"f", .ofParts [.unconditional "y\n" ⟨26, 27⟩], ⟨14, 25⟩⟩]
  expectations := some {
    parts := [
      { condition := some ⟨"1"⟩, text := "b\n", block := some false, markers := [],
        description := none, span := ⟨33, 38⟩ },
      { condition := some ⟨"1"⟩, text := "\n", block := some false, markers := [⟨0, 0⟩],
        description := none, span := ⟨39, 47⟩ },
      { condition := some ⟨"0"⟩, text := "a\n", block := some false, markers := [],
        description := none, span := ⟨48, 53⟩ }]
    conditions := [⟨"1"⟩, ⟨"0"⟩] }

/-- What `repeatedSource` compiles to. -/
def Spec.Compiled.repeated : Spec.Compiled Unit where
  title := none
  files := Table.ofList Spec.Document.repeated.contents
  expects := [
    (⟨"1"⟩, { steps := [.html (Html.normalize "b\n")], before := some () }),
    (⟨"0"⟩, { steps := [.html (Html.normalize "a\n")] })]

/-- A run with a declared entry of label `0`. -/
def Run.oneDeclared : Run Unit Unit where
  world := ()
  standing := { expects := [(⟨"0"⟩, { after := some () })] }

/-- The entry of label `0` keeps its place and gets a step, and label `1` comes behind it. -/
def Standing.repeated : Standing Unit where
  specs := ({} : Table String Content).override Spec.Compiled.repeated.files
  expects := [
    (⟨"0"⟩, { steps := [.html (Html.normalize "a\n")], after := some () }),
    (⟨"1"⟩, { steps := [.html (Html.normalize "b\n")], before := some () })]

theorem registered_repeatedSource :
    Run.oneDeclared.standing.Registers repeatedSource [()] Standing.repeated ∧
      (∃ after, (Runner.answer (Setting.plain TestBed.still) (fun _ => pure ())
        (.spec repeatedSource [()])).runOn Run.oneDeclared = (.ok .done, after) ∧
          after.standing = Standing.repeated) ∧
      ∃ document compiled, Spec.Document.read "spec" repeatedSource = .ok document ∧
        document.compile ⟨.compile, some "spec"⟩ [()] = .ok compiled ∧
        Standing.repeated.expects =
          mergedWith Run.oneDeclared.standing.expects compiled.expects := by
  have registers : Run.oneDeclared.standing.Registers repeatedSource [()] Standing.repeated :=
    ⟨.repeated, .repeated, Standing.repeated.expects, by rfl, by rfl, by rfl, by rfl⟩
  obtain ⟨-, answered, merged⟩ := spec_command_agrees (Setting.plain TestBed.still)
    (fun _ => pure ()) repeatedSource [()] Run.oneDeclared rfl
  exact ⟨registers, ⟨_, (answered rfl _ _).2 ⟨_, registers, rfl, rfl⟩, rfl⟩,
    merged _ registers (by decide)⟩

end HotReload
