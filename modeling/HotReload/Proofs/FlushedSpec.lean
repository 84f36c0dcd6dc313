import HotReload.Proofs.SpecVerdict

/-!
# A spec whose updates are flushed

A spec need not be a test of its own. A test may only send it and return; then the session
starts with no file at all, and the last flush brings the app to every update before it runs
the entry of that update. With a page that shows one file this ends as the entries are judged
(`Invocation.runOn_run_spec`), which is how the spec ends as a test of its own, where the app
starts with the first update and is changed to the others. So both ways of running a spec
report the same, or fail with the same mismatch (`stepping_agrees_with_flushing`).

What the two ways share is the text that the page shows when an entry begins. During a flush it
need not be the text of any update before the first entry; all that is needed of it is that
nothing is shown of a file that the spec does not declare (`Run.Flushing`).
-/

set_option autoImplicit false

namespace HotReload

variable {W α : Type}

/-- A session in which the waiting entries are flushed. -/
structure Run.Flushing (shown : W → String) (path : String) (files : Table String Content)
    (queue : List (Label × Entry α)) (entries steps : Nat) (run : Run W α) : Prop where
  known : run.standing.Midway files queue entries steps
  /-- The app shows the update of no entry that waits. -/
  elsewhere : ∀ expect ∈ queue, run.standing.cursor ≠ some expect.1
  /-- Of a file that is not declared nothing is shown. -/
  undeclared : files.find? path = none → shown run.world = ""

namespace Runner

section Flushing

variable {setting : Setting W α} {shown : W → String} {path : String} {subs : List α}
  (shows : setting.testBed.Shows setting.config.appRootSelector path shown)
  (calm : ∀ handle ∈ subs, (setting.playbook.procedure handle).Calm shown)
  {files : Table String Content} {label : Label} {entry : Entry α}
  {rest : List (Label × Entry α)} {run : Run W α} {entries steps : Nat}
include shows

/-! ## One round of a flush -/

/-- A flush brings the app to the update of the first waiting entry, once this entry has left. -/
theorem runOn_bringTo_flushing
    (flushing : run.Flushing shown path files ((label, entry) :: rest) entries steps)
    (behind : Table Label (Entry α)) :
    ∃ (brought : Run W α) (cursor : Option Label),
      (bringTo setting label).runOn (run.leaving behind) = (.ok (), brought) ∧
      brought.standing = { run.standing with remaining := some behind, cursor } ∧
      (cursor = run.standing.cursor ∨ cursor = some label) ∧
      shown brought.world = updateText files path label := by
  obtain ⟨known, elsewhere, undeclared⟩ := flushing
  rw [← known.specs] at undeclared ⊢
  have undeclared : run.standing.specs.find? path = none → shown run.world = "" := undeclared
  cases declared : run.standing.specs.isEmpty with
  | true =>
      -- without files there is nothing to write, and the page shows nothing
      have nothing := Table.find?_of_isEmpty declared path
      refine ⟨run.leaving behind, run.standing.cursor,
        runOn_bringTo_shown (run.leaving behind) setting (.inr declared), rfl, .inl rfl, ?_⟩
      rw [updateText, nothing]
      exact undeclared nothing
  | false =>
      have apart : (run.leaving behind).standing.cursor ≠ some label ∧
          (!(run.leaving behind).standing.specs.isEmpty) = true :=
        ⟨elsewhere _ List.mem_cons_self, congrArg Bool.not declared⟩
      refine ⟨((run.leaving behind).bringing setting label).showing label, some label,
        runOn_bringTo_written (run.leaving behind) setting apart known.isOpen (shows.writes _ _),
        rfl, .inr rfl, ?_⟩
      refine (shows.shows_write (run.standing.changesFor label) run.world).trans ?_
      exact Standing.textAfter_changesFor_of_undeclared undeclared label

include calm

/-- A flush runs the first waiting entry while the page shows the text of its update, and
goes on with the others if the entry passes. -/
theorem runOn_runDue_flushing (most : Nat)
    (flushing : run.Flushing shown path files ((label, entry) :: rest) entries steps)
    (compiled : entry.Compiled subs) :
    ∃ after : Run W α,
      (runDue setting (most + 1) none).runOn run =
        (Action.ofExcept
            (judgeEntry setting.differences (setting.markupAt files path) (label, entry)) >>=
          fun _ => runDue setting most none).runOn after ∧
      after.standing.aborted = none ∧
      (judgeEntry setting.differences (setting.markupAt files path) (label, entry) = .ok () →
        after.Flushing shown path files rest (entries + 1) (steps + entry.steps.length)) := by
  obtain ⟨behind, rfl, due⟩ := Standing.exists_due flushing.known.waiting
    (show ∀ bound ∈ (none : Option Label), label.atMost bound = true from nofun)
  obtain ⟨brought, cursor, ran, standing, here, there⟩ :=
    runOn_bringTo_flushing shows flushing behind
  obtain ⟨known, elsewhere, undeclared⟩ := flushing
  let begun : Run W α := brought.beginning label entry true
  have begunOpen : begun.standing.sessionOpen = true := by
    show brought.standing.sessionOpen = true
    rw [standing]
    exact known.isOpen
  have text : shown begun.world = updateText files path label := there
  obtain ⟨after, count, played, left, counted⟩ :=
    runOn_playEntry (answer setting (runDue setting most)) shows calm begunOpen
      (congrArg (Html.normalize ∘ setting.markupOf) text) label compiled
  have afterKnown : after.standing =
      { run.standing with
        remaining := some behind
        cursor
        entriesRun := run.standing.entriesRun + 1
        stepsRun := count } := by
    have begunKnown : begun.standing =
        { brought.standing with entriesRun := brought.standing.entriesRun + 1 } := rfl
    rw [left.standing, begunKnown, standing]
  refine ⟨after, ?_, ?_, fun passed => ⟨?_, ?_, ?_⟩⟩
  · rw [runDue, Action.runOn_bind_ok (runOn_takeDue_some due),
      Action.runOn_bind_ok (show (approach setting none label).runOn (run.leaving behind) =
        (.ok (), brought) from ran), Option.isNone_none]
    rw [Action.runOn_bind, Action.runOn_bind, runOn_runEntry, played]
    rfl
  · rw [afterKnown]
    exact known.goesOn
  · have begunSteps : begun.standing.stepsRun = steps := by
      show brought.standing.stepsRun = steps
      rw [standing]
      exact known.stepsRun
    rw [afterKnown, counted passed, begunSteps, known.entriesRun]
    exact ⟨known.started, known.isOpen, known.goesOn, known.specs, rfl, rfl, rfl⟩
  · -- the labels behind differ from the one the app shows now
    intro other mem
    rw [afterKnown]
    rcases here with same | same
    · rw [same]
      exact elsewhere other (List.mem_cons_of_mem _ mem)
    · rw [same]
      exact fun clash =>
        Standing.ne_first_of_mem known.waiting other mem (Option.some.inj clash).symm
  · intro nothing
    rw [left.shows, text, updateText, nothing]
    rfl

/-! ## A whole flush -/

omit shows calm in
/-- A flush of no entries does nothing. -/
theorem runOn_runDue_nothing (most : Nat) (waiting : run.standing.waiting = []) :
    (runDue setting most none).runOn run = (.ok (), run) :=
  runOn_runDue_none setting (Standing.due?_of_waiting_nil waiting none) most

/-- A flush ends as the waiting entries are judged. -/
theorem runOn_flush {queue : List (Label × Entry α)} {most : Nat} (enough : queue.length ≤ most)
    (flushing : run.Flushing shown path files queue entries steps)
    (compiled : ∀ expect ∈ queue, expect.2.Compiled subs) :
    ∃ after : Run W α,
      (runDue setting most none).runOn run =
        (judge setting.differences (setting.markupAt files path) queue, after) ∧
      after.standing.aborted = none ∧
      (judge setting.differences (setting.markupAt files path) queue = .ok () →
        after.Flushing shown path files [] (entries + queue.length) (steps + stepCount queue)) := by
  induction queue generalizing run entries steps most with
  | nil =>
      exact ⟨run, runOn_runDue_nothing most flushing.known.waiting, flushing.known.goesOn,
        fun _ => flushing⟩
  | cons first others ih =>
      obtain ⟨label, entry⟩ := first
      obtain ⟨most, rfl⟩ : ∃ fewer, most = fewer + 1 :=
        Nat.exists_eq_succ_of_ne_zero (Nat.ne_of_gt (Nat.lt_of_lt_of_le (Nat.succ_pos _) enough))
      rw [List.forall_mem_cons] at compiled
      obtain ⟨middle, ran, goesOn, passed⟩ :=
        runOn_runDue_flushing shows calm most flushing compiled.1
      rw [ran, judge]
      cases judged : judgeEntry setting.differences (setting.markupAt files path)
          (label, entry) with
      | error failure =>
          refine ⟨middle, rfl, goesOn, fun passed => ?_⟩
          contradiction
      | ok _ =>
          obtain ⟨after, ranOthers, stillGoesOn, left⟩ :=
            ih (Nat.le_of_succ_le_succ enough) (passed judged) compiled.2
          refine ⟨after, ranOthers, stillGoesOn, fun all => ?_⟩
          rw [List.length_cons, Nat.add_comm others.length, ← Nat.add_assoc, stepCount_cons,
            ← Nat.add_assoc]
          exact left all

/-! ## The end of a test that only sends a spec -/

/-- When the procedure has returned, the session starts without files and everything is
flushed. -/
theorem runOn_finishEntries_spec {expects : List (Label × Entry α)}
    (known : run.standing = { specs := files, expects := expects })
    (expecting : expects ≠ [])
    (compiled : ∀ expect ∈ (Table.ofList expects).entries, expect.2.Compiled subs) :
    ∃ after : Run W α,
      (finishEntries setting).runOn run =
        ((judge setting.differences (setting.markupAt files path)
          (Table.ofList expects).entries).map fun _ => true, after) ∧
      (judge setting.differences (setting.markupAt files path) (Table.ofList expects).entries =
          .ok () →
        after.standing.entriesRun = (Table.ofList expects).entries.length ∧
        after.standing.stepsRun = stepCount (Table.ofList expects).entries) := by
  have fresh : run.standing.started = false := by
    rw [known]
  have something : (!run.standing.started && run.standing.expects.isEmpty) = false := by
    rw [known]
    exact List.isEmpty_eq_false_iff.2 expecting
  obtain ⟨changed, written⟩ := shows.resets run.standing.inits (run.launched setting).world
  let begun := run.started setting
  have begunKnown : begun.standing =
      { ({ specs := files, expects := expects } : Standing α).begun with
        sessionOpen := true } := by
    rw [← known]
    rfl
  have starts : (ensureStarted setting (runAllDue setting)).runOn run = (.ok (), begun) := by
    rw [runOn_ensureStarted_start setting fresh (shows.opens run.world) written, enterInitial,
      Action.runOn_bind_ok (runOn_standing _), show (run.started setting).standing.initLabel = none
        by rw [show (run.started setting).standing = _ from begunKnown]; rfl]
    rfl
  have flushing : begun.Flushing shown path files (Table.ofList expects).entries 0 0 := by
    refine ⟨?_, fun _ _ => ?_, fun _ => ?_⟩
    · rw [begunKnown]
      exact ⟨rfl, rfl, rfl, rfl, rfl, rfl, rfl⟩
    · rw [begunKnown]
      rintro ⟨⟩
    · refine (shows.shows_reset run.standing.inits (run.launched setting).world).trans ?_
      rw [known]
      rfl
  have enough : (Table.ofList expects).entries.length ≤ begun.standing.remainingCount := by
    rw [Standing.remainingCount_eq_length, flushing.known.waiting]
  obtain ⟨after, ran, goesOn, passed⟩ := runOn_flush shows calm enough flushing compiled
  refine ⟨after, ?_, fun all => ?_⟩
  · exact runOn_finishEntries_flush something starts
      ((Action.runOn_bind_ok (runOn_standing begun) _).trans ran) goesOn
  · have done := (passed all).known
    rw [done.entriesRun, done.stepsRun, Nat.zero_add, Nat.zero_add]
    exact ⟨rfl, rfl⟩

end Flushing

end Runner

/-! ## Both ways of running a spec -/

namespace Invocation

section Sending

variable {setting : Setting W α} {source : String} {subs : List α} {document : Spec.Document}
  {compiled : Spec.Compiled α}
  (isRead : Spec.Document.read "spec" source = .ok document)
  (compiles : document.compile ⟨.compile, some "spec"⟩ subs = .ok compiled)
include isRead compiles

/-- A test that only sends a spec is over, unless the spec expects something. -/
theorem runOn_driveToEnd_sent (setting : Setting W α) (world : W) :
    ∃ run : Run W α, run.standing = { specs := compiled.files, expects := compiled.expects } ∧
      (Runner.driveToEnd setting (.sendAll [.spec source subs])).runOn { world } =
        (Runner.finishEntries setting).runOn (run.noting (.returned (.ok ()))) := by
  obtain ⟨done, files⟩ := Spec.Document.expects_of_compile compiles
  obtain ⟨labels, apart, -⟩ := Spec.compiled_expects isRead done
  rw [← labels] at apart
  obtain ⟨run, -, known, sent⟩ := Runner.runOn_sendSpec isRead done apart setting
    (Runner.runAllDue setting) world []
  refine ⟨run, by rw [known, files], ?_⟩
  have goesOn : run.standing.aborted = none := by
    rw [known]
  exact Runner.runOn_driveToEnd_passed goesOn sent

/-- A spec that expects nothing is skipped. -/
theorem runOn_run_skipped (expectless : document.labels = []) (title : Option String)
    (world : W) :
    ((run setting title (.sendAll [.spec source subs])).runOn { world }).1 =
      .ok { title, outcome := .skipped, entriesRun := 0, stepsRun := 0 } := by
  obtain ⟨sent, known, driven⟩ := runOn_driveToEnd_sent isRead compiles setting world
  obtain ⟨done, -⟩ := Spec.Document.expects_of_compile compiles
  have none : compiled.expects = [] := by
    have labels := (Spec.compiled_expects isRead done).1
    rw [expectless] at labels
    exact List.map_eq_nil_iff.1 labels
  have nothing : (Runner.finishEntries setting).runOn (sent.noting (.returned (.ok ()))) =
      (.ok false, sent.noting (.returned (.ok ()))) :=
    Runner.runOn_finishEntries_nothing (congrArg Standing.started known)
      ((congrArg Standing.expects known).trans none)
  have closed : (Runner.close setting).runOn (sent.noting (.returned (.ok ()))) =
      (.ok (), sent.noting (.returned (.ok ()))) := by
    refine Runner.runOn_close_closed _ ?_
    rw [Run.noting_standing, known]
  rw [runOn_run, driven, nothing]
  dsimp only
  rw [closed, Run.noting_standing, known]
  rfl

variable {shown : W → String} {path : String}
  (shows : setting.testBed.Shows setting.config.appRootSelector path shown)
  (calm : ∀ handle ∈ subs, (setting.playbook.procedure handle).Calm shown)
include shows calm

/-- **A spec that a test only sends ends as its entries are judged.** -/
theorem runOn_run_spec (expecting : document.labels ≠ []) (title : Option String) (world : W) :
    ((run setting title (.sendAll [.spec source subs])).runOn { world }).1 =
      (judge setting.differences (setting.markupAt compiled.files path)
          (Table.ofList compiled.expects).entries).map
        fun _ =>
          { title
            outcome := .passed
            entriesRun := document.labels.length
            stepsRun := stepCount compiled.expects } := by
  obtain ⟨sent, known, driven⟩ := runOn_driveToEnd_sent isRead compiles setting world
  obtain ⟨done, -⟩ := Spec.Document.expects_of_compile compiles
  obtain ⟨labels, apart, entries⟩ := Spec.compiled_expects isRead done
  have declared : compiled.expects ≠ [] := by
    intro none
    rw [none] at labels
    exact expecting labels.symm
  rw [← labels] at apart
  have perm := Table.perm_ofList apart
  have returned : (sent.noting (.returned (.ok ()))).standing =
      { specs := compiled.files, expects := compiled.expects } := known
  obtain ⟨after, ran, counted⟩ := Runner.runOn_finishEntries_spec shows calm returned declared
    fun expect listed => entries expect (perm.subset listed)
  refine runOn_run_shows shows title (driven.trans ran) fun passed => ?_
  obtain ⟨sameEntries, sameSteps⟩ := counted passed
  rw [sameEntries, sameSteps, perm.length_eq, ← labels, List.length_map]
  exact ⟨rfl, (perm.map fun expect : Label × Entry α => expect.2.steps.length).sum_nat⟩

end Sending

end Invocation

/-- Entries that are not judged to pass are judged to have a mismatch. -/
theorem mismatch_of_judge {differences : Difference.Finder} {text : Label → String}
    {expects : List (Label × Entry α)} {failure : Failure}
    (judged : judge differences text expects = .error failure) :
    ∃ label index expected actual,
      failure = Failure.mismatch label index expected actual differences := by
  obtain ⟨-, expect, -, -, -, found⟩ := judge_eq_error judged
  rw [judgeEntry, judgeSteps] at found
  split at found
  · contradiction
  · rename_i index markup _
    exact ⟨expect.1.name, index, markup, _, (Except.error.inj found).symm⟩

/-- **Stepping through the updates of a spec and flushing them agree.** With a page that shows
the text of one file, a spec that is run as a test of its own and a test that only sends the
spec report the same outcome and the same numbers, or fail with the same mismatch. -/
theorem stepping_agrees_with_flushing {setting : Setting W α} {shown : W → String}
    {path source : String} {subs : List α} {document : Spec.Document}
    {compiled : Spec.Compiled α}
    (isTest : Spec.Document.readTest "spec" source = .ok document)
    (compiles : document.compile ⟨.compile, some "spec"⟩ subs = .ok compiled)
    (shows : setting.testBed.Shows setting.config.appRootSelector path shown)
    (calm : ∀ handle ∈ subs, (setting.playbook.procedure handle).Calm shown)
    (title : Option String) (world other : W) :
    let stepped := ((Invocation.runSpec setting source subs).runOn { world }).1
    let flushed := ((Invocation.run setting title (.sendAll [.spec source subs])).runOn
      { world := other }).1
    (∃ first second, stepped = .ok first ∧ flushed = .ok second ∧
      first.outcome = second.outcome ∧ first.entriesRun = second.entriesRun ∧
      first.stepsRun = second.stepsRun) ∨
    (∃ label index expected actual,
      stepped = .error (Failure.mismatch label index expected actual setting.differences) ∧
      flushed = .error (Failure.mismatch label index expected actual setting.differences)) := by
  intro stepped flushed
  have isRead := Spec.read_of_readTest isTest
  by_cases expectless : document.labels = []
  · -- then the spec is all that is sent in both runs
    have sent : stepped =
        ((Invocation.run setting document.title (.sendAll [.spec source subs])).runOn
          { world }).1 := by
      have labels : Invocation.expectedLabels document = [] := by
        rw [Invocation.expectedLabels_eq_sorted, expectless]
        rfl
      show ((Action.ofExcept (Spec.Document.readTest "spec" source) >>= _ :
        Runner.Act W α Report).runOn _).1 = _
      rw [Action.runOn_bind_ok (by rw [isTest]; rfl), labels]
      rfl
    have first := sent.trans
      (Invocation.runOn_run_skipped isRead compiles expectless document.title world)
    have second : flushed = _ :=
      Invocation.runOn_run_skipped isRead compiles expectless title other
    exact .inl ⟨_, _, first, second, rfl, rfl, rfl⟩
  · have first : stepped = _ :=
      Invocation.runOn_runSpec shows calm isTest expectless compiles world
    have second : flushed = _ :=
      Invocation.runOn_run_spec isRead compiles shows calm expectless title other
    rw [first, second]
    cases judged : judge setting.differences (setting.markupAt compiled.files path)
        (Table.ofList compiled.expects).entries with
    | ok _ => exact .inl ⟨_, _, rfl, rfl, rfl, rfl, rfl⟩
    | error failure =>
        obtain ⟨label, index, expected, actual, rfl⟩ := mismatch_of_judge judged
        exact .inr ⟨label, index, expected, actual, rfl, rfl⟩

/-- A page that shows one file, after markup that the app always renders first. -/
def Setting.prefixed : Setting String Unit :=
  { Setting.plain (TestBed.showing "a") with config := { appHtmlPrefix := "<i></i>" } }

/-- A test that only sends `threeUpdates` reports what stepping through its updates reports. -/
theorem agreed_threeUpdates :
    ((Invocation.runSpec Setting.prefixed threeUpdates [()]).runOn { world := "" }).1 =
        .ok { title := some "T", outcome := .passed, entriesRun := 3, stepsRun := 3 } ∧
      ∃ report, ((Invocation.run Setting.prefixed none (.sendAll [.spec threeUpdates [()]])).runOn
          { world := "" }).1 = .ok report ∧
        report.outcome = .passed ∧ report.entriesRun = 3 ∧ report.stepsRun = 3 := by
  have isTest : Spec.Document.readTest "spec" threeUpdates = .ok Spec.Document.threeUpdates := rfl
  have compiles : Spec.Document.threeUpdates.compile ⟨.compile, some "spec"⟩ [()] =
      .ok Spec.Compiled.threeUpdates := rfl
  have shows : Setting.prefixed.testBed.Shows Setting.prefixed.config.appRootSelector "a" id :=
    TestBed.shows_showing _ _
  have calm : ∀ handle ∈ [()], (Setting.prefixed.playbook.procedure handle).Calm id :=
    fun _ _ => rfl
  have judged : judge Setting.prefixed.differences
      (Setting.prefixed.markupAt Spec.Compiled.threeUpdates.files "a")
      (Table.ofList Spec.Compiled.threeUpdates.expects).entries = .ok () :=
    judge_eq_ok_iff.2 (List.forall_mem_cons.2 ⟨Entry.met_single rfl, List.forall_mem_cons.2
      ⟨Entry.met_single rfl, List.forall_mem_singleton.2 (Entry.met_single rfl)⟩⟩)
  have stepped : ((Invocation.runSpec Setting.prefixed threeUpdates [()]).runOn
      { world := "" }).1 =
        .ok { title := some "T", outcome := .passed, entriesRun := 3, stepsRun := 3 } := by
    rw [Invocation.runOn_runSpec shows calm isTest (by decide) compiles, judged]
    rfl
  refine ⟨stepped, ?_⟩
  rcases stepping_agrees_with_flushing isTest compiles shows calm none "" "" with
    ⟨first, second, same, flushed, outcome, entries, steps⟩ | ⟨_, _, _, _, failed, -⟩
  · obtain rfl := Except.ok.inj (stepped.symm.trans same)
    exact ⟨second, flushed, outcome.symm, entries.symm, steps.symm⟩
  · exact nomatch stepped.symm.trans failed

end HotReload
