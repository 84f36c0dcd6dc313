import HotReload.Proofs.LabelOrder
import HotReload.Proofs.SpecSession

/-!
# The verdict of a spec

A spec that is run as a test of its own, with a page that shows one file, ends as `judge`
says (`Invocation.runSpec_eq_judge`). So it passes, and counts every entry and every step,
exactly when the text of the file in each update has the markup of every step of that
update. Otherwise it fails with a mismatch, at the first such step of the least such label
(`spec_verdict`).

A spec of one label sends no change, and its only entry runs when the session starts at the
very end. With more labels the first change starts the session. Both ways come to the same.
-/

set_option autoImplicit false

namespace HotReload

variable {W α : Type}

namespace Runner

section Session

variable {setting : Setting W α} {shown : W → String} {path : String} {subs : List α}
  {files : Table String Content} {label : Label} {entry : Entry α}
  {rest expects : List (Label × Entry α)}

/-! ## The end of a test -/

section Finishing

variable {run : Run W α}
  (something : (!run.standing.started && run.standing.expects.isEmpty) = false)
include something

/-- The entries that are left end as a flush of them does. -/
theorem runOn_finishEntries_flush {begun after : Run W α} {result : Except Failure Unit}
    (starts : (ensureStarted setting (runAllDue setting)).runOn run = (.ok (), begun))
    (flushed : (runAllDue setting none).runOn begun = (result, after))
    (goesOn : after.standing.aborted = none) :
    (finishEntries setting).runOn run = (result.map fun _ => true, after) := by
  rw [finishEntries, Action.runOn_bind_ok (runOn_standing run), something]
  refine (Action.runOn_bind_ok starts _).trans ?_
  rw [Action.runOn_attempt_bind, flushed,
    Action.runOn_bind_ok (runOn_failIfAborted_none after goesOn)]
  cases result <;> rfl

theorem runOn_finishEntries {begun : Run W α} {entries steps : Nat}
    (starts : (ensureStarted setting (runAllDue setting)).runOn run = (.ok (), begun))
    (midway : begun.Midway shown path files [] entries steps) :
    (finishEntries setting).runOn run = (.ok true, begun) := by
  have nothing : (runAllDue setting none).runOn begun = (.ok (), begun) := by
    rw [runAllDue, Action.runOn_bind_ok (runOn_standing begun),
      Standing.remainingCount_eq_length, midway.known.waiting]
    rfl
  exact runOn_finishEntries_flush something starts nothing midway.known.goesOn

theorem runOn_finishEntries_unstarted {after : Run W α} {failure : Failure}
    (fails : (ensureStarted setting (runAllDue setting)).runOn run = (.error failure, after)) :
    (finishEntries setting).runOn run = (.error failure, after) := by
  rw [finishEntries, Action.runOn_bind_ok (runOn_standing run), something]
  exact Action.runOn_bind_error fails _

end Finishing

section Driving

variable {procedure : Procedure W α} {run middle : Run W α}

theorem runOn_driveToEnd_passed (goesOn : middle.standing.aborted = none)
    (driven : (drive (answer setting (runAllDue setting)) procedure).runOn run =
      (.ok (), middle)) :
    (driveToEnd setting procedure).runOn run =
      (finishEntries setting).runOn (middle.noting (.returned (.ok ()))) := by
  rw [driveToEnd, Action.runOn_attempt_bind, driven, Action.runOn_bind_ok (runOn_record _ _),
    Action.runOn_bind_ok (runOn_failIfAborted_none (middle.noting _) goesOn)]
  rfl

/-- The failure that aborted a test is the one it fails with. -/
theorem runOn_driveToEnd_aborted {result : Except Failure Unit} {failure : Failure}
    (aborted : middle.standing.aborted = some failure)
    (driven : (drive (answer setting (runAllDue setting)) procedure).runOn run =
      (result, middle)) :
    (driveToEnd setting procedure).runOn run =
      (.error failure, middle.noting (.returned result)) := by
  rw [driveToEnd, Action.runOn_attempt_bind, driven, Action.runOn_bind_ok (runOn_record _ _)]
  exact Action.runOn_bind_error
    (runOn_failIfAborted_some (middle.noting (.returned result)) aborted) _

/-- A test whose session has run all entries, or has been aborted, ends accordingly. -/
theorem runOn_driveToEnd_judged {entries steps : Nat} {verdict : Except Failure Unit}
    (driven : (drive (answer setting (runAllDue setting)) procedure).runOn run =
      (verdict, middle))
    (judged : middle.Judged shown path files [] entries steps verdict) :
    ∃ after, (driveToEnd setting procedure).runOn run = (verdict.map fun _ => true, after) ∧
      (verdict = .ok () → after.Midway shown path files [] entries steps) := by
  cases judged with
  | passed midway =>
      let returned := middle.noting (.returned (.ok ()))
      have still : returned.Midway shown path files [] entries steps :=
        ⟨midway.known, midway.text⟩
      have something :
          (!returned.standing.started && returned.standing.expects.isEmpty) = false := by
        rw [still.known.started]
        rfl
      have starts : (ensureStarted setting (runAllDue setting)).runOn returned =
          (.ok (), returned) :=
        runOn_ensureStarted_started setting still.known.started
      refine ⟨returned, ?_, fun _ => still⟩
      rw [runOn_driveToEnd_passed midway.known.goesOn driven]
      exact runOn_finishEntries something starts still
  | failed aborted =>
      exact ⟨_, runOn_driveToEnd_aborted aborted driven, fun passed => nomatch passed⟩

end Driving

section Spec

variable (shows : setting.testBed.Shows setting.config.appRootSelector path shown)
  (calm : ∀ handle ∈ subs, (setting.playbook.procedure handle).Calm shown)
  {start run : Run W α} {procedure : Procedure W α}
  (declares : (drive (answer setting (runAllDue setting)) procedure).runOn start =
    (drive (answer setting (runAllDue setting)) (.sendAll (changesTo rest))).runOn run)
  (known : run.standing = .declared files expects label)
  (ordered : (Table.ofList expects).entries = (label, entry) :: rest)
  (compiled : ∀ expect ∈ (label, entry) :: rest, expect.2.Compiled subs)
include shows calm known ordered compiled

/-- With a second label the first change starts the session. -/
theorem runOn_drive_declared (several : rest ≠ []) :
    ∃ after, (drive (answer setting (runAllDue setting)) (.sendAll (changesTo rest))).runOn
        run =
          (judge setting.differences (setting.markupAt files path) ((label, entry) :: rest),
            after) ∧
      after.Judged shown path files [] (1 + rest.length) (stepCount ((label, entry) :: rest))
        (judge setting.differences (setting.markupAt files path) ((label, entry) :: rest)) := by
  cases rest with
  | nil => exact absurd rfl several
  | cons second more =>
      obtain ⟨next, other⟩ := second
      rw [List.forall_mem_cons, List.forall_mem_cons] at compiled
      have goesOn : run.standing.aborted = none := by
        rw [known]
        rfl
      let told := run.noting (.dispatched (.change (.label next)))
      have toldKnown : told.standing = .declared files expects label := known
      obtain ⟨begun, started, left⟩ := runOn_start shows calm toldKnown ordered compiled.1
      rw [judge]
      cases judged : judgeEntry setting.differences (setting.markupAt files path)
          (label, entry) with
      | error failure =>
          rw [judged] at started
          have answered := runOn_answer_fatal run setting goesOn
            (runOn_handle_unstarted _ setting rfl started) (isFatal_of_judgeEntry judged)
            left.goesOn
          exact ⟨_, runOn_drive_sendAll_error _ answered _, .failed rfl⟩
      | ok _ =>
          rw [judged] at started
          rw [stepCount_cons, List.length_cons, Nat.add_comm more.length, ← Nat.add_assoc]
          exact runOn_drive_cons shows calm goesOn started (left.midway judged)
            compiled.2.1 fun _ next => runOn_drive_changes shows calm next compiled.2.2

include declares

/-- A spec that has been declared is driven to the end that `judge` says. -/
theorem runOn_driveToEnd_spec :
    ∃ after, (driveToEnd setting procedure).runOn start =
        ((judge setting.differences (setting.markupAt files path) ((label, entry) :: rest)).map
          fun _ => true, after) ∧
      (judge setting.differences (setting.markupAt files path) ((label, entry) :: rest) = .ok () →
        after.Midway shown path files [] (1 + rest.length)
          (stepCount ((label, entry) :: rest))) := by
  by_cases several : rest = []
  · -- the only entry runs when the session starts, at the very end
    subst several
    rw [List.forall_mem_singleton] at compiled
    let returned := run.noting (.returned (.ok ()))
    have returnedKnown : returned.standing = .declared files expects label := known
    have something : (!returned.standing.started && returned.standing.expects.isEmpty) = false := by
      have listed : expects ≠ [] := by
        rintro rfl
        exact nomatch ordered
      rw [returnedKnown]
      exact List.isEmpty_eq_false_iff.2 listed
    have goesOn : run.standing.aborted = none := by
      rw [known]
      rfl
    obtain ⟨after, started, left⟩ := runOn_start shows calm returnedKnown ordered compiled
    have finishing := runOn_driveToEnd_passed goesOn declares
    rw [finishing, judge, stepCount_cons]
    cases judged : judgeEntry setting.differences (setting.markupAt files path) (label, entry) with
    | error failure =>
        rw [judged] at started
        refine ⟨after, runOn_finishEntries_unstarted something started, fun passed => ?_⟩
        contradiction
    | ok _ =>
        rw [judged] at started
        have midway := left.midway judged
        exact ⟨after, runOn_finishEntries something started midway, fun _ => midway⟩
  · obtain ⟨middle, driven, judged⟩ :=
      runOn_drive_declared shows calm known ordered compiled several
    exact runOn_driveToEnd_judged (declares.trans driven) judged

end Spec

end Session

/-- An app that closes without failure is closed without failure, and the numbers stay. -/
theorem runOn_close_shows {setting : Setting W α} {path : String} {shown : W → String}
    (shows : setting.testBed.Shows setting.config.appRootSelector path shown) (run : Run W α) :
    ∃ after, (close setting).runOn run = (.ok (), after) ∧
      after.standing.entriesRun = run.standing.entriesRun ∧
      after.standing.stepsRun = run.standing.stepsRun := by
  cases isOpen : run.standing.sessionOpen with
  | false => exact ⟨run, runOn_close_closed run isOpen, rfl, rfl⟩
  | true =>
      cases keeps : setting.config.keepRunning with
      | true => exact ⟨_, runOn_close_kept run isOpen keeps, rfl, rfl⟩
      | false =>
          refine ⟨run.closing setting, ?_, rfl, rfl⟩
          rw [runOn_close_open run isOpen keeps, shows.closesPage, shows.closesBuild]
          rfl

end Runner

/-! ## What a verdict says -/

variable {differences : Difference.Finder}

/-- What a page shows has the markup of every step of an entry. -/
def Entry.Met (actual : String) (entry : Entry α) : Prop :=
  ∀ markup, .html markup ∈ entry.steps → actual = markup

/-- An entry with a single step is met by the markup of this step. -/
theorem Entry.met_single {actual markup : String} (same : actual = markup) :
    ({ steps := [.html markup] } : Entry α).Met actual := by
  intro other mem
  exact same.trans (Step.html.inj (List.mem_singleton.1 mem)).symm

theorem judgeEntry_eq_ok_iff {text : Label → String} {expect : Label × Entry α} :
    judgeEntry differences text expect = .ok () ↔
      expect.2.Met (Html.normalize (text expect.1)) := by
  have met : firstMiss (Html.normalize (text expect.1)) 0 expect.2.steps = none ↔
      expect.2.Met (Html.normalize (text expect.1)) :=
    firstMiss_eq_none_iff
  rw [← met, judgeEntry, judgeSteps]
  split
  · rename_i none
    exact ⟨fun _ => none, fun _ => rfl⟩
  · rename_i missed markup miss
    simp [miss]

theorem judge_eq_ok_iff {text : Label → String} {expects : List (Label × Entry α)} :
    judge differences text expects = .ok () ↔
      ∀ expect ∈ expects, expect.2.Met (Html.normalize (text expect.1)) := by
  induction expects with
  | nil => exact ⟨fun _ => List.forall_mem_nil _, fun _ => rfl⟩
  | cons expect rest ih =>
      rw [List.forall_mem_cons, ← ih, ← judgeEntry_eq_ok_iff, judge]
      cases judgeEntry differences text expect with
      | error failure => simp [Except.bind]
      | ok _ => exact ⟨fun passed => ⟨rfl, passed⟩, fun both => both.2⟩

/-- Texts with the same normal forms are judged alike. -/
theorem judge_congr {text other : Label → String}
    (same : ∀ label, Html.normalize (text label) = Html.normalize (other label))
    (expects : List (Label × Entry α)) :
    judge differences text expects = judge differences other expects := by
  induction expects with
  | nil => rfl
  | cons expect rest ih => rw [judge, judge, judgeEntry, judgeEntry, same, ih]

/-- When no markup is ignored, the text of a file is compared. -/
theorem Setting.normalize_markupAt {setting : Setting W α}
    (bare : setting.config.appHtmlPrefix = "") (files : Table String Content) (path : String)
    (label : Label) :
    Html.normalize (setting.markupAt files path label) =
      Html.normalize (updateText files path label) := by
  rw [Setting.markupAt, Setting.markupOf, bare, Runner.normalize_comparedMarkup]

/-- A verdict that is a failure comes from one entry, and all entries before it are met. -/
theorem judge_eq_error {text : Label → String} {expects : List (Label × Entry α)}
    {failure : Failure} (judged : judge differences text expects = .error failure) :
    ∃ front expect back, expects = front ++ expect :: back ∧
      (∀ earlier ∈ front, earlier.2.Met (Html.normalize (text earlier.1))) ∧
      judgeEntry differences text expect = .error failure := by
  induction expects with
  | nil => exact nomatch judged
  | cons expect rest ih =>
      rw [judge] at judged
      cases here : judgeEntry differences text expect with
      | error other =>
          rw [here] at judged
          exact ⟨[], expect, rest, rfl, List.forall_mem_nil _, here.trans judged⟩
      | ok _ =>
          rw [here] at judged
          obtain ⟨front, missed, back, rfl, met, found⟩ := ih judged
          exact ⟨expect :: front, missed, back, rfl,
            List.forall_mem_cons.2 ⟨judgeEntry_eq_ok_iff.1 here, met⟩, found⟩

namespace Spec.Compiled

/-- What a page shows in an update, in normal form, when it shows the text of a file. -/
def actual (compiled : Compiled α) (path : String) (label : Label) : String :=
  Html.normalize (updateText compiled.files path label)

/-- In every update the page shows the markup of every step. -/
def Met (compiled : Compiled α) (path : String) : Prop :=
  ∀ expect ∈ compiled.expects, expect.2.Met (compiled.actual path expect.1)

/-- The first step of an entry that is not met, of the least label with such an entry. -/
structure LeastMiss (compiled : Compiled α) (path : String) (label : Label) (entry : Entry α)
    (index : Nat) (markup : String) : Prop where
  listed : (label, entry) ∈ compiled.expects
  least : ∀ other ∈ compiled.expects, ¬other.2.Met (compiled.actual path other.1) →
    label.atMost other.1 = true
  step : entry.steps[index]? = some (.html markup)
  differs : compiled.actual path label ≠ markup
  first : ∀ earlier < index, ∀ other, entry.steps[earlier]? = some (.html other) →
    compiled.actual path label = other

variable {compiled : Compiled α} {path : String}
  (apart : (compiled.expects.map Prod.fst).Nodup)
include apart

theorem met_iff_judge (differences : Difference.Finder) :
    compiled.Met path ↔
      judge differences (updateText compiled.files path) (Table.ofList compiled.expects).entries =
        .ok () := by
  have perm := Table.perm_ofList apart
  rw [judge_eq_ok_iff]
  exact ⟨fun met expect listed => met expect (perm.subset listed),
    fun met expect listed => met expect (perm.symm.subset listed)⟩

theorem exists_leastMiss {failure : Failure}
    (judged : judge differences (updateText compiled.files path)
      (Table.ofList compiled.expects).entries = .error failure) :
    ∃ label entry index markup, compiled.LeastMiss path label entry index markup ∧
      failure = Failure.mismatch label.name index markup (compiled.actual path label)
        differences := by
  have perm := Table.perm_ofList apart
  obtain ⟨front, ⟨label, entry⟩, back, split, met, found⟩ := judge_eq_error judged
  have ascending := (Table.ofList compiled.expects).ascending
  rw [Assoc.Ascending, split, List.pairwise_append, List.pairwise_cons] at ascending
  have least : ∀ other ∈ compiled.expects, ¬other.2.Met (compiled.actual path other.1) →
      label.atMost other.1 = true := by
    intro other listed unmet
    have inTable := perm.symm.subset listed
    rw [split, List.mem_append, List.mem_cons] at inTable
    rcases inTable with earlier | rfl | later
    · exact absurd (met other earlier) unmet
    · exact label.atMost_self
    · exact Label.atMost_of_lt (ascending.2.1.1 other later)
  rw [judgeEntry, judgeSteps] at found
  split at found
  · contradiction
  · rename_i index markup miss
    obtain ⟨offset, rfl, step, differs, first⟩ := firstMiss_eq_some miss
    rw [Nat.zero_add] at found
    have listed : (label, entry) ∈ compiled.expects := by
      refine perm.subset ?_
      rw [split]
      exact List.mem_append_right _ List.mem_cons_self
    exact ⟨label, entry, offset, markup, ⟨listed, least, step, differs, first⟩,
      (Except.error.inj found).symm⟩

namespace LeastMiss

variable {label other : Label} {entry another : Entry α} {index later : Nat}
  {markup further : String} (miss : compiled.LeastMiss path label entry index markup)
include miss

omit apart in
theorem unmet : ¬entry.Met (compiled.actual path label) :=
  fun met => miss.differs (met markup (List.mem_of_getElem? miss.step))

omit apart in
theorem not_met : ¬compiled.Met path :=
  fun met => miss.unmet (met (label, entry) miss.listed)

/-- Only one step is the first of the least label. -/
theorem unique (same : compiled.LeastMiss path other another later further) :
    label = other ∧ index = later ∧ markup = further := by
  have labels : label = other := Label.atMost_antisymm
    (miss.least (other, another) same.listed same.unmet)
    (same.least (label, entry) miss.listed miss.unmet)
  obtain ⟨rfl, rfl⟩ := Prod.mk.inj
    (List.inj_on_of_nodup_map apart miss.listed same.listed labels)
  obtain earlier | rfl | after := Nat.lt_trichotomy index later
  · exact absurd (same.first index earlier markup miss.step) miss.differs
  · exact ⟨rfl, rfl, Step.html.inj (Option.some.inj (miss.step.symm.trans same.step))⟩
  · exact absurd (miss.first later after further same.step) same.differs

end LeastMiss

end Spec.Compiled

/-! ## The verdict -/

theorem Spec.Document.expects_of_compile {document : Spec.Document} {subs : List α}
    {origin : Origin} {compiled : Spec.Compiled α}
    (compiles : document.compile origin subs = .ok compiled) :
    document.expects origin subs = .ok compiled.expects ∧
      compiled.files = Table.ofList document.contents := by
  obtain ⟨expects, done, same⟩ := Spec.exists_of_bind_ok compiles
  obtain rfl := Except.ok.inj same
  exact ⟨done, rfl⟩

namespace Invocation

/-- An invocation of an app that closes without failure reports how its drive ended. -/
theorem runOn_run_shows {setting : Setting W α} {path : String} {shown : W → String}
    (shows : setting.testBed.Shows setting.config.appRootSelector path shown)
    (title : Option String) {procedure : Procedure W α} {start after : Run W α}
    {verdict : Except Failure Unit} {entries steps : Nat}
    (driven : (Runner.driveToEnd setting procedure).runOn start =
      (verdict.map fun _ => true, after))
    (counted : verdict = .ok () →
      after.standing.entriesRun = entries ∧ after.standing.stepsRun = steps) :
    ((run setting title procedure).runOn start).1 =
      verdict.map fun _ =>
        { title, outcome := .passed, entriesRun := entries, stepsRun := steps } := by
  obtain ⟨final, closed, sameEntries, sameSteps⟩ := Runner.runOn_close_shows shows after
  rw [runOn_run, driven]
  dsimp only
  rw [closed]
  cases verdict with
  | error failure => rfl
  | ok _ =>
      obtain ⟨rfl, rfl⟩ := counted rfl
      rw [sameEntries, sameSteps]
      rfl

theorem expectedLabels_eq_sorted (document : Spec.Document) :
    expectedLabels document = Label.sorted document.labels := by
  rw [expectedLabels, Spec.Document.labels]
  cases document.expectations <;> rfl

section Verdict

variable {setting : Setting W α} {shown : W → String} {path source : String} {subs : List α}
  {document : Spec.Document} {compiled : Spec.Compiled α}
  (shows : setting.testBed.Shows setting.config.appRootSelector path shown)
  (calm : ∀ handle ∈ subs, (setting.playbook.procedure handle).Calm shown)
  (isTest : Spec.Document.readTest "spec" source = .ok document)
  (expecting : document.labels ≠ [])
  (compiles : document.compile ⟨.compile, some "spec"⟩ subs = .ok compiled)
include shows calm isTest expecting compiles

/-- **A spec that is run as a test of its own ends as its entries are judged.** -/
theorem runOn_runSpec (world : W) :
    ((runSpec setting source subs).runOn { world }).1 =
      (judge setting.differences (setting.markupAt compiled.files path)
          (Table.ofList compiled.expects).entries).map
        fun _ =>
          { title := document.title
            outcome := .passed
            entriesRun := document.labels.length
            stepsRun := stepCount compiled.expects } := by
  have isRead := Spec.read_of_readTest isTest
  obtain ⟨done, files⟩ := Spec.Document.expects_of_compile compiles
  obtain ⟨labels, apart, entries⟩ := Spec.compiled_expects isRead done
  rw [← labels] at apart
  have perm := Table.perm_ofList apart
  have keys : (Table.ofList compiled.expects).keys = expectedLabels document := by
    rw [Label.keys_ofList apart, labels, expectedLabels_eq_sorted]
  have counts : (Table.ofList compiled.expects).entries.length = document.labels.length := by
    rw [perm.length_eq, ← labels, List.length_map]
  have steps : stepCount (Table.ofList compiled.expects).entries = stepCount compiled.expects :=
    (perm.map fun expect : Label × Entry α => expect.2.steps.length).sum_nat
  have compiledEntries : ∀ expect ∈ (Table.ofList compiled.expects).entries,
      expect.2.Compiled subs :=
    fun expect listed => entries expect (perm.subset listed)
  cases ordered : (Table.ofList compiled.expects).entries with
  | nil =>
      rw [ordered, List.length_nil] at counts
      exact absurd (List.length_eq_zero_iff.1 counts.symm) expecting
  | cons first rest =>
      obtain ⟨label, entry⟩ := first
      rw [ordered] at counts steps compiledEntries
      have commands : specCommands source subs (expectedLabels document) =
          .spec source subs :: .init (.label label) :: changesTo rest := by
        rw [← keys, Table.keys, ordered, List.map_cons, specCommands, List.map_map]
        rfl
      obtain ⟨run, -, known, declares⟩ := Runner.runOn_declareSpec isRead done apart setting
        (Runner.runAllDue setting) world label (changesTo rest)
      rw [← files] at known
      obtain ⟨after, driven, midway⟩ := Runner.runOn_driveToEnd_spec shows calm declares known
        ordered compiledEntries
      have counted : judge setting.differences (setting.markupAt compiled.files path)
          ((label, entry) :: rest) = .ok () → after.standing.entriesRun = document.labels.length ∧
            after.standing.stepsRun = stepCount compiled.expects := by
        intro passed
        have known := (midway passed).known
        rw [known.entriesRun, known.stepsRun, ← steps, ← counts, List.length_cons]
        exact ⟨Nat.add_comm _ _, rfl⟩
      rw [runSpec, Action.runOn_bind_ok (by rw [isTest]; rfl), commands]
      exact runOn_run_shows shows document.title driven counted

end Verdict

/-- When no markup is ignored, the entries are judged by the text of the file. -/
theorem runSpec_eq_judge {setting : Setting W α} {shown : W → String} {path source : String}
    {subs : List α} {document : Spec.Document} {compiled : Spec.Compiled α}
    (shows : setting.testBed.Shows setting.config.appRootSelector path shown)
    (bare : setting.config.appHtmlPrefix = "")
    (calm : ∀ handle ∈ subs, (setting.playbook.procedure handle).Calm shown)
    (isTest : Spec.Document.readTest "spec" source = .ok document)
    (expecting : document.labels ≠ [])
    (compiles : document.compile ⟨.compile, some "spec"⟩ subs = .ok compiled) (world : W) :
    ((runSpec setting source subs).runOn { world }).1 =
      (judge setting.differences (updateText compiled.files path)
          (Table.ofList compiled.expects).entries).map
        fun _ =>
          { title := document.title
            outcome := .passed
            entriesRun := document.labels.length
            stepsRun := stepCount compiled.expects } := by
  rw [runOn_runSpec shows calm isTest expecting compiles,
    judge_congr (Setting.normalize_markupAt bare compiled.files path)]

end Invocation

/-- **The verdict of a spec.** With a page that shows the text of one file, a spec passes, and
counts every label and every step, exactly when in every update this text has the markup of
every step in normal form. Otherwise it fails with the first step that is not met, of the
least label. -/
theorem spec_verdict {setting : Setting W α} {shown : W → String} {path source : String}
    {subs : List α} {document : Spec.Document} {compiled : Spec.Compiled α}
    (isTest : Spec.Document.readTest "spec" source = .ok document)
    (expecting : document.labels ≠ [])
    (compiles : document.compile ⟨.compile, some "spec"⟩ subs = .ok compiled)
    (bare : setting.config.appHtmlPrefix = "")
    (shows : setting.testBed.Shows setting.config.appRootSelector path shown)
    (calm : ∀ handle ∈ subs, (setting.playbook.procedure handle).Calm shown) (world : W) :
    (((Invocation.runSpec setting source subs).runOn { world }).1 =
        .ok {
          title := document.title
          outcome := .passed
          entriesRun := document.labels.length
          stepsRun := stepCount compiled.expects } ↔
      compiled.Met path) ∧
    (¬compiled.Met path → ∃ label entry index markup,
      compiled.LeastMiss path label entry index markup ∧
      ((Invocation.runSpec setting source subs).runOn { world }).1 =
        .error (Failure.mismatch label.name index markup (compiled.actual path label)
          setting.differences)) := by
  obtain ⟨done, -⟩ := Spec.Document.expects_of_compile compiles
  obtain ⟨labels, apart, -⟩ := Spec.compiled_expects (Spec.read_of_readTest isTest) done
  rw [← labels] at apart
  rw [Invocation.runSpec_eq_judge shows bare calm isTest expecting compiles,
    Spec.Compiled.met_iff_judge apart setting.differences]
  cases judged : judge setting.differences (updateText compiled.files path)
      (Table.ofList compiled.expects).entries with
  | error failure =>
      refine ⟨⟨nofun, nofun⟩, fun _ => ?_⟩
      obtain ⟨label, entry, index, markup, miss, rfl⟩ := Spec.Compiled.exists_leastMiss apart judged
      exact ⟨label, entry, index, markup, miss, rfl⟩
  | ok _ => exact ⟨⟨fun _ => rfl, fun _ => rfl⟩, fun unmet => absurd rfl unmet⟩

/-! ## Three verdicts -/

/-- A page that shows the text of one file, which is the whole world. -/
def TestBed.showing (path : String) : TestBed String where
  launch := pure ()
  reset files := do
    set ((files.find? path).getD "")
    pure []
  write changes := modify fun old => FileChange.textAfter old (changes.find? path)
  wait _ := pure ()
  invoke _ _ := do return .string (← get)
  closePage := pure ()
  closeBuild := pure ()

theorem TestBed.shows_showing (selector path : String) :
    (TestBed.showing path).Shows selector path id where
  opens _ := rfl
  resets _ _ := ⟨[], rfl⟩
  shows_reset _ _ := rfl
  writes _ _ := rfl
  shows_write _ _ := rfl
  answers _ := rfl
  shows_query _ := rfl
  closesPage _ := rfl
  closesBuild _ := rfl

/-- Two files with three updates. The first file has one line for every update. -/
def threeUpdates : String :=
  "# T\n---- a ----\nz\n::1 x\n---- b ----\n::1 z x\n::2 y\n::3 y\n****\n::1 z x\n::3 z\n::2 z"

namespace Spec

/-- A part from a single line. -/
def Part.ofLine (label text : String) (span : Span) : Part where
  condition := some ⟨label⟩
  text := text
  block := some false
  markers := []
  description := none
  span := span

/-- What is read from `threeUpdates`. -/
def Document.threeUpdates : Document where
  title := some "T"
  files := [
    { path := "a"
      content := {
        parts := [.unconditional "z\n" ⟨16, 17⟩, .ofLine "1" "x\n" ⟨18, 23⟩]
        conditions := [⟨"1"⟩] }
      span := ⟨4, 15⟩ },
    { path := "b"
      content := {
        parts := [.ofLine "1" "z x\n" ⟨36, 43⟩, .ofLine "2" "y\n" ⟨44, 49⟩,
          .ofLine "3" "y\n" ⟨50, 55⟩]
        conditions := [⟨"1"⟩, ⟨"2"⟩, ⟨"3"⟩] }
      span := ⟨24, 35⟩ }]
  expectations := some {
    parts := [.ofLine "1" "z x\n" ⟨61, 68⟩, .ofLine "3" "z\n" ⟨69, 74⟩,
      .ofLine "2" "z\n" ⟨75, 80⟩]
    conditions := [⟨"1"⟩, ⟨"3"⟩, ⟨"2"⟩] }

/-- What `threeUpdates` compiles to. -/
def Compiled.threeUpdates : Compiled Unit where
  title := some "T"
  files := Table.ofList Document.threeUpdates.contents
  expects := [
    (⟨"1"⟩, { steps := [.html "z x"] }),
    (⟨"3"⟩, { steps := [.html "z"] }),
    (⟨"2"⟩, { steps := [.html "z"] })]

end Spec

/-- A setting without ignored markup, whose page shows one file. -/
def Setting.showing (path : String) : Setting String Unit :=
  { Setting.plain (TestBed.showing path) with config := { appHtmlPrefix := "" } }

/-- With the file whose first line belongs to every update the spec passes. With the other file
it fails at the first update with another text, and without a file at the first of all. -/
theorem verdict_threeUpdates :
    ((Invocation.runSpec (.showing "a") threeUpdates [()]).runOn { world := "" }).1 =
        .ok { title := some "T", outcome := .passed, entriesRun := 3, stepsRun := 3 } ∧
      ((Invocation.runSpec (.showing "b") threeUpdates [()]).runOn { world := "" }).1 =
        .error (Failure.mismatch "2" 0 "z" "y") ∧
      ((Invocation.runSpec (.showing "c") threeUpdates [()]).runOn { world := "" }).1 =
        .error (Failure.mismatch "1" 0 "z x" "") := by
  have isTest : Spec.Document.readTest "spec" threeUpdates = .ok Spec.Document.threeUpdates := rfl
  have compiles : Spec.Document.threeUpdates.compile ⟨.compile, some "spec"⟩ [()] =
      .ok Spec.Compiled.threeUpdates := rfl
  have shows (path : String) : (Setting.showing path).testBed.Shows
      (Setting.showing path).config.appRootSelector path id :=
    TestBed.shows_showing _ _
  have calm (path : String) :
      ∀ handle ∈ [()], ((Setting.showing path).playbook.procedure handle).Calm id :=
    fun _ _ => rfl
  have verdict (path : String) := spec_verdict isTest (by decide) compiles rfl (shows path)
    (calm path) ""
  have apart : (Spec.Compiled.threeUpdates.expects.map Prod.fst).Nodup := by decide
  refine ⟨(verdict "a").1.2 ?_, ?_, ?_⟩
  · exact List.forall_mem_cons.2 ⟨Entry.met_single rfl, List.forall_mem_cons.2
      ⟨Entry.met_single rfl, List.forall_mem_singleton.2 (Entry.met_single rfl)⟩⟩
  · have shown : Spec.Compiled.threeUpdates.actual "b" ⟨"2"⟩ = "y" := rfl
    have miss : Spec.Compiled.threeUpdates.LeastMiss "b" ⟨"2"⟩ { steps := [.html "z"] } 0 "z" :=
      { listed := .tail _ (.tail _ (.head _))
        least := List.forall_mem_cons.2 ⟨fun unmet => absurd (Entry.met_single rfl) unmet,
          List.forall_mem_cons.2 ⟨fun _ => rfl, List.forall_mem_singleton.2 fun _ => rfl⟩⟩
        step := rfl
        differs := by rw [shown]; decide
        first := nofun }
    obtain ⟨label, entry, index, markup, other, ran⟩ := (verdict "b").2 miss.not_met
    obtain ⟨rfl, rfl, rfl⟩ := miss.unique apart other
    rw [shown] at ran
    exact ran
  · have shown : Spec.Compiled.threeUpdates.actual "c" ⟨"1"⟩ = "" := rfl
    have miss : Spec.Compiled.threeUpdates.LeastMiss "c" ⟨"1"⟩
        { steps := [.html "z x"] } 0 "z x" :=
      { listed := .head _
        least := List.forall_mem_cons.2 ⟨fun _ => rfl,
          List.forall_mem_cons.2 ⟨fun _ => rfl, List.forall_mem_singleton.2 fun _ => rfl⟩⟩
        step := rfl
        differs := by rw [shown]; decide
        first := nofun }
    obtain ⟨label, entry, index, markup, other, ran⟩ := (verdict "c").2 miss.not_met
    obtain ⟨rfl, rfl, rfl⟩ := miss.unique apart other
    rw [shown] at ran
    exact ran

end HotReload
