import HotReload.Proofs.PageView
import HotReload.Proofs.Preparation
import Mathlib.Algebra.Ring.Nat

/-!
# The session of a spec

A spec that is run as a test of its own declares its files and its entries, starts with its
first update and is changed to the others in order. With a page that shows one file this
is worked out command by command: what is known after the declarations
(`Runner.runOn_declareSpec`), what the start and one change do (`Runner.runOn_start`,
`Runner.runOn_change`), and by induction what all changes do
(`Runner.runOn_drive_changes`). All of it is in terms of `judge`, which compares the text of
the file in every update with the markup of the steps.

Between commands the page shows the text of some update and the entries of later updates
wait (`Run.Midway`). A mismatch is fatal, so the command at which it is found aborts the
invocation (`Run.Judged`).
-/

set_option autoImplicit false

namespace HotReload

variable {W α : Type}

/-! ## The text of an update -/

/-- The text that a path has in an update; empty when there is no such file then. -/
def updateText (files : Table String Content) (path : String) (label : Label) : String :=
  ((files.find? path).bind fun content => content.textAt? label).getD ""

/-- The markup of a path that is compared in an update. -/
def Setting.markupAt (setting : Setting W α) (files : Table String Content) (path : String)
    (label : Label) : String :=
  setting.markupOf (updateText files path label)

namespace Standing

variable {known : Standing α} {path : String}

/-- An app that starts with an update has the text of that update. -/
theorem startFiles_changesFor (known : Standing α) (label : Label) (path : String) :
    ((startFiles (known.changesFor label)).find? path).getD "" =
      updateText known.specs path label := by
  rw [find?_startFiles, find?_changesFor, updateText]
  cases known.specs.find? path with
  | none => rfl
  | some content =>
      simp only [Option.map_some, Option.bind_some]
      cases content.textAt? label <;> rfl

/-- A change to an update leaves the text of that update; nothing was left of a file that
is not declared. -/
theorem textAfter_changesFor_of_undeclared {old : String}
    (undeclared : known.specs.find? path = none → old = "") (label : Label) :
    FileChange.textAfter old ((known.changesFor label).find? path) =
      updateText known.specs path label := by
  rw [find?_changesFor, updateText]
  cases found : known.specs.find? path with
  | none => exact undeclared found
  | some content =>
      simp only [Option.map_some, Option.bind_some]
      cases content.textAt? label <;> rfl

/-- A change from one update to another leaves the text of the other. -/
theorem textAfter_changesFor {old : String} {here : Label}
    (was : old = updateText known.specs path here) (label : Label) :
    FileChange.textAfter old ((known.changesFor label).find? path) =
      updateText known.specs path label := by
  refine textAfter_changesFor_of_undeclared (fun undeclared => ?_) label
  rw [was, updateText, undeclared]
  rfl

end Standing

/-! ## Declaring -/

/-- What is known once a spec and its first update have been declared. -/
def Standing.declared (files : Table String Content) (expects : List (Label × Entry α))
    (first : Label) : Standing α :=
  { specs := files
    expects := expects
    inits := startFiles (({ specs := files } : Standing α).changesFor first)
    initLabel := some first }

namespace Runner

/-- Entries of new labels are added as they are. -/
theorem runOn_registerEach {run : Run W α} (fresh : run.standing.started = false)
    (expects : List (Label × Entry α))
    (apart : ((run.standing.expects ++ expects).map Prod.fst).Nodup) :
    (registerEach expects).runOn run =
      (.ok (), run.knowing { run.standing with expects := run.standing.expects ++ expects }) := by
  induction expects generalizing run with
  | nil =>
      rw [List.append_nil]
      rfl
  | cons expect rest ih =>
      obtain ⟨label, entry⟩ := expect
      have new : (run.standing.expects.find? fun expect => expect.1 == label) = none := by
        rw [List.find?_eq_none]
        intro other listed same
        have label : other.1 = label := beq_iff_eq.1 same
        rw [List.map_append, List.nodup_append] at apart
        exact apart.2.2 other.1 (List.mem_map_of_mem listed) other.1
          (by rw [label]; exact List.mem_cons_self) rfl
      let more : Run W α := run.knowing
        { run.standing with expects := run.standing.expects ++ [(label, entry)] }
      have added : (register label entry).runOn run = (.ok (), more) := by
        rw [register, Action.runOn_bind_ok (runOn_standing run), fresh]
        simp only [Bool.false_eq_true, if_false]
        rw [new]
        rfl
      have joined : more.standing.expects ++ rest =
          run.standing.expects ++ (label, entry) :: rest :=
        List.append_assoc _ _ _
      have stillFresh : more.standing.started = false := fresh
      rw [registerEach, Action.runOn_bind_ok added, ih stillFresh (by rw [joined]; exact apart),
        joined]
      rfl

section Declaring

variable {source : String} {subs : List α} {document : Spec.Document}
  {expects : List (Label × Entry α)}
  (isRead : Spec.Document.read "spec" source = .ok document)
  (compiled : document.expects ⟨.compile, some "spec"⟩ subs = .ok expects)
  (apart : (expects.map Prod.fst).Nodup)
include isRead compiled apart

theorem runOn_registerSpec (run : Run W α) (nothing : run.standing = {}) :
    (registerSpec source subs).runOn run =
      (.ok (), run.knowing { specs := Table.ofList document.contents, expects := expects }) := by
  obtain ⟨world, standing, journal⟩ := run
  obtain rfl : standing = {} := nothing
  let filed : Run W α := ⟨world, { specs := Table.ofList document.contents }, journal⟩
  have fresh : filed.standing.started = false := rfl
  have registered : (registerContents document.contents : Act W α Unit).runOn ⟨world, {}, journal⟩ =
      (.ok (), filed) := rfl
  rw [registerSpec, Action.runOn_bind_ok (by rw [isRead]; rfl), Action.runOn_bind_ok registered,
    Action.runOn_bind_ok (by rw [compiled]; rfl)]
  exact runOn_registerEach fresh expects apart

/-- Sending a spec declares its files and its entries. -/
theorem runOn_sendSpec (setting : Setting W α) (due : Option Label → Act W α Unit)
    (world : W) (commands : List (Command α)) :
    ∃ run : Run W α, run.world = world ∧
      run.standing = { specs := Table.ofList document.contents, expects := expects } ∧
      (drive (answer setting due) (.sendAll (.spec source subs :: commands))).runOn { world } =
        (drive (answer setting due) (.sendAll commands)).runOn run := by
  let filed : Run W α := (({ world } : Run W α).noting (.dispatched (.spec source subs))).knowing
    { specs := Table.ofList document.contents, expects := expects }
  have performed : (perform setting due (.spec source subs)).runOn
      (({ world } : Run W α).noting (.dispatched (.spec source subs))) = (.ok .done, filed) :=
    Action.runOn_bind_ok (runOn_registerSpec isRead compiled apart _ rfl) _
  have answered := runOn_answer_ok { world } setting rfl
    ((runOn_handle_setup _ setting rfl).trans performed)
  exact ⟨filed.noting (.answered (.spec source subs) (.ok .done)), rfl, rfl,
    runOn_drive_sendAll_ok _ answered _⟩

/-- The first two commands of a spec only declare. -/
theorem runOn_declareSpec (setting : Setting W α) (due : Option Label → Act W α Unit)
    (world : W) (first : Label) (commands : List (Command α)) :
    ∃ run : Run W α, run.world = world ∧
      run.standing = .declared (Table.ofList document.contents) expects first ∧
      (drive (answer setting due) (.sendAll
        (.spec source subs :: .init (.label first) :: commands))).runOn { world } =
          (drive (answer setting due) (.sendAll commands)).runOn run := by
  obtain ⟨⟨same, _, journal⟩, kept, rfl, sent⟩ := runOn_sendSpec isRead compiled apart setting due
    world (.init (.label first) :: commands)
  obtain rfl : same = world := kept
  let told : Run W α :=
    ⟨same, { specs := Table.ofList document.contents, expects := expects }, journal⟩
  let placed : Run W α := (told.noting (.dispatched (.init (.label first)))).knowing
    (.declared (Table.ofList document.contents) expects first)
  have placing : (perform setting due (.init (.label first))).runOn
      (told.noting (.dispatched (.init (.label first)))) = (.ok .done, placed) := rfl
  have placedAnswer := runOn_answer_ok told setting rfl
    ((runOn_handle_setup _ setting rfl).trans placing)
  refine ⟨placed.noting (.answered (.init (.label first)) (.ok .done)), rfl, rfl, ?_⟩
  rw [sent, runOn_drive_sendAll_ok _ placedAnswer]

end Declaring

end Runner

/-! ## Starting and changing -/

/-- How an entry ends when the file has a text in each update. -/
def judgeEntry (differences : Difference.Finder) (text : Label → String)
    (expect : Label × Entry α) : Except Failure Unit :=
  judgeSteps differences expect.1 (Html.normalize (text expect.1)) 0 expect.2.steps

/-- What is known in a running session of a spec: the entries that wait, and the numbers of
entries and steps that have run. -/
structure Standing.Midway (files : Table String Content) (queue : List (Label × Entry α))
    (entries steps : Nat) (known : Standing α) : Prop where
  started : known.started = true
  isOpen : known.sessionOpen = true
  goesOn : known.aborted = none
  specs : known.specs = files
  waiting : known.waiting = queue
  entriesRun : known.entriesRun = entries
  stepsRun : known.stepsRun = steps

/-- A running session of a spec, whose page shows the text of some update. -/
structure Run.Midway (shown : W → String) (path : String) (files : Table String Content)
    (queue : List (Label × Entry α)) (entries steps : Nat) (run : Run W α) : Prop where
  known : run.standing.Midway files queue entries steps
  text : ∃ here, shown run.world = updateText files path here

/-- What is left after an entry has run: nothing is aborted yet, and if the entry has passed
the session goes on with the others. -/
structure Run.Left (shown : W → String) (path : String) (files : Table String Content)
    (queue : List (Label × Entry α)) (entries steps : Nat) (verdict : Except Failure Unit)
    (run : Run W α) : Prop where
  goesOn : run.standing.aborted = none
  midway : verdict = .ok () → run.Midway shown path files queue entries steps

/-- How the entries of a spec end, of which the first that fails decides. -/
def judge (differences : Difference.Finder) (text : Label → String) :
    List (Label × Entry α) → Except Failure Unit
  | [] => .ok ()
  | expect :: rest => (judgeEntry differences text expect).bind fun _ => judge differences text rest

/-- The changes to the updates of some entries. -/
def changesTo (expects : List (Label × Entry α)) : List (Command α) :=
  expects.map fun expect => .change (.label expect.1)

/-- The number of steps of some entries. -/
def stepCount (expects : List (Label × Entry α)) : Nat :=
  (expects.map fun expect => expect.2.steps.length).sum

theorem stepCount_cons (label : Label) (entry : Entry α) (rest : List (Label × Entry α)) :
    stepCount ((label, entry) :: rest) = entry.steps.length + stepCount rest :=
  List.sum_cons

/-- What is left after commands: the session goes on if all has passed, and is aborted
otherwise. -/
inductive Run.Judged (shown : W → String) (path : String) (files : Table String Content)
    (queue : List (Label × Entry α)) (entries steps : Nat) (run : Run W α) :
    Except Failure Unit → Prop
  | passed (midway : run.Midway shown path files queue entries steps) :
    Judged shown path files queue entries steps run (.ok ())
  | failed {failure : Failure} (aborted : run.standing.aborted = some failure) :
    Judged shown path files queue entries steps run (.error failure)

/-- Only a mismatch makes an entry fail, and this is fatal. -/
theorem isFatal_of_judgeEntry {differences : Difference.Finder} {text : Label → String}
    {expect : Label × Entry α} {failure : Failure}
    (judged : judgeEntry differences text expect = .error failure) :
    failure.isFatal = true := by
  rw [judgeEntry, judgeSteps] at judged
  split at judged
  · contradiction
  · obtain rfl := Except.error.inj judged
    rfl

namespace Runner

section Session

variable {setting : Setting W α} {shown : W → String} {path : String} {subs : List α}
  (shows : setting.testBed.Shows setting.config.appRootSelector path shown)
  (calm : ∀ handle ∈ subs, (setting.playbook.procedure handle).Calm shown)
  {files : Table String Content} {label : Label} {entry : Entry α}
  {rest : List (Label × Entry α)}

/-- The app may start with the label of the first waiting entry. -/
theorem runOn_requireNoneBefore_first {run : Run W α}
    (waiting : run.standing.waiting = (label, entry) :: rest) :
    (requireNoneBefore label : Act W α Unit).runOn run = (.ok (), run) := by
  have unbounded : ∀ bound ∈ (none : Option Label), label.atMost bound = true :=
    fun _ mem => nomatch mem
  obtain ⟨behind, -, due⟩ := Standing.exists_due waiting unbounded
  have notBefore : ¬label.before label = true := by
    simp [Label.before]
  rw [requireNoneBefore, Action.runOn_bind_ok (runOn_standing run), due]
  exact congrArg (fun action : Act W α Unit => action.runOn run) (if_neg notBefore)

include shows calm

/-- The first waiting entry runs while the page shows the text of its update. -/
theorem runOn_dueEntry {run : Run W α} {entries steps : Nat}
    (midway : run.standing.Midway files ((label, entry) :: rest) entries steps)
    (there : shown run.world = updateText files path label) (compiled : entry.Compiled subs) :
    ∃ after, (runAllDue setting (some label)).runOn run =
        (judgeEntry setting.differences (setting.markupAt files path) (label, entry), after) ∧
      after.Left shown path files rest (entries + 1) (steps + entry.steps.length)
        (judgeEntry setting.differences (setting.markupAt files path) (label, entry)) := by
  obtain ⟨after, behind, count, ran, rfl, reached, counted⟩ :=
    runOn_runAllDue shows calm midway.isOpen (congrArg (Html.normalize ∘ setting.markupOf) there)
      midway.waiting compiled
  refine ⟨after, ran, ?_, fun passed => ⟨?_, label, reached.shows.trans there⟩⟩
  · rw [reached.standing]
    exact midway.goesOn
  · rw [reached.standing, counted passed, midway.entriesRun, midway.stepsRun]
    exact ⟨midway.started, midway.isOpen, midway.goesOn, midway.specs, rfl, rfl, rfl⟩

/-- The session starts with the update of the first entry, and runs this entry. -/
theorem runOn_start {run : Run W α} {expects : List (Label × Entry α)}
    (known : run.standing = .declared files expects label)
    (ordered : (Table.ofList expects).entries = (label, entry) :: rest)
    (compiled : entry.Compiled subs) :
    ∃ after, (ensureStarted setting (runAllDue setting)).runOn run =
        (judgeEntry setting.differences (setting.markupAt files path) (label, entry), after) ∧
      after.Left shown path files rest 1 entry.steps.length
        (judgeEntry setting.differences (setting.markupAt files path) (label, entry)) := by
  have fresh : run.standing.started = false := by
    rw [known]
    rfl
  obtain ⟨changed, written⟩ := shows.resets run.standing.inits (run.launched setting).world
  let begun := (run.started setting).showing label
  have there : shown begun.world = updateText files path label := by
    refine (shows.shows_reset run.standing.inits (run.launched setting).world).trans ?_
    rw [known]
    exact Standing.startFiles_changesFor _ label path
  have waiting : (run.started setting).standing.waiting = (label, entry) :: rest := by
    rw [← ordered, Run.started, known]
    rfl
  have midway : begun.standing.Midway files ((label, entry) :: rest) 0 0 := by
    have begunKnown : begun.standing =
        { (Standing.declared files expects label).begun with
          sessionOpen := true
          cursor := some label } := by
      rw [← known]
      rfl
    rw [begunKnown]
    exact ⟨rfl, rfl, rfl, rfl, ordered, rfl, rfl⟩
  have entered : (enterInitial (runAllDue setting)).runOn (run.started setting) =
      (runAllDue setting (some label)).runOn begun := by
    have declared : (run.started setting).standing.initLabel = some label := by
      rw [Run.started, known]
      rfl
    rw [enterInitial, Action.runOn_bind_ok (runOn_standing _), declared]
    exact (Action.runOn_bind_ok (runOn_requireNoneBefore_first waiting) _).trans
      (Action.runOn_bind_ok (runOn_revise _ _) _)
  have ended := runOn_dueEntry shows calm midway there compiled
  rw [Nat.zero_add, Nat.zero_add] at ended
  rw [runOn_ensureStarted_start setting fresh (shows.opens run.world) written, entered]
  exact ended

/-- A change to the update of the first waiting entry runs this entry. -/
theorem runOn_change {run : Run W α} {entries steps : Nat}
    (midway : run.Midway shown path files ((label, entry) :: rest) entries steps)
    (compiled : entry.Compiled subs) :
    ∃ after, (perform setting (runAllDue setting) (.change (.label label))).runOn run =
        ((judgeEntry setting.differences (setting.markupAt files path) (label, entry)).map
          fun _ => .done, after) ∧
      after.Left shown path files rest (entries + 1) (steps + entry.steps.length)
        (judgeEntry setting.differences (setting.markupAt files path) (label, entry)) := by
  obtain ⟨known, here, text⟩ := midway
  let changes := run.standing.changesFor label
  have written : (write setting changes).runOn run = (.ok (), run.writing setting changes) := by
    rw [runOn_write setting known.isOpen, shows.writes]
    rfl
  let moved := (run.writing setting changes).showing label
  have movedKnown : moved.standing.Midway files ((label, entry) :: rest) entries steps :=
    ⟨known.started, known.isOpen, known.goesOn, known.specs, known.waiting, known.entriesRun,
      known.stepsRun⟩
  have there : shown moved.world = updateText files path label := by
    refine (shows.shows_write changes run.world).trans ?_
    rw [← known.specs] at text ⊢
    exact Standing.textAfter_changesFor text label
  obtain ⟨after, ran, left⟩ := runOn_dueEntry shows calm movedKnown there compiled
  refine ⟨after, ?_, left⟩
  rw [perform, Action.runOn_bind_ok (runOn_standing run), Action.runOn_bind_ok written,
    Action.runOn_bind_ok (runOn_revise _ _)]
  cases judged : judgeEntry setting.differences (setting.markupAt files path) (label, entry) with
  | error failure => exact Action.runOn_bind_error (ran.trans (by rw [judged])) _
  | ok _ => exact Action.runOn_bind_ok (ran.trans (by rw [judged])) _

/-- A change from a session that runs, or that starts and passes. -/
theorem runOn_answer_change {run begun : Run W α} {entries steps : Nat}
    (goesOn : run.standing.aborted = none)
    (starts : (ensureStarted setting (runAllDue setting)).runOn
      (run.noting (.dispatched (.change (.label label)))) = (.ok (), begun))
    (midway : begun.Midway shown path files ((label, entry) :: rest) entries steps)
    (compiled : entry.Compiled subs) :
    ∃ after, (answer setting (runAllDue setting) (.change (.label label))).runOn run =
        ((judgeEntry setting.differences (setting.markupAt files path) (label, entry)).map
          fun _ => .done, after) ∧
      after.Judged shown path files rest (entries + 1) (steps + entry.steps.length)
        (judgeEntry setting.differences (setting.markupAt files path) (label, entry)) := by
  obtain ⟨after, performed, left⟩ := runOn_change shows calm midway compiled
  have handled := (runOn_handle_started _ setting rfl starts).trans performed
  cases judged : judgeEntry setting.differences (setting.markupAt files path) (label, entry) with
  | error failure =>
      rw [judged] at handled
      have answered := runOn_answer_fatal run setting goesOn handled
        (isFatal_of_judgeEntry judged) left.goesOn
      exact ⟨_, answered, .failed rfl⟩
  | ok _ =>
      rw [judged] at handled
      obtain ⟨known, text⟩ := left.midway judged
      exact ⟨_, runOn_answer_ok run setting goesOn handled, .passed ⟨known, text⟩⟩

/-- A change and the changes behind it, when it is known how these go in a session that
runs. -/
theorem runOn_drive_cons {run begun : Run W α} {entries steps : Nat}
    (goesOn : run.standing.aborted = none)
    (starts : (ensureStarted setting (runAllDue setting)).runOn
      (run.noting (.dispatched (.change (.label label)))) = (.ok (), begun))
    (midway : begun.Midway shown path files ((label, entry) :: rest) entries steps)
    (compiled : entry.Compiled subs)
    (continues : ∀ middle : Run W α,
      middle.Midway shown path files rest (entries + 1) (steps + entry.steps.length) →
      ∃ after, (drive (answer setting (runAllDue setting)) (.sendAll (changesTo rest))).runOn
          middle = (judge setting.differences (setting.markupAt files path) rest, after) ∧
        after.Judged shown path files [] (entries + 1 + rest.length)
          (steps + entry.steps.length + stepCount rest)
          (judge setting.differences (setting.markupAt files path) rest)) :
    ∃ after, (drive (answer setting (runAllDue setting))
        (.sendAll (changesTo ((label, entry) :: rest)))).runOn run =
          (judge setting.differences (setting.markupAt files path) ((label, entry) :: rest),
            after) ∧
      after.Judged shown path files [] (entries + 1 + rest.length)
        (steps + stepCount ((label, entry) :: rest))
        (judge setting.differences (setting.markupAt files path) ((label, entry) :: rest)) := by
  obtain ⟨middle, answered, judgedFirst⟩ :=
    runOn_answer_change shows calm goesOn starts midway compiled
  rw [changesTo, List.map_cons, judge, stepCount_cons, ← Nat.add_assoc]
  cases judged : judgeEntry setting.differences (setting.markupAt files path) (label, entry) with
  | error failure =>
      rw [judged] at answered judgedFirst
      cases judgedFirst with
      | failed aborted => exact ⟨middle, runOn_drive_sendAll_error _ answered _, .failed aborted⟩
  | ok _ =>
      rw [judged] at answered judgedFirst
      cases judgedFirst with
      | passed midway =>
          obtain ⟨after, ran, judgedRest⟩ := continues middle midway
          exact ⟨after, (runOn_drive_sendAll_ok _ answered _).trans ran, judgedRest⟩

/-- Changes to the updates of the waiting entries, one after the other. -/
theorem runOn_drive_changes {run : Run W α} {entries steps : Nat}
    (midway : run.Midway shown path files rest entries steps)
    (compiled : ∀ expect ∈ rest, expect.2.Compiled subs) :
    ∃ after, (drive (answer setting (runAllDue setting)) (.sendAll (changesTo rest))).runOn run =
        (judge setting.differences (setting.markupAt files path) rest, after) ∧
      after.Judged shown path files [] (entries + rest.length) (steps + stepCount rest)
        (judge setting.differences (setting.markupAt files path) rest) := by
  induction rest generalizing run entries steps with
  | nil => exact ⟨run, rfl, .passed midway⟩
  | cons first others ih =>
      obtain ⟨label, entry⟩ := first
      rw [List.forall_mem_cons] at compiled
      have starts : (ensureStarted setting (runAllDue setting)).runOn
          (run.noting (.dispatched (.change (.label label)))) =
            (.ok (), run.noting (.dispatched (.change (.label label)))) :=
        runOn_ensureStarted_started setting midway.known.started
      rw [List.length_cons, Nat.add_comm others.length, ← Nat.add_assoc]
      exact runOn_drive_cons shows calm midway.known.goesOn starts
        ⟨midway.known, midway.text⟩ compiled.1 fun _ next => ih next compiled.2

end Session

end Runner

end HotReload
