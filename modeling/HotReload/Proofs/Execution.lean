import HotReload.Session.Invocation

/-!
# What the actions of a runner do

Each action of a runner is a function from a run to a result and a run. The basic
actions get one equation each, in terms of three changes of a run: an event is written
into its journal (`Run.noting`), something else is known (`Run.knowing`), a call to the
test bed has returned (`Run.afterCall`). Longer actions are worked out with these.
-/

set_option autoImplicit false

namespace HotReload

variable {W α β γ : Type}

/-! ## Kinds of events -/

/-- Whether an event is a command that reaches the runner. -/
def Event.isDispatch : Event α → Bool
  | .dispatched _ => true
  | _ => false

/-- Whether an event is an answer. -/
def Event.isAnswer : Event α → Bool
  | .answered _ _ => true
  | _ => false

/-- Whether an event only marks a place in a run. -/
def Event.isMark : Event α → Bool
  | .entryEnded _ | .hookBegan _ _ | .hookEnded _ _ | .stepEnded _ _ | .returned _ => true
  | _ => false

/-- Whether an event is part of playing an entry: a task begins or ends, or the page is called. -/
def Event.isPlay : Event α → Bool
  | .entryEnded _ | .hookBegan _ _ | .hookEnded _ _ | .stepBegan _ _ | .stepEnded _ _ => true
  | .called (.invoke _ _) _ | .called .closePage _ => true
  | _ => false

/-! ## Changes of a run -/

namespace Run

/-- The run with an event written into its journal. -/
def noting (run : Run W α) (event : Event α) : Run W α :=
  { run with journal := ⟨event, run.standing⟩ :: run.journal }

/-- The run with something else known. -/
def knowing (run : Run W α) (known : Standing α) : Run W α :=
  { run with standing := known }

/-- The run after a call to the test bed. -/
def afterCall (run : Run W α) (call : Call) (action : Action W Failure β) : Run W α :=
  { run with world := (action.runOn run.world).2 }.noting
    (.called call (Runner.failure? (action.runOn run.world).1))

/-- The run after it has been aborted. -/
def aborting (run : Run W α) (failure : Failure) : Run W α :=
  (run.knowing { run.standing with aborted := some failure }).noting (.aborted failure)

/-- The run whose session has been opened by the launcher. -/
def launched (setting : Setting W α) (run : Run W α) : Run W α :=
  (run.knowing run.standing.begun).afterCall .launch setting.testBed.launch

/-- The run whose files have been written for the first time. -/
def resetting (setting : Setting W α) (run : Run W α) : Run W α :=
  run.afterCall (.reset run.standing.inits) (setting.testBed.reset run.standing.inits)

/-- The run whose session has started. -/
def started (setting : Setting W α) (run : Run W α) : Run W α :=
  ((run.launched setting).resetting setting).knowing
    { run.standing.begun with sessionOpen := true }

/-- The run after files have been written. -/
def writing (setting : Setting W α) (run : Run W α) (changes : Changes) : Run W α :=
  run.afterCall (.write changes) (setting.testBed.write changes)

/-- The run after a flush has written the files of an update. -/
def bringing (setting : Setting W α) (run : Run W α) (label : Label) : Run W α :=
  (run.writing setting (run.standing.changesFor label)).noting
    (.brought label (Runner.failure?
      ((setting.testBed.write (run.standing.changesFor label)).runOn run.world).1))

/-- The run whose app is taken to show an update. -/
def showing (run : Run W α) (label : Label) : Run W α :=
  run.knowing { run.standing with cursor := some label }

/-- The run without the entry that is taken out. -/
def leaving (run : Run W α) (rest : Table Label (Entry α)) : Run W α :=
  run.knowing { run.standing with remaining := some rest }

/-- The run after its page has been closed. -/
def closingPage (setting : Setting W α) (run : Run W α) : Run W α :=
  (run.knowing { run.standing with sessionOpen := false }).afterCall .closePage
    setting.testBed.closePage

/-- The run after its session has been closed. -/
def closing (setting : Setting W α) (run : Run W α) : Run W α :=
  (run.closingPage setting).afterCall .closeBuild setting.testBed.closeBuild

/-- The run in which an entry has begun. -/
def beginning (run : Run W α) (label : Label) (entry : Entry α) (flushing : Bool) : Run W α :=
  (run.noting (.entryBegan label entry flushing)).knowing
    { run.standing with entriesRun := run.standing.entriesRun + 1 }

variable (run : Run W α) (event : Event α) (known : Standing α) (call : Call)
  (action : Action W Failure β) (failure : Failure)

@[simp] theorem noting_world : (run.noting event).world = run.world := rfl

@[simp] theorem noting_standing : (run.noting event).standing = run.standing := rfl

@[simp] theorem noting_journal :
    (run.noting event).journal = ⟨event, run.standing⟩ :: run.journal := rfl

@[simp] theorem knowing_world : (run.knowing known).world = run.world := rfl

@[simp] theorem knowing_standing : (run.knowing known).standing = known := rfl

@[simp] theorem knowing_journal : (run.knowing known).journal = run.journal := rfl

@[simp] theorem afterCall_world :
    (run.afterCall call action).world = (action.runOn run.world).2 := rfl

@[simp] theorem afterCall_standing : (run.afterCall call action).standing = run.standing := rfl

@[simp] theorem afterCall_journal :
    (run.afterCall call action).journal =
      ⟨.called call (Runner.failure? (action.runOn run.world).1), run.standing⟩ ::
        run.journal := rfl

@[simp] theorem aborting_standing :
    (run.aborting failure).standing = { run.standing with aborted := some failure } := rfl

@[simp] theorem aborting_journal :
    (run.aborting failure).journal =
      ⟨.aborted failure, { run.standing with aborted := some failure }⟩ :: run.journal := rfl

/-- The line of a flush says whether the files could be written. -/
theorem bringing_journal (setting : Setting W α) {label : Label} {failed : Option Failure}
    (told : Runner.failure?
      ((setting.testBed.write (run.standing.changesFor label)).runOn run.world).1 = failed) :
    (run.bringing setting label).journal =
      ⟨.brought label failed, run.standing⟩ ::
        ⟨.called (.write (run.standing.changesFor label)) failed, run.standing⟩ ::
          run.journal := by
  rw [bringing, noting_journal, writing, afterCall_journal, told]
  rfl

end Run

/-! ## Basic actions -/

namespace Runner

variable (run : Run W α)

@[simp] theorem runOn_standing :
    (standing : Act W α (Standing α)).runOn run = (.ok run.standing, run) := rfl

@[simp] theorem runOn_revise (change : Standing α → Standing α) :
    (revise change : Act W α Unit).runOn run = (.ok (), run.knowing (change run.standing)) := rfl

@[simp] theorem runOn_record (event : Event α) :
    (record event : Act W α Unit).runOn run = (.ok (), run.noting event) := rfl

@[simp] theorem runOn_abort (failure : Failure) :
    (abort failure : Act W α Unit).runOn run = (.ok (), run.aborting failure) := rfl

/-- A call answers what the test bed answers. -/
@[simp] theorem runOn_call (made : Call) (action : Action W Failure β) :
    (call made action : Act W α β).runOn run =
      ((action.runOn run.world).1, run.afterCall made action) := by
  rw [call, Action.runOn_attempt_bind]
  have unworded : ∀ result : Except Failure β, result.mapError id = result := by
    intro result
    cases result <;> rfl
  simp only [Action.onPart, Action.runOn_ofRun, unworded]
  rfl

/-- While the session is open, nothing is refused for want of one. -/
theorem runOn_requireSession (isOpen : run.standing.sessionOpen = true) :
    (requireSession : Act W α Unit).runOn run = (.ok (), run) := by
  simp [requireSession, Action.runOn_bind, isOpen]

variable {run} (setting : Setting W α)

theorem runOn_write (isOpen : run.standing.sessionOpen = true) (changes : Changes) :
    (write setting changes).runOn run =
      (((setting.testBed.write changes).runOn run.world).1,
        run.afterCall (.write changes) (setting.testBed.write changes)) := by
  rw [write, Action.runOn_bind_ok (runOn_requireSession run isOpen), runOn_call]

theorem runOn_invoke (isOpen : run.standing.sessionOpen = true) (path : List String)
    (arguments : List Json) :
    (invoke setting path arguments).runOn run =
      (((setting.testBed.invoke path arguments).runOn run.world).1,
        run.afterCall (.invoke path arguments) (setting.testBed.invoke path arguments)) := by
  rw [invoke, Action.runOn_bind_ok (runOn_requireSession run isOpen), runOn_call]

/-! ## Starting -/

theorem runOn_ensureStarted_started {due : Option Label → Act W α Unit}
    (started : run.standing.started = true) :
    (ensureStarted setting due).runOn run = (.ok (), run) := by
  simp [ensureStarted, Action.runOn_bind, started]

section Fresh

variable {due : Option Label → Act W α Unit} (fresh : run.standing.started = false)
include fresh

theorem runOn_ensureStarted_fresh :
    (ensureStarted setting due).runOn run =
      match (launch setting : Act W α Unit).runOn (run.knowing run.standing.begun) with
      | (.error failure, after) => (.error failure, after.aborting failure)
      | (.ok (), after) => (enterInitial due).runOn after := by
  rw [ensureStarted, Action.runOn_bind_ok (runOn_standing run), fresh]
  simp only [Bool.false_eq_true, if_false]
  rw [Action.runOn_bind_ok (runOn_revise run _), Action.runOn_attempt_bind]
  rcases (launch setting : Act W α Unit).runOn (run.knowing run.standing.begun) with
    ⟨result, after⟩
  cases result with
  | error failure => exact Action.runOn_bind_ok (runOn_abort after failure) _
  | ok _ => rfl

theorem runOn_ensureStarted_failLaunch {failure : Failure}
    (failed : (setting.testBed.launch.runOn run.world).1 = .error failure) :
    (ensureStarted setting due).runOn run =
      (.error failure, (run.launched setting).aborting failure) := by
  have called : (call .launch setting.testBed.launch : Act W α Unit).runOn
      (run.knowing run.standing.begun) = (.error failure, run.launched setting) := by
    rw [runOn_call, Run.knowing_world, failed, Run.launched]
  have launched : (launch setting : Act W α Unit).runOn (run.knowing run.standing.begun) =
      (.error failure, run.launched setting) :=
    Action.runOn_bind_error called _
  rw [runOn_ensureStarted_fresh setting fresh, launched]

section Opened

variable (opened : (setting.testBed.launch.runOn run.world).1 = .ok ())
include opened

omit fresh in
theorem runOn_launch_opened :
    (launch setting : Act W α Unit).runOn (run.knowing run.standing.begun) =
      (call (.reset run.standing.inits) (setting.testBed.reset run.standing.inits) >>= fun _ =>
        revise fun standing => { standing with sessionOpen := true } : Act W α Unit).runOn
          (run.launched setting) := by
  have called : (call .launch setting.testBed.launch : Act W α Unit).runOn
      (run.knowing run.standing.begun) = (.ok (), run.launched setting) := by
    rw [runOn_call, Run.knowing_world, opened, Run.launched]
  rw [launch, Action.runOn_bind_ok called, Action.runOn_bind_ok (runOn_standing _)]
  rfl

theorem runOn_ensureStarted_failReset {failure : Failure}
    (failed : ((setting.testBed.reset run.standing.inits).runOn
      (run.launched setting).world).1 = .error failure) :
    (ensureStarted setting due).runOn run =
      (.error failure, ((run.launched setting).resetting setting).aborting failure) := by
  have called : (call (.reset run.standing.inits) (setting.testBed.reset run.standing.inits) :
      Act W α (List String)).runOn (run.launched setting) =
        (.error failure, (run.launched setting).resetting setting) := by
    rw [runOn_call, failed]
    rfl
  rw [runOn_ensureStarted_fresh setting fresh, runOn_launch_opened setting opened,
    Action.runOn_bind_error called]

theorem runOn_ensureStarted_start {changed : List String}
    (written : ((setting.testBed.reset run.standing.inits).runOn
      (run.launched setting).world).1 = .ok changed) :
    (ensureStarted setting due).runOn run =
      (enterInitial due).runOn (run.started setting) := by
  have called : (call (.reset run.standing.inits) (setting.testBed.reset run.standing.inits) :
      Act W α (List String)).runOn (run.launched setting) =
        (.ok changed, (run.launched setting).resetting setting) := by
    rw [runOn_call, written]
    rfl
  rw [runOn_ensureStarted_fresh setting fresh, runOn_launch_opened setting opened,
    Action.runOn_bind_ok called, runOn_revise]
  rfl

end Opened

end Fresh

/-- The four ways in which starting the session can go. -/
theorem ensureStarted_cases (due : Option Label → Act W α Unit) (run : Run W α) :
    (run.standing.started = true ∧ (ensureStarted setting due).runOn run = (.ok (), run)) ∨
    (∃ failure, run.standing.started = false ∧
      (setting.testBed.launch.runOn run.world).1 = .error failure ∧
      (ensureStarted setting due).runOn run =
        (.error failure, (run.launched setting).aborting failure)) ∨
    (∃ failure, run.standing.started = false ∧
      (setting.testBed.launch.runOn run.world).1 = .ok () ∧
      ((setting.testBed.reset run.standing.inits).runOn (run.launched setting).world).1 =
        .error failure ∧
      (ensureStarted setting due).runOn run =
        (.error failure, ((run.launched setting).resetting setting).aborting failure)) ∨
    (∃ changed, run.standing.started = false ∧
      (setting.testBed.launch.runOn run.world).1 = .ok () ∧
      ((setting.testBed.reset run.standing.inits).runOn (run.launched setting).world).1 =
        .ok changed ∧
      (ensureStarted setting due).runOn run =
        (enterInitial due).runOn (run.started setting)) := by
  cases fresh : run.standing.started with
  | true => exact .inl ⟨rfl, runOn_ensureStarted_started setting fresh⟩
  | false =>
      refine .inr ?_
      cases opened : (setting.testBed.launch.runOn run.world).1 with
      | error failure =>
          exact .inl ⟨failure, rfl, rfl, runOn_ensureStarted_failLaunch setting fresh opened⟩
      | ok _ =>
          refine .inr ?_
          cases written : ((setting.testBed.reset run.standing.inits).runOn
              (run.launched setting).world).1 with
          | error failure =>
              exact .inl ⟨failure, rfl, rfl, rfl,
                runOn_ensureStarted_failReset setting fresh opened written⟩
          | ok changed =>
              exact .inr ⟨changed, rfl, rfl, rfl,
                runOn_ensureStarted_start setting fresh opened written⟩

/-- Refusing an update to start with changes nothing. -/
theorem runOn_requireNoneBefore (label : Label) (run : Run W α) :
    ((requireNoneBefore label : Act W α Unit).runOn run).2 = run := by
  rw [requireNoneBefore, Action.runOn_bind_ok (runOn_standing run)]
  split
  · rfl
  · split <;> rfl

/-! ## Taking an entry out -/

theorem runOn_takeDue_none {upto : Option Label} (nothing : run.standing.due? upto = none) :
    (takeDue upto : Act W α _).runOn run = (.ok none, run) := by
  rw [takeDue, Action.runOn_bind_ok (runOn_standing run), nothing]
  rfl

theorem runOn_takeDue_some {upto : Option Label} {first : Label × Entry α}
    {rest : Table Label (Entry α)} (due : run.standing.due? upto = some (first, rest)) :
    (takeDue upto : Act W α _).runOn run = (.ok (some first), run.leaving rest) := by
  rw [takeDue, Action.runOn_bind_ok (runOn_standing run), due]
  rfl

theorem runOn_runDue_none {upto : Option Label} (nothing : run.standing.due? upto = none)
    (most : Nat) : (runDue setting most upto).runOn run = (.ok (), run) := by
  cases most with
  | zero => rfl
  | succ most =>
      rw [runDue, Action.runOn_bind_ok (runOn_takeDue_none nothing)]
      rfl

variable (run)

/-- Nothing is written for an update that the app shows, or when no files are declared. -/
theorem runOn_bringTo_shown {label : Label}
    (shown : run.standing.cursor = some label ∨ run.standing.specs.isEmpty = true) :
    (bringTo setting label).runOn run = (.ok (), run) := by
  have stays : ¬(run.standing.cursor ≠ some label ∧ (!run.standing.specs.isEmpty) = true) := by
    rintro ⟨elsewhere, declared⟩
    rcases shown with here | none
    · exact elsewhere here
    · rw [none] at declared
      exact Bool.false_ne_true declared
  rw [bringTo, Action.runOn_bind_ok (runOn_standing run), if_neg stays]
  rfl

section Bringing

variable {label : Label}
  (elsewhere : run.standing.cursor ≠ some label ∧ (!run.standing.specs.isEmpty) = true)
  (isOpen : run.standing.sessionOpen = true)
include elsewhere isOpen

theorem runOn_bringTo :
    (bringTo setting label).runOn run =
      (do
        Action.ofExcept ((setting.testBed.write (run.standing.changesFor label)).runOn run.world).1
        revise fun standing => { standing with cursor := some label } : Act W α Unit).runOn
          (run.bringing setting label) := by
  rw [bringTo, Action.runOn_bind_ok (runOn_standing run), if_pos elsewhere,
    Action.runOn_attempt_bind, runOn_write setting isOpen,
    Action.runOn_bind_ok (runOn_record _ _)]
  rfl

theorem runOn_bringTo_written
    (written : ((setting.testBed.write (run.standing.changesFor label)).runOn run.world).1 =
      .ok ()) :
    (bringTo setting label).runOn run = (.ok (), (run.bringing setting label).showing label) := by
  rw [runOn_bringTo run setting elsewhere isOpen, written]
  rfl

theorem runOn_bringTo_failed {failure : Failure}
    (failed : ((setting.testBed.write (run.standing.changesFor label)).runOn run.world).1 =
      .error failure) :
    (bringTo setting label).runOn run = (.error failure, run.bringing setting label) := by
  rw [runOn_bringTo run setting elsewhere isOpen, failed]
  rfl

end Bringing

/-- An entry that runs begins, and is played. -/
theorem runOn_runEntry (dispatch : Command α → Act W α Reply) (flushing : Bool)
    (label : Label) (entry : Entry α) :
    (runEntry setting dispatch flushing label entry).runOn run =
      (playEntry setting dispatch label entry).runOn (run.beginning label entry flushing) := by
  rw [runEntry, Action.runOn_bind_ok (runOn_record run _),
    Action.runOn_bind_ok (runOn_revise _ _)]
  rfl

/-! ## Answering -/

/-- A command that reaches an aborted runner is refused. -/
theorem runOn_carryOut_refused {due : Option Label → Act W α Unit} {command : Command α}
    {failure : Failure} (ended : run.standing.aborted = some failure) :
    (carryOut setting due command).runOn run =
      (.error (outOfOrder (.aborted failure.message)), run) := by
  rw [carryOut, Action.runOn_bind_ok (runOn_standing run), ended]
  rfl

/-- A command is carried out, and its first fatal failure is recorded. -/
theorem runOn_carryOut {due : Option Label → Act W α Unit} {command : Command α}
    (goesOn : run.standing.aborted = none) :
    (carryOut setting due command).runOn run =
      match (handle setting due command).runOn run with
      | (.ok reply, after) => (.ok reply, after)
      | (.error failure, after) =>
        (.error failure,
          if (failure.isFatal && after.standing.aborted.isNone) = true then after.aborting failure
          else after) := by
  rw [carryOut, Action.runOn_bind_ok (runOn_standing run), goesOn]
  show ((handle setting due command).attempt >>= _ : Act W α Reply).runOn run = _
  rw [Action.runOn_attempt_bind]
  rcases (handle setting due command).runOn run with ⟨result, after⟩
  cases result with
  | ok reply => rfl
  | error failure =>
      show (standing >>= _ : Act W α Reply).runOn after = _
      rw [Action.runOn_bind_ok (runOn_standing after)]
      by_cases recorded : (failure.isFatal && after.standing.aborted.isNone) = true
      · rw [if_pos recorded, Action.runOn_bind_ok (runOn_abort after failure)]
        simp [recorded]
      · rw [if_neg recorded]
        simp [recorded]

theorem runOn_handle_setup {due : Option Label → Act W α Unit} {command : Command α}
    (isSetup : command.isSetup = true) :
    (handle setting due command).runOn run = (perform setting due command).runOn run := by
  rw [handle, isSetup]
  rfl

theorem runOn_handle_started {due : Option Label → Act W α Unit} {command : Command α}
    {begun : Run W α} (runs : command.isSetup = false)
    (starts : (ensureStarted setting due).runOn run = (.ok (), begun)) :
    (handle setting due command).runOn run = (perform setting due command).runOn begun := by
  rw [handle, runs]
  exact Action.runOn_bind_ok starts _

theorem runOn_handle_unstarted {due : Option Label → Act W α Unit} {command : Command α}
    {after : Run W α} {failure : Failure} (runs : command.isSetup = false)
    (fails : (ensureStarted setting due).runOn run = (.error failure, after)) :
    (handle setting due command).runOn run = (.error failure, after) := by
  rw [handle, runs]
  exact Action.runOn_bind_error fails _

/-- An answer is what carrying out gives, between two lines of the journal. -/
theorem runOn_answer (due : Option Label → Act W α Unit) (command : Command α) :
    (answer setting due command).runOn run =
      (((carryOut setting due command).runOn (run.noting (.dispatched command))).1,
        ((carryOut setting due command).runOn (run.noting (.dispatched command))).2.noting
          (.answered command
            ((carryOut setting due command).runOn (run.noting (.dispatched command))).1)) := by
  rw [answer, Action.runOn_bind_ok (runOn_record run _), Action.runOn_attempt_bind,
    Action.runOn_bind_ok (runOn_record _ _), Action.runOn_ofExcept]

theorem runOn_answer_refused (due : Option Label → Act W α Unit) (command : Command α)
    {failure : Failure} (ended : run.standing.aborted = some failure) :
    (answer setting due command).runOn run =
      (.error (outOfOrder (.aborted failure.message)),
        (run.noting (.dispatched command)).noting
          (.answered command (.error (outOfOrder (.aborted failure.message))))) := by
  have stillEnded : (run.noting (.dispatched command)).standing.aborted = some failure := ended
  rw [runOn_answer, runOn_carryOut_refused (run.noting (.dispatched command)) setting stillEnded]

section Answering

variable {due : Option Label → Act W α Unit} {command : Command α} {after : Run W α}
  (goesOn : run.standing.aborted = none)
include goesOn

theorem runOn_answer_ok {reply : Reply}
    (handled : (handle setting due command).runOn (run.noting (.dispatched command)) =
      (.ok reply, after)) :
    (answer setting due command).runOn run =
      (.ok reply, after.noting (.answered command (.ok reply))) := by
  have carried : (carryOut setting due command).runOn (run.noting (.dispatched command)) =
      (.ok reply, after) := by
    rw [runOn_carryOut (run.noting (.dispatched command)) setting goesOn, handled]
  rw [runOn_answer, carried]

/-- The first fatal failure aborts the invocation. -/
theorem runOn_answer_fatal {failure : Failure}
    (handled : (handle setting due command).runOn (run.noting (.dispatched command)) =
      (.error failure, after))
    (fatal : failure.isFatal = true) (stillGoesOn : after.standing.aborted = none) :
    (answer setting due command).runOn run =
      (.error failure, (after.aborting failure).noting (.answered command (.error failure))) := by
  have carried : (carryOut setting due command).runOn (run.noting (.dispatched command)) =
      (.error failure, after.aborting failure) := by
    rw [runOn_carryOut (run.noting (.dispatched command)) setting goesOn, handled]
    simp [fatal, stillGoesOn]
  rw [runOn_answer, carried]

end Answering

theorem runOn_failIfAborted_none (goesOn : run.standing.aborted = none) :
    (failIfAborted : Act W α Unit).runOn run = (.ok (), run) := by
  rw [failIfAborted, Action.runOn_bind_ok (runOn_standing run), goesOn]
  rfl

theorem runOn_failIfAborted_some {failure : Failure}
    (ended : run.standing.aborted = some failure) :
    (failIfAborted : Act W α Unit).runOn run = (.error failure, run) := by
  rw [failIfAborted, Action.runOn_bind_ok (runOn_standing run), ended]
  rfl

/-! ## Procedures and functions -/

section Driving

variable (dispatch : Command α → Act W α Reply)

@[simp] theorem runOn_drive_finish (result : Except Failure Unit) (run : Run W α) :
    (drive dispatch (.finish result)).runOn run = (result, run) := rfl

@[simp] theorem runOn_drive_act (effect : W → W) (next : W → Procedure W α) (run : Run W α) :
    (drive dispatch (.act effect next)).runOn run =
      (drive dispatch (next (effect run.world))).runOn
        { run with world := effect run.world } := by
  simp [drive, Action.runOn_bind]

@[simp] theorem runOn_drive_send (command : Command α)
    (next : Except Failure Reply → Procedure W α) (run : Run W α) :
    (drive dispatch (.send command next)).runOn run =
      (drive dispatch (next ((dispatch command).runOn run).1)).runOn
        ((dispatch command).runOn run).2 := by
  rw [drive, Action.runOn_attempt_bind]

theorem runOn_drive_sendAll_ok {command : Command α} {run middle : Run W α} {reply : Reply}
    (answered : (dispatch command).runOn run = (.ok reply, middle)) (rest : List (Command α)) :
    (drive dispatch (.sendAll (command :: rest))).runOn run =
      (drive dispatch (.sendAll rest)).runOn middle := by
  rw [Procedure.sendAll, runOn_drive_send, answered]

/-- A command that fails is the last one that is sent. -/
theorem runOn_drive_sendAll_error {command : Command α} {run middle : Run W α}
    {failure : Failure} (answered : (dispatch command).runOn run = (.error failure, middle))
    (rest : List (Command α)) :
    (drive dispatch (.sendAll (command :: rest))).runOn run = (.error failure, middle) := by
  rw [Procedure.sendAll, runOn_drive_send, answered]
  rfl

@[simp] theorem runOn_callFunction_finish (result : Except Failure Unit) (run : Run W α) :
    (callFunction setting (.finish result)).runOn run = (result, run) := rfl

@[simp] theorem runOn_callFunction_act (effect : W → W) (next : W → Callable W)
    (run : Run W α) :
    (callFunction setting (.act effect next)).runOn run =
      (callFunction setting (next (effect run.world))).runOn
        { run with world := effect run.world } := by
  simp [callFunction, Action.runOn_bind]

@[simp] theorem runOn_callFunction_invoke (path : List String) (arguments : List Json)
    (next : Except Failure Json → Callable W) (run : Run W α) :
    (callFunction setting (.invoke path arguments next)).runOn run =
      (callFunction setting
        (next ((setting.testBed.invoke path arguments).runOn run.world).1)).runOn
          (run.afterCall (.invoke path arguments)
            (setting.testBed.invoke path arguments)) := by
  rw [callFunction, Action.runOn_attempt_bind, runOn_call]

@[simp] theorem runOn_callFunction_close (next : Except Failure Unit → Callable W)
    (run : Run W α) :
    (callFunction setting (.close next)).runOn run =
      (callFunction setting (next (setting.testBed.closePage.runOn run.world).1)).runOn
        (run.afterCall .closePage setting.testBed.closePage) := by
  rw [callFunction, Action.runOn_attempt_bind, runOn_call]

end Driving

/-! ## Closing -/

section Closing

variable {setting}

/-- Without a session there is nothing to close. -/
theorem runOn_close_closed (closed : run.standing.sessionOpen = false) :
    (close setting).runOn run = (.ok (), run) := by
  rw [close, Action.runOn_bind_ok (runOn_standing run), closed]
  rfl

/-- A session that is to be kept running is only forgotten. -/
theorem runOn_close_kept (isOpen : run.standing.sessionOpen = true)
    (keeps : setting.config.keepRunning = true) :
    (close setting).runOn run =
      (.ok (), run.knowing { run.standing with sessionOpen := false }) := by
  rw [close, Action.runOn_bind_ok (runOn_standing run), isOpen]
  simp only [Bool.not_true, Bool.false_eq_true, if_false, keeps]
  rw [Action.runOn_bind_ok (runOn_revise run _)]
  rfl

/-- An open session is closed by two calls, whatever the first of them answers. -/
theorem runOn_close_open (isOpen : run.standing.sessionOpen = true)
    (stops : setting.config.keepRunning = false) :
    (close setting).runOn run =
      ((setting.testBed.closePage.runOn run.world).1.bind fun _ =>
        (setting.testBed.closeBuild.runOn (run.closingPage setting).world).1,
        run.closing setting) := by
  rw [close, Action.runOn_bind_ok (runOn_standing run), isOpen]
  simp only [Bool.not_true, Bool.false_eq_true, if_false, stops]
  rw [Action.runOn_bind_ok (runOn_revise run _)]
  have page : (call .closePage setting.testBed.closePage : Act W α Unit).runOn
      (run.knowing { run.standing with sessionOpen := false }) =
        ((setting.testBed.closePage.runOn run.world).1, run.closingPage setting) :=
    runOn_call _ _ _
  have build : (call .closeBuild setting.testBed.closeBuild : Act W α Unit).runOn
      (run.closingPage setting) =
        ((setting.testBed.closeBuild.runOn (run.closingPage setting).world).1,
          run.closing setting) :=
    runOn_call _ _ _
  rw [Action.runOn_attempt_bind, page, Action.runOn_attempt_bind, build]
  generalize (setting.testBed.closePage.runOn run.world).1 = pageClosed
  cases pageClosed with
  | error failure => rfl
  | ok _ => exact Action.runOn_ofExcept _ _

end Closing

end Runner

/-! ## Invocations -/

/-- An invocation is a drive and a close, and reports what was known then. A failure of
the drive counts before a failure of the close. -/
theorem Invocation.runOn_run (setting : Setting W α) (title : Option String)
    (procedure : Procedure W α) (start : Run W α) :
    (Invocation.run setting title procedure).runOn start =
      let driven := (Runner.driveToEnd setting procedure).runOn start
      let closed := (Runner.close setting).runOn driven.2
      (driven.1.bind fun ran => closed.1.map fun _ =>
        { title
          outcome := if ran then .passed else .skipped
          entriesRun := closed.2.standing.entriesRun
          stepsRun := closed.2.standing.stepsRun }, closed.2) := by
  rw [Invocation.run, Action.runOn_attempt_bind, Action.runOn_attempt_bind]
  rcases (Runner.driveToEnd setting procedure).runOn start with ⟨driven, after⟩
  dsimp only
  rcases (Runner.close setting).runOn after with ⟨closed, final⟩
  cases driven with
  | error failure => rfl
  | ok ran =>
      cases closed with
      | error failure => rfl
      | ok _ => rfl

/-- An invocation that passes has run its test to the end. -/
theorem Invocation.driven_of_passed {setting : Setting W α} {title : Option String}
    {procedure : Procedure W α} {start after : Run W α} {report : Report}
    (ended : (Invocation.run setting title procedure).runOn start = (.ok report, after))
    (passed : report.outcome = .passed) :
    ((Runner.driveToEnd setting procedure).runOn start).1 = .ok true := by
  rw [Invocation.runOn_run] at ended
  have reported := congrArg Prod.fst ended
  generalize (Runner.driveToEnd setting procedure).runOn start = driving at reported ⊢
  obtain ⟨driven, middle⟩ := driving
  dsimp only at reported
  generalize (Runner.close setting).runOn middle = closing at reported
  obtain ⟨closed, final⟩ := closing
  cases driven with
  | error failure => exact nomatch reported
  | ok ran =>
      cases closed with
      | error failure => exact nomatch reported
      | ok _ =>
          obtain rfl := Except.ok.inj reported
          cases ran with
          | false => exact nomatch passed
          | true => rfl

/-! ## The simplest test bed -/

/-- A test bed that does nothing and succeeds at everything. -/
def TestBed.still : TestBed Unit where
  launch := pure ()
  reset _ := pure []
  write _ := pure ()
  wait _ := pure ()
  invoke _ _ := pure .null
  closePage := pure ()
  closeBuild := pure ()

/-- The setting of a test with one sub-procedure and one function, which do nothing. -/
def Setting.plain (testBed : TestBed W) : Setting W Unit where
  config := {}
  testBed := testBed
  playbook := ⟨fun _ => .finish (.ok ()), fun _ => .finish (.ok ())⟩

/-- The failure of declaring files to start with when the session has started. -/
def Failure.lateInit : Failure :=
  (Runner.outOfOrder .initAfterStart).withHelp
    "declare init files and the initial update before any change or page call"

/-- The setting of a test with two sub-procedures. One of them declares files to start with and
goes on whatever the answer is, the other one fails with a failure that ends nothing. -/
def Setting.forgiving : Setting Unit Bool where
  config := {}
  testBed := .still
  playbook := {
    procedure := fun forgives =>
      if forgives then .send (.init (.files {})) fun _ => .finish (.ok ())
      else .finish (.error { cause := .io "no such file", phase := .io })
    function := fun _ => .finish (.ok ()) }

end HotReload
