import HotReload.Proofs.Course

/-!
# The failure that ends a run

A command that fails fatally ends the run, and so does a session that cannot be started.
Whatever the procedures do with such a failure, at whatever depth it occurs, the run fails and
every later command is refused (`ending_failure_not_swallowed`).

The run does not always fail with the first of its ending failures. It does so when the failure
occurs while the procedure is driven, and when it occurs in the last flush. Between the two, the
session may have to be started for the entries that are left, and a start that fails is reported
with its own failure: an entry that is due at the update the app starts with can handle a first
failure and then fail with another one, which is reported instead (`later_failure_reported`).
That is the only way in which the first failure gets lost (`first_failure_reported_iff`).

The invariant says that the first ending failure of the journal is the one that has aborted
the run (`Run.Sealed`). It holds between the parts of a course, not inside of a start.
-/

set_option autoImplicit false

namespace HotReload

variable {W α : Type}

/-! ## Ending failures -/

/-- The failure that ends the run, if an event tells of one: a command has failed fatally, or
the session could not be started. -/
def Event.ending? : Event α → Option Failure
  | .answered _ (.error failure) => if failure.isFatal then some failure else none
  | .called .launch failure => failure
  | .called (.reset _) failure => failure
  | _ => none

/-- The ending failures that a journal tells of, in the order in which they occurred. -/
def endingFailures (journal : List (Moment α)) : List Failure :=
  (journal.filterMap fun moment => moment.event.ending?).reverse

theorem endingFailures_append (newer older : List (Moment α)) :
    endingFailures (newer ++ older) = endingFailures older ++ endingFailures newer := by
  simp [endingFailures]

theorem endingFailures_cons (newest : Moment α) (older : List (Moment α)) :
    endingFailures (newest :: older) = endingFailures older ++ newest.event.ending?.toList := by
  rw [endingFailures, endingFailures, List.filterMap_cons]
  cases newest.event.ending? <;> simp

theorem endingFailures_silent {newest : Moment α} (silent : newest.event.ending? = none)
    (older : List (Moment α)) : endingFailures (newest :: older) = endingFailures older := by
  rw [endingFailures_cons, silent]
  exact List.append_nil _

theorem Event.ending?_of_fatal {failure : Failure} (fatal : failure.isFatal = true)
    (command : Command α) :
    (Event.answered command (.error failure)).ending? = some failure :=
  if_pos fatal

/-- A call in an open session ends nothing. -/
theorem Event.ending?_of_isRunning {made : Call} (isRunning : made.isRunning = true)
    (failure : Option Failure) : (Event.called made failure : Event α).ending? = none := by
  cases made with
  | launch | reset => exact nomatch isRunning
  | _ => rfl

/-! ## Refused commands -/

/-- Whether an event is not a command that reaches the runner. -/
def Event.dispatchesNothing : Event α → Bool
  | .dispatched _ => false
  | _ => true

/-- Journals in which every command that comes after an ending failure is refused at once,
with the text of the first of these failures. -/
inductive Refusing : List (Moment α) → Prop
  | nil : Refusing []
  /-- Something else happens. -/
  | line {older : List (Moment α)} (newest : Moment α)
      (other : newest.event.dispatchesNothing = true) (rest : Refusing older) :
      Refusing (newest :: older)
  /-- A command comes before all ending failures. -/
  | dispatch {older : List (Moment α)} (command : Command α) (known : Standing α)
      (goesOn : endingFailures older = []) (rest : Refusing older) :
      Refusing (⟨.dispatched command, known⟩ :: older)
  /-- A command comes after an ending failure. -/
  | refuse {older : List (Moment α)} (command : Command α) (known : Standing α)
      (first : Failure) (ended : (endingFailures older).head? = some first)
      (rest : Refusing older) :
      Refusing (⟨.answered command (.error (Runner.outOfOrder (.aborted first.message))), known⟩ ::
        ⟨.dispatched command, known⟩ :: older)

/-- A command that comes after an ending failure is answered by the next line, and refused. -/
theorem Refusing.refused {journal later earlier : List (Moment α)} {command : Command α}
    {known : Standing α} (refusing : Refusing journal)
    (split : journal = later ++ ⟨.dispatched command, known⟩ :: earlier)
    (ended : endingFailures earlier ≠ []) :
    ∃ (newer : List (Moment α)) (reason : String),
      later = newer ++
        [⟨.answered command (.error (Runner.outOfOrder (.aborted reason))), known⟩] := by
  induction refusing generalizing later with
  | nil => simp at split
  | line newest other rest ih =>
      cases later with
      | nil =>
          obtain ⟨rfl, -⟩ := List.cons.inj split
          exact nomatch other
      | cons head tail =>
          obtain ⟨newer, reason, rfl⟩ := ih (List.cons.inj split).2
          exact ⟨head :: newer, reason, rfl⟩
  | dispatch other now goesOn rest ih =>
      cases later with
      | nil =>
          obtain ⟨-, rfl⟩ := List.cons.inj split
          exact absurd goesOn ended
      | cons head tail =>
          obtain ⟨newer, reason, rfl⟩ := ih (List.cons.inj split).2
          exact ⟨head :: newer, reason, rfl⟩
  | refuse other now first _ rest ih =>
      match later, split with
      | [], split => exact nomatch (List.cons.inj split).1
      | [answer], split =>
          obtain ⟨rfl, same⟩ := List.cons.inj split
          obtain ⟨told, -⟩ := List.cons.inj same
          cases told
          exact ⟨[], first.message, rfl⟩
      | answer :: reached :: tail, split =>
          obtain ⟨newer, reason, rfl⟩ := ih (List.cons.inj (List.cons.inj split).2).2
          exact ⟨answer :: reached :: newer, reason, rfl⟩

/-! ## The invariant -/

/-- The first ending failure is the one that has aborted the run, and every command that came
after it has been refused. -/
structure Run.Sealed (run : Run W α) : Prop where
  first : (endingFailures run.journal).head? = run.standing.aborted
  refusing : Refusing run.journal

namespace Run.Sealed

variable {run : Run W α}

theorem initial (world : W) : ({ world } : Run W α).Sealed := ⟨rfl, .nil⟩

/-- A run that goes on has seen no ending failure. -/
theorem endingFailures_eq_nil (isSealed : run.Sealed) (goesOn : run.standing.aborted = none) :
    endingFailures run.journal = [] :=
  List.head?_eq_none_iff.1 (isSealed.first.trans goesOn)

theorem aborted_of_mem (isSealed : run.Sealed) {failure : Failure}
    (mem : failure ∈ endingFailures run.journal) : ∃ first, run.standing.aborted = some first := by
  cases aborted : run.standing.aborted with
  | some first => exact ⟨first, rfl⟩
  | none =>
      rw [isSealed.endingFailures_eq_nil aborted] at mem
      exact absurd mem List.not_mem_nil

theorem acting (isSealed : run.Sealed) (world : W) : ({ run with world } : Run W α).Sealed :=
  ⟨isSealed.first, isSealed.refusing⟩

theorem knowing (isSealed : run.Sealed) {known : Standing α}
    (aborted : known.aborted = run.standing.aborted) : (run.knowing known).Sealed :=
  ⟨isSealed.first.trans aborted.symm, isSealed.refusing⟩

/-- A line that tells of no ending failure and of no command keeps the seal. -/
theorem noting (isSealed : run.Sealed) {event : Event α} (silent : event.ending? = none)
    (other : event.dispatchesNothing = true) : (run.noting event).Sealed where
  first := by
    rw [Run.noting_journal, endingFailures_silent silent]
    exact isSealed.first
  refusing := .line _ other isSealed.refusing

theorem called (isSealed : run.Sealed) {β : Type} {made : Call} (isRunning : made.isRunning = true)
    (action : Action W Failure β) : (run.afterCall made action).Sealed :=
  (isSealed.acting (action.runOn run.world).2).noting (Event.ending?_of_isRunning isRunning _) rfl

theorem dispatched (isSealed : run.Sealed) (goesOn : run.standing.aborted = none)
    (command : Command α) : (run.noting (.dispatched command)).Sealed where
  first := by
    rw [Run.noting_journal, endingFailures_silent rfl]
    exact isSealed.first
  refusing := .dispatch command _ (isSealed.endingFailures_eq_nil goesOn) isSealed.refusing

/-- An ending failure that comes after the first one changes nothing. -/
theorem answered (isSealed : run.Sealed) (command : Command α) {result : Except Failure Reply}
    (recorded : ∀ failure, result = .error failure → failure.isFatal = true →
      run.standing.aborted.isSome = true) : (run.noting (.answered command result)).Sealed where
  first := by
    rw [Run.noting_journal, endingFailures_cons, List.head?_append, isSealed.first]
    cases aborted : run.standing.aborted with
    | some first => exact aborted.symm
    | none =>
        cases result with
        | ok reply => exact aborted.symm
        | error failure =>
            by_cases fatal : failure.isFatal = true
            · have ended := recorded failure rfl fatal
              rw [aborted] at ended
              exact nomatch ended
            · have silent : (Event.answered command (.error failure)).ending? = none :=
                if_neg fatal
              rw [silent]
              exact aborted.symm
  refusing := .line _ rfl isSealed.refusing

theorem refused (isSealed : run.Sealed) (command : Command α) {failure : Failure}
    (ended : run.standing.aborted = some failure) :
    ((run.noting (.dispatched command)).noting
      (.answered command (.error (Runner.outOfOrder (.aborted failure.message))))).Sealed where
  first := by
    rw [Run.noting_journal, Run.noting_journal, endingFailures_cons, endingFailures_silent rfl,
      List.head?_append, isSealed.first, ended]
    exact ended.symm
  refusing := .refuse command _ failure (isSealed.first.trans ended) isSealed.refusing

theorem taking (isSealed : run.Sealed) (task : Task) : (run.taking task).Sealed := by
  have knows : (run.knowing { run.standing with
      stepsRun := run.standing.stepsRun + task.steps }).Sealed := isSealed.knowing rfl
  cases task with
  | hook label hook => exact knows.noting rfl rfl
  | step label index => exact knows.noting rfl rfl

theorem ending (isSealed : run.Sealed) (task : Task) : (run.noting task.ended).Sealed := by
  cases task with
  | hook label hook => exact isSealed.noting rfl rfl
  | step label index => exact isSealed.noting rfl rfl

/-- The first ending failure aborts the run. -/
theorem aborts (isSealed : run.Sealed) (goesOn : run.standing.aborted = none) {after : Run W α}
    {failure : Failure}
    (told : endingFailures after.journal = endingFailures run.journal ++ [failure])
    (aborted : after.standing.aborted = some failure) (refusing : Refusing after.journal) :
    after.Sealed where
  first := by
    rw [told, isSealed.endingFailures_eq_nil goesOn, aborted]
    rfl
  refusing := refusing

end Run.Sealed

variable {setting : Setting W α}

/-- Opening the app ends the run if it fails. -/
theorem endingFailures_launched (run : Run W α) :
    endingFailures (run.launched setting).journal = endingFailures run.journal ++
      (Runner.failure? (setting.testBed.launch.runOn run.world).1).toList :=
  endingFailures_cons _ _

/-- Writing the first files ends the run if it fails. -/
theorem endingFailures_resetting (run : Run W α) :
    endingFailures (run.resetting setting).journal = endingFailures run.journal ++
      (Runner.failure?
        ((setting.testBed.reset run.standing.inits).runOn run.world).1).toList :=
  endingFailures_cons _ _

/-- Every course keeps the seal. -/
theorem Course.sealed {role : Role} {well : Bool} {run after : Run W α}
    (course : Course setting role well run after) (isSealed : run.Sealed) : after.Sealed := by
  induction course with
  | act world _ ih => exact ih (isSealed.acting world)
  | finish | stay | done => exact isSealed
  | refuse command failure ended _ ih => exact ih (isSealed.refused command ended)
  | answer command result goesOn _ recorded _ inside rest =>
      exact rest ((inside (isSealed.dispatched goesOn command)).answered command recorded)
  | abort command failure goesOn _ fatal first _ inside rest =>
      have before := inside (isSealed.dispatched goesOn command)
      refine rest (before.aborts first ?_ rfl (.line _ rfl (.line _ rfl before.refusing)))
      rw [Run.noting_journal, endingFailures_cons, Run.aborting_journal, endingFailures_silent rfl,
        Event.ending?_of_fatal fatal]
      rfl
  | know known aborted _ ih => exact ih (isSealed.knowing aborted)
  | call made action isRunning _ ih => exact ih (isSealed.called isRunning action)
  | @failLaunch run failure goesOn failed =>
      refine isSealed.aborts goesOn ?_ rfl (.line _ rfl (.line _ rfl isSealed.refusing))
      rw [Run.aborting_journal, endingFailures_silent rfl, endingFailures_launched, failed]
      rfl
  | @failReset run failure goesOn opened failed =>
      refine isSealed.aborts goesOn ?_ rfl
        (.line _ rfl (.line _ rfl (.line _ rfl isSealed.refusing)))
      have reset : ((setting.testBed.reset (run.launched setting).standing.inits).runOn
          (run.launched setting).world).1 = .error failure := failed
      rw [Run.aborting_journal, endingFailures_silent rfl, endingFailures_resetting, reset,
        endingFailures_launched, opened]
      exact congrArg (· ++ [failure]) (List.append_nil _)
  | @start well run after changed opened written _ ih =>
      refine ih ⟨?_, .line _ rfl (.line _ rfl isSealed.refusing)⟩
      have reset : ((setting.testBed.reset (run.launched setting).standing.inits).runOn
          (run.launched setting).world).1 = .ok changed := written
      rw [Run.started, Run.knowing_journal, endingFailures_resetting, reset,
        endingFailures_launched, opened]
      exact (congrArg List.head? ((List.append_nil _).trans (List.append_nil _))).trans
        isSealed.first
  | bring label changes _ ih => exact ih ((isSealed.called rfl _).noting rfl rfl)
  | miss label failure => exact isSealed.noting rfl rfl
  | entry label entry flushing _ _ inside rest =>
      exact rest ((inside ((isSealed.noting rfl rfl).knowing rfl)).noting rfl rfl)
  | stop label entry flushing _ inside => exact inside ((isSealed.noting rfl rfl).knowing rfl)
  | task task tasks _ _ _ inside rest => exact rest ((inside (isSealed.taking task)).ending task)
  | fail task tasks _ _ inside => exact inside (isSealed.taking task)

/-! ## What a run with an ending failure reports -/

section Drives

variable (setting : Setting W α) (procedure : Procedure W α) (world : W)

theorem sealed_whenReturned :
    (Runner.whenReturned setting procedure ({ world } : Run W α)).Sealed :=
  ((Runner.course_driveTest procedure _).sealed (.initial world)).noting rfl rfl

theorem sealed_driveToEnd : ((Runner.driveToEnd setting procedure).runOn { world }).2.Sealed := by
  have returned := sealed_whenReturned setting procedure world
  rcases (Runner.course_driveToEnd setting procedure { world }).2 with
    ⟨failure, ran⟩ | ⟨-, well, course, -⟩
  · rw [ran]
    exact returned
  · exact course.sealed returned

/-- A run that has been aborted fails. -/
theorem error_of_aborted {first : Failure}
    (aborted : ((Runner.driveToEnd setting procedure).runOn { world }).2.standing.aborted =
      some first) :
    ∃ failure, ((Runner.driveToEnd setting procedure).runOn { world }).1 = .error failure := by
  rcases Runner.driveToEnd_cases setting procedure { world } with
    ⟨failure, -, ran⟩ | ⟨failure, -, ran⟩ | ⟨goesOn, ran⟩
  · exact ⟨failure, congrArg Prod.fst ran⟩
  · exact ⟨failure, congrArg Prod.fst ran⟩
  · rw [ran] at aborted ⊢
    rcases Runner.finishEntries_cases setting
        (Runner.whenReturned setting procedure { world }) with
      ⟨-, -, same⟩ | ⟨failure, after, -, same⟩ | ⟨begun, -, same⟩
    · rw [same] at aborted
      exact nomatch goesOn.symm.trans aborted
    · exact ⟨failure, congrArg Prod.fst same⟩
    · rw [same] at aborted ⊢
      exact ⟨first, by rw [aborted]⟩

/-- **A fatal failure cannot be swallowed.** If a command of a procedure or of a
sub-procedure fails fatally, or the session cannot be started, the run fails, and every command
that comes after that is refused by the next line of the journal. This holds of every test,
whatever its sub-procedures, its functions and the test bed do. -/
theorem ending_failure_not_swallowed :
    let ended := (Runner.driveToEnd setting procedure).runOn { world }
    ∀ (later earlier : List (Moment α)) (moment : Moment α),
      ended.2.journal = later ++ moment :: earlier → moment.event.ending?.isSome = true →
      (∃ failure, ended.1 = .error failure) ∧
      ∀ (newer between : List (Moment α)) (command : Command α) (known : Standing α),
        later = newer ++ ⟨.dispatched command, known⟩ :: between →
        ∃ (latest : List (Moment α)) (reason : String),
          newer = latest ++
            [⟨.answered command (.error (Runner.outOfOrder (.aborted reason))), known⟩] := by
  intro ended later earlier moment journal isEnding
  have isSealed := sealed_driveToEnd setting procedure world
  obtain ⟨failure, told⟩ := Option.isSome_iff_exists.1 isEnding
  have mem : ∀ between : List (Moment α),
      failure ∈ endingFailures (between ++ moment :: earlier) := by
    intro between
    rw [endingFailures_append, endingFailures_cons, told]
    simp
  constructor
  · obtain ⟨first, aborted⟩ := isSealed.aborted_of_mem (journal ▸ mem later)
    exact error_of_aborted setting procedure world aborted
  · intro newer between command known split
    refine isSealed.refusing.refused ?_ (List.ne_nil_of_mem (mem between))
    rw [journal, split]
    simp

end Drives

/-- A run is ended by a failure, and fails itself. Commands come behind that failure, and all of
them are refused. -/
def RefusesBehind (failure : Failure) (ended : Except Failure Bool × Run W α) : Prop :=
  ∃ (later earlier : List (Moment α)) (moment : Moment α),
    ended.2.journal = later ++ moment :: earlier ∧ moment.event.ending? = some failure ∧
    (∃ reported, ended.1 = .error reported) ∧
    (∃ line ∈ later, line.event.isDispatch = true) ∧
    ∀ (newer between : List (Moment α)) (command : Command α) (known : Standing α),
      later = newer ++ ⟨.dispatched command, known⟩ :: between →
      ∃ (latest : List (Moment α)) (reason : String),
        newer = latest ++
          [⟨.answered command (.error (Runner.outOfOrder (.aborted reason))), known⟩]

/-- A line that tells of an ending failure divides its journal. -/
theorem exists_ending {journal : List (Moment α)} {place : Nat} {failure : Failure}
    (told : (journal[place]?).bind (fun line => line.event.ending?) = some failure) :
    ∃ moment, journal = journal.take place ++ moment :: journal.drop (place + 1) ∧
      moment.event.ending? = some failure := by
  obtain ⟨moment, there, ending⟩ := Option.bind_eq_some_iff.1 told
  obtain ⟨inside, rfl⟩ := List.getElem?_eq_some_iff.1 there
  refine ⟨_, ?_, ending⟩
  rw [← List.drop_eq_getElem_cons inside, List.take_append_drop]

/-- The setting of a test whose sub-procedures flush, and go on whatever the answer is. -/
def Setting.heedless : Setting Unit Unit where
  config := {}
  testBed := .still
  playbook := ⟨fun _ => .send .flush fun _ => .finish (.ok ()), fun _ => .finish (.ok ())⟩

/-- Neither does a procedure that handles a fatal failure let the run pass, nor the next command
through. The first failure is one of the protocol, and a hook handles it; the second is a mismatch
in an entry that runs inside of a step of another one, which handles it; the third is that of a spec
that cannot be read. -/
theorem refused_after_forgiven :
    RefusesBehind .lateInit ((Runner.driveToEnd .forgiving (Procedure.sendAll
      [.before ⟨"1"⟩ true, .init (.label ⟨"1"⟩), .flush, .flush])).runOn { world := () }) ∧
    RefusesBehind (Failure.mismatch "1" 0 "<p></p>" "")
      ((Runner.driveToEnd .heedless (Procedure.sendAll
        [.expect [(⟨"0"⟩, .sub ()), (⟨"1"⟩, .html "<p></p>")], .flush, .flush])).runOn
          { world := () }) ∧
    RefusesBehind ⟨.malformedDelimiter "::* z", .parse, some "spec", ⟨0, 5⟩, none⟩
      ((Runner.driveToEnd .heedless
        (.send (.spec "::* z" []) fun _ => .sendAll [.flush])).runOn { world := () }) := by
  have behind (α : Type) (setting : Setting Unit α) (procedure : Procedure Unit α) (place : Nat)
      (failure : Failure) :
      let ended := (Runner.driveToEnd setting procedure).runOn { world := () }
      (ended.2.journal[place]?).bind (fun line => line.event.ending?) = some failure →
      (∃ line ∈ ended.2.journal.take place, line.event.isDispatch = true) →
      RefusesBehind failure ended := by
    intro ended told sent
    obtain ⟨moment, split, ending⟩ := exists_ending told
    obtain ⟨fails, refused⟩ :=
      ending_failure_not_swallowed setting procedure () _ _ moment split (by rw [ending]; rfl)
    exact ⟨_, _, moment, split, ending, fails, sent, refused⟩
  exact ⟨behind _ _ _ 6 _ (by decide +kernel) (by decide +kernel),
    behind _ _ _ 6 _ (by decide +kernel) (by decide +kernel),
    behind _ _ _ 3 _ (by decide +kernel) (by decide +kernel)⟩

/-- **When the first ending failure is the one that is reported.** If the procedure has returned
without an ending failure, and then the session cannot be started for the entries that are left,
the run fails with the failure of that start. In every other case it fails with the first of
its ending failures. So the first one is reported if and only if it is that of such a start,
or there is none. -/
theorem first_failure_reported_iff (setting : Setting W α) (procedure : Procedure W α)
    (world : W) :
    let ended := (Runner.driveToEnd setting procedure).runOn { world }
    let returned := Runner.whenReturned setting procedure { world }
    let start := (Runner.ensureStarted setting (Runner.runAllDue setting)).runOn returned
    ∀ (first : Failure) (others : List Failure),
      endingFailures ended.2.journal = first :: others →
      (ended.1 = .error first ↔ ∀ failure, returned.standing.aborted = none →
        start.1 = .error failure → failure = first) ∧
      ∀ failure, returned.standing.aborted = none → start.1 = .error failure →
        ended.1 = .error failure := by
  intro ended returned start first others told
  have returnedSealed : returned.Sealed := sealed_whenReturned setting procedure world
  have endedSealed : ended.2.Sealed := sealed_driveToEnd setting procedure world
  have aborted : ended.2.standing.aborted = some first := by
    rw [← endedSealed.first, told]
    rfl
  rcases Runner.driveToEnd_cases setting procedure { world } with
    ⟨failure, isAborted, ran⟩ | ⟨failure, goesOn, ran⟩ | ⟨goesOn, ran⟩
  · have ended_eq : ended = (.error failure, returned) := ran
    have same : failure = first := by
      rw [ended_eq] at aborted
      exact Option.some.inj (isAborted.symm.trans aborted)
    constructor
    · rw [ended_eq, same]
      exact ⟨fun _ _ goesOn => (nomatch isAborted.symm.trans goesOn), fun _ => rfl⟩
    · exact fun _ goesOn => nomatch isAborted.symm.trans goesOn
  · rw [show ended = _ from ran] at aborted
    exact nomatch goesOn.symm.trans aborted
  · have ended_eq : ended = (Runner.finishEntries setting).runOn returned := ran
    rcases Runner.finishEntries_cases setting returned with
      ⟨-, -, same⟩ | ⟨failure, after, starts, same⟩ | ⟨begun, starts, same⟩
    · rw [ended_eq.trans same] at aborted
      exact nomatch goesOn.symm.trans aborted
    · have reported : ended.1 = .error failure := congrArg Prod.fst (ended_eq.trans same)
      have failed : start.1 = .error failure := congrArg Prod.fst starts
      rw [reported, failed]
      constructor
      · constructor
        · intro isFirst other _ isOther
          exact (Except.error.inj isOther).symm.trans (Except.error.inj isFirst)
        · intro only
          rw [only failure goesOn rfl]
      · exact fun other _ isOther => congrArg Except.error (Except.error.inj isOther)
    · have started : start.1 = .ok () := congrArg Prod.fst starts
      have reported : ended.1 = .error first := by
        have final := ended_eq.trans same
        have isAborted : ((Runner.runAllDue setting none).runOn begun).2.standing.aborted =
            some first := by
          rw [final] at aborted
          exact aborted
        rw [final, isAborted]
      rw [reported, started]
      exact ⟨⟨fun _ _ _ failed => (nomatch failed), fun _ => rfl⟩,
        fun _ _ failed => nomatch failed⟩

/-- A test bed that cannot open the app. -/
def TestBed.unlaunchable : TestBed Unit :=
  { TestBed.still with launch := throw { cause := .io "no browser", phase := .io } }

/-- When the app cannot be opened for the entries that are left, this is what is reported. -/
theorem reported_of_failed_launch :
    let ended := (Runner.driveToEnd (.plain .unlaunchable)
      (Procedure.sendAll [.before ⟨"1"⟩ ()])).runOn { world := () }
    endingFailures ended.2.journal = [{ cause := .io "no browser", phase := .io }] ∧
      ended.1 = .error { cause := .io "no browser", phase := .io } := by
  intro ended
  refine ⟨rfl, ?_⟩
  refine ((first_failure_reported_iff (.plain .unlaunchable)
    (Procedure.sendAll [.before ⟨"1"⟩ ()]) () _ [] rfl).1).2 ?_
  intro failure _ failed
  exact (Except.error.inj failed).symm

/-- The first failure of an entry that is due when the session starts is handled, and the entry
then fails with another one, which is reported although the first one has aborted the run. -/
theorem later_failure_reported :
    let ended := (Runner.driveToEnd .forgiving (Procedure.sendAll
      [.before ⟨"1"⟩ true, .after ⟨"1"⟩ false, .init (.label ⟨"1"⟩)])).runOn { world := () }
    endingFailures ended.2.journal = [.lateInit] ∧
      ended.1 = .error { cause := .io "no such file", phase := .io } ∧
      Failure.lateInit ≠ { cause := .io "no such file", phase := .io } := by
  refine ⟨rfl, rfl, fun same => ?_⟩
  exact nomatch congrArg Failure.cause same

end HotReload
