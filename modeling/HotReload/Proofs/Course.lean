import HotReload.Proofs.Release

/-!
# How the parts of a run nest

A move says what may happen next, but not inside of what. A course is a part of a run
together with its own parts: a procedure consists of commands, a command of what the runner
does for it, this of calls and of entries, an entry of its tasks, and a task of what a
procedure or the runner does for it. A course also says whether its part has ended well
(`Course`).

Everything the runner does is a course, whatever the procedures, the functions and the test
bed do (`dispatching_answer`, `working_runDue`): while a test is driven, the procedure has
its course first, and then the runner has its own, unless the run has been aborted or the
procedure has failed (`course_driveToEnd`). So a statement about nested entries is proved by
induction on a course, with one case for each way in which a part is made up.
-/

set_option autoImplicit false

namespace HotReload

variable {W α β γ : Type}

/-! ## Tasks -/

/-- One thing that is done for an entry. -/
inductive Task
  | hook (label : Label) (hook : Hook)
  | step (label : Label) (index : Nat)

namespace Task

/-- The event with which a task begins. -/
def began : Task → Event α
  | .hook label kind => .hookBegan label kind
  | .step label index => .stepBegan label index

/-- The event with which a task ends well. -/
def ended : Task → Event α
  | .hook label kind => .hookEnded label kind
  | .step label index => .stepEnded label index

/-- By how much a task raises the number of steps. -/
def steps : Task → Nat
  | .hook _ _ => 0
  | .step _ _ => 1

end Task

namespace Entry

/-- The task of a hook, if there is one. -/
def hookTasks (label : Label) (hook : Hook) : Option α → List Task
  | none => []
  | some _ => [.hook label hook]

/-- The tasks of steps, the first of which has a given index. -/
def stepTasks (label : Label) : (index : Nat) → List (Step α) → List Task
  | _, [] => []
  | index, _ :: rest => .step label index :: stepTasks label (index + 1) rest

/-- Everything that is done for an entry, in this order: the hook before, the steps, the hook
after. -/
def tasks (label : Label) (entry : Entry α) : List Task :=
  hookTasks label .before entry.before ++
    (stepTasks label 0 entry.steps ++ hookTasks label .after entry.after)

end Entry

/-- The run in which a task has begun. -/
def Run.taking (run : Run W α) (task : Task) : Run W α :=
  (run.knowing { run.standing with stepsRun := run.standing.stepsRun + task.steps }).noting
    task.began

/-! ## Courses -/

/-- Who is at work. -/
inductive Role
  /-- A procedure of the test. -/
  | test
  /-- The runner. -/
  | runner
  /-- The runner, for an entry of which these tasks are left. -/
  | tasks (tasks : List Task)

/-- Whether a task is done in this role: a procedure is driven for it, or the runner works. -/
def Role.doesTask : Role → Bool
  | .test | .runner => true
  | .tasks _ => false

/-- A part of a run: who is at work, whether it has ended well, where it has begun and where
it has ended. -/
inductive Course (setting : Setting W α) : Role → Bool → Run W α → Run W α → Prop
  /-- A procedure or a function acts on the world. -/
  | act {role : Role} {well : Bool} {run after : Run W α} (world : W)
      (rest : Course setting role well { run with world } after) :
      Course setting role well run after
  /-- A procedure ends. -/
  | finish (well : Bool) (run : Run W α) : Course setting .test well run run
  /-- A procedure sends a command to a runner that has been aborted. -/
  | refuse {well : Bool} {run after : Run W α} (command : Command α) (failure : Failure)
      (ended : run.standing.aborted = some failure)
      (rest : Course setting .test well
        ((run.noting (.dispatched command)).noting
          (.answered command (.error (Runner.outOfOrder (.aborted failure.message))))) after) :
      Course setting .test well run after
  /-- A procedure sends a command, which is carried out. If it fails fatally, the run has been
  aborted meanwhile. -/
  | answer {well : Bool} {run middle after : Run W α} (command : Command α)
      (result : Except Failure Reply) (goesOn : run.standing.aborted = none)
      (inside : Course setting .runner result.isOk (run.noting (.dispatched command)) middle)
      (recorded : ∀ failure, result = .error failure → failure.isFatal = true →
        middle.standing.aborted.isSome = true)
      (rest : Course setting .test well (middle.noting (.answered command result)) after) :
      Course setting .test well run after
  /-- A procedure sends a command, and its fatal failure aborts the run. -/
  | abort {well : Bool} {run middle after : Run W α} (command : Command α) (failure : Failure)
      (goesOn : run.standing.aborted = none)
      (inside : Course setting .runner false (run.noting (.dispatched command)) middle)
      (fatal : failure.isFatal = true) (first : middle.standing.aborted = none)
      (rest : Course setting .test well
        ((middle.aborting failure).noting (.answered command (.error failure))) after) :
      Course setting .test well run after
  /-- The runner does nothing more. -/
  | stay (well : Bool) (run : Run W α) : Course setting .runner well run run
  /-- The runner knows something else. -/
  | know {well : Bool} {run after : Run W α} (known : Standing α)
      (aborted : known.aborted = run.standing.aborted)
      (rest : Course setting .runner well (run.knowing known) after) :
      Course setting .runner well run after
  /-- The runner makes a call. -/
  | call {β : Type} {well : Bool} {run after : Run W α} (made : Call)
      (action : Action W Failure β) (isRunning : made.isRunning = true)
      (rest : Course setting .runner well (run.afterCall made action) after) :
      Course setting .runner well run after
  /-- The app cannot be opened. -/
  | failLaunch {run : Run W α} (failure : Failure) (goesOn : run.standing.aborted = none)
      (failed : (setting.testBed.launch.runOn run.world).1 = .error failure) :
      Course setting .runner false run ((run.launched setting).aborting failure)
  /-- The app is opened, and its first files cannot be written. -/
  | failReset {run : Run W α} (failure : Failure) (goesOn : run.standing.aborted = none)
      (opened : (setting.testBed.launch.runOn run.world).1 = .ok ())
      (failed : ((setting.testBed.reset run.standing.inits).runOn
        (run.launched setting).world).1 = .error failure) :
      Course setting .runner false run (((run.launched setting).resetting setting).aborting failure)
  /-- The app is opened and its first files are written. -/
  | start {well : Bool} {run after : Run W α} (changed : List String)
      (opened : (setting.testBed.launch.runOn run.world).1 = .ok ())
      (written : ((setting.testBed.reset run.standing.inits).runOn
        (run.launched setting).world).1 = .ok changed)
      (rest : Course setting .runner well (run.started setting) after) :
      Course setting .runner well run after
  /-- A flush brings the app to an update. -/
  | bring {well : Bool} {run after : Run W α} (label : Label) (changes : Changes)
      (rest : Course setting .runner well
        ((run.writing setting changes).noting (.brought label none)) after) :
      Course setting .runner well run after
  /-- A flush cannot bring the app to an update. -/
  | miss {run : Run W α} (label : Label) (failure : Failure) :
      Course setting .runner false run (run.noting (.brought label (some failure)))
  /-- An entry runs to its end. -/
  | entry {well : Bool} {run middle after : Run W α} (label : Label) (entry : Entry α)
      (flushing : Bool)
      (played : Course setting (.tasks (entry.tasks label)) true
        (run.beginning label entry flushing) middle)
      (rest : Course setting .runner well (middle.noting (.entryEnded label)) after) :
      Course setting .runner well run after
  /-- An entry fails. -/
  | stop {run after : Run W α} (label : Label) (entry : Entry α) (flushing : Bool)
      (played : Course setting (.tasks (entry.tasks label)) false
        (run.beginning label entry flushing) after) :
      Course setting .runner false run after
  /-- No task is left. -/
  | done (run : Run W α) : Course setting (.tasks []) true run run
  /-- The first task is done. -/
  | task {role : Role} {well : Bool} {run middle after : Run W α} (task : Task)
      (tasks : List Task) (doesTask : role.doesTask = true)
      (inside : Course setting role true (run.taking task) middle)
      (rest : Course setting (.tasks tasks) well (middle.noting task.ended) after) :
      Course setting (.tasks (task :: tasks)) well run after
  /-- The first task fails. -/
  | fail {role : Role} {run after : Run W α} (task : Task) (tasks : List Task)
      (doesTask : role.doesTask = true)
      (inside : Course setting role false (run.taking task) after) :
      Course setting (.tasks (task :: tasks)) false run after

namespace Course

variable {setting : Setting W α} {well : Bool} {run middle after : Run W α}

/-- What the runner does next is part of its course. -/
theorem append (first : Course setting .runner true run middle)
    (second : Course setting .runner well middle after) :
    Course setting .runner well run after := by
  generalize isRunner : Role.runner = role at first
  generalize isWell : true = ended at first
  induction first with
  | act world _ ih => exact .act world (ih second isRunner isWell)
  | stay => exact second
  | know known aborted _ ih => exact .know known aborted (ih second isRunner isWell)
  | call made action isRunning _ ih =>
      exact .call made action isRunning (ih second isRunner isWell)
  | start changed opened written _ ih =>
      exact .start changed opened written (ih second isRunner isWell)
  | bring label changes _ ih => exact .bring label changes (ih second isRunner isWell)
  | entry label entry flushing played _ _ ih =>
      exact .entry label entry flushing played (ih second isRunner isWell)
  | failLaunch | failReset | miss | stop => exact nomatch isWell
  | finish | refuse | answer | abort | done | task | fail => exact nomatch isRunner

/-- Tasks that are done before others are part of their course. -/
theorem append_tasks {former latter : List Task}
    (first : Course setting (.tasks former) true run middle)
    (second : Course setting (.tasks latter) well middle after) :
    Course setting (.tasks (former ++ latter)) well run after := by
  generalize isFormer : Role.tasks former = role at first
  generalize isWell : true = ended at first
  induction first generalizing former with
  | act world _ ih => exact .act world (ih second isFormer isWell)
  | done =>
      obtain rfl := Role.tasks.inj isFormer
      exact second
  | task task tasks doesTask inside _ _ ih =>
      obtain rfl := Role.tasks.inj isFormer
      exact .task task _ doesTask inside (ih second rfl isWell)
  | fail => exact nomatch isWell
  | _ => exact nomatch isFormer

/-- When tasks fail, those behind them are not begun. -/
theorem fail_tasks {former : List Task} (latter : List Task)
    (first : Course setting (.tasks former) false run after) :
    Course setting (.tasks (former ++ latter)) false run after := by
  generalize isFormer : Role.tasks former = role at first
  generalize isWell : false = ended at first
  induction first generalizing former with
  | act world _ ih => exact .act world (ih isFormer isWell)
  | done => exact nomatch isWell
  | task task tasks doesTask inside _ _ ih =>
      obtain rfl := Role.tasks.inj isFormer
      exact .task task _ doesTask inside (ih rfl isWell)
  | fail task tasks doesTask inside =>
      obtain rfl := Role.tasks.inj isFormer
      exact .fail task _ doesTask inside
  | _ => exact nomatch isFormer

end Course

/-! ## The runner at work -/

namespace Runner

variable {setting : Setting W α} {run : Run W α}

/-- An action is a course of the runner, from wherever it is taken. -/
def Working (setting : Setting W α) (action : Act W α β) : Prop :=
  ∀ run, Course setting .runner (action.runOn run).1.isOk run (action.runOn run).2

/-- The runner does one thing after the other. -/
theorem course_bind {first : Act W α β} {next : β → Act W α γ}
    (head : Course setting .runner (first.runOn run).1.isOk run (first.runOn run).2)
    (tail : ∀ answer, Working setting (next answer)) :
    Course setting .runner ((first >>= next).runOn run).1.isOk run
      ((first >>= next).runOn run).2 := by
  rw [Action.runOn_bind]
  cases ran : first.runOn run with
  | mk result middle =>
      rw [ran] at head
      cases result with
      | error failure => exact head
      | ok answer => exact head.append (tail answer middle)

theorem Working.bind {first : Act W α β} {next : β → Act W α γ} (head : Working setting first)
    (tail : ∀ answer, Working setting (next answer)) : Working setting (first >>= next) :=
  fun run => course_bind (head run) tail

theorem working_ofExcept (result : Except Failure β) :
    Working setting (Action.ofExcept result : Act W α β) :=
  fun run => .stay _ run

theorem working_pure (answer : β) : Working setting (pure answer : Act W α β) :=
  fun run => .stay _ run

theorem working_throw (failure : Failure) : Working setting (throw failure : Act W α β) :=
  fun run => .stay _ run

theorem working_standing : Working setting (standing : Act W α (Standing α)) :=
  fun run => .stay _ run

theorem working_revise {change : Standing α → Standing α}
    (aborted : ∀ known, (change known).aborted = known.aborted) :
    Working setting (revise change : Act W α Unit) :=
  fun run => .know _ (aborted run.standing) (.stay _ _)

theorem working_call {made : Call} (isRunning : made.isRunning = true)
    (action : Action W Failure β) : Working setting (call made action : Act W α β) := by
  intro run
  rw [runOn_call]
  exact .call made action isRunning (.stay _ _)

theorem working_requireSession : Working setting (requireSession : Act W α Unit) := by
  refine working_standing.bind fun known => ?_
  split
  · exact working_throw _
  · exact working_pure ()

theorem working_write (changes : Changes) : Working setting (write setting changes) :=
  working_requireSession.bind fun _ => working_call rfl _

theorem working_invoke (path : List String) (arguments : List Json) :
    Working setting (invoke setting path arguments) :=
  working_requireSession.bind fun _ => working_call rfl _

theorem working_callFunction (function : Callable W) :
    Working setting (callFunction setting function) := by
  intro run
  induction function generalizing run with
  | finish result => exact .stay _ run
  | act effect next ih =>
      rw [runOn_callFunction_act]
      exact .act _ (ih _ _)
  | invoke path arguments next ih =>
      rw [runOn_callFunction_invoke]
      exact .call _ _ rfl (ih _ _)
  | close next ih =>
      rw [runOn_callFunction_close]
      exact .call _ _ rfl (ih _ _)

theorem working_compareMarkup (label : Label) (index : Nat) (markup : String) :
    Working setting (compareMarkup setting label index markup) := by
  refine (working_invoke _ _).bind fun shown => ?_
  dsimp only
  split
  · exact working_throw _
  · exact working_pure ()

/-! ## Procedures and tasks -/

/-- Commands that are dispatched this way are parts of the course of a procedure. -/
def Dispatching (setting : Setting W α) (dispatch : Command α → Act W α Reply) : Prop :=
  ∀ run command well after,
    Course setting .test well ((dispatch command).runOn run).2 after →
      Course setting .test well run after

section Dispatching

variable {dispatch : Command α → Act W α Reply} (dispatching : Dispatching setting dispatch)
include dispatching

theorem course_drive (procedure : Procedure W α) (run : Run W α) :
    Course setting .test ((drive dispatch procedure).runOn run).1.isOk run
      ((drive dispatch procedure).runOn run).2 := by
  induction procedure generalizing run with
  | finish result => exact .finish _ run
  | act effect next ih =>
      rw [runOn_drive_act]
      exact .act _ (ih _ _)
  | send command next ih =>
      rw [runOn_drive_send]
      exact dispatching _ _ _ _ (ih _ _)

/-- A procedure is driven for a step, or the runner works. -/
theorem course_doStep (label : Label) (index : Nat) (step : Step α) (run : Run W α) :
    ∃ role : Role, role.doesTask = true ∧
      Course setting role ((doStep setting dispatch label index step).runOn run).1.isOk run
        ((doStep setting dispatch label index step).runOn run).2 := by
  cases step with
  | html markup => exact ⟨.runner, rfl, working_compareMarkup label index markup run⟩
  | sub handle => exact ⟨.test, rfl, course_drive dispatching _ run⟩
  | call handle =>
      exact ⟨.runner, rfl, working_requireSession.bind (fun _ => working_callFunction _) run⟩

theorem course_runSteps (label : Label) (index : Nat) (steps : List (Step α)) (run : Run W α) :
    Course setting (.tasks (Entry.stepTasks label index steps))
      ((runSteps setting dispatch label index steps).runOn run).1.isOk run
      ((runSteps setting dispatch label index steps).runOn run).2 := by
  induction steps generalizing index run with
  | nil => exact .done run
  | cons step rest ih =>
      have began : (runSteps setting dispatch label index (step :: rest)).runOn run =
          (doStep setting dispatch label index step >>= fun _ =>
            record (.stepEnded label index) >>= fun _ =>
              runSteps setting dispatch label (index + 1) rest).runOn
                (run.taking (.step label index)) := by
        simp [runSteps, runStep, Action.runOn_bind, Run.taking, Task.began, Task.steps]
      obtain ⟨role, doesTask, inside⟩ :=
        course_doStep dispatching label index step (run.taking (.step label index))
      rw [began, Action.runOn_bind]
      cases ran : (doStep setting dispatch label index step).runOn
          (run.taking (.step label index)) with
      | mk result middle =>
          rw [ran] at inside
          cases result with
          | error failure => exact .fail _ _ doesTask inside
          | ok _ =>
              dsimp only
              rw [Action.runOn_bind_ok (runOn_record middle _)]
              exact .task _ _ doesTask inside (ih (index + 1) _)

theorem course_runHook (label : Label) (hook : Hook) (handle : Option α) (run : Run W α) :
    Course setting (.tasks (Entry.hookTasks label hook handle))
      ((runHook setting dispatch label hook handle).runOn run).1.isOk run
      ((runHook setting dispatch label hook handle).runOn run).2 := by
  cases handle with
  | none => exact .done run
  | some handle =>
      have inside := course_drive dispatching (setting.playbook.procedure handle)
        (run.taking (.hook label hook))
      rw [runHook, Action.runOn_bind_ok (runOn_record run _), Action.runOn_bind]
      cases ran : (drive dispatch (setting.playbook.procedure handle)).runOn
          (run.noting (.hookBegan label hook)) with
      | mk result middle =>
          have same : (drive dispatch (setting.playbook.procedure handle)).runOn
              (run.taking (.hook label hook)) = (result, middle) := ran
          rw [same] at inside
          cases result with
          | error failure => exact .fail _ _ rfl inside
          | ok _ => exact .task _ _ rfl inside (.done _)

omit dispatching in
/-- Some tasks are done before what follows. -/
theorem course_tasks_bind {former latter : List Task} {first : Act W α Unit}
    {next : Unit → Act W α Unit}
    (head : Course setting (.tasks former) (first.runOn run).1.isOk run (first.runOn run).2)
    (tail : ∀ middle, Course setting (.tasks latter) ((next ()).runOn middle).1.isOk middle
      ((next ()).runOn middle).2) :
    Course setting (.tasks (former ++ latter)) ((first >>= next).runOn run).1.isOk run
      ((first >>= next).runOn run).2 := by
  rw [Action.runOn_bind]
  cases ran : first.runOn run with
  | mk result middle =>
      rw [ran] at head
      cases result with
      | error failure => exact head.fail_tasks latter
      | ok _ => exact head.append_tasks (tail middle)

/-- An entry is run by doing its tasks. -/
theorem working_runEntry (flushing : Bool) (label : Label) (entry : Entry α) :
    Working setting (runEntry setting dispatch flushing label entry) := by
  intro run
  rw [runOn_runEntry]
  let doTasks : Act W α Unit :=
    runHook setting dispatch label .before entry.before >>= fun _ =>
      runSteps setting dispatch label 0 entry.steps >>= fun _ =>
        runHook setting dispatch label .after entry.after
  have played : Course setting (.tasks (entry.tasks label))
      (doTasks.runOn (run.beginning label entry flushing)).1.isOk
      (run.beginning label entry flushing)
      (doTasks.runOn (run.beginning label entry flushing)).2 := by
    refine course_tasks_bind (course_runHook dispatching label .before entry.before _) ?_
    intro afterBefore
    refine course_tasks_bind (course_runSteps dispatching label 0 entry.steps afterBefore) ?_
    intro afterSteps
    exact course_runHook dispatching label .after entry.after afterSteps
  have apart : playEntry setting dispatch label entry =
      doTasks >>= fun _ => record (.entryEnded label) := by
    simp [playEntry, doTasks]
  rw [apart, Action.runOn_bind]
  cases ran : doTasks.runOn (run.beginning label entry flushing) with
  | mk result middle =>
      rw [ran] at played
      cases result with
      | error failure => exact .stop label entry flushing played
      | ok _ => exact .entry label entry flushing played (.stay _ _)

end Dispatching

/-! ## Running what is due -/

/-- While the session is not open, files cannot be written. -/
theorem runOn_write_closed (closed : run.standing.sessionOpen = false) (changes : Changes) :
    (write setting changes).runOn run =
      (.error (outOfOrder (.aborted "the session is not running")), run) := by
  simp [write, requireSession, Action.runOn_bind, closed]

theorem working_bringTo (label : Label) : Working setting (bringTo setting label) := by
  refine working_standing.bind fun known => ?_
  split
  · intro run
    rw [Action.runOn_attempt_bind]
    cases isOpen : run.standing.sessionOpen with
    | false =>
        rw [runOn_write_closed isOpen, Action.runOn_bind_ok (runOn_record run _)]
        exact .miss label _
    | true =>
        rw [runOn_write setting isOpen, Action.runOn_bind_ok (runOn_record _ _)]
        cases ((setting.testBed.write (known.changesFor label)).runOn run.world).1 with
        | error failure => exact .call _ _ rfl (.miss label failure)
        | ok _ => exact .bring label _ (.know _ (by rfl) (.stay _ _))
  · exact working_pure ()

theorem working_approach (upto : Option Label) (label : Label) :
    Working setting (approach setting upto label) := by
  cases upto with
  | none => exact working_bringTo label
  | some bound => exact working_pure ()

theorem working_takeDue (upto : Option Label) :
    Working setting (takeDue upto : Act W α _) := by
  refine working_standing.bind fun known => ?_
  split
  · exact working_pure none
  · exact (working_revise fun _ => by rfl).bind fun _ => working_pure _

/-! ## Commands -/

theorem working_register (label : Label) (entry : Entry α) :
    Working setting (register label entry : Act W α Unit) := by
  refine working_standing.bind fun known => ?_
  cases known.started with
  | true => exact working_throw _
  | false =>
      simp only [Bool.false_eq_true, ↓reduceIte]
      split
      · exact working_revise fun _ => rfl
      · refine (working_revise fun _ => by rfl).bind fun _ => ?_
        split
        · exact working_pure ()
        · exact working_throw _

theorem working_registerEach (entries : List (Label × Entry α)) :
    Working setting (registerEach entries : Act W α Unit) := by
  induction entries with
  | nil => exact working_pure ()
  | cons declared rest ih => exact (working_register declared.1 declared.2).bind fun _ => ih

theorem working_registerContents (contents : List (String × Content)) :
    Working setting (registerContents contents : Act W α Unit) :=
  working_revise fun _ => rfl

theorem working_registerSpec (source : String) (subs : List α) :
    Working setting (registerSpec source subs : Act W α Unit) := by
  refine (working_ofExcept _).bind fun document => ?_
  refine (working_registerContents document.contents).bind fun _ => ?_
  exact (working_ofExcept _).bind fun entries => working_registerEach entries

theorem working_declareInit (target : Target) :
    Working setting (declareInit target : Act W α Unit) := by
  intro run
  rw [declareInit, Action.runOn_bind_ok (runOn_standing run)]
  cases run.standing.started with
  | true => exact .stay _ run
  | false =>
      cases target with
      | files files => exact .know _ (by rfl) (.stay _ _)
      | label label => exact .know _ (by rfl) (.stay _ _)

section Due

variable {due : Option Label → Act W α Unit} (working : ∀ upto, Working setting (due upto))
include working

theorem working_enterInitial : Working setting (enterInitial due) := by
  refine working_standing.bind fun known => ?_
  cases known.initLabel with
  | none => exact working_pure ()
  | some label =>
      have required : Working setting (requireNoneBefore label : Act W α Unit) := by
        refine working_standing.bind fun known => ?_
        split
        · exact working_pure ()
        · split
          · exact working_throw _
          · exact working_pure ()
      refine required.bind fun _ => ?_
      exact (working_revise fun _ => by rfl).bind fun _ => working (some label)

/-- Unless the run has been aborted, starting the session is a course of the runner. -/
theorem course_ensureStarted (goesOn : run.standing.aborted = none) :
    Course setting .runner ((ensureStarted setting due).runOn run).1.isOk run
      ((ensureStarted setting due).runOn run).2 := by
  rcases ensureStarted_cases setting due run with
    ⟨-, ran⟩ | ⟨failure, -, failed, ran⟩ | ⟨failure, -, opened, failed, ran⟩ |
      ⟨changed, -, opened, written, ran⟩
  · rw [ran]
    exact .stay _ run
  · rw [ran]
    exact .failLaunch failure goesOn failed
  · rw [ran]
    exact .failReset failure goesOn opened failed
  · rw [ran]
    exact .start changed opened written (working_enterInitial working _)

theorem working_perform (command : Command α) : Working setting (perform setting due command) := by
  cases command with
  | init target => exact (working_declareInit target).bind fun _ => working_pure _
  | templates given => exact (working_revise fun _ => by rfl).bind fun _ => working_pure _
  | spec source subs => exact (working_registerSpec source subs).bind fun _ => working_pure _
  | contents files => exact (working_registerContents _).bind fun _ => working_pure _
  | expect steps => exact (working_registerEach _).bind fun _ => working_pure _
  | before label sub => exact (working_register _ _).bind fun _ => working_pure _
  | after label sub => exact (working_register _ _).bind fun _ => working_pure _
  | flush => exact (working none).bind fun _ => working_pure _
  | discard => exact (working_revise fun _ => by rfl).bind fun _ => working_pure _
  | change target =>
      cases target with
      | label label =>
          refine working_standing.bind fun known => ?_
          refine (working_write _).bind fun _ => ?_
          refine (working_revise fun _ => by rfl).bind fun _ => ?_
          exact (working (some label)).bind fun _ => working_pure _
      | files files =>
          intro run
          simp only [perform]
          rw [Action.runOn_bind_ok (runOn_standing run), Action.runOn_bind_ok (runOn_revise run _)]
          exact .know _ (by rfl) ((working_write _).bind (fun _ => working_pure _) _)
  | page path arguments => exact (working_invoke _ _).bind fun _ => working_pure _
  | innerText selector => exact (working_invoke _ _).bind fun _ => working_pure _
  | debug => exact working_standing.bind fun _ => working_pure _
  | wait what =>
      refine working_requireSession.bind fun _ => ?_
      exact (working_call rfl _).bind fun _ => working_pure _

theorem course_handle (command : Command α) (goesOn : run.standing.aborted = none) :
    Course setting .runner ((handle setting due command).runOn run).1.isOk run
      ((handle setting due command).runOn run).2 := by
  cases setup : command.isSetup with
  | true =>
      rw [runOn_handle_setup run setting setup]
      exact working_perform working command run
  | false =>
      rw [handle, setup]
      exact course_bind (course_ensureStarted working goesOn) fun _ =>
        working_perform working command

/-- An answer is part of the course of the procedure that has sent the command. -/
theorem dispatching_answer : Dispatching setting (answer setting due) := by
  intro run command well after rest
  cases aborted : run.standing.aborted with
  | some failure =>
      rw [runOn_answer_refused run setting due command aborted] at rest
      exact .refuse command failure aborted rest
  | none =>
      rw [runOn_answer run setting due command] at rest
      have inside : Course setting .runner _ (run.noting (.dispatched command)) _ :=
        course_handle working command aborted
      rw [runOn_carryOut (run.noting (.dispatched command)) setting aborted] at rest
      cases ran : (handle setting due command).runOn (run.noting (.dispatched command)) with
      | mk result middle =>
          rw [ran] at inside rest
          cases result with
          | ok reply => exact .answer command _ aborted inside (fun _ same => nomatch same) rest
          | error failure =>
              by_cases first : (failure.isFatal && middle.standing.aborted.isNone) = true
              · simp only [if_pos first] at rest
                rw [Bool.and_eq_true, Option.isNone_iff_eq_none] at first
                exact .abort command failure aborted inside first.1 first.2 rest
              · simp only [if_neg first] at rest
                refine .answer command _ aborted inside (fun other same fatal => ?_) rest
                obtain rfl := Except.error.inj same
                rw [fatal, Bool.true_and, Bool.not_eq_true, Option.isNone_eq_false_iff] at first
                exact first

end Due

theorem working_runDue (most : Nat) (upto : Option Label) :
    Working setting (runDue setting most upto) := by
  induction most generalizing upto with
  | zero => exact working_pure ()
  | succ most ih =>
      refine (working_takeDue upto).bind fun taken => ?_
      cases taken with
      | none => exact working_pure ()
      | some first =>
          obtain ⟨label, entry⟩ := first
          refine (working_approach upto label).bind fun _ => ?_
          refine (working_runEntry (dispatching_answer ih) _ label entry).bind fun _ => ?_
          exact ih upto

theorem working_runAllDue (upto : Option Label) : Working setting (runAllDue setting upto) :=
  working_standing.bind fun known => working_runDue known.remainingCount upto

/-! ## Driving a test -/

/-- Drives the procedure of a test, whose commands the runner answers. -/
def driveTest (setting : Setting W α) (procedure : Procedure W α) : Act W α Unit :=
  drive (answer setting (runAllDue setting)) procedure

/-- The run when the procedure of a test has returned. -/
def whenReturned (setting : Setting W α) (procedure : Procedure W α) (run : Run W α) : Run W α :=
  ((driveTest setting procedure).runOn run).2.noting
    (.returned ((driveTest setting procedure).runOn run).1)

/-- When the procedure has returned, the drive checks how. -/
theorem runOn_driveToEnd (setting : Setting W α) (procedure : Procedure W α) (run : Run W α) :
    (driveToEnd setting procedure).runOn run =
      (failIfAborted >>= fun _ =>
        Action.ofExcept ((driveTest setting procedure).runOn run).1 >>= fun _ =>
          finishEntries setting).runOn (whenReturned setting procedure run) := by
  rw [driveToEnd, Action.runOn_attempt_bind, Action.runOn_bind_ok (runOn_record _ _)]
  rfl

/-- When the procedure has returned, the drive ends with the failure that has aborted the run,
or with that of the procedure, or the entries that are left are run. -/
theorem driveToEnd_cases (setting : Setting W α) (procedure : Procedure W α) (run : Run W α) :
    (∃ failure, (whenReturned setting procedure run).standing.aborted = some failure ∧
      (driveToEnd setting procedure).runOn run =
        (.error failure, whenReturned setting procedure run)) ∨
    (∃ failure, (whenReturned setting procedure run).standing.aborted = none ∧
      (driveToEnd setting procedure).runOn run =
        (.error failure, whenReturned setting procedure run)) ∨
    ((whenReturned setting procedure run).standing.aborted = none ∧
      (driveToEnd setting procedure).runOn run =
        (finishEntries setting).runOn (whenReturned setting procedure run)) := by
  rw [runOn_driveToEnd]
  cases aborted : (whenReturned setting procedure run).standing.aborted with
  | some failure =>
      exact .inl ⟨failure, rfl,
        Action.runOn_bind_error (runOn_failIfAborted_some _ aborted) _⟩
  | none =>
      rw [Action.runOn_bind_ok (runOn_failIfAborted_none _ aborted)]
      cases ((driveTest setting procedure).runOn run).1 with
      | error failure => exact .inr (.inl ⟨failure, rfl, rfl⟩)
      | ok _ => exact .inr (.inr ⟨rfl, rfl⟩)

/-- When the procedure has returned well and nothing has aborted the run, the entries that are
left are run; otherwise the drive ends there. -/
theorem driveToEnd_ends_or_finishes (setting : Setting W α) (procedure : Procedure W α)
    (run : Run W α) :
    (¬(((driveTest setting procedure).runOn run).1 = .ok () ∧
        (whenReturned setting procedure run).standing.aborted = none) ∧
      ((driveToEnd setting procedure).runOn run).2 = whenReturned setting procedure run) ∨
    (((driveTest setting procedure).runOn run).1 = .ok () ∧
      (whenReturned setting procedure run).standing.aborted = none ∧
      (driveToEnd setting procedure).runOn run =
        (finishEntries setting).runOn (whenReturned setting procedure run)) := by
  rw [runOn_driveToEnd]
  cases aborted : (whenReturned setting procedure run).standing.aborted with
  | some failure =>
      rw [Action.runOn_bind_error (runOn_failIfAborted_some _ aborted)]
      exact .inl ⟨fun both => (nomatch both.2), rfl⟩
  | none =>
      rw [Action.runOn_bind_ok (runOn_failIfAborted_none _ aborted)]
      cases ((driveTest setting procedure).runOn run).1 with
      | error failure => exact .inl ⟨fun both => (nomatch both.1), rfl⟩
      | ok _ => exact .inr ⟨rfl, rfl, rfl⟩

/-- Nothing is run when the session has not started and no entries are declared. -/
theorem runOn_finishEntries_nothing {run : Run W α} (fresh : run.standing.started = false)
    (none : run.standing.expects = []) :
    (finishEntries setting).runOn run = (.ok false, run) := by
  simp [finishEntries, Action.runOn_bind, fresh, none]

/-- When the entries that are left are to be run, there are none, or the session cannot be
started, or they are flushed. A flush ends with the failure that has aborted the run, if one
has. -/
theorem finishEntries_cases (setting : Setting W α) (run : Run W α) :
    (run.standing.started = false ∧ run.standing.expects = [] ∧
      (finishEntries setting).runOn run = (.ok false, run)) ∨
    (∃ failure after,
      (ensureStarted setting (runAllDue setting)).runOn run = (.error failure, after) ∧
      (finishEntries setting).runOn run = (.error failure, after)) ∨
    (∃ begun,
      (ensureStarted setting (runAllDue setting)).runOn run = (.ok (), begun) ∧
      (finishEntries setting).runOn run =
        (match ((runAllDue setting none).runOn begun).2.standing.aborted with
          | some failure => .error failure
          | none => ((runAllDue setting none).runOn begun).1.map fun _ => true,
          ((runAllDue setting none).runOn begun).2)) := by
  rw [finishEntries, Action.runOn_bind_ok (runOn_standing run)]
  by_cases nothing : (!run.standing.started && run.standing.expects.isEmpty) = true
  · rw [if_pos nothing]
    rw [Bool.and_eq_true, Bool.not_eq_true', List.isEmpty_iff] at nothing
    exact .inl ⟨nothing.1, nothing.2, rfl⟩
  · rw [if_neg nothing]
    refine .inr ?_
    cases starts : (ensureStarted setting (runAllDue setting)).runOn run with
    | mk result begun =>
        cases result with
        | error failure =>
            exact .inl ⟨failure, begun, rfl, Action.runOn_bind_error starts _⟩
        | ok _ =>
            refine .inr ⟨begun, rfl, ?_⟩
            rw [Action.runOn_bind_ok starts, Action.runOn_attempt_bind]
            cases aborted : ((runAllDue setting none).runOn begun).2.standing.aborted with
            | some failure =>
                exact Action.runOn_bind_error (runOn_failIfAborted_some _ aborted) _
            | none =>
                rw [Action.runOn_bind_ok (runOn_failIfAborted_none _ aborted)]
                cases ((runAllDue setting none).runOn begun).1 with
                | error failure => rfl
                | ok _ => rfl

theorem course_driveTest (procedure : Procedure W α) (run : Run W α) :
    Course setting .test ((driveTest setting procedure).runOn run).1.isOk run
      ((driveTest setting procedure).runOn run).2 :=
  course_drive (dispatching_answer working_runAllDue) procedure run

/-- Unless the run has been aborted, running the entries that are left is a course of the
runner. -/
theorem course_finishEntries (goesOn : run.standing.aborted = none) :
    ∃ well, Course setting .runner well run ((finishEntries setting).runOn run).2 ∧
      (((finishEntries setting).runOn run).1 = .ok true → well = true) := by
  have started : Course setting .runner
      ((ensureStarted setting (runAllDue setting)).runOn run).1.isOk run
      ((ensureStarted setting (runAllDue setting)).runOn run).2 :=
    course_ensureStarted working_runAllDue goesOn
  rcases finishEntries_cases setting run with
    ⟨-, -, ran⟩ | ⟨failure, after, starts, ran⟩ | ⟨begun, starts, ran⟩
  · rw [ran]
    exact ⟨true, .stay true run, fun _ => rfl⟩
  · rw [starts] at started
    rw [ran]
    exact ⟨false, started, fun ends => nomatch ends⟩
  · rw [starts] at started
    rw [ran]
    refine ⟨_, started.append (working_runAllDue none begun), fun ends => ?_⟩
    dsimp only at ends
    split at ends
    · exact nomatch ends
    · cases flushed : ((runAllDue setting none).runOn begun).1 with
      | error failure =>
          rw [flushed] at ends
          exact nomatch ends
      | ok _ => rfl

/-- **While a test is driven, its procedure has its course, and then the runner has its own
unless the drive ends there.** -/
theorem course_driveToEnd (setting : Setting W α) (procedure : Procedure W α) (run : Run W α) :
    let ended := (driveToEnd setting procedure).runOn run
    Course setting .test ((driveTest setting procedure).runOn run).1.isOk run
        ((driveTest setting procedure).runOn run).2 ∧
      ((∃ failure, ended = (.error failure, whenReturned setting procedure run)) ∨
        (whenReturned setting procedure run).standing.aborted = none ∧
          ∃ well, Course setting .runner well (whenReturned setting procedure run) ended.2 ∧
            (ended.1 = .ok true → well = true)) := by
  intro ended
  refine ⟨course_driveTest procedure run, ?_⟩
  rcases driveToEnd_cases setting procedure run with
    ⟨failure, -, ran⟩ | ⟨failure, -, ran⟩ | ⟨goesOn, ran⟩
  · exact .inl ⟨failure, ran⟩
  · exact .inl ⟨failure, ran⟩
  · refine .inr ⟨goesOn, ?_⟩
    rw [show ended = _ from ran]
    exact course_finishEntries goesOn

end Runner

end HotReload
