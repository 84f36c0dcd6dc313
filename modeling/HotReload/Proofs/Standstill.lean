import HotReload.Proofs.Course

/-!
# What still happens after an abort

Once a run has been aborted, every command is refused. The runner itself does not look back,
though: when a sub-procedure handles the failure and ends well, the hook or the step for which
it was driven ends well too, and the runner goes on behind it. It does what is left of the entry,
runs the entries that are due after it, and carries out the command that has started the session
(`effect_after_abort`).

So an abort need not bring a run to a standstill. It does so if and only if the runner does not
resume after it, where to resume is to go on directly behind a hook, a step or an entry that has
ended (`effects_after_abort_iff`). As nothing begins before that, a hook or a step that has ended
well since the abort is one during which the run was aborted: its procedure has handled the
failure.

The proof looks at what precedes an effect. The runner only works while each abort so far lies
before a hook or a step that has ended well since (`Free`). This holds when the runner begins to
work for a command, because a run that goes on has not been aborted, and a hook or a step that
ends well restores it, whatever its procedure has done.
-/

set_option autoImplicit false

namespace HotReload

variable {W α : Type}

/-! ## Effects and ends -/

namespace Event

/-- Whether an event is an effect: a call to the test bed, or an entry, a hook or a step that
begins. -/
def isEffect : Event α → Bool
  | .called _ _ | .entryBegan _ _ _ | .hookBegan _ _ | .stepBegan _ _ => true
  | _ => false

/-- Whether a hook or a step ends well with an event. -/
def endsTask : Event α → Bool
  | .hookEnded _ _ | .stepEnded _ _ => true
  | _ => false

/-- Whether a hook, a step or an entry ends well with an event. -/
def isEnd : Event α → Bool
  | .hookEnded _ _ | .stepEnded _ _ | .entryEnded _ => true
  | _ => false

/-- Whether the run is aborted by an event. -/
def isAbort : Event α → Bool
  | .aborted _ => true
  | _ => false

theorem isEffect_began (task : Task) : (task.began : Event α).isEffect = true := by
  cases task <;> rfl

theorem endsTask_ended (task : Task) : (task.ended : Event α).endsTask = true := by
  cases task <;> rfl

theorem isEnd_of_endsTask {event : Event α} (endsTask : event.endsTask = true) :
    event.isEnd = true := by
  cases event with
  | hookEnded | stepEnded => rfl
  | _ => exact nomatch endsTask

theorem isAbort_of_isEffect {event : Event α} (isEffect : event.isEffect = true) :
    event.isAbort = false := by
  cases event with
  | aborted => exact nomatch isEffect
  | _ => rfl

theorem isAbort_of_isEnd {event : Event α} (isEnd : event.isEnd = true) :
    event.isAbort = false := by
  cases event with
  | aborted => exact nomatch isEnd
  | _ => rfl

end Event

/-- The runner goes on behind a hook, a step or an entry: some lines tell of an end and of an
effect directly behind it, which is the first one, and of a hook or a step that has ended well
before that. -/
def Resumes (lines : List (Moment α)) : Prop :=
  ∃ (newer : List (Moment α)) (effect ended : Moment α) (older : List (Moment α)),
    lines = newer ++ effect :: ended :: older ∧
      effect.event.isEffect = true ∧ ended.event.isEnd = true ∧
      (∀ moment ∈ ended :: older, moment.event.isEffect = false) ∧
      ∃ moment ∈ ended :: older, moment.event.endsTask = true

theorem Resumes.cons {lines : List (Moment α)} (newest : Moment α) (resumes : Resumes lines) :
    Resumes (newest :: lines) := by
  obtain ⟨newer, effect, ended, older, rfl, rest⟩ := resumes
  exact ⟨newest :: newer, effect, ended, older, rfl, rest⟩

/-! ## When the runner works -/

/-- What has happened since an abort when the runner works: a hook or a step has ended well, and
either there have been effects since, or something has just ended. -/
structure Resumed (lines : List (Moment α)) : Prop where
  task : ∃ moment ∈ lines, moment.event.endsTask = true
  goesOn : (∃ moment ∈ lines, moment.event.isEffect = true) ∨
    ∃ newest older, lines = newest :: older ∧ newest.event.isEnd = true

/-- The runner has resumed after each abort that a journal tells of. -/
def Free (journal : List (Moment α)) : Prop :=
  ∀ (later : List (Moment α)) (failure : Failure) (known : Standing α)
    (earlier : List (Moment α)),
    journal = later ++ ⟨.aborted failure, known⟩ :: earlier → Resumed later

/-- The runner was free at every effect that a journal tells of. -/
def Guarded : List (Moment α) → Prop
  | [] => True
  | newest :: older => (newest.event.isEffect = true → Free older) ∧ Guarded older

section Free

variable {newest : Moment α} {older : List (Moment α)}

theorem free_of_unaborted {journal : List (Moment α)}
    (unaborted : ∀ moment ∈ journal, moment.event.isAbort = false) : Free journal := by
  rintro later failure known earlier rfl
  exact nomatch unaborted _ (List.mem_append_right _ List.mem_cons_self)

/-- Behind a line that is no abort, the runner is free if it has resumed since every abort
before that line. -/
theorem free_cons (other : newest.event.isAbort = false)
    (resumed : ∀ (later : List (Moment α)) (failure : Failure) (known : Standing α)
      (earlier : List (Moment α)),
      older = later ++ ⟨.aborted failure, known⟩ :: earlier → Resumed (newest :: later)) :
    Free (newest :: older) := by
  intro later failure known earlier split
  cases later with
  | nil =>
      obtain ⟨rfl, -⟩ := List.cons.inj split
      exact nomatch other
  | cons head tail =>
      obtain ⟨rfl, same⟩ := List.cons.inj split
      exact resumed tail failure known earlier same

/-- A hook or a step that ends well sets the runner free. -/
theorem free_of_endsTask (endsTask : newest.event.endsTask = true) : Free (newest :: older) := by
  have isEnd := Event.isEnd_of_endsTask endsTask
  exact free_cons (Event.isAbort_of_isEnd isEnd) fun later failure known earlier _ =>
    ⟨⟨newest, List.mem_cons_self, endsTask⟩, .inr ⟨newest, later, rfl, isEnd⟩⟩

theorem Resumed.task_cons {lines : List (Moment α)} (resumed : Resumed lines)
    (newest : Moment α) : ∃ moment ∈ newest :: lines, moment.event.endsTask = true := by
  obtain ⟨moment, mem, endsTask⟩ := resumed.task
  exact ⟨moment, List.mem_cons_of_mem _ mem, endsTask⟩

namespace Free

variable (free : Free older)
include free

theorem effect (isEffect : newest.event.isEffect = true) : Free (newest :: older) :=
  free_cons (Event.isAbort_of_isEffect isEffect) fun later failure known earlier split =>
    ⟨(free later failure known earlier split).task_cons newest,
      .inl ⟨newest, List.mem_cons_self, isEffect⟩⟩

theorem ended (isEnd : newest.event.isEnd = true) : Free (newest :: older) :=
  free_cons (Event.isAbort_of_isEnd isEnd) fun later failure known earlier split =>
    ⟨(free later failure known earlier split).task_cons newest, .inr ⟨newest, later, rfl, isEnd⟩⟩

/-- Directly behind an effect, the runner stays free at any line that is no abort. -/
theorem behind {effect : Moment α} (isEffect : effect.event.isEffect = true)
    (other : newest.event.isAbort = false) : Free (newest :: effect :: older) := by
  refine free_cons other fun later failure known earlier split => ?_
  have resumed := free.effect isEffect later failure known earlier split
  refine ⟨resumed.task_cons newest, .inl ⟨effect, ?_, isEffect⟩⟩
  cases later with
  | nil =>
      obtain ⟨rfl, -⟩ := List.cons.inj split
      exact nomatch isEffect
  | cons head tail =>
      obtain ⟨rfl, -⟩ := List.cons.inj split
      exact List.mem_cons_of_mem _ List.mem_cons_self

end Free

end Free

/-- If the runner was free at every effect, an effect after an abort shows that the runner has
resumed. -/
theorem Guarded.resumes {later earlier : List (Moment α)} {failure : Failure}
    {known : Standing α} (guarded : Guarded (later ++ ⟨.aborted failure, known⟩ :: earlier))
    (some : ∃ moment ∈ later, moment.event.isEffect = true) : Resumes later := by
  induction later with
  | nil =>
      obtain ⟨moment, mem, _⟩ := some
      exact absurd mem List.not_mem_nil
  | cons newest older ih =>
      by_cases before : ∃ moment ∈ older, moment.event.isEffect = true
      · exact (ih guarded.2 before).cons newest
      · -- this is the first effect, so something has just ended
        have isEffect : newest.event.isEffect = true := by
          obtain ⟨moment, mem, isEffect⟩ := some
          rcases List.mem_cons.1 mem with rfl | mem
          · exact isEffect
          · exact absurd ⟨moment, mem, isEffect⟩ before
        have resumed := guarded.1 isEffect older failure known earlier rfl
        rcases resumed.goesOn with effects | ⟨ended, rest, rfl, isEnd⟩
        · exact absurd effects before
        · refine ⟨[], newest, ended, rest, rfl, isEffect, isEnd, ?_, resumed.task⟩
          intro moment mem
          exact Bool.eq_false_iff.2 fun isEffect => before ⟨moment, mem, isEffect⟩

/-! ## The invariant -/

/-- A run that goes on has not been aborted, and the runner was free at every effect. -/
structure Run.Stilled (run : Run W α) : Prop where
  unaborted : run.standing.aborted = none → ∀ moment ∈ run.journal, moment.event.isAbort = false
  guarded : Guarded run.journal

namespace Run.Stilled

variable {run : Run W α}

theorem initial (world : W) : ({ world } : Run W α).Stilled :=
  ⟨fun _ => List.forall_mem_nil _, trivial⟩

/-- While the run goes on, the runner is free. -/
theorem free (stilled : run.Stilled) (goesOn : run.standing.aborted = none) : Free run.journal :=
  free_of_unaborted (stilled.unaborted goesOn)

theorem acting (stilled : run.Stilled) (world : W) : ({ run with world } : Run W α).Stilled :=
  ⟨stilled.unaborted, stilled.guarded⟩

theorem knowing (stilled : run.Stilled) {known : Standing α}
    (aborted : known.aborted = run.standing.aborted) : (run.knowing known).Stilled :=
  ⟨fun goesOn => stilled.unaborted (aborted.symm.trans goesOn), stilled.guarded⟩

/-- A line that is neither an effect nor an abort. -/
theorem noting (stilled : run.Stilled) {event : Event α} (quiet : event.isEffect = false)
    (other : event.isAbort = false) : (run.noting event).Stilled where
  unaborted goesOn := List.forall_mem_cons.2 ⟨other, stilled.unaborted goesOn⟩
  guarded := ⟨fun isEffect => (nomatch quiet.symm.trans isEffect), stilled.guarded⟩

/-- An effect, for which the runner has to be free. -/
theorem doing (stilled : run.Stilled) (free : Free run.journal) {event : Event α}
    (other : event.isAbort = false) : (run.noting event).Stilled where
  unaborted goesOn := List.forall_mem_cons.2 ⟨other, stilled.unaborted goesOn⟩
  guarded := ⟨fun _ => free, stilled.guarded⟩

theorem calling (stilled : run.Stilled) (free : Free run.journal) {β : Type} (made : Call)
    (action : Action W Failure β) : (run.afterCall made action).Stilled :=
  (stilled.acting (action.runOn run.world).2).doing free rfl

theorem aborting (stilled : run.Stilled) (failure : Failure) : (run.aborting failure).Stilled where
  unaborted goesOn := nomatch goesOn
  guarded := ⟨fun isEffect => (nomatch isEffect), stilled.guarded⟩

theorem launching (stilled : run.Stilled) (free : Free run.journal) (setting : Setting W α) :
    (run.launched setting).Stilled := by
  have begun : (run.knowing run.standing.begun).Stilled := stilled.knowing rfl
  exact begun.calling free .launch setting.testBed.launch

theorem resetting (stilled : run.Stilled) (free : Free run.journal) (setting : Setting W α) :
    (run.resetting setting).Stilled :=
  stilled.calling free (.reset run.standing.inits) (setting.testBed.reset run.standing.inits)

theorem beginning (stilled : run.Stilled) (free : Free run.journal) (label : Label)
    (entry : Entry α) (flushing : Bool) : (run.beginning label entry flushing).Stilled := by
  have began : (run.noting (.entryBegan label entry flushing)).Stilled := stilled.doing free rfl
  exact began.knowing rfl

theorem taking (stilled : run.Stilled) (free : Free run.journal) (task : Task) :
    (run.taking task).Stilled := by
  have knows : (run.knowing { run.standing with
      stepsRun := run.standing.stepsRun + task.steps }).Stilled := stilled.knowing rfl
  cases task with
  | hook label hook => exact knows.doing free rfl
  | step label index => exact knows.doing free rfl

theorem ending (stilled : run.Stilled) (task : Task) : (run.noting task.ended).Stilled := by
  cases task with
  | hook label hook => exact stilled.noting rfl rfl
  | step label index => exact stilled.noting rfl rfl

end Run.Stilled

variable {setting : Setting W α}

/-- The runner only works while it is free, and is free again when its course has ended well. A
procedure may be driven at any time. -/
theorem Course.stilled {role : Role} {well : Bool} {run after : Run W α}
    (course : Course setting role well run after) (stilled : run.Stilled)
    (free : role ≠ .test → Free run.journal) :
    after.Stilled ∧ (role ≠ .test → well = true → Free after.journal) := by
  induction course with
  | act world _ ih => exact ih (stilled.acting world) free
  | finish => exact ⟨stilled, fun other => absurd rfl other⟩
  | refuse command failure ended _ ih =>
      exact ih ((stilled.noting rfl rfl).noting rfl rfl) fun other => absurd rfl other
  | @answer well run middle after command result goesOn _ _ _ inside rest =>
      have dispatched : (run.noting (.dispatched command)).Stilled := stilled.noting rfl rfl
      have done := (inside dispatched fun _ => dispatched.free goesOn).1
      exact rest (done.noting rfl rfl) fun other => absurd rfl other
  | @abort well run middle after command failure goesOn _ _ _ _ inside rest =>
      have dispatched : (run.noting (.dispatched command)).Stilled := stilled.noting rfl rfl
      have done := (inside dispatched fun _ => dispatched.free goesOn).1
      exact rest ((done.aborting failure).noting rfl rfl) fun other => absurd rfl other
  | stay | done => exact ⟨stilled, fun other _ => free other⟩
  | know known aborted _ ih => exact ih (stilled.knowing aborted) free
  | call made action _ _ ih =>
      have free := free Role.noConfusion
      exact ih (stilled.calling free made action) fun _ => free.effect rfl
  | failLaunch failure _ _ =>
      have free := free Role.noConfusion
      have launched := stilled.launching free setting
      exact ⟨launched.aborting failure, fun _ well => nomatch well⟩
  | failReset failure _ _ _ =>
      have free := free Role.noConfusion
      have launched := stilled.launching free setting
      have reset := launched.resetting (free.effect rfl) setting
      exact ⟨reset.aborting failure, fun _ well => nomatch well⟩
  | start changed _ _ _ ih =>
      have free := free Role.noConfusion
      have launched := stilled.launching free setting
      have reset := launched.resetting (free.effect rfl) setting
      exact ih (reset.knowing rfl) fun _ => (free.effect rfl).effect rfl
  | bring label changes _ ih =>
      have free := free Role.noConfusion
      exact ih ((stilled.calling free _ _).noting rfl rfl) fun _ => free.behind rfl rfl
  | miss => exact ⟨stilled.noting rfl rfl, fun _ well => nomatch well⟩
  | entry label entry flushing _ _ inside rest =>
      have free := free Role.noConfusion
      have began := stilled.beginning free label entry flushing
      obtain ⟨played, goesOn⟩ := inside began fun _ => free.effect rfl
      exact rest (played.noting rfl rfl) fun _ => (goesOn Role.noConfusion rfl).ended rfl
  | stop label entry flushing _ inside =>
      have free := free Role.noConfusion
      have began := stilled.beginning free label entry flushing
      exact ⟨(inside began fun _ => free.effect rfl).1, fun _ well => nomatch well⟩
  | task task tasks _ _ _ inside rest =>
      have free := free Role.noConfusion
      have done := (inside (stilled.taking free task) fun _ => free.effect
        (Event.isEffect_began task)).1
      obtain ⟨stilled, goesOn⟩ := rest (done.ending task) fun _ =>
        free_of_endsTask (Event.endsTask_ended task)
      exact ⟨stilled, fun _ => goesOn Role.noConfusion⟩
  | fail task tasks _ _ inside =>
      have free := free Role.noConfusion
      have done := (inside (stilled.taking free task) fun _ => free.effect
        (Event.isEffect_began task)).1
      exact ⟨done, fun _ well => nomatch well⟩

/-! ## What a whole run does after an abort -/

theorem guarded_driveToEnd (setting : Setting W α) (procedure : Procedure W α) (world : W) :
    Guarded ((Runner.driveToEnd setting procedure).runOn { world }).2.journal := by
  obtain ⟨driven, finished⟩ := Runner.course_driveToEnd setting procedure { world }
  have returned : (Runner.whenReturned setting procedure ({ world } : Run W α)).Stilled :=
    (driven.stilled (.initial world) fun other => absurd rfl other).1.noting rfl rfl
  rcases finished with ⟨failure, ran⟩ | ⟨goesOn, well, course, -⟩
  · rw [ran]
    exact returned.guarded
  · exact (course.stilled returned fun _ => returned.free goesOn).1.guarded

/-- **When there are effects after an abort.** There are some if and only if the runner resumes:
the first of them comes directly behind a hook, a step or an entry that has ended, and a hook or a
step has ended well since the abort. So if no hook and no step ends well after the abort, there
are no further calls and nothing begins. This holds of every test, whatever its sub-procedures,
its functions and the test bed do. -/
theorem effects_after_abort_iff (setting : Setting W α) (procedure : Procedure W α) (world : W) :
    let journal := ((Runner.driveToEnd setting procedure).runOn { world }).2.journal
    ∀ (later : List (Moment α)) (failure : Failure) (known : Standing α)
      (earlier : List (Moment α)),
      journal = later ++ ⟨.aborted failure, known⟩ :: earlier →
      ((∃ moment ∈ later, moment.event.isEffect = true) ↔ Resumes later) ∧
      ((∀ moment ∈ later, moment.event.endsTask = false) →
        ∀ moment ∈ later, moment.event.isEffect = false) := by
  intro journal later failure known earlier split
  have guarded : Guarded journal := guarded_driveToEnd setting procedure world
  rw [split] at guarded
  refine ⟨⟨guarded.resumes, ?_⟩, fun unended moment mem => ?_⟩
  · rintro ⟨newer, effect, ended, older, rfl, isEffect, -⟩
    exact ⟨effect, List.mem_append_right _ List.mem_cons_self, isEffect⟩
  · rw [Bool.eq_false_iff]
    intro isEffect
    obtain ⟨newer, effect, ended, older, rfl, -, -, -, task, isTask, endsTask⟩ :=
      guarded.resumes ⟨moment, mem, isEffect⟩
    have inside := List.mem_append_right newer (List.mem_cons_of_mem effect isTask)
    exact nomatch (unended task inside).symm.trans endsTask

/-- A command that starts the session is carried out, although an entry that is due at the start
has aborted the run. -/
theorem resumes_of_forgiven_start :
    let journal := ((Runner.driveToEnd .forgiving (Procedure.sendAll
      [.before ⟨"1"⟩ true, .init (.label ⟨"1"⟩), .page [] []])).runOn { world := () }).2.journal
    ∃ (later : List (Moment Bool)) (failure : Failure) (known : Standing Bool)
      (earlier : List (Moment Bool)),
      journal = later ++ ⟨.aborted failure, known⟩ :: earlier ∧ Resumes later := by
  intro journal
  refine ⟨[_, _, ⟨.called (.invoke [] []) none, _⟩, _, _, _], .lateInit, _, _, rfl, ?_⟩
  refine (effects_after_abort_iff .forgiving (Procedure.sendAll
    [.before ⟨"1"⟩ true, .init (.label ⟨"1"⟩), .page [] []]) () _ .lateInit _ _ rfl).1.1 ?_
  exact ⟨⟨.called (.invoke [] []) none, _⟩, .tail _ (.tail _ (.head _)), rfl⟩

/-- The hook after an entry is run, although the hook before it has aborted the run. -/
theorem effect_after_abort :
    let journal := ((Runner.driveToEnd .forgiving (Procedure.sendAll
      [.before ⟨"1"⟩ true, .after ⟨"1"⟩ true])).runOn { world := () }).2.journal
    ∃ (later : List (Moment Bool)) (failure : Failure) (known : Standing Bool)
      (earlier : List (Moment Bool)),
      journal = later ++ ⟨.aborted failure, known⟩ :: earlier ∧
        ∃ moment ∈ later, moment.event.isEffect = true := by
  intro journal
  refine ⟨[_, _, _, _, ⟨.hookBegan ⟨"1"⟩ .after, _⟩, _, _], .lateInit, _, _, rfl, ?_⟩
  exact ⟨⟨.hookBegan ⟨"1"⟩ .after, _⟩, .tail _ (.tail _ (.tail _ (.tail _ (.head _)))), rfl⟩

end HotReload
