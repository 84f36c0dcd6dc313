import HotReload.Proofs.Course
import HotReload.Proofs.FirstFiles
import HotReload.Proofs.LabelOrder
import HotReload.Proofs.Shift

/-!
# How a session comes to start

A run begins by preparing: declarations are collected, and nothing happens outside
(`Run.Preparing`). While it does so, what is known of files is what the commands in the journal
say (`Standing.Accounts`).

A command that needs the app ends the preparation, or the end of the procedure does when
entries are declared (`Needed`). The session is started then, which can fail in three ways
(`Run.Fails`) or leads into the session (`Run.Enters`): the app shows the update it starts
with, and the entry of this update, if there is one, has begun. What comes next are moves, or
nothing but talk between the test and a runner that has failed to start
(`Runner.went_driveToEnd`).
-/

set_option autoImplicit false

namespace HotReload

variable {W α β γ : Type}

/-! ## What only belongs to the preparation -/

/-- Whether an event is talk between a test and its runner: nothing is called and no entry
begins. -/
def Event.isTalk : Event α → Bool
  | .dispatched _ | .answered _ _ | .aborted _ | .returned _ => true
  | _ => false

theorem Event.call?_of_isTalk {event : Event α} (isTalk : event.isTalk = true) :
    event.call? = none := by
  cases event with
  | called => exact nomatch isTalk
  | _ => rfl

/-- Talk tells of no call. -/
theorem madeCalls_talk {lines : List (Moment α)}
    (talk : ∀ line ∈ lines, line.event.isTalk = true) : madeCalls lines = [] := by
  rw [madeCalls, List.reverse_eq_nil_iff, List.filterMap_eq_nil_iff]
  exact fun line mem => Event.call?_of_isTalk (talk line mem)

namespace Moment

/-- The line of a command that needs the app, unless it is refused. -/
def NeedsApp (line : Moment α) : Prop :=
  ∃ command, line.event = .dispatched command ∧ command.isSetup = false ∧
    line.standing.aborted = none

/-- The line of a procedure that has returned well, while nothing had aborted the run and
entries were declared. -/
def LeavesEntries (line : Moment α) : Prop :=
  line.event = .returned (.ok ()) ∧ line.standing.aborted = none ∧ line.standing.expects ≠ []

variable {known : Standing α}

theorem not_needsApp_of_isSetup {command : Command α} (setup : command.isSetup = true) :
    ¬NeedsApp ⟨.dispatched command, known⟩ := by
  rintro ⟨other, same, needs, -⟩
  obtain rfl := Event.dispatched.inj same
  exact Bool.noConfusion (setup.symm.trans needs)

theorem not_leavesEntries_dispatched (command : Command α) :
    ¬LeavesEntries ⟨.dispatched command, known⟩ := by
  rintro ⟨same, -⟩
  cases same

theorem not_needsApp_of_aborted (event : Event α) {failure : Failure}
    (ended : known.aborted = some failure) : ¬NeedsApp ⟨event, known⟩ := by
  rintro ⟨-, -, -, goesOn⟩
  exact nomatch ended.symm.trans goesOn

end Moment

/-- A command needs the app, or the procedure leaves entries to run. -/
def Needed (journal : List (Moment α)) : Prop :=
  ∃ line ∈ journal, line.NeedsApp ∨ line.LeavesEntries

theorem needed_cons (newest : Moment α) (older : List (Moment α)) :
    Needed (newest :: older) ↔ (newest.NeedsApp ∨ newest.LeavesEntries) ∨ Needed older := by
  simp [Needed]

theorem Needed.append {older : List (Moment α)} (needed : Needed older)
    (newer : List (Moment α)) : Needed (newer ++ older) := by
  obtain ⟨line, mem, needs⟩ := needed
  exact ⟨line, List.mem_append_right newer mem, needs⟩

namespace Run

variable {run : Run W α}

/-- A run that has had no reason yet to start the session. -/
structure Preparing (run : Run W α) : Prop where
  fresh : run.standing.started = false
  nowhere : run.standing.cursor = none
  talk : ∀ line ∈ run.journal, line.event.isTalk = true
  files : run.standing.Accounts run.journal
  unneeded : ¬Needed run.journal

/-- A run that starts the session now. -/
structure Starting (run : Run W α) : Prop where
  fresh : run.standing.started = false
  nowhere : run.standing.cursor = none
  talk : ∀ line ∈ run.journal, line.event.isTalk = true
  files : run.standing.Accounts run.journal
  needed : Needed run.journal

namespace Preparing

theorem initial (world : W) : ({ world } : Run W α).Preparing where
  fresh := rfl
  nowhere := rfl
  talk := List.forall_mem_nil _
  files := .initial
  unneeded := by simp [Needed]

theorem acting (preparing : run.Preparing) (world : W) : ({ run with world } : Run W α).Preparing :=
  { preparing with }

/-- Talk in which no command is heard goes on preparing, unless it needs the app. -/
theorem noting (preparing : run.Preparing) {event : Event α} (isTalk : event.isTalk = true)
    (unheard : Moment.heard? ⟨event, run.standing⟩ = none)
    (idle : ¬Moment.NeedsApp ⟨event, run.standing⟩)
    (none : ¬Moment.LeavesEntries ⟨event, run.standing⟩) : (run.noting event).Preparing where
  fresh := preparing.fresh
  nowhere := preparing.nowhere
  talk := List.forall_mem_cons.2 ⟨isTalk, preparing.talk⟩
  files := preparing.files.unheard unheard
  unneeded := by
    rw [noting_journal, needed_cons]
    exact not_or.2 ⟨not_or.2 ⟨idle, none⟩, preparing.unneeded⟩

theorem answered (preparing : run.Preparing) (command : Command α)
    (result : Except Failure Reply) : (run.noting (.answered command result)).Preparing :=
  preparing.noting rfl rfl (by rintro ⟨_, same, -⟩; cases same)
    (by rintro ⟨same, -⟩; cases same)

theorem aborting (preparing : run.Preparing) (failure : Failure) :
    (run.aborting failure).Preparing := by
  have known : (run.knowing { run.standing with aborted := some failure }).Preparing :=
    { preparing with files := { preparing.files with } }
  exact known.noting rfl rfl (by rintro ⟨_, same, -⟩; cases same)
    (by rintro ⟨same, -⟩; cases same)

/-- Talk that needs the app starts the session. -/
theorem starting (preparing : run.Preparing) {event : Event α}
    (needs : Moment.NeedsApp ⟨event, run.standing⟩ ∨ Moment.LeavesEntries ⟨event, run.standing⟩) :
    (run.noting event).Starting := by
  have told : event.isTalk = true ∧
      run.standing.Accounts (⟨event, run.standing⟩ :: run.journal) := by
    rcases needs with ⟨command, rfl, runs, goesOn⟩ | ⟨rfl, -⟩
    · exact ⟨rfl, preparing.files.needing (by rw [Moment.heard?, goesOn]) runs⟩
    · exact ⟨rfl, preparing.files.unheard rfl⟩
  refine ⟨preparing.fresh, preparing.nowhere, List.forall_mem_cons.2 ⟨told.1, preparing.talk⟩,
    told.2, ?_⟩
  rw [noting_journal, needed_cons]
  exact .inl needs

end Preparing

end Run

namespace Runner

variable {setting : Setting W α} {run : Run W α}

/-- A command that does not need the app goes on preparing. -/
theorem preparing_answer_setup (preparing : run.Preparing) (due : Option Label → Act W α Unit)
    {command : Command α} (setup : command.isSetup = true)
    (goesOn : run.standing.aborted = none) :
    ((answer setting due command).runOn run).2.Preparing := by
  have handled : ((handle setting due command).runOn
      (run.noting (.dispatched command))).2.Preparing := by
    rw [runOn_handle_setup _ setting setup]
    have fresh : (run.noting (.dispatched command)).standing.started = false := preparing.fresh
    obtain ⟨after, ran, started, cursor, files⟩ :=
      declared_perform fresh goesOn preparing.files setting due setup
    rw [ran]
    refine ⟨started.trans preparing.fresh, cursor.trans preparing.nowhere,
      List.forall_mem_cons.2 ⟨rfl, preparing.talk⟩, files, ?_⟩
    rw [Run.knowing_journal, Run.noting_journal, needed_cons, not_or, not_or]
    exact ⟨⟨Moment.not_needsApp_of_isSetup setup, Moment.not_leavesEntries_dispatched _⟩,
      preparing.unneeded⟩
  rw [runOn_answer, runOn_carryOut (run.noting (.dispatched command)) setting goesOn]
  cases ran : (handle setting due command).runOn (run.noting (.dispatched command)) with
  | mk result after =>
      rw [ran] at handled
      cases result with
      | ok reply => exact handled.answered command _
      | error failure =>
          dsimp only
          split
          · exact (handled.aborting failure).answered command _
          · exact handled.answered command _

/-- A command that is refused goes on preparing. -/
theorem preparing_answer_refused (preparing : run.Preparing) (due : Option Label → Act W α Unit)
    (command : Command α) {failure : Failure} (ended : run.standing.aborted = some failure) :
    ((answer setting due command).runOn run).2.Preparing := by
  have unheard : Moment.heard? ⟨.dispatched command, run.standing⟩ = none := by
    rw [Moment.heard?, ended]
  rw [runOn_answer_refused run setting due command ended]
  exact (preparing.noting rfl unheard (Moment.not_needsApp_of_aborted _ ended)
    (Moment.not_leavesEntries_dispatched command)).answered command _

end Runner

/-! ## Starting in vain, and entering the session -/

namespace Run

variable (setting : Setting W α) (run : Run W α)

/-- The session is started, and fails to: the app cannot be opened, its first files cannot be
written, or the update it is to start with comes too late. -/
inductive Fails : Run W α → Prop
  | unopened (failure : Failure)
      (failed : (setting.testBed.launch.runOn run.world).1 = .error failure) :
      Fails ((run.launched setting).aborting failure)
  | unwritten (failure : Failure)
      (opened : (setting.testBed.launch.runOn run.world).1 = .ok ())
      (failed : ((setting.testBed.reset run.standing.inits).runOn
        (run.launched setting).world).1 = .error failure) :
      Fails (((run.launched setting).resetting setting).aborting failure)
  | late (label : Label) (changed : List String)
      (opened : (setting.testBed.launch.runOn run.world).1 = .ok ())
      (written : ((setting.testBed.reset run.standing.inits).runOn
        (run.launched setting).world).1 = .ok changed)
      (initial : run.standing.initLabel = some label) :
      Fails (run.started setting)

/-- The session is started: no update is declared for this, or the app shows the declared
update and no entry is due, or the entry that is due there has begun. -/
inductive Enters : Run W α → Prop
  | bare (changed : List String)
      (opened : (setting.testBed.launch.runOn run.world).1 = .ok ())
      (written : ((setting.testBed.reset run.standing.inits).runOn
        (run.launched setting).world).1 = .ok changed)
      (initial : run.standing.initLabel = none) :
      Enters (run.started setting)
  | shows (label : Label) (changed : List String)
      (opened : (setting.testBed.launch.runOn run.world).1 = .ok ())
      (written : ((setting.testBed.reset run.standing.inits).runOn
        (run.launched setting).world).1 = .ok changed)
      (initial : run.standing.initLabel = some label)
      (nothing : (run.started setting).standing.due? (some label) = none) :
      Enters ((run.started setting).showing label)
  | begins (label : Label) (entry : Entry α) (rest : Table Label (Entry α))
      (changed : List String)
      (opened : (setting.testBed.launch.runOn run.world).1 = .ok ())
      (written : ((setting.testBed.reset run.standing.inits).runOn
        (run.launched setting).world).1 = .ok changed)
      (initial : run.standing.initLabel = some label)
      (due : (run.started setting).standing.due? (some label) = some ((label, entry), rest)) :
      Enters ((((run.started setting).showing label).leaving rest).beginning label entry false)

/-- Since an earlier state of the run there has only been talk. -/
def Talks (after : Run W α) : Prop :=
  ∃ lines, after.journal = lines ++ run.journal ∧ ∀ line ∈ lines, line.event.isTalk = true

variable {setting} {run}

theorem Talks.refl : run.Talks run :=
  ⟨[], rfl, List.forall_mem_nil _⟩

theorem Talks.trans {middle after : Run W α} (first : run.Talks middle)
    (second : middle.Talks after) : run.Talks after := by
  obtain ⟨older, before, olderTalk⟩ := first
  obtain ⟨newer, written, newerTalk⟩ := second
  refine ⟨newer ++ older, ?_, List.forall_mem_append.2 ⟨newerTalk, olderTalk⟩⟩
  rw [written, before, List.append_assoc]

theorem talks_noting {event : Event α} (isTalk : event.isTalk = true) :
    run.Talks (run.noting event) :=
  ⟨[_], rfl, List.forall_mem_singleton.2 isTalk⟩

theorem talks_aborting (failure : Failure) : run.Talks (run.aborting failure) :=
  ⟨[_], rfl, List.forall_mem_singleton.2 rfl⟩

/-- Once a session has been entered, it is open. -/
theorem Enters.isOpen {begun : Run W α} (enters : run.Enters setting begun) :
    begun.standing.sessionOpen = true := by
  cases enters with
  | bare | shows | begins => rfl

end Run

/-! ## The start -/

namespace Runner

variable {setting : Setting W α} {run : Run W α}

/-- An update to start with is refused if an entry waits before it. -/
theorem requireNoneBefore_cases (label : Label) (run : Run W α) :
    (∃ failure : Failure, failure.isFatal = true ∧
      (requireNoneBefore label : Act W α Unit).runOn run = (.error failure, run)) ∨
    ((∀ first rest, run.standing.due? none = some (first, rest) →
        first.1.before label = false) ∧
      (requireNoneBefore label : Act W α Unit).runOn run = (.ok (), run)) := by
  rw [requireNoneBefore, Action.runOn_bind_ok (runOn_standing run)]
  cases due : run.standing.due? none with
  | none =>
      refine .inr ⟨fun first rest waits => ?_, rfl⟩
      contradiction
  | some taken =>
      obtain ⟨⟨first, entry⟩, rest⟩ := taken
      cases before : first.before label with
      | true => exact .inl ⟨_, rfl, congrArg (fun action : Act W α Unit => action.runOn run)
          (if_pos before)⟩
      | false =>
          refine .inr ⟨?_, congrArg (fun action : Act W α Unit => action.runOn run)
            (if_neg (Bool.eq_false_iff.1 before))⟩
          rintro other others same
          obtain ⟨rfl, -⟩ := Prod.mk.inj (Option.some.inj same)
          exact before

/-- What is due at the update that the app starts with begins with the entry of this update. -/
theorem moves_runAllDue_begun {bound label : Label} {entry : Entry α}
    {rest : Table Label (Entry α)}
    (due : run.standing.due? (some bound) = some ((label, entry), rest))
    (isOpen : run.standing.sessionOpen = true) :
    Moves setting ((run.leaving rest).beginning label entry false)
      ((runAllDue setting (some bound)).runOn run).2 := by
  have count : run.standing.remainingCount = rest.entries.length + 1 := by
    rw [Standing.remainingCount_eq_length, Standing.waiting_of_due due, List.length_cons]
  rw [runAllDue, Action.runOn_bind_ok (runOn_standing run), count, runDue,
    Action.runOn_bind_ok (runOn_takeDue_some due)]
  exact moves_begunEntry (fun _ isOpen upto => moves_runDue _ upto isOpen) (some bound) label entry
    isOpen

/-- When no entry waits before the declared update, the app shows this update, and the entry
that is due there begins, if there is one. -/
theorem enters_showing {label : Label} {changed : List String}
    (opened : (setting.testBed.launch.runOn run.world).1 = .ok ())
    (written : ((setting.testBed.reset run.standing.inits).runOn
      (run.launched setting).world).1 = .ok changed)
    (initial : run.standing.initLabel = some label)
    (noneBefore : ∀ first rest, (run.started setting).standing.due? none = some (first, rest) →
      first.1.before label = false) :
    ∃ begun, run.Enters setting begun ∧ Moves setting begun
      ((runAllDue setting (some label)).runOn ((run.started setting).showing label)).2 := by
  cases due : (run.started setting).standing.due? (some label) with
  | none =>
      have still : ((run.started setting).showing label).standing.due? (some label) = none := due
      refine ⟨_, .shows label changed opened written initial due, ?_⟩
      rw [runAllDue, Action.runOn_bind_ok (runOn_standing _), runOn_runDue_none setting still]
  | some taken =>
      obtain ⟨⟨first, entry⟩, rest⟩ := taken
      obtain ⟨isFirst, reached⟩ := Standing.due?_bounded due
      obtain rfl : first = label :=
        Label.eq_of_atMost reached (noneBefore (first, entry) rest isFirst)
      have isOpen : ((run.started setting).showing first).standing.sessionOpen = true := rfl
      exact ⟨_, .begins first entry rest changed opened written initial due,
        moves_runAllDue_begun due isOpen⟩

/-- A session that is started fails to, or it is entered and moves on. -/
theorem ensureStarted_fails_or_enters (setting : Setting W α)
    (fresh : run.standing.started = false) :
    (∃ failure begun,
      (ensureStarted setting (runAllDue setting)).runOn run = (.error failure, begun) ∧
      run.Fails setting begun ∧
      (failure.isFatal = true ∨ begun.standing.aborted.isSome = true)) ∨
    (∃ begun, run.Enters setting begun ∧
      Moves setting begun ((ensureStarted setting (runAllDue setting)).runOn run).2) := by
  rcases ensureStarted_cases setting (runAllDue setting) run with
    ⟨started, -⟩ | ⟨failure, -, failed, ran⟩ | ⟨failure, -, opened, failed, ran⟩ |
      ⟨changed, -, opened, written, ran⟩
  · exact Bool.noConfusion (fresh.symm.trans started)
  · exact .inl ⟨failure, _, ran, .unopened failure failed, .inr rfl⟩
  · exact .inl ⟨failure, _, ran, .unwritten failure opened failed, .inr rfl⟩
  · rw [ran, enterInitial, Action.runOn_bind_ok (runOn_standing _)]
    cases initial : run.standing.initLabel with
    | none =>
        have bare : (run.started setting).standing.initLabel = none := initial
        rw [bare]
        exact .inr ⟨_, .bare changed opened written initial, .refl⟩
    | some label =>
        have declared : (run.started setting).standing.initLabel = some label := initial
        rw [declared]
        rcases requireNoneBefore_cases label (run.started setting) with
          ⟨failure, fatal, refused⟩ | ⟨noneBefore, required⟩
        · refine .inl ⟨failure, _, Action.runOn_bind_error refused _,
            .late label changed opened written initial, .inl fatal⟩
        · have shows : (requireNoneBefore label >>= fun _ =>
              revise (fun standing => { standing with cursor := some label }) >>= fun _ =>
                runAllDue setting (some label) : Act W α Unit).runOn (run.started setting) =
              (runAllDue setting (some label)).runOn ((run.started setting).showing label) := by
            rw [Action.runOn_bind_ok required, Action.runOn_bind_ok (runOn_revise _ _)]
            rfl
          rw [shows]
          exact .inr (enters_showing opened written initial noneBefore)

end Runner

/-! ## Driving a test -/

namespace Run

/-- How a run that starts the session goes on. -/
inductive Went (setting : Setting W α) (run after : Run W α) : Prop
  /-- The session has not come about, and after that there has only been talk. -/
  | nowhere (begun : Run W α) (fails : run.Fails setting begun) (talks : begun.Talks after)
  /-- The session has been entered. -/
  | on (begun : Run W α) (enters : run.Enters setting begun) (moves : Moves setting begun after)

/-- Where a procedure that is being driven has got to. -/
inductive Phase (setting : Setting W α) (run : Run W α) : Prop
  | preparing (preparing : run.Preparing)
  /-- The session has not come about, and the run has been aborted. -/
  | stopped (start begun : Run W α) (starting : start.Starting)
      (fails : start.Fails setting begun) (talks : begun.Talks run)
      (ended : run.standing.aborted.isSome = true)
  /-- The session has been entered. -/
  | running (start begun : Run W α) (starting : start.Starting)
      (enters : start.Enters setting begun) (moves : Moves setting begun run)

end Run

namespace Runner

variable {setting : Setting W α} {run : Run W α}

/-- A command that needs the app starts the session. -/
theorem phase_answer_starting (preparing : run.Preparing) {command : Command α}
    (runs : command.isSetup = false) (goesOn : run.standing.aborted = none) :
    ((answer setting (runAllDue setting) command).runOn run).2.Phase setting := by
  let start := run.noting (.dispatched command)
  have starting : start.Starting :=
    preparing.starting (.inl ⟨command, rfl, runs, goesOn⟩)
  rcases ensureStarted_fails_or_enters setting starting.fresh with
    ⟨failure, begun, ran, fails, fatal⟩ | ⟨begun, enters, moves⟩
  · rw [runOn_answer, runOn_carryOut start setting goesOn,
      runOn_handle_unstarted start setting runs ran]
    dsimp only
    split
    · exact .stopped start begun starting fails
        ((Run.talks_aborting failure).trans (Run.talks_noting rfl)) rfl
    · rename_i unrecorded
      refine .stopped start begun starting fails (Run.talks_noting rfl) ?_
      rcases fatal with fatal | ended
      · rw [fatal, Bool.true_and, Bool.not_eq_true, Option.isNone_eq_false_iff] at unrecorded
        exact unrecorded
      · exact ended
  · refine .running start begun starting enters (moves_answered goesOn ?_)
    cases ran : (ensureStarted setting (runAllDue setting)).runOn start with
    | mk result middle =>
        rw [ran] at moves
        cases result with
        | error failure =>
            rw [runOn_handle_unstarted start setting runs ran]
            exact moves
        | ok _ =>
            rw [runOn_handle_started start setting runs ran]
            exact moves.trans (moves_perform_running moves_runAllDue runs
              (moves.open enters.isOpen))

/-- Every answer leads from phase to phase. -/
theorem phase_answer (phase : run.Phase setting) (command : Command α) :
    ((answer setting (runAllDue setting) command).runOn run).2.Phase setting := by
  cases phase with
  | preparing preparing =>
      cases aborted : run.standing.aborted with
      | some failure => exact .preparing (preparing_answer_refused preparing _ command aborted)
      | none =>
          cases setup : command.isSetup with
          | true => exact .preparing (preparing_answer_setup preparing _ setup aborted)
          | false => exact phase_answer_starting preparing setup aborted
  | stopped start begun starting fails talks ended =>
      obtain ⟨failure, aborted⟩ := Option.isSome_iff_exists.1 ended
      rw [runOn_answer_refused run setting _ command aborted]
      exact .stopped start begun starting fails
        (talks.trans ((Run.talks_noting rfl).trans (Run.talks_noting rfl))) ended
  | running start begun starting enters moves =>
      have ready := Run.ready_of_open (moves.open enters.isOpen)
      exact .running start begun starting enters
        (moves.trans (moves_answer moves_runAllDue run ready command))

theorem phase_act (phase : run.Phase setting) (effect : W → W) :
    ({ run with world := effect run.world } : Run W α).Phase setting := by
  cases phase with
  | preparing preparing => exact .preparing (preparing.acting _)
  | stopped start begun starting fails talks ended =>
      exact .stopped start begun starting fails talks ended
  | running start begun starting enters moves =>
      exact .running start begun starting enters (moves.tail (.act run effect))

/-- A procedure is driven from phase to phase. -/
theorem phase_drive (phase : run.Phase setting) (procedure : Procedure W α) :
    ((drive (answer setting (runAllDue setting)) procedure).runOn run).2.Phase setting := by
  induction procedure generalizing run with
  | finish result => exact phase
  | act effect next ih =>
      rw [runOn_drive_act]
      exact ih _ (phase_act phase effect)
  | send command next ih =>
      rw [runOn_drive_send]
      exact ih _ (phase_answer phase command)

/-- When entries are declared, the session is started for them. -/
theorem went_finishEntries (starting : run.Starting) (entries : run.standing.expects ≠ []) :
    run.Went setting ((finishEntries setting).runOn run).2 := by
  rcases finishEntries_cases setting run with
    ⟨-, none, -⟩ | ⟨failure, after, starts, ran⟩ | ⟨begun, starts, ran⟩
  · exact absurd none entries
  · rw [ran]
    rcases ensureStarted_fails_or_enters setting starting.fresh with
      ⟨other, begun, fails, failed, -⟩ | ⟨begun, enters, moves⟩
    · obtain ⟨-, rfl⟩ := Prod.mk.inj (fails.symm.trans starts)
      exact .nowhere begun failed .refl
    · rw [starts] at moves
      exact .on begun enters moves
  · rw [ran]
    rcases ensureStarted_fails_or_enters setting starting.fresh with
      ⟨other, failed, fails, -⟩ | ⟨entered, enters, moves⟩
    · exact nomatch (Prod.mk.inj (fails.symm.trans starts)).1
    · rw [starts] at moves
      exact .on entered enters
        (moves.trans (moves_runAllDue begun (moves.open enters.isOpen) none))

/-- **While a test is driven, nothing happens outside until the app is needed, and then the
session is started once.** -/
theorem went_driveToEnd (setting : Setting W α) (procedure : Procedure W α) (world : W) :
    let ended := ((driveToEnd setting procedure).runOn { world }).2
    ended.Preparing ∨ ∃ start : Run W α, start.Starting ∧ start.Went setting ended := by
  intro ended
  let driven := (driveTest setting procedure).runOn { world }
  have phase : driven.2.Phase setting := phase_drive (.preparing (.initial world)) procedure
  rcases driveToEnd_ends_or_finishes setting procedure { world } with
    ⟨stops, ran⟩ | ⟨returned, goesOn, ran⟩
  · have ended_eq : ended = driven.2.noting (.returned driven.1) := ran
    rw [ended_eq]
    cases phase with
    | preparing preparing =>
        refine .inl (preparing.noting rfl rfl ?_ ?_)
        · rintro ⟨_, same, -⟩
          cases same
        · rintro ⟨same, goesOn, -⟩
          exact stops ⟨Event.returned.inj same, goesOn⟩
    | stopped start begun starting fails talks =>
        exact .inr ⟨start, starting, .nowhere begun fails (talks.trans (Run.talks_noting rfl))⟩
    | running start begun starting enters moves =>
        exact .inr ⟨start, starting, .on begun enters (moves.tail (.mark driven.2 _ rfl))⟩
  · have ended_eq : ended = ((finishEntries setting).runOn
        (driven.2.noting (.returned (.ok ())))).2 := by
      rw [← returned]
      exact congrArg Prod.snd ran
    rw [ended_eq]
    cases phase with
    | preparing preparing =>
        by_cases none : driven.2.standing.expects = []
        · have waits : (driven.2.noting (.returned (.ok ()))).Preparing :=
            preparing.noting rfl rfl (by rintro ⟨_, same, -⟩; cases same)
              fun leaves => leaves.2.2 none
          rw [runOn_finishEntries_nothing waits.fresh none]
          exact .inl waits
        · have starting := preparing.starting (.inr ⟨rfl, goesOn, none⟩)
          exact .inr ⟨_, starting, went_finishEntries starting none⟩
    | stopped start begun starting fails talks ended =>
        have still : driven.2.standing.aborted = none := goesOn
        rw [still] at ended
        exact nomatch ended
    | running start begun starting enters moves =>
        have returns : Moves setting begun (driven.2.noting (.returned (.ok ()))) :=
          moves.tail (.mark driven.2 _ rfl)
        have ready := Run.ready_of_open (returns.open enters.isOpen)
        exact .inr ⟨start, starting,
          .on begun enters (returns.trans (moves_finishEntries ready goesOn))⟩

end Runner

end HotReload
