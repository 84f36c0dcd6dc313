import HotReload.Proofs.Enclosure
import HotReload.Proofs.Preparation

/-!
# The update that a session starts with

A test may declare the update its app starts with. This is refused when the session is started and
an entry is declared in front of that update, since the entry could never be reached. Then no entry
begins in the whole invocation, and the drive fails, however the test goes on after the failure.
Otherwise the app shows the update once its first files have been written, and before anything else
is done the entry of this update is played, if there is one. It is the only entry that begins then,
unless its own sub-procedures send commands (`initial_update_refused_or_played`).

A session is started by the first command that needs the app, or when the procedure has returned
and entries are left (`ComesToStart`). The command is performed, or the entries that are left are
run, when the start has come to its end. So whatever else is written into the journal stands behind
what the start has written (`ComesToStart.starting_suffix`), and a start that is refused leaves
nothing but talk behind it (`ComesToStart.refused`).
-/

set_option autoImplicit false

namespace HotReload

variable {W α : Type} {setting : Setting W α}

/-- The failure of starting with an update that comes after the first entry. -/
def Failure.lateInitial (initial first : Label) : Failure :=
  Runner.outOfOrder (.invalidCommand "init"
    ("initial update " ++ initial.name ++ " comes after the first expected update " ++ first.name))

/-! ## The entry that waits first -/

namespace Standing

/-- An entry is declared for a label in front of a given one. -/
def ExpectsBefore (known : Standing α) (label : Label) : Prop :=
  ∃ expect ∈ known.expects, expect.1.before label = true

instance (known : Standing α) (label : Label) : Decidable (known.ExpectsBefore label) :=
  inferInstanceAs (Decidable (∃ expect ∈ known.expects, expect.1.before label = true))

variable {known : Standing α} {label : Label}

/-- When an entry waits in front of a label, the first one that waits does. -/
theorem first_before {entry : Label × Entry α} (mem : entry ∈ known.waiting)
    (before : entry.1.before label = true) :
    ∃ first rest, known.due? none = some (first, rest) ∧ first.1.before label = true := by
  rcases known.due?_cases none with ⟨nothing, -⟩ | ⟨first, behind, waiting, due⟩
  · rw [nothing] at mem
    exact absurd mem List.not_mem_nil
  · refine ⟨first, behind, due, ?_⟩
    rw [waiting] at mem
    rcases List.mem_cons.1 mem with rfl | later
    · exact before
    · have inFront : InFront first entry := first_inFront waiting entry later
      exact beq_iff_eq.2 (Std.TransCmp.lt_trans (beq_iff_eq.1 inFront) (beq_iff_eq.1 before))

/-- When no entry waits in front of a label, the entry of this label is the first. -/
theorem due?_of_mem {entry : Entry α} (mem : (label, entry) ∈ known.waiting)
    (noneBefore : ∀ other ∈ known.waiting, other.1.before label = false) :
    ∃ rest, known.due? (some label) = some ((label, entry), rest) := by
  rcases known.due?_cases (some label) with ⟨nothing, -⟩ | ⟨first, behind, waiting, due⟩
  · rw [nothing] at mem
    exact absurd mem List.not_mem_nil
  · rw [waiting] at mem noneBefore
    rcases List.mem_cons.1 mem with rfl | later
    · exact ⟨behind, due.trans (if_pos (Label.atMost_self label))⟩
    · have inFront : InFront first (label, entry) := first_inFront waiting _ later
      exact Bool.noConfusion ((noneBefore first List.mem_cons_self).symm.trans inFront)

/-- When no entry waits for a label or in front of it, none is due there. -/
theorem due?_eq_none_of_ne (noneBefore : ∀ other ∈ known.waiting, other.1.before label = false)
    (apart : ∀ other ∈ known.waiting, other.1 ≠ label) : known.due? (some label) = none := by
  apply due?_eq_none
  intro other mem
  rw [Bool.eq_false_iff]
  intro reached
  exact apart other mem (Label.eq_of_atMost reached (noneBefore other mem))

/-- The entries that wait when the session starts are in front of a label as they are declared. -/
theorem expectsBefore_iff :
    known.ExpectsBefore label ↔ ∃ entry ∈ known.begun.waiting, entry.1.before label = true := by
  have keys : ∀ key, key ∈ (Table.ofList known.expects).keys ↔ key ∈ known.expects.map Prod.fst :=
    fun _ => Table.mem_keys_ofList
  simp only [Table.keys, List.mem_map] at keys
  constructor
  · rintro ⟨expect, mem, before⟩
    obtain ⟨entry, listed, same⟩ := (keys expect.1).2 ⟨expect, mem, rfl⟩
    exact ⟨entry, listed, same ▸ before⟩
  · rintro ⟨entry, listed, before⟩
    obtain ⟨expect, mem, same⟩ := (keys entry.1).1 ⟨entry, listed, rfl⟩
    exact ⟨expect, mem, same ▸ before⟩

end Standing

namespace Runner

variable {procedure : Procedure W α} {run start begun : Run W α} {failure : Failure}

/-! ## Where the session is started -/

/-- Driving a procedure comes to start the session. The newest line of the run in which it does is
the command that needs the app, or says that the procedure has returned and leaves entries. -/
inductive ComesToStart (setting : Setting W α) : Procedure W α → Run W α → Run W α → Prop
  | act {effect : W → W} {next : W → Procedure W α} {run start : Run W α}
      (rest : ComesToStart setting (next (effect run.world))
        { run with world := effect run.world } start) :
      ComesToStart setting (.act effect next) run start
  /-- A command that does not need the app is answered before. -/
  | declare {command : Command α} {next : Except Failure Reply → Procedure W α}
      {run start : Run W α} (setup : command.isSetup = true)
      (rest : ComesToStart setting
        (next ((answer setting (runAllDue setting) command).runOn run).1)
        ((answer setting (runAllDue setting) command).runOn run).2 start) :
      ComesToStart setting (.send command next) run start
  | command {command : Command α} {next : Except Failure Reply → Procedure W α} {run : Run W α}
      (runs : command.isSetup = false) (fresh : run.standing.started = false)
      (goesOn : run.standing.aborted = none) :
      ComesToStart setting (.send command next) run (run.noting (.dispatched command))
  | ending {run : Run W α} (fresh : run.standing.started = false)
      (goesOn : run.standing.aborted = none) (entries : run.standing.expects ≠ []) :
      ComesToStart setting (.finish (.ok ())) run (run.noting (.returned (.ok ())))

theorem runOn_driveToEnd_act (effect : W → W) (next : W → Procedure W α) (run : Run W α) :
    (driveToEnd setting (.act effect next)).runOn run =
      (driveToEnd setting (next (effect run.world))).runOn
        { run with world := effect run.world } := by
  rw [runOn_driveToEnd, runOn_driveToEnd]
  simp only [whenReturned, driveTest, runOn_drive_act]

theorem runOn_driveToEnd_send (command : Command α) (next : Except Failure Reply → Procedure W α)
    (run : Run W α) :
    (driveToEnd setting (.send command next)).runOn run =
      (driveToEnd setting (next ((answer setting (runAllDue setting) command).runOn run).1)).runOn
        ((answer setting (runAllDue setting) command).runOn run).2 := by
  rw [runOn_driveToEnd, runOn_driveToEnd]
  simp only [whenReturned, driveTest, runOn_drive_send]

/-- When a procedure returns well and nothing has aborted the run, what is left is finished. -/
theorem runOn_driveToEnd_finish (goesOn : run.standing.aborted = none) :
    (driveToEnd setting (.finish (.ok ()))).runOn run =
      (finishEntries setting).runOn (run.noting (.returned (.ok ()))) := by
  have stillGoesOn : (run.noting (.returned (.ok ()))).standing.aborted = none := goesOn
  rw [runOn_driveToEnd]
  exact Action.runOn_bind_ok (runOn_failIfAborted_none _ stillGoesOn) _

/-- A run that has been aborted only talks, and fails with the failure that has aborted it. -/
theorem talks_driveToEnd_aborted (ended : run.standing.aborted = some failure)
    (procedure : Procedure W α) :
    ((driveToEnd setting procedure).runOn run).1 = .error failure ∧
      run.Talks ((driveToEnd setting procedure).runOn run).2 := by
  induction procedure generalizing run with
  | finish result =>
      have stillEnded : (run.noting (.returned result)).standing.aborted = some failure := ended
      have ran : (driveToEnd setting (.finish result)).runOn run =
          (.error failure, run.noting (.returned result)) := by
        rw [runOn_driveToEnd]
        exact Action.runOn_bind_error (runOn_failIfAborted_some _ stillEnded) _
      rw [ran]
      exact ⟨rfl, Run.talks_noting rfl⟩
  | act effect next ih =>
      rw [runOn_driveToEnd_act]
      exact ih (effect run.world) ended
  | send command next ih =>
      rw [runOn_driveToEnd_send, runOn_answer_refused run setting _ command ended]
      let refused := (run.noting (.dispatched command)).noting
        (.answered command (.error (outOfOrder (.aborted failure.message))))
      have stillEnded : refused.standing.aborted = some failure := ended
      obtain ⟨fails, talks⟩ := ih (.error (outOfOrder (.aborted failure.message))) stillEnded
      exact ⟨fails, ((Run.talks_noting rfl).trans (Run.talks_noting rfl)).trans talks⟩

namespace ComesToStart

variable (comes : ComesToStart setting procedure run start)
include comes

/-- A run that has been aborted does not come to start the session. -/
theorem goesOn : run.standing.aborted = none := by
  induction comes with
  | act _ ih => exact ih
  | @declare command next run start setup rest ih =>
      cases aborted : run.standing.aborted with
      | none => rfl
      | some failure =>
          rw [runOn_answer_refused run setting _ command aborted] at ih
          exact aborted.symm.trans ih
  | command _ _ goesOn => exact goesOn
  | ending _ goesOn => exact goesOn

/-- The session is only started while nothing has aborted the run. -/
theorem unaborted : start.standing.aborted = none := by
  induction comes with
  | act _ ih | declare _ _ ih => exact ih
  | command _ _ goesOn | ending _ goesOn => exact goesOn

theorem starting (preparing : run.Preparing) : start.Starting := by
  induction comes with
  | act _ ih => exact ih (preparing.acting _)
  | declare setup rest ih =>
      exact ih (preparing_answer_setup preparing _ setup (goesOn (.declare setup rest)))
  | command runs _ goesOn => exact preparing.starting (.inl ⟨_, rfl, runs, goesOn⟩)
  | ending _ goesOn entries => exact preparing.starting (.inr ⟨rfl, goesOn, entries⟩)

theorem moves (ready : run.Ready) : Moves setting run start := by
  induction comes with
  | act _ ih => exact .head (.act _ _) (ih ready)
  | @declare command next run start setup rest ih =>
      have moving : Moving setting (answer setting (runAllDue setting)) :=
        moves_answer moves_runAllDue
      have answered := moving run ready command
      exact answered.trans (ih (answered.ready ready))
  | @command command next run runs _ goesOn =>
      refine .single (.dispatch run command goesOn ?_)
      rintro rfl
      exact nomatch runs
  | ending => exact .single (.mark _ _ rfl)

end ComesToStart

/-- **A drive that does not come to start the session never leaves the preparation.** -/
theorem comesToStart_or_preparing (preparing : run.Preparing) (procedure : Procedure W α) :
    (∃ start, ComesToStart setting procedure run start) ∨
      ((driveToEnd setting procedure).runOn run).2.Preparing := by
  induction procedure generalizing run with
  | finish result =>
      rcases driveToEnd_ends_or_finishes setting (.finish result) run with
        ⟨stops, ran⟩ | ⟨returned, unaborted, -⟩
      · rw [ran]
        refine .inr (preparing.noting rfl rfl ?_ ?_)
        · rintro ⟨_, same, -⟩
          cases same
        · rintro ⟨same, goesOn, -⟩
          exact stops ⟨Event.returned.inj same, goesOn⟩
      · obtain rfl : result = .ok () := returned
        have goesOn : run.standing.aborted = none := unaborted
        by_cases none : run.standing.expects = []
        · have fresh : (run.noting (.returned (.ok ()))).standing.started = false :=
            preparing.fresh
          rw [runOn_driveToEnd_finish goesOn, runOn_finishEntries_nothing fresh none]
          refine .inr (preparing.noting rfl rfl ?_ fun leaves => leaves.2.2 none)
          rintro ⟨_, same, -⟩
          cases same
        · exact .inl ⟨_, .ending preparing.fresh goesOn none⟩
  | act effect next ih =>
      rw [runOn_driveToEnd_act]
      exact (ih _ (preparing.acting _)).imp_left fun ⟨start, comes⟩ => ⟨start, .act comes⟩
  | send command next ih =>
      cases aborted : run.standing.aborted with
      | some failure =>
          have refused : ((answer setting (runAllDue setting) command).runOn run).2.Preparing :=
            preparing_answer_refused preparing _ command aborted
          rw [runOn_driveToEnd_send]
          rcases ih _ refused with ⟨start, comes⟩ | still
          · have goesOn := comes.goesOn
            rw [runOn_answer_refused run setting _ command aborted] at goesOn
            exact nomatch aborted.symm.trans goesOn
          · exact .inr still
      | none =>
          cases setup : command.isSetup with
          | true =>
              have still : ((answer setting (runAllDue setting) command).runOn run).2.Preparing :=
                preparing_answer_setup preparing _ setup aborted
              rw [runOn_driveToEnd_send]
              exact (ih _ still).imp_left fun ⟨start, comes⟩ => ⟨start, .declare setup comes⟩
          | false => exact .inl ⟨_, .command setup preparing.fresh aborted⟩

/-- When anything has been called, the drive has come to start the session. -/
theorem comesToStart_of_called (procedure : Procedure W α) (world : W)
    (called : madeCalls ((driveToEnd setting procedure).runOn { world }).2.journal ≠ []) :
    ∃ start, ComesToStart setting procedure { world } start := by
  rcases comesToStart_or_preparing (.initial world) procedure with comes | preparing
  · exact comes
  · exact absurd (madeCalls_talk preparing.talk) called

/-! ## What follows the start -/

/-- What a command does that starts the session comes behind the start. -/
theorem starting_suffix_answer {command : Command α} (runs : command.isSetup = false)
    (goesOn : run.standing.aborted = none) :
    ((ensureStarted setting (runAllDue setting)).runOn
        (run.noting (.dispatched command))).2.journal <:+
      ((answer setting (runAllDue setting) command).runOn run).2.journal := by
  let start := run.noting (.dispatched command)
  have handled : ((ensureStarted setting (runAllDue setting)).runOn start).2.journal <:+
      ((handle setting (runAllDue setting) command).runOn start).2.journal := by
    cases ran : (ensureStarted setting (runAllDue setting)).runOn start with
    | mk result begun =>
        cases result with
        | error failure =>
            have same := runOn_handle_unstarted start setting runs ran
            exact ⟨[], congrArg (fun handled => handled.2.journal) same.symm⟩
        | ok _ =>
            rw [runOn_handle_started start setting runs ran]
            exact (working_perform working_runAllDue command begun).encloses.suffix
  have carried : (carryOut setting (runAllDue setting) command).runOn start = _ ∨ _ :=
    carryOut_cases goesOn
  rw [runOn_answer, Run.noting_journal]
  refine List.IsSuffix.trans ?_ (List.suffix_cons _ _)
  rcases carried with same | ⟨failure, after, failed, same⟩
  · rw [same]
    exact handled
  · rw [failed] at handled
    rw [same, Run.aborting_journal]
    exact handled.trans (List.suffix_cons _ _)

namespace ComesToStart

/-- **Everything else that is done comes behind the start of the session.** -/
theorem starting_suffix (comes : ComesToStart setting procedure run start) (ready : run.Ready) :
    ((ensureStarted setting (runAllDue setting)).runOn start).2.journal <:+
      ((driveToEnd setting procedure).runOn run).2.journal := by
  have moving : Moving setting (answer setting (runAllDue setting)) :=
    moves_answer moves_runAllDue
  induction comes with
  | act _ ih =>
      rw [runOn_driveToEnd_act]
      exact ih ready
  | @declare command next run start setup rest ih =>
      rw [runOn_driveToEnd_send]
      exact ih ((moving run ready command).ready ready)
  | @command command next run runs fresh goesOn =>
      rw [runOn_driveToEnd_send]
      have on : Moves setting ((answer setting (runAllDue setting) command).runOn run).2 _ :=
        moves_driveToEnd (next ((answer setting (runAllDue setting) command).runOn run).1)
          ((moving run ready command).ready ready)
      obtain ⟨lines, journal⟩ := on.journal
      exact (starting_suffix_answer runs goesOn).trans ⟨lines, journal.symm⟩
  | @ending run fresh goesOn entries =>
      rw [runOn_driveToEnd_finish goesOn]
      rcases finishEntries_cases setting (run.noting (.returned (.ok ()))) with
        ⟨-, none, -⟩ | ⟨failure, after, starts, ran⟩ | ⟨begun, starts, ran⟩
      · exact absurd none entries
      · refine ⟨[], ?_⟩
        rw [starts, ran, List.nil_append]
      · rw [starts, ran]
        exact (working_runAllDue none begun).encloses.suffix

/-- **A start that is refused fails the drive, and nothing but talk comes behind it**, even when the
test handles the failure and goes on. -/
theorem refused (comes : ComesToStart setting procedure run start)
    (refused : (ensureStarted setting (runAllDue setting)).runOn start = (.error failure, begun))
    (fatal : failure.isFatal = true) (goesOn : begun.standing.aborted = none) :
    ((driveToEnd setting procedure).runOn run).1 = .error failure ∧
      begun.Talks ((driveToEnd setting procedure).runOn run).2 := by
  induction comes with
  | act _ ih =>
      rw [runOn_driveToEnd_act]
      exact ih refused
  | declare setup rest ih =>
      rw [runOn_driveToEnd_send]
      exact ih refused
  | @command command next run runs fresh unaborted =>
      have handled : (handle setting (runAllDue setting) command).runOn
          (run.noting (.dispatched command)) = (.error failure, begun) :=
        runOn_handle_unstarted _ setting runs refused
      rw [runOn_driveToEnd_send, runOn_answer_fatal run setting unaborted handled fatal goesOn]
      let stopped := (begun.aborting failure).noting (.answered command (.error failure))
      have ended : stopped.standing.aborted = some failure := rfl
      obtain ⟨fails, talks⟩ :
          ((driveToEnd setting (next (.error failure))).runOn stopped).1 = .error failure ∧
            stopped.Talks _ := talks_driveToEnd_aborted ended _
      exact ⟨fails, ((Run.talks_aborting failure).trans (Run.talks_noting rfl)).trans talks⟩
  | @ending run fresh unaborted entries =>
      rw [runOn_driveToEnd_finish unaborted]
      rcases finishEntries_cases setting (run.noting (.returned (.ok ()))) with
        ⟨-, none, -⟩ | ⟨other, after, starts, ran⟩ | ⟨after, starts, -⟩
      · exact absurd none entries
      · obtain ⟨same, rfl⟩ := Prod.mk.inj (refused.symm.trans starts)
        obtain rfl := Except.error.inj same
        rw [ran]
        exact ⟨rfl, .refl⟩
      · exact nomatch (Prod.mk.inj (refused.symm.trans starts)).1

end ComesToStart

end Runner

/-! ## Entering the session -/

/-- The first lines of a session, behind what has been written before it: the app has been opened,
and its first files have been written. -/
def Run.opened (start : Run W α) : List (Moment α) :=
  ⟨.called (.reset start.standing.inits) none, start.standing.begun⟩ ::
    ⟨.called .launch none, start.standing.begun⟩ :: start.journal

/-- Starting a session consists in playing an entry, which begins directly behind the first files.
No other entry begins meanwhile, except in answers to the commands that are sent by this one. -/
def Run.OpensWith (setting : Setting W α) (start : Run W α) (label : Label) (entry : Entry α)
    (starting : Except Failure Unit × Run W α) : Prop :=
  ∃ (begun : Run W α) (known : Standing α),
    begun.journal = ⟨.entryBegan label entry false, known⟩ :: start.opened ∧
    starting = (Runner.playEntry setting (Runner.answer setting (Runner.runAllDue setting)) label
      entry).runOn begun ∧
    Encloses false begun starting.2

theorem Run.started_journal {start : Run W α} {changed : List String}
    (opened : (setting.testBed.launch.runOn start.world).1 = .ok ())
    (written : ((setting.testBed.reset start.standing.inits).runOn
      (start.launched setting).world).1 = .ok changed) :
    (start.started setting).journal = start.opened := by
  have launched : (start.launched setting).journal =
      ⟨.called .launch none, start.standing.begun⟩ :: start.journal := by
    rw [launched, afterCall_journal, knowing_world, opened]
    rfl
  have told : (start.launched setting).standing.inits = start.standing.inits := rfl
  rw [started, knowing_journal, resetting, afterCall_journal, launched, told, written]
  rfl

namespace Runner

variable {run start : Run W α} {initial : Label}

theorem runOn_requireNoneBefore_late {first : Label} {entry : Entry α}
    {rest : Table Label (Entry α)} (due : run.standing.due? none = some ((first, entry), rest))
    (before : first.before initial = true) :
    (requireNoneBefore initial : Act W α Unit).runOn run =
      (.error (.lateInitial initial first), run) := by
  rw [requireNoneBefore, Action.runOn_bind_ok (runOn_standing run), due]
  exact congrArg (fun action : Act W α Unit => action.runOn run) (if_pos before)

theorem runOn_requireNoneBefore_none
    (noneBefore : ∀ other ∈ run.standing.waiting, other.1.before initial = false) :
    (requireNoneBefore initial : Act W α Unit).runOn run = (.ok (), run) := by
  rw [requireNoneBefore, Action.runOn_bind_ok (runOn_standing run)]
  cases due : run.standing.due? none with
  | none => rfl
  | some taken =>
      obtain ⟨⟨first, entry⟩, rest⟩ := taken
      have mem : (first, entry) ∈ run.standing.waiting := by
        rw [Standing.waiting_of_due due]
        exact List.mem_cons_self
      have behind : first.before initial = false := noneBefore (first, entry) mem
      have notBefore : ¬first.before initial = true := Bool.eq_false_iff.1 behind
      exact congrArg (fun action : Act W α Unit => action.runOn run) (if_neg notBefore)

/-- **What is due at the update of the first entry is this entry alone.** Whatever is done while it
is played, no entry is due at its update behind it. -/
theorem runOn_runAllDue_own {label : Label} {entry : Entry α} {rest : Table Label (Entry α)}
    (inOrder : run.InOrder) (isOpen : run.standing.sessionOpen = true)
    (started : run.standing.started = true)
    (due : run.standing.due? (some label) = some ((label, entry), rest)) :
    (runAllDue setting (some label)).runOn run =
      (playEntry setting (answer setting (runAllDue setting)) label entry).runOn
        ((run.leaving rest).beginning label entry false) := by
  have moving : Moving setting (answer setting (runAllDue setting)) :=
    moves_answer moves_runAllDue
  let begun := (run.leaving rest).beginning label entry false
  have begins : Move setting run begun :=
    .begin run (some label) label entry rest due isOpen fun none => nomatch none
  rw [runOn_runAllDue_some isOpen started due]
  show (runEntry setting (answer setting (runAllDue setting)) false label entry >>= fun _ =>
    runAllDue setting (some label)).runOn (run.leaving rest) = _
  rw [Action.runOn_bind, runOn_runEntry]
  have played : Moves setting begun
      ((playEntry setting (answer setting (runAllDue setting)) label entry).runOn begun).2 :=
    moves_playEntry moving label entry isOpen
  cases ran : (playEntry setting (answer setting (runAllDue setting)) label entry).runOn begun with
  | mk result after =>
      rw [ran] at played
      cases result with
      | error failure => rfl
      | ok _ =>
          obtain ⟨lines, journal⟩ := played.journal
          have began : (label, entry) ∈ begunEntries after.journal := by
            have newest : begun.journal = ⟨.entryBegan label entry false, _⟩ :: run.journal := rfl
            rw [journal, newest, begunEntries_append, begunEntries_cons]
            simp [Event.begins?]
          -- those that still wait are behind the entry that has begun
          have ascending := (played.inOrder (begins.shift.inOrder inOrder)).ascending
          have behind := (List.pairwise_append.1 ascending).2.2 (label, entry) began
          apply runOn_runAllDue_none
          apply Standing.due?_eq_none
          intro other mem
          exact Label.not_atMost_of_lt (beq_iff_eq.1 (behind other mem))

section Opened

variable {changed : List String} (fresh : start.standing.started = false)
  (declared : start.standing.initLabel = some initial)
  (opened : (setting.testBed.launch.runOn start.world).1 = .ok ())
  (written : ((setting.testBed.reset start.standing.inits).runOn
    (start.launched setting).world).1 = .ok changed)
include fresh declared opened written

/-- An update that comes after an entry is refused, and nothing is done about it. -/
theorem runOn_ensureStarted_late (late : start.standing.ExpectsBefore initial) :
    ∃ first, (ensureStarted setting (runAllDue setting)).runOn start =
      (.error (.lateInitial initial first), start.started setting) := by
  obtain ⟨entry, mem, before⟩ := Standing.expectsBefore_iff.1 late
  obtain ⟨⟨first, expected⟩, rest, due, firstBefore⟩ := Standing.first_before mem before
  have known : (start.started setting).standing.initLabel = some initial := declared
  have waits : (start.started setting).standing.due? none = some ((first, expected), rest) := due
  refine ⟨first, ?_⟩
  rw [runOn_ensureStarted_start setting fresh opened written, enterInitial,
    Action.runOn_bind_ok (runOn_standing _), known]
  exact Action.runOn_bind_error (runOn_requireNoneBefore_late waits firstBefore) _

section InTime

variable (inTime : ¬start.standing.ExpectsBefore initial)
include inTime

omit fresh declared opened written in
theorem not_before_of_inTime :
    ∀ other ∈ start.standing.begun.waiting, other.1.before initial = false := by
  intro other mem
  rw [Bool.eq_false_iff]
  intro before
  exact inTime (Standing.expectsBefore_iff.2 ⟨other, mem, before⟩)

/-- When no entry is declared in front of the update, the app shows it, and what is due there is
run. -/
theorem runOn_ensureStarted_shows :
    (ensureStarted setting (runAllDue setting)).runOn start =
      (runAllDue setting (some initial)).runOn ((start.started setting).showing initial) := by
  have known : (start.started setting).standing.initLabel = some initial := declared
  have noneBefore : ∀ other ∈ (start.started setting).standing.waiting,
      other.1.before initial = false := not_before_of_inTime inTime
  rw [runOn_ensureStarted_start setting fresh opened written, enterInitial,
    Action.runOn_bind_ok (runOn_standing _), known]
  show (requireNoneBefore initial >>= fun _ => _ : Act W α Unit).runOn _ = _
  rw [Action.runOn_bind_ok (runOn_requireNoneBefore_none noneBefore),
    Action.runOn_bind_ok (runOn_revise _ _)]
  rfl

/-- When no entry is declared for the update either, none begins. -/
theorem runOn_ensureStarted_bare (apart : ∀ expect ∈ start.standing.expects, expect.1 ≠ initial) :
    (ensureStarted setting (runAllDue setting)).runOn start =
      (.ok (), (start.started setting).showing initial) := by
  rw [runOn_ensureStarted_shows fresh declared opened written inTime]
  apply runOn_runAllDue_none
  apply Standing.due?_eq_none_of_ne (not_before_of_inTime inTime)
  intro other mem
  exact apart other (Table.mem_of_mem_ofList mem)

/-- The entry of the update begins and is played. -/
theorem opensWith_ensureStarted (inOrder : start.InOrder) {entry : Entry α}
    (mem : (initial, entry) ∈ start.standing.expects) :
    start.OpensWith setting initial entry
      ((ensureStarted setting (runAllDue setting)).runOn start) := by
  let shown := (start.started setting).showing initial
  have moved : Moves setting start shown :=
    .tail (.single (.start start changed fresh opened written)) (.aim _ initial declared rfl)
  have waits : (initial, entry) ∈ shown.standing.waiting :=
    Table.mem_ofList_of_mem inOrder.apart mem
  obtain ⟨rest, due⟩ := Standing.due?_of_mem waits (not_before_of_inTime inTime)
  have journal : ((shown.leaving rest).beginning initial entry false).journal =
      ⟨.entryBegan initial entry false, _⟩ :: (start.started setting).journal := rfl
  have commands : ∀ command, Enclosing (answer setting (runAllDue setting) command) :=
    enclosing_answer
  have played : Enclosing (playEntry setting (answer setting (runAllDue setting)) initial entry) :=
    enclosing_playEntry commands initial entry
  rw [Run.started_journal opened written] at journal
  rw [runOn_ensureStarted_shows fresh declared opened written inTime,
    runOn_runAllDue_own (moved.inOrder inOrder) rfl rfl due]
  exact ⟨_, _, journal, rfl, played _⟩

end InTime

/-- **The update is refused if and only if an entry is declared in front of it.** -/
theorem refused_iff_expectsBefore (inOrder : start.InOrder) :
    (∃ first, (ensureStarted setting (runAllDue setting)).runOn start =
      (.error (.lateInitial initial first), start.started setting)) ↔
      start.standing.ExpectsBefore initial := by
  constructor
  · rintro ⟨first, refused⟩
    by_contra inTime
    by_cases own : ∃ entry, (initial, entry) ∈ start.standing.expects
    · -- the entry that has begun has left a line behind
      obtain ⟨entry, mem⟩ := own
      obtain ⟨begun, known, journal, -, encloses⟩ :=
        opensWith_ensureStarted fresh declared opened written inTime inOrder mem
      have longer := encloses.suffix.length_le
      rw [refused, journal, Run.started_journal opened written] at longer
      exact Nat.not_succ_le_self _ longer
    · have apart : ∀ expect ∈ start.standing.expects, expect.1 ≠ initial := by
        rintro ⟨_, entry⟩ mem rfl
        exact own ⟨entry, mem⟩
      have bare := runOn_ensureStarted_bare fresh declared opened written inTime apart
      exact nomatch (Prod.mk.inj (refused.symm.trans bare)).1
  · exact runOn_ensureStarted_late fresh declared opened written

end Opened

end Runner

/-! ## The whole invocation -/

theorem Event.begins?_of_isTalk {event : Event α} (isTalk : event.isTalk = true) :
    event.begins? = none := by
  cases event with
  | entryBegan => exact absurd isTalk Bool.false_ne_true
  | _ => rfl

/-- Talk tells of no entry that begins. -/
theorem begunEntries_talk {lines : List (Moment α)}
    (talk : ∀ line ∈ lines, line.event.isTalk = true) : begunEntries lines = [] :=
  begunEntries_eq_nil fun line mem => Event.begins?_of_isTalk (talk line mem)

/-- An invocation whose drive fails fails in the same way. -/
theorem Invocation.error_of_driven {title : Option String} {procedure : Procedure W α}
    {run : Run W α} {failure : Failure}
    (failed : ((Runner.driveToEnd setting procedure).runOn run).1 = .error failure) :
    ((Invocation.run setting title procedure).runOn run).1 = .error failure := by
  rw [Invocation.runOn_run]
  dsimp only
  rw [failed]
  rfl

/-- **The update that a session starts with decides what it begins with.** Before the app is opened,
nothing has been called and no entry has begun. When the app has been opened and its first files
have been written, the start is refused, and does nothing else, if and only if an entry is declared
for a label in front of the update. Then no entry begins in the whole invocation, and it fails with
this failure, even if the test handles it. Otherwise the entry of the update, if there is one,
begins directly behind the first files, and starting the session consists in playing it. No other
entry begins before the session has started, except in answers to the commands that this entry
sends. -/
theorem initial_update_refused_or_played (setting : Setting W α) (title : Option String)
    (procedure : Procedure W α) (world : W)
    {start : Run W α} {initial : Label} {changed : List String}
    (comes : Runner.ComesToStart setting procedure { world } start)
    (declared : start.standing.initLabel = some initial)
    (opened : (setting.testBed.launch.runOn start.world).1 = .ok ())
    (written : ((setting.testBed.reset start.standing.inits).runOn
      (start.launched setting).world).1 = .ok changed) :
    let starting := (Runner.ensureStarted setting (Runner.runAllDue setting)).runOn start
    let driven := (Runner.driveToEnd setting procedure).runOn { world }
    let ended := (Invocation.run setting title procedure).runOn { world }
    madeCalls start.journal = [] ∧ begunEntries start.journal = [] ∧
    starting.2.journal <:+ driven.2.journal ∧ driven.2.journal <:+ ended.2.journal ∧
    ((∃ first, starting = (.error (.lateInitial initial first), start.started setting)) ↔
      start.standing.ExpectsBefore initial) ∧
    (start.standing.ExpectsBefore initial →
      begunEntries ended.2.journal = [] ∧
      ∃ first, driven.1 = .error (.lateInitial initial first) ∧
        ended.1 = .error (.lateInitial initial first)) ∧
    (¬start.standing.ExpectsBefore initial →
      ((∀ expect ∈ start.standing.expects, expect.1 ≠ initial) →
        starting.1 = .ok () ∧ starting.2.journal = start.opened) ∧
      ∀ entry, (initial, entry) ∈ start.standing.expects →
        start.OpensWith setting initial entry starting) := by
  intro starting driven ended
  have ready : ({ world } : Run W α).Ready := fun started => nomatch started
  have begins := comes.starting (.initial world)
  have inOrder := (comes.moves ready).inOrder (Run.inOrder_initial world)
  have noneBegun := begunEntries_talk begins.talk
  obtain ⟨closing, closed, quiet⟩ := Invocation.journal_of_run setting title procedure { world }
  refine ⟨madeCalls_talk begins.talk, noneBegun, comes.starting_suffix ready,
    ⟨closing, closed.symm⟩, Runner.refused_iff_expectsBefore begins.fresh declared opened written
      inOrder, fun late => ?_, fun inTime => ⟨fun apart => ?_, fun entry mem => ?_⟩⟩
  · obtain ⟨first, refused⟩ :=
      Runner.runOn_ensureStarted_late begins.fresh declared opened written late
    obtain ⟨fails, lines, journal, talk⟩ := comes.refused refused rfl comes.unaborted
    refine ⟨?_, first, fails, Invocation.error_of_driven fails⟩
    have nothing : begunEntries start.opened = [] := noneBegun
    show begunEntries ended.2.journal = []
    rw [closed, begunEntries_quiet_append fun line mem => (quiet line mem).1, journal,
      Run.started_journal opened written, begunEntries_append, begunEntries_talk talk, nothing]
    rfl
  · have bare := Runner.runOn_ensureStarted_bare begins.fresh declared opened written inTime apart
    have journal : (start.started setting).journal = start.opened :=
      Run.started_journal opened written
    refine ⟨congrArg Prod.fst bare, ?_⟩
    show ((Runner.ensureStarted setting (Runner.runAllDue setting)).runOn start).2.journal = _
    rw [bare]
    exact journal
  · exact Runner.opensWith_ensureStarted begins.fresh declared opened written inTime inOrder mem

/-- A test with entries for two updates that is to start with some update, and goes on whatever is
answered. -/
def startWith (initial : Label) : Procedure Unit Unit :=
  .send (.expect [(⟨"1"⟩, .sub ()), (⟨"0"⟩, .sub ())]) fun _ =>
    .send (.init (.label initial)) fun _ =>
      .send (.page ["url"] []) fun _ =>
        .send .flush fun _ => .finish (.ok ())

/-- The run in which this test comes to start the session. -/
def startingWith (initial : Label) : Run Unit Unit :=
  let answer := Runner.answer (.plain .still) (Runner.runAllDue (.plain .still))
  let expecting := (answer (.expect [(⟨"1"⟩, .sub ()), (⟨"0"⟩, .sub ())])).runOn { world := () }
  ((answer (.init (.label initial))).runOn expecting.2).2.noting (.dispatched (.page ["url"] []))

/-- With the later update the start is refused. The test fails, and no entry begins. With the
earlier one the entry of this update begins, and is played. -/
theorem initial_update_late_and_in_time :
    (Runner.ComesToStart (.plain .still) (startWith ⟨"1"⟩) { world := () } (startingWith ⟨"1"⟩) ∧
      (startingWith ⟨"1"⟩).standing.initLabel = some ⟨"1"⟩ ∧
      (startingWith ⟨"1"⟩).standing.ExpectsBefore ⟨"1"⟩ ∧
      let ended := (Invocation.run (.plain .still) none (startWith ⟨"1"⟩)).runOn { world := () }
      begunEntries ended.2.journal = [] ∧
        ∃ first, ended.1 = .error (.lateInitial ⟨"1"⟩ first)) ∧
    Runner.ComesToStart (.plain .still) (startWith ⟨"0"⟩) { world := () } (startingWith ⟨"0"⟩) ∧
      (startingWith ⟨"0"⟩).standing.initLabel = some ⟨"0"⟩ ∧
      ¬(startingWith ⟨"0"⟩).standing.ExpectsBefore ⟨"0"⟩ ∧
      (⟨"0"⟩, { steps := [.sub ()] }) ∈ (startingWith ⟨"0"⟩).standing.expects ∧
      (startingWith ⟨"0"⟩).OpensWith (.plain .still) ⟨"0"⟩ { steps := [.sub ()] }
        ((Runner.ensureStarted (.plain .still) (Runner.runAllDue (.plain .still))).runOn
          (startingWith ⟨"0"⟩)) := by
  have comes (initial : Label) : Runner.ComesToStart (.plain .still) (startWith initial)
      { world := () } (startingWith initial) :=
    .declare rfl (.declare rfl (.command rfl rfl rfl))
  have declared (initial : Label) :
      (startingWith initial).standing.initLabel = some initial := rfl
  have late : (startingWith ⟨"1"⟩).standing.ExpectsBefore ⟨"1"⟩ := by decide +kernel
  have inTime : ¬(startingWith ⟨"0"⟩).standing.ExpectsBefore ⟨"0"⟩ := by decide +kernel
  have opened (initial : Label) :
      ((Setting.plain TestBed.still).testBed.launch.runOn (startingWith initial).world).1 =
        .ok () := rfl
  have written (initial : Label) :
      (((Setting.plain TestBed.still).testBed.reset (startingWith initial).standing.inits).runOn
        ((startingWith initial).launched (.plain .still)).world).1 = .ok [] := rfl
  have result (initial : Label) := initial_update_refused_or_played (.plain .still) none
    (startWith initial) () (comes initial) (declared initial) (opened initial) (written initial)
  refine ⟨⟨comes _, declared _, late, ?_⟩, comes _, declared _, inTime, ?_⟩
  · obtain ⟨-, -, -, -, -, refused, -⟩ := result ⟨"1"⟩
    obtain ⟨nothing, first, -, fails⟩ := refused late
    exact ⟨nothing, first, fails⟩
  · obtain ⟨-, -, -, -, -, -, played⟩ := result ⟨"0"⟩
    have mem : (⟨"0"⟩, { steps := [.sub ()] }) ∈ (startingWith ⟨"0"⟩).standing.expects :=
      .tail _ (.head _)
    exact ⟨mem, (played inTime).2 _ mem⟩

end HotReload
