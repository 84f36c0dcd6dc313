import HotReload.Proofs.EntryFate

/-!
# The loop over what is due

Entries that are due are run one by one, and each of them may send commands that run what is due
again. The definition counts down from the number of entries that remain, at every depth. This
count is no bound on what is run: a command never adds an entry to those that wait, so two counts
that both reach the number of waiting entries do the same (`alike_runDue`).

So what is due is run by a loop without a count: the first entry that is due is taken out, the app
is prepared for it, the entry runs, its commands being answered like all others, and the loop goes
on (`runOn_runAllDue_some`). What holds of a command that the test sends holds of a command that an
entry sends, at whatever depth (`RunsDue.runOn_answer`).
-/

set_option autoImplicit false

namespace HotReload

variable {W α β γ : Type} {setting : Setting W α}

/-- An open session in which at most so many entries wait. -/
structure Run.Bounded (most : Nat) (run : Run W α) : Prop where
  isOpen : run.standing.sessionOpen = true
  started : run.standing.started = true
  few : run.standing.waiting.length ≤ most

theorem Moves.bounded {most : Nat} {run after : Run W α} (moves : Moves setting run after)
    (bounded : run.Bounded most) : after.Bounded most where
  isOpen := moves.open bounded.isOpen
  started := (moves.waiting_length_le bounded.started).1
  few := Nat.le_trans (moves.waiting_length_le bounded.started).2 bounded.few

namespace Runner

variable {most : Nat} {run : Run W α}

/-! ## Actions that do the same -/

/-- Two actions do the same in every open session in which at most so many entries wait. -/
def Alike (most : Nat) (first second : Act W α β) : Prop :=
  ∀ run : Run W α, run.Bounded most → first.runOn run = second.runOn run

theorem Alike.refl (most : Nat) (action : Act W α β) : Alike most action action :=
  fun _ _ => rfl

theorem Alike.trans {first second third : Act W α β} (former : Alike most first second)
    (latter : Alike most second third) : Alike most first third :=
  fun run bounded => (former run bounded).trans (latter run bounded)

/-- When an action succeeds, it has added no entry to those that wait, and the session is open. -/
def Stays (most : Nat) (action : Act W α β) : Prop :=
  ∀ (run : Run W α) (answer : β) (after : Run W α), run.Bounded most →
    action.runOn run = (.ok answer, after) → after.Bounded most

theorem Stays.of_moves {action : Act W α β}
    (moves : ∀ run : Run W α, run.standing.sessionOpen = true →
      Moves setting run (action.runOn run).2) : Stays most action := by
  intro run answer after bounded ran
  have kept := (moves run bounded.isOpen).bounded bounded
  rw [ran] at kept
  exact kept

theorem stays_standing : Stays most (standing : Act W α (Standing α)) := by
  intro run answer after bounded ran
  obtain ⟨-, rfl⟩ := Prod.mk.inj ran
  exact bounded

theorem stays_record (event : Event α) : Stays most (record event : Act W α Unit) := by
  intro run answer after bounded ran
  obtain ⟨-, rfl⟩ := Prod.mk.inj ran
  exact ⟨bounded.isOpen, bounded.started, bounded.few⟩

theorem stays_revise_cursor (label : Label) :
    Stays most (revise fun standing => { standing with cursor := some label } : Act W α Unit) := by
  intro run answer after bounded ran
  obtain ⟨-, rfl⟩ := Prod.mk.inj ran
  exact ⟨bounded.isOpen, bounded.started, bounded.few⟩

/-- Preparing the app for an entry changes at most which update it shows. -/
theorem stays_approach (upto : Option Label) (label : Label) :
    Stays most (approach setting upto label : Act W α Unit) := by
  intro run answer after bounded ran
  obtain ⟨cursor, known⟩ := standing_of_approach bounded.isOpen ran
  exact ⟨known ▸ bounded.isOpen, known ▸ bounded.started, known ▸ bounded.few⟩

/-- Sequences do the same if their first parts do and the rest is the same. -/
theorem Alike.front {first second : Act W α β} (head : Alike most first second)
    (next : β → Act W α γ) : Alike most (first >>= next) (second >>= next) := by
  intro run bounded
  rw [Action.runOn_bind, Action.runOn_bind, head run bounded]

/-- Sequences do the same if what follows the first part does. -/
theorem Alike.behind {first : Act W α β} (stays : Stays most first) {next other : β → Act W α γ}
    (tail : ∀ answer, Alike most (next answer) (other answer)) :
    Alike most (first >>= next) (first >>= other) := by
  intro run bounded
  rw [Action.runOn_bind, Action.runOn_bind]
  cases ran : first.runOn run with
  | mk result after =>
      cases result with
      | error failure => rfl
      | ok answer => exact tail answer after (stays run answer after bounded ran)

theorem Alike.bind {first second : Act W α β} (head : Alike most first second)
    (stays : Stays most first) {next other : β → Act W α γ}
    (tail : ∀ answer, Alike most (next answer) (other answer)) :
    Alike most (first >>= next) (second >>= other) :=
  (Alike.behind stays tail).trans (head.front other)

/-! ## Playing an entry -/

section Dispatching

variable {dispatch other : Command α → Act W α Reply} (moving : Moving setting dispatch)
  (alike : ∀ command, Alike most (dispatch command) (other command))
include moving alike

/-- Parts of an entry that is played do the same, if commands do. -/
theorem alike_part {silent : Prop} {part : Part W α β} (playing : Playing setting silent part) :
    Alike most (part dispatch) (part other) := by
  induction playing with
  | own action => exact .refl most action
  | send command => exact alike command
  | attempt _ ih =>
      intro run bounded
      rw [Action.runOn_attempt, Action.runOn_attempt, ih run bounded]
  | bind head _ first next =>
      exact first.bind (.of_moves fun _ isOpen => head.moves moving isOpen) next

omit alike in
theorem stays_runEntry (flushing : Bool) (label : Label) (entry : Entry α) :
    Stays most (runEntry setting dispatch flushing label entry) := by
  intro run answer after bounded ran
  rw [runOn_runEntry] at ran
  have begun : (run.beginning label entry flushing).Bounded most :=
    ⟨bounded.isOpen, bounded.started, bounded.few⟩
  have played := moves_playEntry moving label entry begun.isOpen
  rw [ran] at played
  exact played.bounded begun

theorem alike_runEntry (flushing : Bool) (label : Label) (entry : Entry α) :
    Alike most (runEntry setting dispatch flushing label entry)
      (runEntry setting other flushing label entry) := by
  intro run bounded
  rw [runOn_runEntry, runOn_runEntry]
  exact alike_part moving alike (playing_playEntry label entry) _
    ⟨bounded.isOpen, bounded.started, bounded.few⟩

end Dispatching

/-! ## Answering a command -/

section Answering

variable {due other : Option Label → Act W α Unit}
  (alike : ∀ upto, Alike most (due upto) (other upto))
include alike

theorem alike_perform (command : Command α) :
    Alike most (perform setting due command) (perform setting other command) := by
  cases command with
  | flush => exact (alike none).front _
  | change target =>
      cases target with
      | files files => exact .refl most _
      | label label =>
          simp only [perform]
          refine Alike.behind stays_standing fun known => ?_
          refine Alike.behind (.of_moves fun run isOpen => moves_write _ isOpen) fun _ => ?_
          exact Alike.behind (stays_revise_cursor label) fun _ => (alike (some label)).front _
  | _ => exact .refl most _

/-- A session that has started is not started again. -/
theorem alike_handle (command : Command α) :
    Alike most (handle setting due command) (handle setting other command) := by
  intro run bounded
  have performed : (perform setting due command).runOn run =
      (perform setting other command).runOn run := alike_perform alike command run bounded
  cases setup : command.isSetup with
  | true =>
      rw [runOn_handle_setup run setting setup, runOn_handle_setup run setting setup, performed]
  | false =>
      have started : ∀ due : Option Label → Act W α Unit,
          (ensureStarted setting due).runOn run = (.ok (), run) :=
        fun _ => runOn_ensureStarted_started setting bounded.started
      rw [runOn_handle_started run setting setup (started due),
        runOn_handle_started run setting setup (started other), performed]

theorem alike_answer (command : Command α) :
    Alike most (answer setting due command) (answer setting other command) := by
  intro run bounded
  have heard : (run.noting (.dispatched command)).Bounded most :=
    stays_record (.dispatched command) run () _ bounded rfl
  have carried : (carryOut setting due command).runOn (run.noting (.dispatched command)) =
      (carryOut setting other command).runOn (run.noting (.dispatched command)) := by
    cases aborted : (run.noting (.dispatched command)).standing.aborted with
    | some failure =>
        rw [runOn_carryOut_refused _ setting aborted, runOn_carryOut_refused _ setting aborted]
    | none =>
        rw [runOn_carryOut _ setting aborted, runOn_carryOut _ setting aborted,
          alike_handle alike command _ heard]
  rw [runOn_answer run setting due, runOn_answer run setting other, carried]

end Answering

/-! ## Counting down -/

theorem movingDue_runDue (most : Nat) : MovingDue setting (runDue setting most) :=
  fun _ isOpen upto => moves_runDue most upto isOpen

/-- Running the first entry that is due, and then what else is due. -/
def runFirst (setting : Setting W α) (due : Option Label → Act W α Unit) (upto : Option Label)
    (label : Label) (entry : Entry α) : Act W α Unit := do
  approach setting upto label
  runEntry setting (answer setting due) upto.isNone label entry
  due upto

theorem alike_runFirst {due other : Option Label → Act W α Unit}
    (movingDue : MovingDue setting due) (alike : ∀ upto, Alike most (due upto) (other upto))
    (upto : Option Label) (label : Label) (entry : Entry α) :
    Alike most (runFirst setting due upto label entry)
      (runFirst setting other upto label entry) := by
  have answered : ∀ command,
      Alike most (answer setting due command) (answer setting other command) :=
    alike_answer alike
  have moving : Moving setting (answer setting due) := moves_answer movingDue
  refine Alike.behind (stays_approach upto label) fun _ => ?_
  exact (alike_runEntry moving answered upto.isNone label entry).bind
    (stays_runEntry moving upto.isNone label entry) fun _ => alike upto

/-- When an entry is taken out, fewer wait. -/
theorem bounded_leaving {upto : Option Label} {first : Label × Entry α}
    {rest : Table Label (Entry α)} (bounded : run.Bounded (most + 1))
    (due : run.standing.due? upto = some (first, rest)) : (run.leaving rest).Bounded most where
  isOpen := bounded.isOpen
  started := bounded.started
  few := by
    have few := bounded.few
    rw [Standing.waiting_of_due due, List.length_cons] at few
    exact Nat.le_of_succ_le_succ few

theorem runOn_runDue_some {upto : Option Label} {label : Label} {entry : Entry α}
    {rest : Table Label (Entry α)} (due : run.standing.due? upto = some ((label, entry), rest))
    (count : Nat) :
    (runDue setting (count + 1) upto).runOn run =
      (runFirst setting (runDue setting count) upto label entry).runOn (run.leaving rest) := by
  rw [runDue, Action.runOn_bind_ok (runOn_takeDue_some due)]
  rfl

/-- **Any two counts that reach the number of waiting entries do the same.** -/
theorem alike_runDue {count other : Nat} (enough : most ≤ count) (also : most ≤ other)
    (upto : Option Label) : Alike most (runDue setting count upto) (runDue setting other upto) := by
  induction most generalizing count other upto with
  | zero =>
      intro run bounded
      have waiting := List.length_eq_zero_iff.1 (Nat.le_zero.1 bounded.few)
      have nothing := Standing.due?_of_waiting_nil waiting upto
      rw [runOn_runDue_none setting nothing, runOn_runDue_none setting nothing]
  | succ most ih =>
      obtain ⟨count, rfl⟩ := Nat.exists_eq_add_of_le' (Nat.le_of_add_left_le enough)
      obtain ⟨other, rfl⟩ := Nat.exists_eq_add_of_le' (Nat.le_of_add_left_le also)
      intro run bounded
      cases due : run.standing.due? upto with
      | none => rw [runOn_runDue_none setting due, runOn_runDue_none setting due]
      | some taken =>
          obtain ⟨⟨label, entry⟩, rest⟩ := taken
          rw [runOn_runDue_some due, runOn_runDue_some due]
          have fewer : ∀ upto, Alike most (runDue setting count upto) (runDue setting other upto) :=
            ih (Nat.le_of_succ_le_succ enough) (Nat.le_of_succ_le_succ also)
          exact alike_runFirst (movingDue_runDue count) fewer upto label entry _
            (bounded_leaving bounded due)

/-- What is due is run by any count that reaches the number of waiting entries. -/
theorem alike_runAllDue {count : Nat} (enough : most ≤ count) (upto : Option Label) :
    Alike most (runDue setting count upto) (runAllDue setting upto) := by
  intro run bounded
  rw [runAllDue, Action.runOn_bind_ok (runOn_standing run), Standing.remainingCount_eq_length]
  exact alike_runDue (Nat.le_trans bounded.few enough) (Nat.le_refl _) upto run
    ⟨bounded.isOpen, bounded.started, Nat.le_refl _⟩

/-- How what is due is run when a command is heard: all of it for a command of the test, and by a
count that reaches the number of waiting entries for a command of an entry. -/
inductive RunsDue (setting : Setting W α) (run : Run W α) : (Option Label → Act W α Unit) → Prop
  | all : RunsDue setting run (runAllDue setting)
  | counted (count : Nat) (enough : run.standing.waiting.length ≤ count) :
      RunsDue setting run (runDue setting count)

/-- A command is answered in the same way, whether the test or an entry has sent it. -/
theorem RunsDue.runOn_answer {due : Option Label → Act W α Unit} (runs : RunsDue setting run due)
    (isOpen : run.standing.sessionOpen = true) (started : run.standing.started = true)
    (command : Command α) :
    (answer setting due command).runOn run =
      (answer setting (runAllDue setting) command).runOn run := by
  cases runs with
  | all => rfl
  | counted count enough =>
      exact alike_answer (alike_runAllDue (Nat.le_refl count)) command run ⟨isOpen, started, enough⟩

/-! ## The loop -/

theorem runOn_runAllDue_none {upto : Option Label} (nothing : run.standing.due? upto = none) :
    (runAllDue setting upto).runOn run = (.ok (), run) := by
  rw [runAllDue, Action.runOn_bind_ok (runOn_standing run), runOn_runDue_none setting nothing]

/-- **What is due is run one entry after the other**, and the commands of an entry are answered like
those of the test. -/
theorem runOn_runAllDue_some {upto : Option Label} {label : Label} {entry : Entry α}
    {rest : Table Label (Entry α)} (isOpen : run.standing.sessionOpen = true)
    (started : run.standing.started = true)
    (due : run.standing.due? upto = some ((label, entry), rest)) :
    (runAllDue setting upto).runOn run =
      (runFirst setting (runAllDue setting) upto label entry).runOn (run.leaving rest) := by
  have waiting := Standing.waiting_of_due due
  have bounded : run.Bounded (rest.entries.length + 1) := by
    refine ⟨isOpen, started, Nat.le_of_eq ?_⟩
    rw [waiting, List.length_cons]
  rw [runAllDue, Action.runOn_bind_ok (runOn_standing run), Standing.remainingCount_eq_length,
    waiting, List.length_cons, runOn_runDue_some due]
  exact alike_runFirst (movingDue_runDue _) (fun upto => alike_runAllDue (Nat.le_refl _) upto) upto
    label entry _ (bounded_leaving bounded due)

end Runner

end HotReload
