import HotReload.Proofs.SkipForward

/-!
# Where entries begin

The runner hears commands from the test and, while it plays an entry, from the sub-procedures of
this entry. Each command that is heard is answered before the next one of the same procedure is
sent, and whatever is done for it stands between the two lines. So the lines of a part of a run are
nested like brackets (`Enclosed`).

Playing an entry begins no other entry by itself. It only does so by commands that its
sub-procedures send: outside of commands and their answers, no entry begins in the lines of an entry
that is played (`enclosing_playEntry`).
-/

set_option autoImplicit false

namespace HotReload

variable {W α β γ : Type} {setting : Setting W α}

/-- The number of commands that are heard in some lines. -/
def commands (lines : List (Moment α)) : Nat :=
  lines.countP fun line => line.event.isDispatch

/-- The number of commands that are answered in some lines. -/
def answers (lines : List (Moment α)) : Nat :=
  lines.countP fun line => line.event.isAnswer

section Counting

variable (newer older : List (Moment α)) (known : Standing α)

@[simp] theorem commands_nil : commands ([] : List (Moment α)) = 0 := rfl

@[simp] theorem answers_nil : answers ([] : List (Moment α)) = 0 := rfl

@[simp] theorem commands_append : commands (newer ++ older) = commands newer + commands older :=
  List.countP_append

@[simp] theorem answers_append : answers (newer ++ older) = answers newer + answers older :=
  List.countP_append

@[simp] theorem commands_dispatched (command : Command α) :
    commands (⟨.dispatched command, known⟩ :: older) = commands older + 1 :=
  List.countP_cons_of_pos rfl

@[simp] theorem answers_dispatched (command : Command α) :
    answers (⟨.dispatched command, known⟩ :: older) = answers older :=
  List.countP_cons_of_neg Bool.false_ne_true

@[simp] theorem commands_answered (command : Command α) (result : Except Failure Reply) :
    commands (⟨.answered command result, known⟩ :: older) = commands older :=
  List.countP_cons_of_neg Bool.false_ne_true

@[simp] theorem answers_answered (command : Command α) (result : Except Failure Reply) :
    answers (⟨.answered command result, known⟩ :: older) = answers older + 1 :=
  List.countP_cons_of_pos rfl

end Counting

/-- The older lines of two parts are older lines of the former, or all of it with older lines of the
latter. -/
theorem suffix_append_cases {lines newer older : List (Moment α)}
    (suffix : lines <:+ newer ++ older) :
    lines <:+ older ∨ ∃ part, part <:+ newer ∧ lines = part ++ older := by
  obtain ⟨front, split⟩ := suffix
  rcases List.append_eq_append_iff.1 split with ⟨part, rfl, same⟩ | ⟨part, rfl, rfl⟩
  · exact .inr ⟨part, List.suffix_append front part, same⟩
  · exact .inl (List.suffix_append part lines)

/-- Lines in which each command that is heard is answered. Unless the lines are free, an entry
begins only between a command and its answer, where it may begin at any depth. -/
structure Enclosed (free : Bool) (lines : List (Moment α)) : Prop where
  /-- In the end, all commands are answered. -/
  answered : answers lines = commands lines
  /-- At any time, only commands that have been heard are answered. -/
  heard : ∀ older, older <:+ lines → answers older ≤ commands older
  /-- When an entry begins, a command is being answered. -/
  begins : free = false → ∀ line older, line :: older <:+ lines →
    line.event.begins?.isSome = true → answers older < commands older

namespace Enclosed

variable {free : Bool} {newer older inside : List (Moment α)}

theorem nil (free : Bool) : Enclosed free ([] : List (Moment α)) where
  answered := rfl
  heard older suffix := by
    rw [List.suffix_nil.1 suffix]
    exact Nat.le_refl 0
  begins _ line older suffix := by
    exact absurd (List.suffix_nil.1 suffix) (List.cons_ne_nil line older)

/-- A line that is neither a command nor an answer. -/
theorem singleton {event : Event α} (plain : event.isDispatch = false ∧ event.isAnswer = false)
    (begins : free = true ∨ event.begins? = none) (known : Standing α) :
    Enclosed free [⟨event, known⟩] where
  answered := by simp [answers, commands, plain]
  heard older suffix := by
    rcases List.suffix_cons_iff.1 suffix with rfl | nothing
    · simp [answers, commands, plain]
    · rw [List.suffix_nil.1 nothing]
      exact Nat.le_refl 0
  begins bound line older suffix began := by
    rcases List.suffix_cons_iff.1 suffix with same | nothing
    · obtain ⟨rfl, rfl⟩ := List.cons.inj same
      rcases begins with isFree | none
      · exact Bool.noConfusion (bound.symm.trans isFree)
      · rw [none] at began
        exact absurd began Bool.false_ne_true
    · exact absurd (List.suffix_nil.1 nothing) (List.cons_ne_nil line older)

theorem append (latter : Enclosed free newer) (former : Enclosed free older) :
    Enclosed free (newer ++ older) where
  answered := by
    rw [answers_append, commands_append, latter.answered, former.answered]
  heard lines suffix := by
    rcases suffix_append_cases suffix with behind | ⟨part, front, rfl⟩
    · exact former.heard lines behind
    · rw [answers_append, commands_append, former.answered]
      exact Nat.add_le_add_right (latter.heard part front) _
  begins bound line others suffix began := by
    rcases suffix_append_cases suffix with behind | ⟨part, front, split⟩
    · exact former.begins bound line others behind began
    · cases part with
      | nil =>
          have whole : line :: others <:+ older := split ▸ List.suffix_rfl
          exact former.begins bound line others whole began
      | cons first rest =>
          rw [List.cons_append] at split
          obtain ⟨rfl, rfl⟩ := List.cons.inj split
          rw [answers_append, commands_append, former.answered]
          exact Nat.add_lt_add_right (latter.begins bound line rest front began) _

/-- What is done for a command stands between the command and its answer. -/
theorem around (command : Command α) (result : Except Failure Reply) (heard known : Standing α)
    (done : Enclosed true inside) :
    Enclosed free (⟨.answered command result, known⟩ ::
      (inside ++ [⟨.dispatched command, heard⟩])) where
  answered := by simp [done.answered]
  heard older suffix := by
    rcases List.suffix_cons_iff.1 suffix with rfl | behind
    · simp [done.answered]
    · rcases suffix_append_cases behind with first | ⟨part, front, rfl⟩
      · rcases List.suffix_cons_iff.1 first with rfl | nothing
        · simp only [answers_dispatched, commands_dispatched, answers_nil, Nat.zero_le]
        · rw [List.suffix_nil.1 nothing]
          exact Nat.le_refl 0
      · have fewer := done.heard part front
        rw [answers_append, commands_append, answers_dispatched, commands_dispatched]
        exact Nat.le_succ_of_le (Nat.add_le_add_right fewer 0)
  begins _ line older suffix began := by
    rcases List.suffix_cons_iff.1 suffix with same | behind
    · obtain ⟨rfl, -⟩ := List.cons.inj same
      exact absurd began Bool.false_ne_true
    · rcases suffix_append_cases behind with first | ⟨part, front, split⟩
      · rcases List.suffix_cons_iff.1 first with same | nothing
        · obtain ⟨rfl, -⟩ := List.cons.inj same
          exact absurd began Bool.false_ne_true
        · exact absurd (List.suffix_nil.1 nothing) (List.cons_ne_nil line older)
      · cases part with
        | nil =>
            obtain ⟨rfl, -⟩ := List.cons.inj split
            exact absurd began Bool.false_ne_true
        | cons newest rest =>
            -- the command has been heard, and not yet answered
            rw [List.cons_append] at split
            obtain ⟨rfl, rfl⟩ := List.cons.inj split
            have fewer := done.heard rest ((List.suffix_cons line rest).trans front)
            rw [answers_append, commands_append, answers_dispatched, commands_dispatched]
            exact Nat.lt_succ_of_le (Nat.add_le_add_right fewer 0)

theorem of_isPlay {lines : List (Moment α)} (play : ∀ line ∈ lines, line.event.isPlay = true) :
    Enclosed free lines := by
  induction lines with
  | nil => exact .nil free
  | cons newest older ih =>
      obtain ⟨isPlay, others⟩ := List.forall_mem_cons.1 play
      have plain : newest.event.isDispatch = false ∧ newest.event.isAnswer = false := by
        cases told : newest.event with
        | dispatched | answered =>
            rw [told] at isPlay
            exact absurd isPlay Bool.false_ne_true
        | _ => exact ⟨rfl, rfl⟩
      have first : Enclosed free [newest] :=
        .singleton plain (.inr (Event.begins?_of_isPlay isPlay)) newest.standing
      exact first.append (ih others)

end Enclosed

/-- The lines of a part of a run are nested, and unless they are free, entries begin only inside of
commands. -/
def Encloses (free : Bool) (run after : Run W α) : Prop :=
  ∃ lines, after.journal = lines ++ run.journal ∧ Enclosed free lines

namespace Encloses

variable {free : Bool} {run middle after : Run W α}

theorem unwritten (journal : after.journal = run.journal) : Encloses free run after :=
  ⟨[], journal, .nil free⟩

theorem trans (first : Encloses free run middle) (second : Encloses free middle after) :
    Encloses free run after := by
  obtain ⟨older, wrote, former⟩ := first
  obtain ⟨newer, wroteOn, latter⟩ := second
  refine ⟨newer ++ older, ?_, latter.append former⟩
  rw [wroteOn, wrote, List.append_assoc]

/-- Lines are only written in front of those there are. -/
theorem suffix (encloses : Encloses free run after) : run.journal <:+ after.journal := by
  obtain ⟨lines, journal, -⟩ := encloses
  exact ⟨lines, journal.symm⟩

theorem noting (run : Run W α) {event : Event α}
    (plain : event.isDispatch = false ∧ event.isAnswer = false)
    (begins : free = true ∨ event.begins? = none) : Encloses free run (run.noting event) :=
  ⟨[_], run.noting_journal event, .singleton plain begins _⟩

theorem afterCall (run : Run W α) (made : Call) (action : Action W Failure β) :
    Encloses free run (run.afterCall made action) :=
  ⟨[_], run.afterCall_journal made action, .singleton ⟨rfl, rfl⟩ (.inr rfl) _⟩

theorem aborting (run : Run W α) (failure : Failure) : Encloses free run (run.aborting failure) :=
  ⟨[_], run.aborting_journal failure, .singleton ⟨rfl, rfl⟩ (.inr rfl) _⟩

/-- What is done for a command may begin entries. -/
theorem answered {command : Command α} (result : Except Failure Reply)
    (done : Encloses true (run.noting (.dispatched command)) middle) :
    Encloses free run (middle.noting (.answered command result)) := by
  obtain ⟨inside, wrote, enclosed⟩ := done
  refine ⟨_, ?_, enclosed.around command result run.standing middle.standing⟩
  rw [Run.noting_journal, wrote, Run.noting_journal, List.cons_append, List.append_assoc,
    List.singleton_append]

theorem launched (run : Run W α) : Encloses free run (run.launched setting) :=
  afterCall (run.knowing run.standing.begun) _ _

theorem resetting (run : Run W α) : Encloses free run (run.resetting setting) :=
  afterCall run _ _

theorem writing (run : Run W α) (changes : Changes) :
    Encloses free run (run.writing setting changes) :=
  afterCall run _ _

theorem beginning (run : Run W α) (label : Label) (entry : Entry α) (flushing : Bool) :
    Encloses true run (run.beginning label entry flushing) :=
  ⟨[_], rfl, .singleton ⟨rfl, rfl⟩ (.inl rfl) _⟩

theorem taking (run : Run W α) (task : Task) : Encloses free run (run.taking task) := by
  cases task with
  | hook | step => exact ⟨[_], rfl, .singleton ⟨rfl, rfl⟩ (.inr rfl) _⟩

theorem ending (run : Run W α) (task : Task) : Encloses free run (run.noting task.ended) := by
  cases task with
  | hook | step => exact ⟨[_], rfl, .singleton ⟨rfl, rfl⟩ (.inr rfl) _⟩

end Encloses

/-- **Whatever is done, commands and their answers are nested.** -/
theorem Course.encloses {role : Role} {well : Bool} {run after : Run W α}
    (course : Course setting role well run after) : Encloses true run after := by
  induction course with
  | act world _ ih => exact ih
  | finish | stay | done => exact .unwritten rfl
  | know known aborted _ ih => exact ih
  | refuse command failure ended _ ih =>
      exact Encloses.trans (.answered _ (.unwritten rfl)) ih
  | answer command result _ _ _ _ inside rest => exact Encloses.trans (inside.answered result) rest
  | abort command failure _ _ _ _ _ inside rest =>
      exact Encloses.trans ((inside.trans (.aborting _ failure)).answered _) rest
  | call made action _ _ ih => exact Encloses.trans (.afterCall _ made action) ih
  | failLaunch failure => exact Encloses.trans (.launched _) (.aborting _ failure)
  | failReset failure =>
      exact Encloses.trans (Encloses.trans (.launched _) (.resetting _)) (.aborting _ failure)
  | start changed _ _ _ ih =>
      exact Encloses.trans (Encloses.trans (.launched _) (.resetting _)) ih
  | bring label changes _ ih =>
      exact Encloses.trans (.writing _ changes)
        (Encloses.trans (.noting _ ⟨rfl, rfl⟩ (.inl rfl)) ih)
  | miss label failure => exact .noting _ ⟨rfl, rfl⟩ (.inl rfl)
  | entry label entry flushing _ _ played rest =>
      refine Encloses.trans (.beginning _ label entry flushing) (played.trans ?_)
      exact Encloses.trans (.noting _ ⟨rfl, rfl⟩ (.inl rfl)) rest
  | stop label entry flushing _ played =>
      exact Encloses.trans (.beginning _ label entry flushing) played
  | task task _ _ _ _ inside rest =>
      exact Encloses.trans (.taking _ task) (inside.trans (Encloses.trans (.ending _ task) rest))
  | fail task _ _ _ inside => exact Encloses.trans (.taking _ task) inside

namespace Runner

variable {run : Run W α}

/-! ## Commands -/

/-- Carrying out a command nests the commands that are heard meanwhile. -/
theorem encloses_carryOut (command : Command α) (run : Run W α) :
    Encloses true run ((carryOut setting (runAllDue setting) command).runOn run).2 := by
  cases aborted : run.standing.aborted with
  | some failure =>
      rw [runOn_carryOut_refused run setting aborted]
      exact .unwritten rfl
  | none =>
      have handled : Encloses true run ((handle setting (runAllDue setting) command).runOn run).2 :=
        (course_handle working_runAllDue command aborted).encloses
      have carried : (carryOut setting (runAllDue setting) command).runOn run = _ ∨ _ :=
        carryOut_cases aborted
      rcases carried with same | ⟨failure, after, same, carried⟩
      · rw [same]
        exact handled
      · rw [same] at handled
        rw [carried]
        exact handled.trans (.aborting after failure)

/-- An action that begins entries only inside of commands. -/
def Enclosing (action : Act W α β) : Prop :=
  ∀ run, Encloses false run (action.runOn run).2

theorem enclosing_answer (command : Command α) :
    Enclosing (answer setting (runAllDue setting) command) := by
  intro run
  rw [runOn_answer]
  exact (encloses_carryOut command _).answered _

/-! ## Playing an entry -/

/-- What the runner does by itself while it plays an entry hears no command. -/
theorem encloses_own {run after : Run W α} (own : PlayMove setting run after) :
    Encloses false run after := by
  obtain ⟨lines, journal, quiet, plays⟩ : Plays True run after := own.plays
  exact ⟨lines, journal, .of_isPlay (plays (quiet trivial)).1⟩

/-- **While an entry is played, other entries begin only inside of commands.** -/
theorem enclosing_playEntry {dispatch : Command α → Act W α Reply}
    (enclosing : ∀ command, Enclosing (dispatch command)) (label : Label) (entry : Entry α) :
    Enclosing (playEntry setting dispatch label entry) :=
  (playing_playEntry label entry).relates (R := Encloses false) Encloses.trans encloses_own
    fun _ => enclosing

end Runner

end HotReload
