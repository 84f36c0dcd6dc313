import HotReload.Proofs.Execution

/-!
# How an entry is played

Whatever is done for an entry is done with a way to dispatch commands. A sub-procedure sends
them, and the rest the runner does by itself: it acts on the world, marks a place, begins a
step, calls the page (`PlayMove`). So playing an entry is made up of four things: what the
runner does by itself, a command, an attempt and a sequence (`Playing`).

That an entry is played in this way is worked out once, from procedures to steps, hooks and
entries (`playing_playEntry`), for every way to dispatch commands. So what is known of the
commands is known of the entry: a relation between runs that can be put in sequence holds over
an entry that is played, if it holds over what the runner does by itself and over every
command (`Playing.relates`). Where the sub-procedures send no commands, the former is enough.
-/

set_option autoImplicit false

namespace HotReload

variable {W α β : Type} {setting : Setting W α}

/-! ## Sub-procedures that send no commands -/

/-- A procedure that sends no commands, however the world is. -/
def Procedure.Silent : Procedure W α → Prop
  | .finish _ => True
  | .act _ next => ∀ world, (next world).Silent
  | .send _ _ => False

/-- A step that sends no commands. A function works on the page alone. -/
def Step.Silent (playbook : Playbook W α) : Step α → Prop
  | .html _ | .call _ => True
  | .sub handle => (playbook.procedure handle).Silent

/-- An entry whose sub-procedures send no commands. -/
structure Entry.Silent (playbook : Playbook W α) (entry : Entry α) : Prop where
  before : ∀ handle ∈ entry.before, (playbook.procedure handle).Silent
  steps : ∀ step ∈ entry.steps, step.Silent playbook
  after : ∀ handle ∈ entry.after, (playbook.procedure handle).Silent

/-! ## What the runner does by itself -/

/-- What the runner does by itself while it plays an entry. -/
inductive PlayMove (setting : Setting W α) : Run W α → Run W α → Prop
  /-- The run is only read. -/
  | stay (run : Run W α) : PlayMove setting run run
  /-- A procedure or a function acts on the world. -/
  | act (run : Run W α) (effect : W → W) :
      PlayMove setting run { run with world := effect run.world }
  /-- A place in the entry is marked. -/
  | mark (run : Run W α) (event : Event α) (isMark : event.isMark = true)
      (isPlay : event.isPlay = true) :
      PlayMove setting run (run.noting event)
  /-- A step begins. -/
  | step (run : Run W α) (label : Label) (index : Nat) :
      PlayMove setting run
        ((run.knowing { run.standing with stepsRun := run.standing.stepsRun + 1 }).noting
          (.stepBegan label index))
  /-- The page is read or called. -/
  | invoke (run : Run W α) (path : List String) (arguments : List Json) :
      PlayMove setting run
        (run.afterCall (.invoke path arguments) (setting.testBed.invoke path arguments))
  /-- A function closes the page. -/
  | closePage (run : Run W α) :
      PlayMove setting run (run.afterCall .closePage setting.testBed.closePage)

namespace Runner

/-- What is done with a way to dispatch commands. -/
abbrev Part (W α β : Type) := (Command α → Act W α Reply) → Act W α β

/-! ## Parts of an entry that is played -/

/-- A part of an entry that is played. Where it is silent, it dispatches no commands. -/
inductive Playing (setting : Setting W α) (silent : Prop) : {β : Type} → Part W α β → Prop
  /-- The runner does something by itself. -/
  | own {β : Type} (action : Act W α β)
      (moves : ∀ run, PlayMove setting run (action.runOn run).2) :
      Playing setting silent fun _ => action
  /-- A command is dispatched. -/
  | send (command : Command α) (heard : ¬silent) :
      Playing setting silent fun dispatch => dispatch command
  /-- A failure becomes an answer. -/
  | attempt {β : Type} {part : Part W α β} (playing : Playing setting silent part) :
      Playing setting silent fun dispatch => (part dispatch).attempt
  /-- One part comes after another. -/
  | bind {β γ : Type} {first : Part W α β} {next : β → Part W α γ}
      (head : Playing setting silent first)
      (tail : ∀ answer, Playing setting silent (next answer)) :
      Playing setting silent fun dispatch => first dispatch >>= fun answer => next answer dispatch

namespace Playing

variable {silent other : Prop} {part : Part W α β}

/-- A part that is silent where less is asked is so where more is. -/
theorem mono (playing : Playing setting silent part) (still : other → silent) :
    Playing setting other part := by
  induction playing with
  | own action moves => exact .own action moves
  | send command heard => exact .send command (heard ∘ still)
  | attempt _ ih => exact .attempt ih
  | bind _ _ first next => exact .bind first next

/-- **What holds over what the runner does by itself and over every command holds over an entry
that is played**, if it can be put in sequence. -/
theorem relates {R : Run W α → Run W α → Prop} {dispatch : Command α → Act W α Reply}
    (playing : Playing setting silent part)
    (trans : ∀ {run middle after : Run W α}, R run middle → R middle after → R run after)
    (own : ∀ {run after : Run W α}, PlayMove setting run after → R run after)
    (sent : ¬silent → ∀ command run, R run ((dispatch command).runOn run).2)
    (run : Run W α) : R run ((part dispatch).runOn run).2 := by
  induction playing generalizing run with
  | own action moves => exact own (moves run)
  | send command heard => exact sent heard command run
  | attempt _ ih => exact ih run
  | bind _ _ first next =>
      have begun := first run
      rw [Action.runOn_bind]
      split
      · next answer middle ran =>
          rw [ran] at begun
          exact trans begun (next answer middle)
      · next failure middle ran =>
          rw [ran] at begun
          exact begun

end Playing

/-! ## Procedures and functions -/

theorem playing_drive (procedure : Procedure W α) :
    Playing setting procedure.Silent fun dispatch => drive dispatch procedure := by
  induction procedure with
  | finish result => exact .own (Action.ofExcept result) fun run => .stay run
  | act effect next ih =>
      refine .bind (.own _ fun run => .act run effect) fun _ => ?_
      refine .bind (.own get fun run => .stay run) fun run => ?_
      exact (ih run.world).mono fun still => still run.world
  | send command next ih =>
      refine .bind (.attempt (.send command id)) fun answer => ?_
      exact (ih answer).mono False.elim

section Page

variable {silent : Prop}

theorem playing_requireSession :
    Playing setting silent fun _ => (requireSession : Act W α Unit) := by
  refine .own _ fun run => ?_
  rw [requireSession, Action.runOn_bind_ok (runOn_standing run)]
  split <;> exact .stay run

theorem playing_callPage (path : List String) (arguments : List Json) :
    Playing setting silent fun _ =>
      (call (.invoke path arguments) (setting.testBed.invoke path arguments) : Act W α Json) := by
  refine .own _ fun run => ?_
  rw [runOn_call]
  exact .invoke run path arguments

theorem playing_callFunction (function : Callable W) :
    Playing setting silent fun _ => callFunction setting function := by
  induction function with
  | finish result => exact .own (Action.ofExcept result) fun run => .stay run
  | act effect next ih =>
      refine .bind (.own _ fun run => .act run effect) fun _ => ?_
      exact .bind (.own get fun run => .stay run) fun run => ih run.world
  | invoke path arguments next ih => exact .bind (.attempt (playing_callPage path arguments)) ih
  | close next ih =>
      refine .bind (.attempt (.own _ fun run => ?_)) ih
      rw [runOn_call]
      exact .closePage run

theorem playing_compareMarkup (label : Label) (index : Nat) (markup : String) :
    Playing setting silent fun _ => compareMarkup setting label index markup := by
  refine .bind (.bind playing_requireSession fun _ => playing_callPage _ _) fun shown => ?_
  refine .own _ fun run => ?_
  dsimp only
  split <;> exact .stay run

end Page

/-! ## Steps, hooks and entries -/

theorem playing_mark {silent : Prop} {event : Event α} (isMark : event.isMark = true)
    (isPlay : event.isPlay = true) : Playing setting silent fun _ => record event :=
  .own _ fun run => .mark run event isMark isPlay

theorem playing_doStep (label : Label) (index : Nat) (step : Step α) :
    Playing setting (step.Silent setting.playbook) fun dispatch =>
      doStep setting dispatch label index step := by
  cases step with
  | html markup => exact playing_compareMarkup label index markup
  | sub handle => exact playing_drive _
  | call handle => exact .bind playing_requireSession fun _ => playing_callFunction _

theorem playing_runStep (label : Label) (index : Nat) (step : Step α) :
    Playing setting (step.Silent setting.playbook) fun dispatch =>
      runStep setting dispatch label index step := by
  have counted : (fun dispatch => runStep setting dispatch label index step) = fun dispatch =>
      ((revise fun standing => { standing with stepsRun := standing.stepsRun + 1 }) >>= fun _ =>
        record (.stepBegan label index)) >>= fun _ =>
          doStep setting dispatch label index step >>= fun _ => record (.stepEnded label index) :=
    funext fun _ => (bind_assoc _ _ _).symm
  rw [counted]
  refine .bind (.own _ fun run => .step run label index) fun _ => ?_
  exact .bind (playing_doStep label index step) fun _ => playing_mark rfl rfl

theorem playing_runSteps (label : Label) (index : Nat) (steps : List (Step α)) :
    Playing setting (∀ step ∈ steps, step.Silent setting.playbook) fun dispatch =>
      runSteps setting dispatch label index steps := by
  induction steps generalizing index with
  | nil => exact .own (pure ()) fun run => .stay run
  | cons step rest ih =>
      refine .bind ((playing_runStep label index step).mono ?_) fun _ => (ih (index + 1)).mono ?_
      · exact fun still => still step List.mem_cons_self
      · exact fun still other mem => still other (List.mem_cons_of_mem step mem)

theorem playing_runHook (label : Label) (hook : Hook) (handle : Option α) :
    Playing setting (∀ given ∈ handle, (setting.playbook.procedure given).Silent) fun dispatch =>
      runHook setting dispatch label hook handle := by
  cases handle with
  | none => exact .own (pure ()) fun run => .stay run
  | some handle =>
      refine .bind (playing_mark rfl rfl) fun _ => .bind ?_ fun _ => playing_mark rfl rfl
      exact (playing_drive _).mono fun still => still handle rfl

/-- **An entry is played by what the runner does by itself and by commands.** If it is silent,
no command is dispatched. -/
theorem playing_playEntry (label : Label) (entry : Entry α) :
    Playing setting (entry.Silent setting.playbook) fun dispatch =>
      playEntry setting dispatch label entry := by
  refine .bind ((playing_runHook label .before entry.before).mono Entry.Silent.before) fun _ => ?_
  refine .bind ((playing_runSteps label 0 entry.steps).mono Entry.Silent.steps) fun _ => ?_
  refine .bind ((playing_runHook label .after entry.after).mono Entry.Silent.after) fun _ => ?_
  exact playing_mark rfl rfl

end Runner

end HotReload
