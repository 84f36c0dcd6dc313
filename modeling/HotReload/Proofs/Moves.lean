import HotReload.Proofs.Playing
import Mathlib.Logic.Relation

/-!
# The moves of a runner

While a test is driven, a run changes in a few ways only: a procedure acts on the world,
a command is carried out, refused or answered, the session starts, files are written, an
entry is taken out and begins. Each way is a move, and a move says under which
conditions it is made and what it leaves (`Move`).

Everything the runner does while it drives a test is a sequence of moves
(`moves_driveToEnd`), whatever the procedures, the functions and the test bed do, and
however deep entries nest. So what every move keeps, every run keeps.

A move can write several lines into the journal. Between them nothing else can happen:
the entry a flush takes out has begun, or the write that should bring the app to its
update has failed, before any procedure is heard again.
-/

set_option autoImplicit false

namespace HotReload

variable {W α β : Type}

/-- One way in which a run changes while a test is driven. -/
inductive Move (setting : Setting W α) : Run W α → Run W α → Prop
  /-- A procedure or a function acts on the world. -/
  | act (run : Run W α) (effect : W → W) :
      Move setting run { run with world := effect run.world }
  /-- A place in the run is marked. -/
  | mark (run : Run W α) (event : Event α) (isMark : event.isMark = true) :
      Move setting run (run.noting event)
  /-- A step begins. -/
  | step (run : Run W α) (label : Label) (index : Nat)
      (isOpen : run.standing.sessionOpen = true) :
      Move setting run
        ((run.knowing { run.standing with stepsRun := run.standing.stepsRun + 1 }).noting
          (.stepBegan label index))
  /-- A command, but not one to forget all entries, reaches a runner that has not been
  aborted. -/
  | dispatch (run : Run W α) (command : Command α) (goesOn : run.standing.aborted = none)
      (other : command ≠ .discard) :
      Move setting run (run.noting (.dispatched command))
  /-- A command reaches a runner that has been aborted, and is refused. -/
  | refuse (run : Run W α) (command : Command α) (failure : Failure)
      (ended : run.standing.aborted = some failure) :
      Move setting run
        ((run.noting (.dispatched command)).noting
          (.answered command (.error (Runner.outOfOrder (.aborted failure.message)))))
  /-- A command is answered; a fatal failure has been recorded before. -/
  | answer (run : Run W α) (command : Command α) (result : Except Failure Reply)
      (recorded : ∀ failure, result = .error failure → failure.isFatal = true →
        run.standing.aborted.isSome = true) :
      Move setting run (run.noting (.answered command result))
  /-- The first fatal failure of a command is recorded. -/
  | abort (run : Run W α) (failure : Failure) (fatal : failure.isFatal = true)
      (first : run.standing.aborted = none) :
      Move setting run (run.aborting failure)
  /-- Templates and contents of files are declared. -/
  | declare (run : Run W α) (templates : Table String Template)
      (specs : Table String Content) :
      Move setting run (run.knowing { run.standing with templates, specs })
  /-- Before the session starts, init files, an initial update or entries are declared.
  Each label keeps one entry. -/
  | prepare (run : Run W α) (templates : Table String Template)
      (inits : Table String String) (expects : List (Label × Entry α))
      (initLabel : Option Label) (fresh : run.standing.started = false)
      (apart : (run.standing.expects.map Prod.fst).Nodup → (expects.map Prod.fst).Nodup) :
      Move setting run
        (run.knowing { run.standing with templates, inits, expects, initLabel })
  /-- All entries are forgotten. -/
  | discard (run : Run W α) (goesOn : run.standing.aborted = none) :
      Move setting run
        (((run.noting (.dispatched .discard)).knowing
          { run.standing with
            expects := [], remaining := run.standing.remaining.map fun _ => {} }).noting
              (.answered .discard (.ok .done)))
  /-- The session starts, and the app cannot be opened. -/
  | failLaunch (run : Run W α) (failure : Failure) (fresh : run.standing.started = false)
      (failed : (setting.testBed.launch.runOn run.world).1 = .error failure) :
      Move setting run ((run.launched setting).aborting failure)
  /-- The session starts, the app is opened, and its first files cannot be written. -/
  | failReset (run : Run W α) (failure : Failure) (fresh : run.standing.started = false)
      (opened : (setting.testBed.launch.runOn run.world).1 = .ok ())
      (failed : ((setting.testBed.reset run.standing.inits).runOn
        (run.launched setting).world).1 = .error failure) :
      Move setting run (((run.launched setting).resetting setting).aborting failure)
  /-- The session starts, the app is opened and its first files are written. -/
  | start (run : Run W α) (changed : List String) (fresh : run.standing.started = false)
      (opened : (setting.testBed.launch.runOn run.world).1 = .ok ())
      (written : ((setting.testBed.reset run.standing.inits).runOn
        (run.launched setting).world).1 = .ok changed) :
      Move setting run (run.started setting)
  /-- The app is taken to show the update it starts with. -/
  | aim (run : Run W α) (label : Label) (initial : run.standing.initLabel = some label)
      (isOpen : run.standing.sessionOpen = true) :
      Move setting run (run.showing label)
  /-- Files are written. -/
  | write (run : Run W α) (changes : Changes) (isOpen : run.standing.sessionOpen = true) :
      Move setting run (run.writing setting changes)
  /-- A condition is waited for. -/
  | wait (run : Run W α) (what : String) (isOpen : run.standing.sessionOpen = true) :
      Move setting run (run.afterCall (.wait what) (setting.testBed.wait what))
  /-- The page is read or called. -/
  | invoke (run : Run W α) (path : List String) (arguments : List Json)
      (isOpen : run.standing.sessionOpen = true) :
      Move setting run
        (run.afterCall (.invoke path arguments) (setting.testBed.invoke path arguments))
  /-- A function closes the page. -/
  | closePage (run : Run W α) (isOpen : run.standing.sessionOpen = true) :
      Move setting run (run.afterCall .closePage setting.testBed.closePage)
  /-- A change brings the app to an update. -/
  | change (run : Run W α) (label : Label) (isOpen : run.standing.sessionOpen = true)
      (written : ((setting.testBed.write (run.standing.changesFor label)).runOn run.world).1 =
        .ok ()) :
      Move setting run
        ((run.writing setting (run.standing.changesFor label)).showing label)
  /-- The first entry that is due begins, and nothing is written for it: it is not reached
  by a flush, or the app shows its update, or no files are declared. -/
  | begin (run : Run W α) (upto : Option Label) (label : Label) (entry : Entry α)
      (rest : Table Label (Entry α))
      (due : run.standing.due? upto = some ((label, entry), rest))
      (isOpen : run.standing.sessionOpen = true)
      (shown : upto = none →
        run.standing.cursor = some label ∨ run.standing.specs.isEmpty = true) :
      Move setting run ((run.leaving rest).beginning label entry upto.isNone)
  /-- A flush brings the app to the update of the first entry, and the entry begins. -/
  | bring (run : Run W α) (label : Label) (entry : Entry α) (rest : Table Label (Entry α))
      (due : run.standing.due? none = some ((label, entry), rest))
      (isOpen : run.standing.sessionOpen = true)
      (written : ((setting.testBed.write (run.standing.changesFor label)).runOn run.world).1 =
        .ok ()) :
      Move setting run
        ((((run.leaving rest).bringing setting label).showing label).beginning label entry true)
  /-- A flush takes the first entry out and cannot bring the app to its update. -/
  | lose (run : Run W α) (label : Label) (entry : Entry α) (rest : Table Label (Entry α))
      (failure : Failure)
      (due : run.standing.due? none = some ((label, entry), rest))
      (isOpen : run.standing.sessionOpen = true)
      (failed : ((setting.testBed.write (run.standing.changesFor label)).runOn run.world).1 =
        .error failure) :
      Move setting run ((run.leaving rest).bringing setting label)

/-- Any number of moves. -/
abbrev Moves (setting : Setting W α) : Run W α → Run W α → Prop :=
  Relation.ReflTransGen (Move setting)

variable {setting : Setting W α}

namespace Moves

/-- A sequence of actions moves if each of them does. -/
theorem bind {first : Runner.Act W α β} {γ : Type} {next : β → Runner.Act W α γ}
    {run : Run W α} (head : Moves setting run (first.runOn run).2)
    (tail : ∀ answer middle, first.runOn run = (.ok answer, middle) →
      Moves setting middle ((next answer).runOn middle).2) :
    Moves setting run ((first >>= next).runOn run).2 := by
  rw [Action.runOn_bind]
  cases ran : first.runOn run with
  | mk result middle =>
      rw [ran] at head
      cases result with
      | error failure => exact head
      | ok answer => exact head.trans (tail answer middle ran)

/-- After an attempt the run goes on, however it ended. -/
theorem attempt_bind {first : Runner.Act W α β} {γ : Type}
    {next : Except Failure β → Runner.Act W α γ} {run : Run W α}
    (head : Moves setting run (first.runOn run).2)
    (tail : Moves setting (first.runOn run).2
      ((next (first.runOn run).1).runOn (first.runOn run).2).2) :
    Moves setting run ((first.attempt >>= next).runOn run).2 := by
  rw [Action.runOn_attempt_bind]
  exact head.trans tail

end Moves

/-! ## When the session can be used -/

/-- A session that has started can be used, unless the run has been aborted. -/
def Run.Ready (run : Run W α) : Prop :=
  run.standing.started = true → run.standing.aborted = none → run.standing.sessionOpen = true

theorem Run.ready_of_open {run : Run W α} (isOpen : run.standing.sessionOpen = true) :
    run.Ready := fun _ _ => isOpen

/-- An open session stays open. -/
theorem Move.open {run after : Run W α} (move : Move setting run after)
    (isOpen : run.standing.sessionOpen = true) : after.standing.sessionOpen = true := by
  cases move with
  | start => rfl
  | _ => exact isOpen

theorem Move.ready {run after : Run W α} (move : Move setting run after) (ready : run.Ready) :
    after.Ready := by
  cases move with
  | abort | failLaunch | failReset => exact fun _ goesOn => absurd goesOn (Option.some_ne_none _)
  | start => exact fun _ _ => rfl
  | _ => exact ready

theorem Moves.open {run after : Run W α} (moves : Moves setting run after)
    (isOpen : run.standing.sessionOpen = true) : after.standing.sessionOpen = true := by
  induction moves with
  | refl => exact isOpen
  | tail _ move ih => exact move.open ih

theorem Moves.ready {run after : Run W α} (moves : Moves setting run after)
    (ready : run.Ready) : after.Ready := by
  induction moves with
  | refl => exact ready
  | tail _ move ih => exact move.ready ih

/-- In an open session a sequence of actions moves if each of them does. -/
theorem Moves.bind_open {first : Runner.Act W α β} {γ : Type} {next : β → Runner.Act W α γ}
    {run : Run W α} (isOpen : run.standing.sessionOpen = true)
    (head : Moves setting run (first.runOn run).2)
    (tail : ∀ answer middle, middle.standing.sessionOpen = true →
      Moves setting middle ((next answer).runOn middle).2) :
    Moves setting run ((first >>= next).runOn run).2 := by
  refine Moves.bind head fun answer middle ran => tail answer middle ?_
  rw [ran] at head
  exact Moves.open head isOpen

/-! ## Procedures and entries -/

/-- In an open session, what the runner does by itself while it plays an entry is moves. -/
theorem PlayMove.moves {run after : Run W α} (own : PlayMove setting run after)
    (isOpen : run.standing.sessionOpen = true) : Moves setting run after := by
  cases own with
  | stay => exact .refl
  | act effect => exact .single (.act run effect)
  | mark event isMark => exact .single (.mark run event isMark)
  | step label index => exact .single (.step run label index isOpen)
  | invoke path arguments => exact .single (.invoke run path arguments isOpen)
  | closePage => exact .single (.closePage run isOpen)

namespace Runner

/-- Commands that are dispatched this way lead to moves. -/
def Moving (setting : Setting W α) (dispatch : Command α → Act W α Reply) : Prop :=
  ∀ run, run.Ready → ∀ command, Moves setting run ((dispatch command).runOn run).2

variable {dispatch : Command α → Act W α Reply} {run : Run W α}

/-- The procedure of a test may also be driven before the session is open. -/
theorem moves_drive (moving : Moving setting dispatch) (procedure : Procedure W α)
    (ready : run.Ready) : Moves setting run ((drive dispatch procedure).runOn run).2 := by
  induction procedure generalizing run with
  | finish result => exact .refl
  | act effect next ih =>
      rw [runOn_drive_act]
      exact .head (.act run effect) (ih _ ready)
  | send command next ih =>
      rw [runOn_drive_send]
      have sent := moving run ready command
      exact sent.trans (ih _ (sent.ready ready))

/-- In an open session, a part of an entry that is played is moves. -/
theorem Playing.moves {silent : Prop} {part : Part W α β} (playing : Playing setting silent part)
    (moving : Moving setting dispatch) (isOpen : run.standing.sessionOpen = true) :
    Moves setting run ((part dispatch).runOn run).2 := by
  refine playing.relates
    (R := fun run after => run.standing.sessionOpen = true → Moves setting run after)
    ?trans ?own ?sent run isOpen
  case trans =>
    intro run middle after first second isOpen
    have moved := first isOpen
    exact moved.trans (second (moved.open isOpen))
  case own => exact PlayMove.moves
  case sent => exact fun _ command run isOpen => moving run (Run.ready_of_open isOpen) command

theorem moves_invoke (path : List String) (arguments : List Json)
    (isOpen : run.standing.sessionOpen = true) :
    Moves setting run ((invoke setting path arguments).runOn run).2 := by
  rw [runOn_invoke setting isOpen]
  exact .single (.invoke run path arguments isOpen)

theorem moves_write (changes : Changes) (isOpen : run.standing.sessionOpen = true) :
    Moves setting run ((write setting changes).runOn run).2 := by
  rw [runOn_write setting isOpen]
  exact .single (.write run changes isOpen)

theorem moves_playEntry (moving : Moving setting dispatch) (label : Label) (entry : Entry α)
    (isOpen : run.standing.sessionOpen = true) :
    Moves setting run ((playEntry setting dispatch label entry).runOn run).2 :=
  (playing_playEntry label entry).moves moving isOpen

/-- The first entry that is due begins, or is lost, and what follows moves on. -/
theorem moves_dueEntry {upto : Option Label} {label : Label} {entry : Entry α}
    {rest : Table Label (Entry α)} (due : run.standing.due? upto = some ((label, entry), rest))
    (isOpen : run.standing.sessionOpen = true) {next : Act W α Unit}
    (tail : ∀ before : Run W α, before.standing.sessionOpen = true →
      Moves setting (before.beginning label entry upto.isNone) (next.runOn before).2) :
    Moves setting run
      ((approach setting upto label >>= fun _ => next).runOn (run.leaving rest)).2 := by
  cases upto with
  | some bound =>
      have begun : Move setting run ((run.leaving rest).beginning label entry false) :=
        .begin run (some bound) label entry rest due isOpen nofun
      exact .head begun (tail _ isOpen)
  | none =>
      rw [approach]
      by_cases shown : run.standing.cursor = some label ∨ run.standing.specs.isEmpty = true
      · have brought := runOn_bringTo_shown (run.leaving rest) setting shown
        rw [Action.runOn_bind_ok brought]
        exact .head (.begin run none label entry rest due isOpen fun _ => shown)
          (tail _ isOpen)
      · have elsewhere : run.standing.cursor ≠ some label ∧
            (!run.standing.specs.isEmpty) = true := by
          simpa [not_or] using shown
        cases result : ((setting.testBed.write (run.standing.changesFor label)).runOn
            run.world).1 with
        | ok done =>
            have brought := runOn_bringTo_written (run.leaving rest) setting elsewhere isOpen
              result
            rw [Action.runOn_bind_ok brought]
            exact .head (.bring run label entry rest due isOpen result) (tail _ isOpen)
        | error failure =>
            have lost := runOn_bringTo_failed (run.leaving rest) setting elsewhere isOpen result
            rw [Action.runOn_bind_error lost]
            exact .single (.lose run label entry rest failure due isOpen result)

/-! ## Commands -/

/-- Running what is due leads to moves in an open session. -/
def MovingDue (setting : Setting W α) (due : Option Label → Act W α Unit) : Prop :=
  ∀ run : Run W α, run.standing.sessionOpen = true →
    ∀ upto, Moves setting run ((due upto).runOn run).2

section Carrying

variable {due : Option Label → Act W α Unit} (movingDue : MovingDue setting due)

/-- A label that no entry has can be put behind the labels there are. -/
theorem nodup_labels_append {expects : List (Label × Entry α)} {label : Label}
    (apart : (expects.map Prod.fst).Nodup)
    (fresh : (expects.find? fun expect => expect.1 == label) = none) (entry : Entry α) :
    ((expects ++ [(label, entry)]).map Prod.fst).Nodup := by
  rw [List.map_append, List.nodup_append]
  refine ⟨apart, by simp, ?_⟩
  intro other mem last isLast same
  obtain ⟨expect, listed, rfl⟩ := List.mem_map.1 mem
  have here : expect.1 = label := same.trans (List.mem_singleton.1 isLast)
  simpa [here] using List.find?_eq_none.1 fresh expect listed

/-- Changing the entry of a label keeps the labels. -/
theorem labels_map_merged (expects : List (Label × Entry α)) (label : Label)
    (merged : Entry α) :
    (expects.map fun expect => if expect.1 == label then (label, merged) else expect).map
      Prod.fst = expects.map Prod.fst := by
  rw [List.map_map]
  refine List.map_congr_left fun expect _ => ?_
  by_cases same : expect.1 = label
  · simp [same]
  · simp [same]

/-- Before the session starts, a declared entry is put behind the others or merged into
the one of its label; afterwards it is refused. -/
theorem moves_register (label : Label) (entry : Entry α) :
    Moves setting run ((register label entry).runOn run).2 := by
  rw [register, Action.runOn_bind_ok (runOn_standing run)]
  cases fresh : run.standing.started with
  | true => exact .refl
  | false =>
      cases found : run.standing.expects.find? fun expect => expect.1 == label with
      | none =>
          exact .single (.prepare run _ _ _ _ fresh
            fun apart => nodup_labels_append apart found entry)
      | some expect =>
          refine Moves.bind (.single (.prepare run _ _ _ _ fresh fun apart => ?_)) ?_
          · rw [labels_map_merged]
            exact apart
          · intro _ middle _
            dsimp only
            split <;> exact .refl

theorem moves_registerEach (entries : List (Label × Entry α)) :
    Moves setting run ((registerEach entries).runOn run).2 := by
  induction entries generalizing run with
  | nil => exact .refl
  | cons declared rest ih =>
      exact Moves.bind (moves_register declared.1 declared.2) fun _ _ _ => ih

theorem moves_registerContents (contents : List (String × Content)) :
    Moves setting run ((registerContents contents : Act W α Unit).runOn run).2 :=
  .single (.declare run run.standing.templates _)

theorem moves_registerSpec (source : String) (subs : List α) :
    Moves setting run ((registerSpec source subs : Act W α Unit).runOn run).2 := by
  refine Moves.bind .refl fun document _ _ => ?_
  refine Moves.bind (moves_registerContents document.contents) fun _ _ _ => ?_
  exact Moves.bind .refl fun entries _ _ => moves_registerEach entries

theorem moves_declareInit (target : Target) :
    Moves setting run ((declareInit target : Act W α Unit).runOn run).2 := by
  rw [declareInit, Action.runOn_bind_ok (runOn_standing run)]
  cases fresh : run.standing.started with
  | true => exact .refl
  | false =>
      cases target with
      | files files => exact .single (.prepare run _ _ _ _ fresh id)
      | label label => exact .single (.prepare run _ _ _ _ fresh id)

include movingDue

theorem moves_enterInitial (isOpen : run.standing.sessionOpen = true) :
    Moves setting run ((enterInitial due).runOn run).2 := by
  rw [enterInitial, Action.runOn_bind_ok (runOn_standing run)]
  cases initial : run.standing.initLabel with
  | none => exact .refl
  | some label =>
      have unchanged := runOn_requireNoneBefore label run
      refine Moves.bind (by rw [unchanged]) fun _ middle required => ?_
      rw [required] at unchanged
      obtain rfl : middle = run := unchanged
      rw [Action.runOn_bind_ok (runOn_revise middle _)]
      exact .head (.aim middle label initial isOpen) (movingDue (middle.showing label) isOpen _)

theorem moves_ensureStarted :
    Moves setting run ((ensureStarted setting due).runOn run).2 := by
  rcases ensureStarted_cases setting due run with
    ⟨-, ran⟩ | ⟨failure, fresh, failed, ran⟩ | ⟨failure, fresh, opened, failed, ran⟩ |
      ⟨changed, fresh, opened, written, ran⟩
  · rw [ran]
  · rw [ran]
    exact .single (.failLaunch run failure fresh failed)
  · rw [ran]
    exact .single (.failReset run failure fresh opened failed)
  · rw [ran]
    exact .head (.start run changed fresh opened written) (moves_enterInitial movingDue rfl)

/-- Once the session has been started without a failure, it can be used. -/
theorem open_of_ensureStarted (ready : run.Ready) (goesOn : run.standing.aborted = none)
    {middle : Run W α} (done : (ensureStarted setting due).runOn run = (.ok (), middle)) :
    middle.standing.sessionOpen = true := by
  rcases ensureStarted_cases setting due run with
    ⟨started, ran⟩ | ⟨failure, -, -, ran⟩ | ⟨failure, -, -, -, ran⟩ | ⟨changed, -, -, -, ran⟩
  · obtain ⟨-, rfl⟩ := Prod.mk.inj (ran.symm.trans done)
    exact ready started goesOn
  · exact nomatch (Prod.mk.inj (ran.symm.trans done)).1
  · exact nomatch (Prod.mk.inj (ran.symm.trans done)).1
  · have entered : Moves setting (run.started setting)
        ((enterInitial due).runOn (run.started setting)).2 := moves_enterInitial movingDue rfl
    rw [← ran, done] at entered
    exact Moves.open entered rfl

omit movingDue in
theorem moves_perform_setup {command : Command α} (setup : command.isSetup = true)
    (other : command ≠ .discard) :
    Moves setting run ((perform setting due command).runOn run).2 := by
  cases command with
  | init target => exact Moves.bind (moves_declareInit target) fun _ _ _ => .refl
  | templates given => exact .single (.declare run _ run.standing.specs)
  | spec source subs => exact Moves.bind (moves_registerSpec source subs) fun _ _ _ => .refl
  | contents files => exact Moves.bind (moves_registerContents _) fun _ _ _ => .refl
  | expect steps => exact Moves.bind (moves_registerEach _) fun _ _ _ => .refl
  | before label sub => exact Moves.bind (moves_register _ _) fun _ _ _ => .refl
  | after label sub => exact Moves.bind (moves_register _ _) fun _ _ _ => .refl
  | discard => exact absurd rfl other
  | debug => exact .refl
  | flush | change | page | innerText | wait => exact nomatch setup

theorem moves_perform_change (label : Label) (isOpen : run.standing.sessionOpen = true) :
    Moves setting run ((perform setting due (.change (.label label))).runOn run).2 := by
  simp only [perform]
  rw [Action.runOn_bind_ok (runOn_standing run)]
  have wrote := runOn_write setting isOpen (run.standing.changesFor label)
  cases result : ((setting.testBed.write (run.standing.changesFor label)).runOn run.world).1 with
  | error failure =>
      rw [result] at wrote
      rw [Action.runOn_bind_error wrote]
      exact .single (.write run _ isOpen)
  | ok _ =>
      rw [result] at wrote
      rw [Action.runOn_bind_ok wrote, Action.runOn_bind_ok (runOn_revise _ _)]
      have changed := Move.change run label isOpen result
      exact .head changed (Moves.bind (movingDue _ (changed.open isOpen) _) fun _ _ _ => .refl)

theorem moves_perform_running {command : Command α} (running : command.isSetup = false)
    (isOpen : run.standing.sessionOpen = true) :
    Moves setting run ((perform setting due command).runOn run).2 := by
  cases command with
  | flush => exact Moves.bind (movingDue run isOpen none) fun _ _ _ => .refl
  | change target =>
      cases target with
      | label label => exact moves_perform_change movingDue label isOpen
      | files files =>
          simp only [perform]
          rw [Action.runOn_bind_ok (runOn_standing run),
            Action.runOn_bind_ok (runOn_revise run _)]
          exact .head (.declare run _ run.standing.specs)
            (Moves.bind (moves_write _ isOpen) fun _ _ _ => .refl)
  | page path arguments => exact Moves.bind (moves_invoke _ _ isOpen) fun _ _ _ => .refl
  | innerText selector => exact Moves.bind (moves_invoke _ _ isOpen) fun _ _ _ => .refl
  | wait what =>
      simp only [perform]
      rw [Action.runOn_bind_ok (runOn_requireSession run isOpen)]
      refine Moves.bind ?_ fun _ _ _ => .refl
      rw [runOn_call]
      exact .single (.wait run what isOpen)
  | init | templates | spec | contents | expect | before | after | discard | debug =>
      exact nomatch running

theorem moves_handle {command : Command α} (ready : run.Ready)
    (goesOn : run.standing.aborted = none) (other : command ≠ .discard) :
    Moves setting run ((handle setting due command).runOn run).2 := by
  rw [handle]
  cases setup : command.isSetup with
  | true => exact moves_perform_setup setup other
  | false =>
      refine Moves.bind (moves_ensureStarted movingDue) fun _ middle done => ?_
      exact moves_perform_running movingDue setup
        (open_of_ensureStarted movingDue ready goesOn done)

omit movingDue in
/-- When a command has been carried out, a fatal failure is recorded and the answer is given. -/
theorem moves_answered {start : Run W α} {command : Command α}
    (goesOn : run.standing.aborted = none)
    (handled : Moves setting start
      ((handle setting due command).runOn (run.noting (.dispatched command))).2) :
    Moves setting start ((answer setting due command).runOn run).2 := by
  rw [runOn_answer run setting due command,
    runOn_carryOut (run.noting (.dispatched command)) setting goesOn]
  cases ran : (handle setting due command).runOn (run.noting (.dispatched command)) with
  | mk result after =>
  rw [ran] at handled
  cases result with
  | ok reply =>
      exact handled.tail (.answer after command (.ok reply) fun _ same => nomatch same)
  | error failure =>
      by_cases first : (failure.isFatal && after.standing.aborted.isNone) = true
      · simp only [if_pos first]
        rw [Bool.and_eq_true, Option.isNone_iff_eq_none] at first
        refine (handled.tail (.abort after failure first.1 first.2)).tail ?_
        exact .answer _ command _ fun _ _ _ => rfl
      · simp only [if_neg first]
        refine handled.tail (.answer after command _ fun other same fatal => ?_)
        obtain rfl := Except.error.inj same
        rw [fatal, Bool.true_and, Bool.not_eq_true, Option.isNone_eq_false_iff] at first
        exact first

theorem moves_answer : Moving setting (answer setting due) := by
  intro run ready command
  cases aborted : run.standing.aborted with
  | some failure =>
      rw [runOn_answer_refused run setting due command aborted]
      exact .single (.refuse run command failure aborted)
  | none =>
      by_cases other : command = .discard
      · subst other
        have carried : (carryOut setting due .discard).runOn (run.noting (.dispatched .discard)) =
            (.ok .done, (run.noting (.dispatched .discard)).knowing
              { run.standing with
                expects := [], remaining := run.standing.remaining.map fun _ => {} }) := by
          rw [runOn_carryOut (run.noting (.dispatched .discard)) setting aborted]
          rfl
        rw [runOn_answer run setting due, carried]
        exact .single (.discard run aborted)
      · have handled : Moves setting (run.noting (.dispatched command)) _ :=
          moves_handle movingDue ready aborted other
        exact moves_answered aborted (.head (.dispatch run command aborted other) handled)

end Carrying

/-! ## Running what is due -/

/-- An entry that has begun is played, and then what is due runs on. -/
theorem moves_begunEntry {most : Nat} (movingDue : MovingDue setting (runDue setting most))
    (upto : Option Label) (label : Label) (entry : Entry α)
    (isOpen : run.standing.sessionOpen = true) :
    Moves setting (run.beginning label entry upto.isNone)
      ((runEntry setting (answer setting (runDue setting most)) upto.isNone label entry >>=
        fun _ => runDue setting most upto).runOn run).2 := by
  have plays : (runEntry setting (answer setting (runDue setting most)) upto.isNone label entry >>=
      fun _ => runDue setting most upto).runOn run =
      (playEntry setting (answer setting (runDue setting most)) label entry >>=
        fun _ => runDue setting most upto).runOn (run.beginning label entry upto.isNone) := by
    rw [Action.runOn_bind, Action.runOn_bind, runOn_runEntry]
  rw [plays]
  exact Moves.bind_open isOpen (moves_playEntry (moves_answer movingDue) label entry isOpen)
    fun _ _ stillOpen => movingDue _ stillOpen upto

theorem moves_runDue (most : Nat) (upto : Option Label)
    (isOpen : run.standing.sessionOpen = true) :
    Moves setting run ((runDue setting most upto).runOn run).2 := by
  induction most generalizing run upto with
  | zero => exact .refl
  | succ most ih =>
      cases due : run.standing.due? upto with
      | none =>
          rw [runOn_runDue_none setting due]
      | some taken =>
          obtain ⟨⟨label, entry⟩, rest⟩ := taken
          rw [runDue, Action.runOn_bind_ok (runOn_takeDue_some due)]
          exact moves_dueEntry due isOpen fun before isOpen =>
            moves_begunEntry (fun _ isOpen upto => ih upto isOpen) upto label entry isOpen

theorem moves_runAllDue : MovingDue setting (runAllDue setting) := by
  intro run isOpen upto
  rw [runAllDue, Action.runOn_bind_ok (runOn_standing run)]
  exact moves_runDue _ upto isOpen

/-! ## Driving a test -/

/-- Unless the run has been aborted, it goes on. -/
theorem moves_unlessAborted {next : Act W α β}
    (tail : run.standing.aborted = none → Moves setting run (next.runOn run).2) :
    Moves setting run ((failIfAborted >>= fun _ => next).runOn run).2 := by
  cases aborted : run.standing.aborted with
  | some failure =>
      rw [Action.runOn_bind_error (runOn_failIfAborted_some run aborted)]
  | none =>
      rw [Action.runOn_bind_ok (runOn_failIfAborted_none run aborted)]
      exact tail aborted

theorem moves_finishEntries (ready : run.Ready) (goesOn : run.standing.aborted = none) :
    Moves setting run ((finishEntries setting).runOn run).2 := by
  rw [finishEntries, Action.runOn_bind_ok (runOn_standing run)]
  by_cases nothing : (!run.standing.started && run.standing.expects.isEmpty) = true
  · rw [if_pos nothing]
    exact .refl
  · rw [if_neg nothing]
    refine Moves.bind (moves_ensureStarted moves_runAllDue) fun _ middle done => ?_
    have isOpen := open_of_ensureStarted moves_runAllDue ready goesOn done
    refine Moves.attempt_bind (moves_runAllDue middle isOpen none) ?_
    refine moves_unlessAborted fun _ => ?_
    exact Moves.bind .refl fun _ _ _ => .refl

/-- **Everything that happens while a test is driven is a sequence of moves.** -/
theorem moves_driveToEnd (procedure : Procedure W α) (ready : run.Ready) :
    Moves setting run ((driveToEnd setting procedure).runOn run).2 := by
  have driven : Moves setting run
      ((drive (answer setting (runAllDue setting)) procedure).runOn run).2 :=
    moves_drive (moves_answer moves_runAllDue) procedure ready
  refine Moves.attempt_bind driven ?_
  generalize ((drive (answer setting (runAllDue setting)) procedure).runOn run).1 = result
  generalize ((drive (answer setting (runAllDue setting)) procedure).runOn run).2 = returned
    at driven ⊢
  rw [Action.runOn_bind_ok (runOn_record returned _)]
  have marked : Move setting returned (returned.noting (.returned result)) := .mark returned _ rfl
  refine .head marked (moves_unlessAborted fun goesOn => ?_)
  refine Moves.bind .refl fun _ middle unchanged => ?_
  obtain ⟨-, rfl⟩ := Prod.mk.inj unchanged
  exact moves_finishEntries (marked.ready (driven.ready ready)) goesOn

end Runner

end HotReload
