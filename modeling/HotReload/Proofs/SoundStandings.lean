import HotReload.Proofs.Shift
import HotReload.Proofs.Tables

/-!
# What the runner knows at any time

A command can declare something, start the session, run entries that send further commands, and
fail midway. Whatever happens, what the runner knows stays sound (`Standing.Sound`): each label is
declared once, there are remaining entries just when the session has started, they are declared
ones, and before the session starts no update is shown and nothing has begun. Once the session has
started, the files and the update the app starts with stay, and so do the declared entries until
all of them are forgotten, along with those that remain (`Standing.Binds`).

A move can change what is known several times. So moves are taken apart into ticks, the smallest
things that happen: the world changes, a line is written, or one revision is made of what is known
(`Move.ticks`). Each revision keeps what is known sound, and a whole drive consists of ticks. So the
invariant holds after every tick, also within a command that fails and at any depth, and at every
line of the journal (`sound_throughout`).
-/

set_option autoImplicit false

namespace HotReload

variable {W α β : Type}

/-! ## Ticks -/

/-- One change of what the runner knows. -/
inductive Standing.Revision (known : Standing α) : Standing α → Prop
  /-- Templates and contents of files are declared. -/
  | declare (templates : Table String Template) (specs : Table String Content) :
      Revision known { known with templates, specs }
  /-- Before the session starts, init files, an initial update or entries are declared. Each label
  keeps one entry. -/
  | prepare (templates : Table String Template) (inits : Table String String)
      (expects : List (Label × Entry α)) (initLabel : Option Label)
      (fresh : known.started = false)
      (apart : (known.expects.map Prod.fst).Nodup → (expects.map Prod.fst).Nodup) :
      Revision known { known with templates, inits, expects, initLabel }
  /-- The session starts. -/
  | start (fresh : known.started = false) : Revision known known.begun
  /-- The session that has started can be used. -/
  | enter (started : known.started = true) : Revision known { known with sessionOpen := true }
  /-- The run is aborted. -/
  | abort (failure : Failure) : Revision known { known with aborted := some failure }
  /-- The app is taken to show an update. -/
  | aim (label : Label) (started : known.started = true) :
      Revision known { known with cursor := some label }
  /-- The first of the remaining entries is taken out. -/
  | take (first : Label × Entry α) (rest : Table Label (Entry α))
      (waiting : known.waiting = first :: rest.entries) :
      Revision known { known with remaining := some rest }
  /-- One more entry is counted. -/
  | countEntry (started : known.started = true) :
      Revision known { known with entriesRun := known.entriesRun + 1 }
  /-- One more step is counted. -/
  | countStep (started : known.started = true) :
      Revision known { known with stepsRun := known.stepsRun + 1 }
  /-- All entries are forgotten. -/
  | forget :
      Revision known { known with expects := [], remaining := known.remaining.map fun _ => {} }

/-- The smallest thing that happens in a run. -/
inductive Tick : Run W α → Run W α → Prop
  | act (run : Run W α) (world : W) : Tick run { run with world }
  | note (run : Run W α) (event : Event α) : Tick run (run.noting event)
  | revise (run : Run W α) (known : Standing α) (revision : run.standing.Revision known) :
      Tick run (run.knowing known)

/-- Any number of ticks. -/
abbrev Ticks : Run W α → Run W α → Prop :=
  Relation.ReflTransGen Tick

/-! ## The invariant -/

/-- What is known fits together. -/
structure Standing.Sound (known : Standing α) : Prop where
  /-- Each label is declared once. -/
  apart : (known.expects.map Prod.fst).Nodup
  /-- There is no table of remaining entries exactly while the session has not started. -/
  remaining : known.remaining = none ↔ known.started = false
  /-- Every remaining entry is a declared one. -/
  declared : ∀ entry ∈ known.waiting, entry ∈ known.expects
  /-- Before the session starts, no update is shown and nothing has begun. -/
  untouched : known.started = false →
    known.cursor = none ∧ known.entriesRun = 0 ∧ known.stepsRun = 0
  /-- Only a session that has started is open. -/
  opened : known.sessionOpen = true → known.started = true

/-- What was known once the session had started still counts: the files and the update the app
starts with are the same, and the declared entries are the same unless all entries are forgotten,
those that remain included. -/
structure Standing.Continues (earlier later : Standing α) : Prop where
  started : later.started = true
  inits : later.inits = earlier.inits
  initLabel : later.initLabel = earlier.initLabel
  expects : later.expects = earlier.expects ∨ later.expects = [] ∧ later.remaining = some {}

/-- From the start of the session on, what is known later continues what was known. -/
def Standing.Binds (earlier later : Standing α) : Prop :=
  earlier.started = true → earlier.Continues later

namespace Standing

variable {known next earlier later : Standing α}

/-- Nothing is known before a run. -/
theorem sound_initial : ({} : Standing α).Sound where
  apart := List.nodup_nil
  remaining := Iff.intro (fun _ => rfl) fun _ => rfl
  declared := List.forall_mem_nil _
  untouched _ := ⟨rfl, rfl, rfl⟩
  opened isOpen := nomatch isOpen

/-- A session that has started has a table of remaining entries. -/
theorem Sound.exists_remaining (sound : known.Sound) (started : known.started = true) :
    ∃ table, known.remaining = some table := by
  cases remaining : known.remaining with
  | none => exact Bool.noConfusion (started.symm.trans (sound.remaining.1 remaining))
  | some table => exact ⟨table, rfl⟩

/-- When no entries are declared any more, none remain. -/
theorem Sound.remaining_of_nil (sound : known.Sound) (started : known.started = true)
    (none : known.expects = []) : known.remaining = some {} := by
  obtain ⟨table, remaining⟩ := sound.exists_remaining started
  have nobody : known.waiting = [] := by
    rw [List.eq_nil_iff_forall_not_mem]
    intro entry waits
    exact List.not_mem_nil (none ▸ sound.declared entry waits)
  rw [waiting_of_remaining remaining] at nobody
  have empty : table = {} := Table.ext nobody
  rw [remaining, empty]

/-- Before the session starts, no entries remain. -/
theorem Sound.waiting_of_fresh (sound : known.Sound) (fresh : known.started = false) :
    known.waiting = [] := by
  rw [waiting, sound.remaining.2 fresh]

/-- Every revision keeps what is known sound. -/
theorem Revision.sound (revision : known.Revision next) (sound : known.Sound) : next.Sound := by
  cases revision with
  | declare | abort =>
      exact ⟨sound.apart, sound.remaining, sound.declared, sound.untouched, sound.opened⟩
  | prepare templates inits expects initLabel fresh apart =>
      refine ⟨apart sound.apart, sound.remaining, ?_, sound.untouched, sound.opened⟩
      have nobody : known.waiting = [] := sound.waiting_of_fresh fresh
      intro entry waits
      exact absurd (nobody ▸ waits) List.not_mem_nil
  | start fresh =>
      have running : known.begun.started ≠ false := Bool.false_ne_true.symm
      refine ⟨sound.apart, iff_of_false (Option.some_ne_none _) running, ?_,
        fun fresh => absurd fresh running, fun _ => rfl⟩
      intro entry waits
      exact Table.mem_of_mem_ofList waits
  | enter started =>
      exact ⟨sound.apart, sound.remaining, sound.declared, sound.untouched, fun _ => started⟩
  | aim label started =>
      exact ⟨sound.apart, sound.remaining, sound.declared,
        fun fresh => Bool.noConfusion (started.symm.trans fresh), sound.opened⟩
  | take first rest waiting =>
      have running : known.started ≠ false := by
        intro fresh
        rw [sound.waiting_of_fresh fresh] at waiting
        exact List.cons_ne_nil _ _ waiting.symm
      refine ⟨sound.apart, iff_of_false (Option.some_ne_none _) running, ?_, sound.untouched,
        sound.opened⟩
      intro entry waits
      refine sound.declared entry ?_
      rw [waiting]
      exact List.mem_cons_of_mem first waits
  | countEntry started | countStep started =>
      exact ⟨sound.apart, sound.remaining, sound.declared,
        fun fresh => Bool.noConfusion (started.symm.trans fresh), sound.opened⟩
  | forget =>
      refine ⟨List.nodup_nil, ?_, ?_, sound.untouched, sound.opened⟩
      · rw [Option.map_eq_none_iff]
        exact sound.remaining
      · rw [waiting_forgotten rfl]
        exact List.forall_mem_nil _

theorem Binds.refl (known : Standing α) : known.Binds known :=
  fun started => ⟨started, rfl, rfl, .inl rfl⟩

/-- Entries that were forgotten stay forgotten. -/
theorem Binds.trans (former : earlier.Binds known) (latter : known.Binds later)
    (sound : later.Sound) : earlier.Binds later := by
  intro started
  have first := former started
  have second := latter first.started
  refine ⟨second.started, second.inits.trans first.inits,
    second.initLabel.trans first.initLabel, ?_⟩
  rcases second.expects with same | forgotten
  · rcases first.expects with kept | ⟨none, -⟩
    · exact .inl (same.trans kept)
    · have nothing : later.expects = [] := same.trans none
      exact .inr ⟨nothing, sound.remaining_of_nil second.started nothing⟩
  · exact .inr forgotten

/-- Every revision of what is known continues it. -/
theorem Revision.binds (revision : known.Revision next) (sound : known.Sound) :
    known.Binds next := by
  intro started
  cases revision with
  | declare | enter | abort | aim | take | countEntry | countStep =>
      exact ⟨started, rfl, rfl, .inl rfl⟩
  | prepare templates inits expects initLabel fresh =>
      exact Bool.noConfusion (started.symm.trans fresh)
  | start fresh => exact Bool.noConfusion (started.symm.trans fresh)
  | forget =>
      obtain ⟨table, remaining⟩ := sound.exists_remaining started
      refine ⟨started, rfl, rfl, .inr ⟨rfl, ?_⟩⟩
      rw [remaining]
      rfl

end Standing

/-! ## The history of a run -/

/-- What is known, and what was known at each line of the journal, newest first. -/
def Run.history (run : Run W α) : List (Standing α) :=
  run.standing :: run.journal.map Moment.standing

/-- Everything that was known in a run is sound, and binds what was known later. -/
structure Run.Consistent (run : Run W α) : Prop where
  sound : ∀ known ∈ run.history, known.Sound
  binds : run.history.Pairwise fun later earlier => earlier.Binds later

section History

variable {run after : Run W α}

theorem Run.consistent_initial (world : W) : ({ world } : Run W α).Consistent where
  sound := List.forall_mem_singleton.2 Standing.sound_initial
  binds := List.pairwise_singleton _ _

theorem Run.Consistent.sound_now (consistent : run.Consistent) : run.standing.Sound :=
  consistent.sound _ List.mem_cons_self

/-- Every tick keeps a run consistent. -/
theorem Tick.consistent (tick : Tick run after) (consistent : run.Consistent) :
    after.Consistent := by
  have now := consistent.sound_now
  have sound := consistent.sound
  obtain ⟨binds, older⟩ := List.pairwise_cons.1 consistent.binds
  cases tick with
  | act => exact ⟨sound, consistent.binds⟩
  | note event =>
      constructor
      · exact List.forall_mem_cons.2 ⟨now, sound⟩
      · refine List.pairwise_cons.2 ⟨?_, consistent.binds⟩
        exact List.forall_mem_cons.2 ⟨.refl _, binds⟩
  | revise known revision =>
      have next := revision.sound now
      constructor
      · exact List.forall_mem_cons.2 ⟨next, (List.forall_mem_cons.1 sound).2⟩
      · refine List.pairwise_cons.2 ⟨?_, older⟩
        intro earlier mem
        exact (binds earlier mem).trans (revision.binds now) next

/-- Every sequence of ticks keeps a run consistent, and what is known first binds what is known
last. -/
theorem Ticks.consistent (ticks : Ticks run after) (consistent : run.Consistent) :
    after.Consistent ∧ run.standing.Binds after.standing := by
  induction ticks with
  | refl => exact ⟨consistent, .refl _⟩
  | @tail middle after _ tick ih =>
      obtain ⟨between, binds⟩ := ih
      have last := tick.consistent between
      refine ⟨last, binds.trans ?_ last.sound_now⟩
      cases tick with
      | act | note => exact .refl _
      | revise known revision => exact revision.binds between.sound_now

end History

/-! ## Moves are made of ticks -/

section Ticking

variable {setting : Setting W α} {run after : Run W α}

theorem Ticks.note (ticks : Ticks run after) (event : Event α) :
    Ticks run (after.noting event) :=
  ticks.tail (.note after event)

theorem Ticks.revise {known : Standing α} (ticks : Ticks run after)
    (revision : after.standing.Revision known) : Ticks run (after.knowing known) :=
  ticks.tail (.revise after known revision)

/-- A call changes the world, and a line tells of it. -/
theorem Ticks.call (ticks : Ticks run after) (made : Call) (action : Action W Failure β) :
    Ticks run (after.afterCall made action) :=
  Ticks.note (ticks.tail (.act after (action.runOn after.world).2)) _

theorem Ticks.abort (ticks : Ticks run after) (failure : Failure) :
    Ticks run (after.aborting failure) :=
  Ticks.note (ticks.revise (.abort failure)) _

theorem ticks_launched (fresh : run.standing.started = false) :
    Ticks run (run.launched setting) :=
  Ticks.call (Ticks.revise .refl (.start fresh)) _ _

theorem Ticks.bring (ticks : Ticks run after) (label : Label) :
    Ticks run (after.bringing setting label) :=
  Ticks.note (ticks.call _ _) _

theorem Ticks.begin (ticks : Ticks run after) (started : after.standing.started = true)
    (label : Label) (entry : Entry α) (flushing : Bool) :
    Ticks run (after.beginning label entry flushing) :=
  Ticks.revise (ticks.note _) (.countEntry started)

/-- The first entry that is due is taken out. -/
theorem ticks_leaving {upto : Option Label} {first : Label × Entry α}
    {rest : Table Label (Entry α)} (due : run.standing.due? upto = some (first, rest)) :
    Ticks run (run.leaving rest) :=
  Ticks.revise .refl (.take first rest (Standing.waiting_of_due due))

/-- **Every move is made of ticks.** -/
theorem Move.ticks (move : Move setting run after) (sound : run.standing.Sound) :
    Ticks run after := by
  cases move with
  | act effect => exact .single (.act run _)
  | mark event => exact .single (.note run event)
  | step label index isOpen =>
      exact Ticks.note (Ticks.revise .refl (.countStep (sound.opened isOpen))) _
  | dispatch command => exact .single (.note run _)
  | refuse command failure => exact Ticks.note (Ticks.note .refl _) _
  | answer command result => exact .single (.note run _)
  | abort failure => exact Ticks.abort .refl failure
  | declare templates specs => exact Ticks.revise .refl (.declare templates specs)
  | prepare templates inits expects initLabel fresh apart =>
      exact Ticks.revise .refl (.prepare templates inits expects initLabel fresh apart)
  | discard => exact Ticks.note (Ticks.revise (Ticks.note .refl _) .forget) _
  | failLaunch failure fresh => exact Ticks.abort (ticks_launched fresh) failure
  | failReset failure fresh => exact Ticks.abort (Ticks.call (ticks_launched fresh) _ _) failure
  | start changed fresh => exact Ticks.revise (Ticks.call (ticks_launched fresh) _ _) (.enter rfl)
  | aim label initial isOpen => exact Ticks.revise .refl (.aim label (sound.opened isOpen))
  | write | wait | invoke | closePage => exact Ticks.call .refl _ _
  | change label isOpen =>
      exact Ticks.revise (Ticks.call .refl _ _) (.aim label (sound.opened isOpen))
  | begin upto label entry rest due isOpen =>
      exact Ticks.begin (ticks_leaving due) (sound.opened isOpen) label entry _
  | bring label entry rest due isOpen =>
      have brought : Ticks run ((run.leaving rest).bringing setting label) :=
        Ticks.bring (ticks_leaving due) label
      have shown := brought.revise (.aim label (sound.opened isOpen))
      exact Ticks.begin shown (sound.opened isOpen) label entry true
  | lose label entry rest failure due => exact Ticks.bring (ticks_leaving due) label

theorem Moves.ticks (moves : Moves setting run after) (consistent : run.Consistent) :
    Ticks run after := by
  induction moves with
  | refl => exact .refl
  | tail _ move ih => exact ih.trans (move.ticks (ih.consistent consistent).1.sound_now)

end Ticking

/-! ## A whole drive -/

/-- **What the runner knows is sound at any time.** Whatever a test, its sub-procedures, its
functions and the test bed do, all that is known at the lines of the journal and at the end of the
drive is sound, and from the start of the session on it binds what is known later. A drive consists
of ticks, and the same holds after each tick. -/
theorem sound_throughout (setting : Setting W α) (procedure : Procedure W α) (world : W) :
    let ended := ((Runner.driveToEnd setting procedure).runOn { world }).2
    (∀ known ∈ ended.history, known.Sound) ∧
      (ended.history.Pairwise fun later earlier => earlier.Binds later) ∧
      Ticks { world } ended ∧
      ∀ run after : Run W α, Ticks { world } run → Ticks run after →
        run.standing.Sound ∧ run.standing.Binds after.standing := by
  intro ended
  have initial : ({ world } : Run W α).Consistent := Run.consistent_initial world
  have moved : Moves setting { world } ended :=
    Runner.moves_driveToEnd procedure fun started => nomatch started
  have ticks := moved.ticks initial
  have consistent := (Ticks.consistent ticks initial).1
  refine ⟨consistent.sound, consistent.binds, ticks, ?_⟩
  intro run after reached further
  have between := (Ticks.consistent reached initial).1
  exact ⟨between.sound_now, (Ticks.consistent further between).2⟩

/-- An entry is declared, the session starts, and all entries are forgotten. -/
theorem sound_around_discard :
    let setting : Setting Unit Unit := .plain .still
    let dispatch := Runner.answer setting (Runner.runAllDue setting)
    let declared : Procedure Unit Unit := .sendAll [.before ⟨"1"⟩ (), .page [] []]
    let run := ((Runner.drive dispatch declared).runOn { world := () }).2
    let after := ((dispatch .discard).runOn run).2
    run.standing.started = true ∧ run.standing.expects ≠ [] ∧ after.standing.expects = [] ∧
      Ticks { world := () } run ∧ Ticks run after ∧
      run.standing.Sound ∧ run.standing.Binds after.standing := by
  intro setting dispatch declared run after
  have moving : Runner.Moving setting dispatch := Runner.moves_answer Runner.moves_runAllDue
  have ready : ({ world := () } : Run Unit Unit).Ready := fun started => nomatch started
  have initial : ({ world := () } : Run Unit Unit).Consistent := Run.consistent_initial ()
  have moved : Moves setting { world := () } run := Runner.moves_drive moving declared ready
  have reached := moved.ticks initial
  have forgot : Moves setting run after := moving run (moved.ready ready) .discard
  have further := forgot.ticks (Ticks.consistent reached initial).1
  obtain ⟨-, -, -, all⟩ := sound_throughout setting declared ()
  exact ⟨rfl, List.cons_ne_nil _ _, rfl, reached, further, all run after reached further⟩

end HotReload
