import HotReload.Proofs.Accounting
import HotReload.Proofs.DueLoop
import HotReload.Proofs.LabelOrder

/-!
# Skipping forward to an update

A change to an update writes the files of that update and then runs every entry that is due there,
whatever was reached before. It may come from the test or from an entry that is being played, at
whatever depth.

When it succeeds, no entry at or before its label waits any more, whatever the entries have done
(`due?_of_runAllDue`). What they do can begin other entries in between, but only by commands. As
long as no command is heard, the journal of the change is this: one write of exactly the files of
the update, then the entries that are due, one after the other in label order. The entries behind
the label keep waiting, and the app shows the update (`skip_forward`). Entries whose sub-procedures
send no commands keep this condition.
-/

set_option autoImplicit false

namespace HotReload

variable {W α β γ : Type} {setting : Setting W α}

/-! ## Nothing that is due is left -/

theorem Label.not_atMost_of_before {first second bound : Label}
    (before : first.before second = true) (above : first.atMost bound = false) :
    second.atMost bound = false := by
  refine Bool.eq_false_iff.2 fun below => Bool.false_ne_true (above.symm.trans ?_)
  exact Label.atMost_trans (Label.atMost_of_lt (beq_iff_eq.1 before)) below

/-- If no entry is due up to a label, all that wait come after it. -/
theorem Standing.not_atMost_of_due?_none {known : Standing α} {label : Label}
    (nothing : known.due? (some label) = none) :
    ∀ entry ∈ known.waiting, entry.1.atMost label = false := by
  rcases known.due?_cases (some label) with ⟨waiting, -⟩ | ⟨first, behind, waiting, due⟩
  · rw [waiting]
    exact List.forall_mem_nil _
  · have above : first.1.atMost label = false := by
      refine Bool.eq_false_iff.2 fun below => ?_
      rw [nothing, Option.all_some, if_pos below] at due
      exact nomatch due
    rw [waiting, List.forall_mem_cons]
    exact ⟨above, fun other mem =>
      Label.not_atMost_of_before (Standing.first_inFront waiting other mem) above⟩

namespace Runner

variable {run after : Run W α}

/-- **When what is due has been run without a failure, nothing is due**, whatever the entries have
done. -/
theorem due?_of_runAllDue {upto : Option Label} (isOpen : run.standing.sessionOpen = true)
    (started : run.standing.started = true)
    (ran : (runAllDue setting upto).runOn run = (.ok (), after)) :
    after.standing.due? upto = none := by
  rw [runAllDue, Action.runOn_bind_ok (runOn_standing run), Standing.remainingCount_eq_length]
    at ran
  exact due?_of_runDue isOpen started (Nat.le_refl _) ran

end Runner

/-! ## What is heard -/

/-- Whether files are written in an event. -/
def Event.isWrite : Event α → Bool
  | .called (.write _) _ => true
  | _ => false

/-- No command is heard in some lines. -/
def Unheard (lines : List (Moment α)) : Prop :=
  ∀ line ∈ lines, line.event.isDispatch = false

theorem Unheard.append {newer older : List (Moment α)} :
    Unheard (newer ++ older) ↔ Unheard newer ∧ Unheard older :=
  List.forall_mem_append

/-- The lines of a part of a run. Unless a command is heard in them, they are lines of an entry that
is played, and the entries and the update that is shown stay as they are. Where all that is played
is silent, no command is heard. -/
def Plays (silent : Prop) (run after : Run W α) : Prop :=
  ∃ lines, after.journal = lines ++ run.journal ∧ (silent → Unheard lines) ∧
    (Unheard lines → (∀ line ∈ lines, line.event.isPlay = true) ∧
      after.standing.remaining = run.standing.remaining ∧
      after.standing.cursor = run.standing.cursor)

namespace Plays

variable {silent : Prop} {run middle after : Run W α}

/-- Nothing is written into the journal. -/
theorem unwritten (journal : after.journal = run.journal)
    (remaining : after.standing.remaining = run.standing.remaining)
    (cursor : after.standing.cursor = run.standing.cursor) : Plays silent run after :=
  ⟨[], journal, fun _ => List.forall_mem_nil _, fun _ => ⟨List.forall_mem_nil _, remaining, cursor⟩⟩

theorem trans (first : Plays silent run middle) (second : Plays silent middle after) :
    Plays silent run after := by
  obtain ⟨older, wrote, quiet, plays⟩ := first
  obtain ⟨newer, wroteOn, quietOn, playsOn⟩ := second
  refine ⟨newer ++ older, ?_, fun still => ?_, fun unheard => ?_⟩
  · rw [wroteOn, wrote, List.append_assoc]
  · exact Unheard.append.2 ⟨quietOn still, quiet still⟩
  · obtain ⟨unheardOn, unheard⟩ := Unheard.append.1 unheard
    obtain ⟨lines, remaining, cursor⟩ := plays unheard
    obtain ⟨linesOn, remainingOn, cursorOn⟩ := playsOn unheardOn
    exact ⟨List.forall_mem_append.2 ⟨linesOn, lines⟩, remainingOn.trans remaining,
      cursorOn.trans cursor⟩

/-- One line of an entry that is played. -/
theorem line {event : Event α} {known : Standing α} (isPlay : event.isPlay = true)
    (journal : after.journal = ⟨event, known⟩ :: run.journal)
    (remaining : after.standing.remaining = run.standing.remaining)
    (cursor : after.standing.cursor = run.standing.cursor) : Plays silent run after := by
  have other : event.isDispatch = false := by
    cases event with
    | dispatched command => exact nomatch isPlay
    | _ => rfl
  refine ⟨[_], journal, fun _ => List.forall_mem_singleton.2 other, fun _ => ?_⟩
  exact ⟨List.forall_mem_singleton.2 isPlay, remaining, cursor⟩

end Plays

/-- What the runner does by itself while it plays an entry. -/
theorem PlayMove.plays {silent : Prop} {run after : Run W α} (own : PlayMove setting run after) :
    Plays silent run after := by
  cases own with
  | stay | act => exact .unwritten rfl rfl rfl
  | mark event _ isPlay => exact .line isPlay (Run.noting_journal run event) rfl rfl
  | step => exact .line rfl rfl rfl rfl
  | invoke | closePage => exact .line rfl (Run.afterCall_journal run _ _) rfl rfl

namespace Runner

variable {run : Run W α}

/-- Every command that is dispatched is heard. -/
def Hearing (dispatch : Command α → Act W α Reply) : Prop :=
  ∀ run command, ∃ lines, ((dispatch command).runOn run).2.journal = lines ++ run.journal ∧
    ¬Unheard lines

/-- Unless a command is heard, an entry that is played writes lines of its own only. -/
theorem Playing.plays {silent : Prop} {dispatch : Command α → Act W α Reply} {part : Part W α β}
    (playing : Playing setting silent part) (hearing : Hearing dispatch) (run : Run W α) :
    Plays silent run ((part dispatch).runOn run).2 := by
  refine playing.relates (R := Plays silent) Plays.trans PlayMove.plays ?_ run
  intro loud command run
  obtain ⟨lines, wrote, heard⟩ := hearing run command
  exact ⟨lines, wrote, fun still => absurd still loud, fun unheard => absurd unheard heard⟩

/-- A command is carried out as it is handled, unless its first fatal failure aborts the run. -/
theorem carryOut_cases {due : Option Label → Act W α Unit} {command : Command α}
    (goesOn : run.standing.aborted = none) :
    (carryOut setting due command).runOn run = (handle setting due command).runOn run ∨
    ∃ failure after, (handle setting due command).runOn run = (.error failure, after) ∧
      (carryOut setting due command).runOn run = (.error failure, after.aborting failure) := by
  rw [runOn_carryOut run setting goesOn]
  cases (handle setting due command).runOn run with
  | mk result after =>
      cases result with
      | ok reply => exact .inl rfl
      | error failure =>
          dsimp only
          split
          · exact .inr ⟨failure, after, rfl, rfl⟩
          · exact .inl rfl

/-- Carrying out a command only adds lines to the journal. -/
theorem exists_lines_carryOut (command : Command α) (run : Run W α) :
    ∃ lines, ((carryOut setting (runAllDue setting) command).runOn run).2.journal =
      lines ++ run.journal := by
  cases aborted : run.standing.aborted with
  | some failure =>
      rw [runOn_carryOut_refused run setting aborted]
      exact ⟨[], rfl⟩
  | none =>
      obtain ⟨lines, journal, -⟩ :=
        (course_handle working_runAllDue command aborted : Course setting .runner _ run _).accounted
      have carried : (carryOut setting (runAllDue setting) command).runOn run = _ ∨ _ :=
        carryOut_cases aborted
      rcases carried with same | ⟨failure, after, handled, same⟩
      · exact ⟨lines, by rw [same, journal]⟩
      · rw [handled] at journal
        exact ⟨_ :: lines, by rw [same, Run.aborting_journal, journal, List.cons_append]⟩

theorem heard_of_dispatched (newer older : List (Moment α)) (command : Command α)
    (known : Standing α) :
    ∃ lines, newer ++ ⟨.dispatched command, known⟩ :: older = lines ++ older ∧ ¬Unheard lines := by
  refine ⟨newer ++ [⟨.dispatched command, known⟩], by simp, fun unheard => ?_⟩
  exact Bool.noConfusion (unheard ⟨.dispatched command, known⟩
    (List.mem_append_right _ List.mem_cons_self))

theorem hearing_answer : Hearing (answer setting (runAllDue setting)) := by
  intro run command
  obtain ⟨lines, journal⟩ : ∃ lines, ((carryOut setting (runAllDue setting) command).runOn
      (run.noting (.dispatched command))).2.journal = lines ++ _ := exists_lines_carryOut command _
  rw [runOn_answer, Run.noting_journal, journal]
  exact heard_of_dispatched (_ :: lines) run.journal command run.standing

end Runner

/-! ## Running what is due up to a label -/

/-- The first waiting entries, all of them due up to a label, have begun, and nothing is written. -/
structure Skipped (bound : Label) (run after : Run W α) (lines : List (Moment α)) : Prop where
  unwritten : ∀ line ∈ lines, line.event.isWrite = false
  waiting : run.standing.waiting = begunEntries lines ++ after.standing.waiting
  due : ∀ entry ∈ begunEntries lines, entry.1.atMost bound = true
  cursor : after.standing.cursor = run.standing.cursor

/-- Entries that are due up to a label are begun, as long as no command is heard. -/
def Skips (bound : Label) (silent : Prop) (run after : Run W α) : Prop :=
  ∃ lines, after.journal = lines ++ run.journal ∧ (silent → Unheard lines) ∧
    (Unheard lines → Skipped bound run after lines)

/-- The waiting entries that are due up to a label send no commands. -/
def Standing.SilentUpTo (playbook : Playbook W α) (bound : Label) (known : Standing α) : Prop :=
  ∀ entry ∈ known.waiting, entry.1.atMost bound = true → entry.2.Silent playbook

section Skipping

variable {bound : Label} {run middle after : Run W α} {newer older : List (Moment α)}

theorem Skipped.refl (bound : Label) (run : Run W α) : Skipped bound run run [] where
  unwritten := List.forall_mem_nil _
  waiting := rfl
  due := List.forall_mem_nil _
  cursor := rfl

theorem Skipped.trans (first : Skipped bound run middle older)
    (second : Skipped bound middle after newer) : Skipped bound run after (newer ++ older) where
  unwritten := List.forall_mem_append.2 ⟨second.unwritten, first.unwritten⟩
  waiting := by rw [begunEntries_append, List.append_assoc, ← second.waiting, first.waiting]
  due := by
    rw [begunEntries_append]
    exact List.forall_mem_append.2 ⟨first.due, second.due⟩
  cursor := second.cursor.trans first.cursor

/-- What still waits is as silent as what waited. -/
theorem Skipped.silentUpTo {playbook : Playbook W α} (skipped : Skipped bound run middle older)
    (silent : run.standing.SilentUpTo playbook bound) :
    middle.standing.SilentUpTo playbook bound := by
  intro entry mem
  refine silent entry ?_
  rw [skipped.waiting]
  exact List.mem_append_right _ mem

theorem Skips.refl (bound : Label) (silent : Prop) (run : Run W α) : Skips bound silent run run :=
  ⟨[], rfl, fun _ => List.forall_mem_nil _, fun _ => .refl bound run⟩

theorem Skips.trans {silent former latter : Prop} (first : Skips bound former run middle)
    (second : Skips bound latter middle after) (before : silent → former)
    (behind : ∀ lines, Skipped bound run middle lines → silent → latter) :
    Skips bound silent run after := by
  obtain ⟨older, wrote, quiet, skipped⟩ := first
  obtain ⟨newer, wroteOn, quietOn, skippedOn⟩ := second
  refine ⟨newer ++ older, ?_, fun silent => ?_, fun unheard => ?_⟩
  · rw [wroteOn, wrote, List.append_assoc]
  · have unheard := quiet (before silent)
    exact Unheard.append.2 ⟨quietOn (behind older (skipped unheard) silent), unheard⟩
  · obtain ⟨unheardOn, unheard⟩ := Unheard.append.1 unheard
    exact (skipped unheard).trans (skippedOn unheardOn)

end Skipping

theorem Event.isWrite_of_isPlay {event : Event α} (isPlay : event.isPlay = true) :
    event.isWrite = false := by
  cases event with
  | called call failure =>
      cases call with
      | write => exact nomatch isPlay
      | _ => rfl
  | _ => rfl

theorem Event.begins?_of_isPlay {event : Event α} (isPlay : event.isPlay = true) :
    event.begins? = none := by
  cases event with
  | entryBegan => exact nomatch isPlay
  | _ => rfl

theorem begunEntries_play {lines : List (Moment α)}
    (play : ∀ line ∈ lines, line.event.isPlay = true) : begunEntries lines = [] :=
  begunEntries_eq_nil fun line mem => Event.begins?_of_isPlay (play line mem)

namespace Runner

variable {run : Run W α} {bound : Label}

/-- One entry that is due begins and is played. -/
theorem skips_runEntry {dispatch : Command α → Act W α Reply} (hearing : Hearing dispatch)
    {label : Label} {entry : Entry α} {rest : Table Label (Entry α)}
    (due : run.standing.due? (some bound) = some ((label, entry), rest)) :
    Skips bound (entry.Silent setting.playbook) run
      ((runEntry setting dispatch false label entry).runOn (run.leaving rest)).2 := by
  rw [runOn_runEntry]
  obtain ⟨lines, journal, quiet, plays⟩ :=
    (playing_playEntry label entry).plays hearing ((run.leaving rest).beginning label entry false)
  generalize ((playEntry setting dispatch label entry).runOn
    ((run.leaving rest).beginning label entry false)).2 = after at journal plays ⊢
  refine ⟨lines ++ [⟨.entryBegan label entry false, (run.leaving rest).standing⟩], ?_, ?_, ?_⟩
  · rw [journal, List.append_assoc]
    rfl
  · exact fun silent => Unheard.append.2 ⟨quiet silent, List.forall_mem_singleton.2 rfl⟩
  · intro unheard
    obtain ⟨play, remaining, cursor⟩ := plays (Unheard.append.1 unheard).1
    have begun : begunEntries
        (lines ++ [⟨.entryBegan label entry false, (run.leaving rest).standing⟩]) =
          [(label, entry)] := by
      rw [begunEntries_append, begunEntries_play play]
      rfl
    refine ⟨?_, ?_, ?_, cursor⟩
    · refine List.forall_mem_append.2 ⟨fun line mem => ?_, List.forall_mem_singleton.2 rfl⟩
      exact Event.isWrite_of_isPlay (play line mem)
    · rw [begun, Standing.waiting_of_due due, Standing.waiting_of_remaining remaining]
      rfl
    · rw [begun]
      exact List.forall_mem_singleton.2 (Standing.due?_bounded due).2

/-- **Entries that are due are begun one after the other**, as long as no command is heard. -/
theorem skips_runAllDue {most : Nat} (bounded : run.Bounded most) (bound : Label) :
    Skips bound (run.standing.SilentUpTo setting.playbook bound) run
      ((runAllDue setting (some bound)).runOn run).2 := by
  induction most generalizing run with
  | zero =>
      have waiting := List.length_eq_zero_iff.1 (Nat.le_zero.1 bounded.few)
      rw [runOn_runAllDue_none (Standing.due?_of_waiting_nil waiting (some bound))]
      exact .refl bound _ run
  | succ most ih =>
      cases due : run.standing.due? (some bound) with
      | none =>
          rw [runOn_runAllDue_none due]
          exact .refl bound _ run
      | some taken =>
          obtain ⟨⟨label, entry⟩, rest⟩ := taken
          have first : Skips bound (entry.Silent setting.playbook) run
              ((runEntry setting (answer setting (runAllDue setting)) false label entry).runOn
                (run.leaving rest)).2 := skips_runEntry hearing_answer due
          have moving : Moving setting (answer setting (runAllDue setting)) :=
            moves_answer moves_runAllDue
          have silent : run.standing.SilentUpTo setting.playbook bound →
              entry.Silent setting.playbook := by
            refine fun silent => silent (label, entry) ?_ (Standing.due?_bounded due).2
            rw [Standing.waiting_of_due due]
            exact List.mem_cons_self
          rw [runOn_runAllDue_some bounded.isOpen bounded.started due]
          show Skips bound _ run
            ((runEntry setting (answer setting (runAllDue setting)) false label entry >>=
              fun _ => runAllDue setting (some bound)).runOn (run.leaving rest)).2
          rw [Action.runOn_bind]
          cases ran : (runEntry setting (answer setting (runAllDue setting)) false label
              entry).runOn (run.leaving rest) with
          | mk result middle =>
              rw [ran] at first
              cases result with
              | error failure =>
                  exact first.trans (.refl bound True middle) silent fun _ _ _ => trivial
              | ok _ =>
                  have stays := stays_runEntry moving false label entry _ _ _
                    (bounded_leaving bounded due) ran
                  exact first.trans (ih stays) silent fun _ skipped => skipped.silentUpTo

end Runner

/-! ## A change to an update -/

/-- The line of writing the files of an update. -/
def Standing.writeLine (known : Standing α) (label : Label) (failed : Option Failure) : Moment α :=
  ⟨.called (.write (known.changesFor label)) failed, known⟩

/-- How a runner that knows something moves the app to an update: the files of the update are
written first, with this failure or none, and then waiting entries begin in turn, all of them
due. -/
structure Forwards (label : Label) (failed : Option Failure) (known after : Standing α)
    (lines : List (Moment α)) : Prop where
  wrote : ∃ played, lines = played ++ [known.writeLine label failed] ∧
    ∀ line ∈ played, line.event.isWrite = false
  waiting : known.waiting = begunEntries lines ++ after.waiting
  due : ∀ entry ∈ begunEntries lines, entry.1.atMost label = true
  unwritten : failed ≠ none → begunEntries lines = [] ∧ after.cursor = known.cursor
  written : failed = none → after.cursor = some label

namespace Forwards

variable {label : Label} {failed : Option Failure} {known after : Standing α}
  {lines : List (Moment α)}

/-- When the files have been written, what is due begins. -/
theorem of_skipped {run shown after : Run W α} {played : List (Moment α)}
    (skipped : Skipped label shown after played)
    (waiting : shown.standing.waiting = run.standing.waiting)
    (cursor : shown.standing.cursor = some label) :
    Forwards label none run.standing after.standing
      (played ++ [run.standing.writeLine label none]) := by
  have begun : begunEntries (played ++ [run.standing.writeLine label none]) =
      begunEntries played := begunEntries_append _ _
  refine ⟨⟨played, rfl, skipped.unwritten⟩, ?_, ?_, fun none => absurd rfl none, fun _ => ?_⟩
  · rw [begun, ← waiting, skipped.waiting]
  · rw [begun]
    exact skipped.due
  · exact skipped.cursor.trans cursor

/-- The failure of a change may abort the run. -/
theorem aborting (forwards : Forwards label failed known after lines) (failure : Failure) :
    Forwards label failed known { after with aborted := some failure }
      (⟨.aborted failure, { after with aborted := some failure }⟩ :: lines) := by
  obtain ⟨⟨played, rfl, others⟩, waiting, due, unwritten, written⟩ := forwards
  have begun : begunEntries (⟨.aborted failure, { after with aborted := some failure }⟩ ::
      (played ++ [known.writeLine label failed])) =
        begunEntries (played ++ [known.writeLine label failed]) := by
    rw [begunEntries_cons]
    exact List.append_nil _
  rw [← begun] at waiting due unwritten
  exact ⟨⟨_ :: played, rfl, List.forall_mem_cons.2 ⟨rfl, others⟩⟩, waiting, due, unwritten, written⟩

/-- If nothing that is due is left, all of it has begun. -/
theorem begunEntries_eq (forwards : Forwards label failed known after lines)
    (nothing : ∀ entry ∈ after.waiting, entry.1.atMost label = false) :
    begunEntries lines = known.waiting.filter (fun entry => entry.1.atMost label) ∧
      after.waiting = known.waiting.filter (fun entry => !entry.1.atMost label) := by
  have begun : (begunEntries lines).filter (fun entry => entry.1.atMost label) =
      begunEntries lines := List.filter_eq_self.2 forwards.due
  have left : after.waiting.filter (fun entry => entry.1.atMost label) = [] :=
    List.filter_eq_nil_iff.2 fun entry mem => Bool.eq_false_iff.1 (nothing entry mem)
  have begunNot : (begunEntries lines).filter (fun entry => !entry.1.atMost label) = [] :=
    List.filter_eq_nil_iff.2 fun entry mem => by simp [forwards.due entry mem]
  have leftNot : after.waiting.filter (fun entry => !entry.1.atMost label) = after.waiting :=
    List.filter_eq_self.2 fun entry mem => by simp [nothing entry mem]
  rw [forwards.waiting, List.filter_append, List.filter_append, begun, left, begunNot, leftNot,
    List.append_nil, List.nil_append]
  exact ⟨rfl, rfl⟩

end Forwards

namespace Runner

variable {run : Run W α} {label : Label}

section Writing

variable {due : Option Label → Act W α Unit} (isOpen : run.standing.sessionOpen = true)
include isOpen

theorem runOn_change_failed {failure : Failure}
    (failed : ((setting.testBed.write (run.standing.changesFor label)).runOn run.world).1 =
      .error failure) :
    (perform setting due (.change (.label label))).runOn run =
      (.error failure, run.writing setting (run.standing.changesFor label)) := by
  simp only [perform]
  rw [Action.runOn_bind_ok (runOn_standing run)]
  refine Action.runOn_bind_error ?_ _
  rw [runOn_write setting isOpen, failed]
  rfl

theorem runOn_change_written
    (written : ((setting.testBed.write (run.standing.changesFor label)).runOn run.world).1 =
      .ok ()) :
    (perform setting due (.change (.label label))).runOn run =
      (due (some label) >>= fun _ => pure .done : Act W α Reply).runOn
        ((run.writing setting (run.standing.changesFor label)).showing label) := by
  have wrote : (write setting (run.standing.changesFor label)).runOn run =
      (.ok (), run.writing setting (run.standing.changesFor label)) := by
    rw [runOn_write setting isOpen, written]
    rfl
  simp only [perform]
  rw [Action.runOn_bind_ok (runOn_standing run), Action.runOn_bind_ok wrote,
    Action.runOn_bind_ok (runOn_revise _ _)]
  rfl

end Writing

/-- What a change to an update comes to: it writes some lines, and if no command is heard in them,
they tell how the app is moved to the update. After a change that succeeds, nothing that is due is
left in any case. -/
def Forwarded (setting : Setting W α) (label : Label) (run : Run W α)
    (ran : Except Failure Reply × Run W α) : Prop :=
  ∃ lines failed, ran.2.journal = lines ++ run.journal ∧
    (run.standing.SilentUpTo setting.playbook label → Unheard lines) ∧
    (Unheard lines → Forwards label failed run.standing ran.2.standing lines) ∧
    (ran.1.isOk = true →
      failed = none ∧ ∀ entry ∈ ran.2.standing.waiting, entry.1.atMost label = false)

/-- The files cannot be written. -/
theorem forwarded_unwritten {failure : Failure}
    (failed : ((setting.testBed.write (run.standing.changesFor label)).runOn run.world).1 =
      .error failure) :
    Forwarded setting label run
      (.error failure, run.writing setting (run.standing.changesFor label)) := by
  have journal : (run.writing setting (run.standing.changesFor label)).journal =
      [run.standing.writeLine label (some failure)] ++ run.journal := by
    rw [Run.writing, Run.afterCall_journal, failed]
    rfl
  refine ⟨_, some failure, journal, fun _ => List.forall_mem_singleton.2 rfl, fun _ => ?_,
    fun isOk => absurd isOk Bool.false_ne_true⟩
  exact ⟨⟨[], rfl, List.forall_mem_nil _⟩, rfl, List.forall_mem_nil _, fun _ => ⟨rfl, rfl⟩,
    fun same => absurd same (Option.some_ne_none failure)⟩

/-- The files have been written, and what is due runs. -/
theorem forwarded_runAllDue {most : Nat} {shown : Run W α} (bounded : shown.Bounded most)
    (journal : shown.journal = run.standing.writeLine label none :: run.journal)
    (waiting : shown.standing.waiting = run.standing.waiting)
    (cursor : shown.standing.cursor = some label) :
    Forwarded setting label run ((runAllDue setting (some label) >>= fun _ =>
      pure .done : Act W α Reply).runOn shown) := by
  have skips : Skips label (shown.standing.SilentUpTo setting.playbook label) shown
      ((runAllDue setting (some label)).runOn shown).2 := skips_runAllDue bounded label
  rw [Action.runOn_bind]
  cases ran : (runAllDue setting (some label)).runOn shown with
  | mk result after =>
      rw [ran] at skips
      obtain ⟨played, told, quiet, skipped⟩ := skips
      have lines : after.journal =
          (played ++ [run.standing.writeLine label none]) ++ run.journal := by
        rw [told, journal, List.append_assoc, List.singleton_append]
      have still : run.standing.SilentUpTo setting.playbook label →
          Unheard (played ++ [run.standing.writeLine label none]) := by
        intro silent
        refine Unheard.append.2 ⟨quiet fun entry mem => ?_, List.forall_mem_singleton.2 rfl⟩
        exact silent entry (waiting ▸ mem)
      have forwards : Unheard (played ++ [run.standing.writeLine label none]) →
          Forwards label none run.standing after.standing _ :=
        fun unheard => .of_skipped (skipped (Unheard.append.1 unheard).1) waiting cursor
      cases result with
      | error failure => exact ⟨_, none, lines, still, forwards, fun isOk => nomatch isOk⟩
      | ok _ =>
          refine ⟨_, none, lines, still, forwards, fun _ => ⟨rfl, ?_⟩⟩
          exact Standing.not_atMost_of_due?_none
            (due?_of_runAllDue bounded.isOpen bounded.started ran)

theorem forwarded_handle (isOpen : run.standing.sessionOpen = true)
    (started : run.standing.started = true) :
    Forwarded setting label run
      ((handle setting (runAllDue setting) (.change (.label label))).runOn run) := by
  rw [runOn_handle_started run setting rfl (runOn_ensureStarted_started setting started)]
  cases result : ((setting.testBed.write (run.standing.changesFor label)).runOn run.world).1 with
  | error failure =>
      rw [runOn_change_failed isOpen result]
      exact forwarded_unwritten result
  | ok _ =>
      rw [runOn_change_written isOpen result]
      have journal : ((run.writing setting (run.standing.changesFor label)).showing label).journal =
          run.standing.writeLine label none :: run.journal := by
        show (run.writing setting (run.standing.changesFor label)).journal = _
        rw [Run.writing, Run.afterCall_journal, result]
        rfl
      exact forwarded_runAllDue ⟨isOpen, started, Nat.le_refl _⟩ journal rfl rfl

/-- The failure of a change may abort the run. -/
theorem forwarded_carryOut (isOpen : run.standing.sessionOpen = true)
    (started : run.standing.started = true) (goesOn : run.standing.aborted = none) :
    Forwarded setting label run
      ((carryOut setting (runAllDue setting) (.change (.label label))).runOn run) := by
  have forwarded : Forwarded setting label run _ := forwarded_handle isOpen started
  have carried :
      (carryOut setting (runAllDue setting) (.change (.label label))).runOn run = _ ∨ _ :=
    carryOut_cases goesOn
  rcases carried with same | ⟨failure, after, handled, same⟩
  · rw [same]
    exact forwarded
  · rw [handled] at forwarded
    obtain ⟨lines, failed, journal, quiet, forwards, -⟩ := forwarded
    have other : ∀ {lines : List (Moment α)}, Unheard
        (⟨.aborted failure, { after.standing with aborted := some failure }⟩ :: lines) ↔
          Unheard lines :=
      List.forall_mem_cons.trans (and_iff_right rfl)
    rw [same]
    refine ⟨_ :: lines, failed, ?_, other.2 ∘ quiet, fun unheard => ?_, fun isOk => nomatch isOk⟩
    · rw [Run.aborting_journal, journal, List.cons_append]
    · exact (forwards (other.1 unheard)).aborting failure

/-- **A change to an update runs everything that is due there and nothing else.** It may be sent by
the test or by an entry. When it succeeds, no entry at or before its label waits any more. If no
command is heard meanwhile, which is so when the entries that are due are silent, it writes exactly
the files of the update first, then the entries that are due begin in label order, those behind the
label wait, and the app shows the update. A change that fails does as much of this as comes before
its failure. -/
theorem skip_forward {due : Option Label → Act W α Unit} {label : Label}
    {result : Except Failure Reply} {after : Run W α} (runs : RunsDue setting run due)
    (ready : run.Ready) (started : run.standing.started = true)
    (ran : (answer setting due (.change (.label label))).runOn run = (result, after)) :
    (result.isOk = true → ∀ entry ∈ after.standing.waiting, entry.1.atMost label = false) ∧
    ∃ lines, after.journal = ⟨.answered (.change (.label label)) result, after.standing⟩ ::
        (lines ++ ⟨.dispatched (.change (.label label)), run.standing⟩ :: run.journal) ∧
      (run.standing.SilentUpTo setting.playbook label → Unheard lines) ∧
      (Unheard lines → result.isOk = true →
        (∃ played, lines = played ++
            [⟨.called (.write (run.standing.changesFor label)) none, run.standing⟩] ∧
          ∀ line ∈ played, line.event.isWrite = false) ∧
        begunEntries lines = run.standing.waiting.filter (fun entry => entry.1.atMost label) ∧
        (begunEntries lines).Pairwise InFront ∧
        after.standing.waiting =
          run.standing.waiting.filter (fun entry => !entry.1.atMost label) ∧
        after.standing.cursor = some label) ∧
      (Unheard lines → run.standing.aborted = none →
        ∃ failed, Forwards label failed run.standing after.standing lines) := by
  cases aborted : run.standing.aborted with
  | some failure =>
      -- a change that is refused fails, and does nothing
      rw [runOn_answer_refused run setting _ _ aborted] at ran
      obtain ⟨rfl, rfl⟩ := Prod.mk.inj ran
      exact ⟨(nomatch ·), [], rfl, fun _ => List.forall_mem_nil _, fun _ => (nomatch ·),
        fun _ => (nomatch ·)⟩
  | none =>
      obtain ⟨lines, failed, journal, quiet, forwards, done⟩ :
          Forwarded setting label (run.noting (.dispatched (.change (.label label)))) _ :=
        forwarded_carryOut (ready started aborted) started aborted
      rw [runs.runOn_answer (ready started aborted) started, runOn_answer] at ran
      generalize (carryOut setting (runAllDue setting) (.change (.label label))).runOn
        (run.noting (.dispatched (.change (.label label)))) = carried at ran journal forwards done
      obtain ⟨rfl, rfl⟩ := Prod.mk.inj ran
      refine ⟨fun isOk => (done isOk).2, lines, ?_, quiet, fun unheard isOk => ?_,
        fun unheard _ => ⟨failed, forwards unheard⟩⟩
      · rw [Run.noting_journal, journal, Run.noting_journal]
        rfl
      · obtain ⟨rfl, nothing⟩ := done isOk
        have skipped := forwards unheard
        obtain ⟨began, left⟩ := skipped.begunEntries_eq nothing
        refine ⟨skipped.wrote, began, ?_, left, skipped.written rfl⟩
        rw [began]
        exact run.standing.waiting_inFront.filter _

/-- A test of three updates. As a text, the last of their labels would stand between the others. -/
def threeEntries : Procedure Unit Unit :=
  .sendAll [
    .contents (Table.ofList [
      ("own", .labelled [(.universal, "any"), (⟨"2"⟩, "two")]),
      ("shared", .labelled [(.universal, "any"), (⟨"10"⟩, "ten")]),
      ("removed", .labelled [(⟨"1"⟩, "one")])]),
    .expect [(⟨"10"⟩, .sub ()), (⟨"1"⟩, .sub ()), (⟨"2"⟩, .sub ())],
    .change (.files {})]

/-- The run when the test has started its session. -/
def threeWaiting : Run Unit Unit :=
  ((driveTest (.plain .still) threeEntries).runOn { world := () }).2

theorem silentUpTo_plain (label : Label) (known : Standing Unit) :
    known.SilentUpTo (Setting.plain TestBed.still).playbook label := by
  refine fun entry _ _ => ⟨fun _ _ => trivial, fun step _ => ?_, fun _ _ => trivial⟩
  cases step with
  | html | sub | call => trivial

/-- A change to the second update writes its files once: one has a text of its own there, one the
text of all updates, and one is removed. Then the first two entries begin. -/
theorem skip_forward_past_first :
    RunsDue (.plain .still) threeWaiting (runAllDue (.plain .still)) ∧ threeWaiting.Ready ∧
      threeWaiting.standing.started = true ∧
      ∃ result after lines,
        (answer (.plain .still) (runAllDue (.plain .still)) (.change (.label ⟨"2"⟩))).runOn
          threeWaiting = (result, after) ∧ result.isOk = true ∧
        after.journal = ⟨.answered (.change (.label ⟨"2"⟩)) result, after.standing⟩ ::
          (lines ++ ⟨.dispatched (.change (.label ⟨"2"⟩)), threeWaiting.standing⟩ ::
            threeWaiting.journal) ∧
        (∃ played changes, lines = played ++
            [⟨.called (.write changes) none, threeWaiting.standing⟩] ∧
          (∀ line ∈ played, line.event.isWrite = false) ∧
          changes.entries = [("own", .write "two"), ("removed", .remove),
            ("shared", .write "any")]) ∧
        (begunEntries lines).map Prod.fst = [⟨"1"⟩, ⟨"2"⟩] ∧
        after.standing.waiting.map Prod.fst = [⟨"10"⟩] ∧
        after.standing.cursor = some ⟨"2"⟩ := by
  have ready : threeWaiting.Ready := fun _ _ => by decide +kernel
  have started : threeWaiting.standing.started = true := by decide +kernel
  have ran : (answer (.plain .still) (runAllDue (.plain .still)) (.change (.label ⟨"2"⟩))).runOn
      threeWaiting = (_, _) := rfl
  obtain ⟨-, lines, journal, quiet, moved, -⟩ := skip_forward .all ready started ran
  have done : ((answer (.plain .still) (runAllDue (.plain .still))
      (.change (.label ⟨"2"⟩))).runOn threeWaiting).1.isOk = true := by decide +kernel
  obtain ⟨⟨played, wrote, once⟩, began, -, left, cursor⟩ :=
    moved (quiet (silentUpTo_plain _ _)) done
  refine ⟨.all, ready, started, _, _, lines, ran, done, journal,
    ⟨played, _, wrote, once, by decide +kernel⟩, ?_, ?_, cursor⟩
  · rw [began]
    decide +kernel
  · rw [left]
    decide +kernel

end Runner

end HotReload
