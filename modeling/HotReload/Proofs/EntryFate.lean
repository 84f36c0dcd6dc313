import HotReload.Proofs.EntryOrder

/-!
# What becomes of the entries that wait

An entry that waits is kept if later it has begun or still waits. Commands may fail and
tests may go on after failures, so one wants to know which entries that can cost. The
answer is exact (`kept_iff_not_missed`): between a command and an answer, an entry that
nobody discards is kept unless a flush has taken it out and then failed to write the files
of its update. Such an entry is neither begun nor put back, and a test that handles the
failure passes without it (`passed_without_entry`).

The proof follows the entry through the moves. As long as it waits, it stays, is
discarded, begins or is missed. Once it has left, no later line tells of it, because the
labels of the entries that wait are distinct.
-/

set_option autoImplicit false

namespace HotReload

variable {W α : Type}

/-! ## What lines tell of an entry -/

/-- One of some lines tells something. -/
def Told (tells : Moment α → Prop) (lines : List (Moment α)) : Prop :=
  ∃ moment ∈ lines, tells moment

/-- An entry has begun. -/
abbrev Begun (entry : Label × Entry α) : List (Moment α) → Prop :=
  Told fun moment => moment.Begins entry.1 entry.2

/-- A flush could not bring the app to the update of a label. -/
abbrev Missed (label : Label) : List (Moment α) → Prop :=
  Told fun moment => moment.Misses label

/-- An entry was discarded while it waited. -/
abbrev Discarded (entry : Label × Entry α) : List (Moment α) → Prop :=
  Told fun moment => moment.Forgets ∧ entry ∈ moment.standing.waiting

section Told

variable {tells : Moment α → Prop}

@[simp] theorem told_cons (newest : Moment α) (older : List (Moment α)) :
    Told tells (newest :: older) ↔ tells newest ∨ Told tells older := by
  simp [Told]

@[simp] theorem told_append (newer older : List (Moment α)) :
    Told tells (newer ++ older) ↔ Told tells newer ∨ Told tells older := by
  simp [Told, or_and_right, exists_or]

@[simp] theorem not_told_nil : ¬Told tells [] := by
  simp [Told]

end Told

namespace Moment

/-- A line that tells of no entry of a label that begins or is missed. -/
structure SilentOn (moment : Moment α) (label : Label) : Prop where
  begins : ∀ entry, ¬moment.Begins label entry
  misses : ¬moment.Misses label

variable {label other : Label} {known : Standing α}

theorem Quiet.silentOn {moment : Moment α} (quiet : moment.Quiet) (label : Label) :
    moment.SilentOn label :=
  ⟨quiet.begins label, quiet.misses label⟩

theorem silentOn_dispatched (command : Command α) :
    SilentOn ⟨.dispatched command, known⟩ label where
  begins entry := by
    rintro ⟨_, same⟩
    cases same
  misses := by
    rintro ⟨_, same⟩
    cases same

theorem silentOn_answered (command : Command α) (result : Except Failure Reply) :
    SilentOn ⟨.answered command result, known⟩ label :=
  (Quiet.of_isQuiet known rfl).silentOn label

theorem silentOn_entryBegan {entry : Entry α} {flushing : Bool} (apart : other ≠ label) :
    SilentOn ⟨.entryBegan other entry flushing, known⟩ label where
  begins entry := by
    rintro ⟨_, same⟩
    cases same
    exact apart rfl
  misses := by
    rintro ⟨_, same⟩
    cases same

theorem silentOn_brought {failure : Option Failure} (apart : other ≠ label) :
    SilentOn (α := α) ⟨.brought other failure, known⟩ label where
  begins entry := by
    rintro ⟨_, same⟩
    cases same
  misses := by
    rintro ⟨_, same⟩
    cases same
    exact apart rfl

end Moment

section Silent

variable {lines : List (Moment α)} {label : Label}
  (silent : ∀ moment ∈ lines, moment.SilentOn label)
include silent

theorem not_begun_of_silent (entry : Entry α) : ¬Begun (label, entry) lines := by
  rintro ⟨moment, mem, begins⟩
  exact (silent moment mem).begins _ begins

theorem not_missed_of_silent : ¬Missed label lines := by
  rintro ⟨moment, mem, misses⟩
  exact (silent moment mem).misses misses

end Silent

/-! ## Labels that no entry waits under -/

/-- No entry waits under a label. -/
def Standing.Lacks (known : Standing α) (label : Label) : Prop :=
  ∀ other ∈ known.waiting, other.1 ≠ label

/-- Once the first entry has left, no entry waits under its label. -/
theorem Standing.lacks_first {known now : Standing α} {first : Label × Entry α}
    {rest : Table Label (Entry α)} (waiting : known.waiting = first :: rest.entries)
    (remaining : now.remaining = some rest) : now.Lacks first.1 := by
  rw [Lacks, waiting_of_remaining remaining]
  exact ne_first_of_mem waiting

theorem Shift.started {run after : Run W α} (shift : Shift run after)
    (started : run.standing.started = true) : after.standing.started = true := by
  cases shift with
  | starts span failure journal quiet fresh begun remaining frozen => exact begun
  | keeps span journal quiet same => exact same.trans started
  | forgets reply known journal goesOn same => exact same.trans started
  | begins span label entry rest flushing known journal quiet waiting same =>
      exact same.trans started
  | loses span label entry rest failure known journal quiet waiting same =>
      exact same.trans started

/-- Of a label that no entry waits under, nothing is told. -/
theorem Shift.lacks {run after : Run W α} {label : Label} (shift : Shift run after)
    (started : run.standing.started = true) (lacks : run.standing.Lacks label) :
    ∃ lines, after.journal = lines ++ run.journal ∧
      (∀ moment ∈ lines, moment.SilentOn label) ∧ after.standing.Lacks label := by
  cases shift with
  | keeps span journal quiet same remaining =>
      refine ⟨span, journal, fun moment mem => (quiet moment mem).silentOn label, ?_⟩
      rw [Standing.Lacks, Standing.waiting_congr remaining]
      exact lacks
  | starts span failure journal quiet fresh => exact Bool.noConfusion (fresh.symm.trans started)
  | forgets reply known journal goesOn same remaining =>
      refine ⟨[_, _], journal, ?_, ?_⟩
      · rw [List.forall_mem_cons, List.forall_mem_singleton]
        exact ⟨Moment.silentOn_answered _ _, Moment.silentOn_dispatched _⟩
      · rw [Standing.Lacks, Standing.waiting_forgotten remaining]
        exact List.forall_mem_nil _
  | begins span first entry rest flushing known journal quiet waiting same remaining =>
      rw [Standing.Lacks, waiting, List.forall_mem_cons] at lacks
      refine ⟨_ :: span, journal, ?_, ?_⟩
      · rw [List.forall_mem_cons]
        exact ⟨Moment.silentOn_entryBegan lacks.1,
          fun moment mem => (quiet moment mem).silentOn label⟩
      · rw [Standing.Lacks, Standing.waiting_of_remaining remaining]
        exact lacks.2
  | loses span first entry rest failure known journal quiet waiting same remaining =>
      rw [Standing.Lacks, waiting, List.forall_mem_cons] at lacks
      refine ⟨_ :: span, journal, ?_, ?_⟩
      · rw [List.forall_mem_cons]
        exact ⟨Moment.silentOn_brought lacks.1,
          fun moment mem => (quiet moment mem).silentOn label⟩
      · rw [Standing.Lacks, Standing.waiting_of_remaining remaining]
        exact lacks.2

variable {setting : Setting W α}

theorem Moves.lacks {run after : Run W α} {label : Label} (moves : Moves setting run after)
    (started : run.standing.started = true) (lacks : run.standing.Lacks label) :
    ∃ lines, after.journal = lines ++ run.journal ∧
      (∀ moment ∈ lines, moment.SilentOn label) ∧ after.standing.Lacks label := by
  induction moves using Relation.ReflTransGen.head_induction_on with
  | refl => exact ⟨[], rfl, List.forall_mem_nil _, lacks⟩
  | @head run middle move rest ih =>
      obtain ⟨newer, journal, silent, stillLacks⟩ := move.shift.lacks started lacks
      obtain ⟨lines, later, stillSilent, endLacks⟩ :=
        ih (move.shift.started started) stillLacks
      refine ⟨lines ++ newer, ?_, ?_, endLacks⟩
      · rw [later, journal, List.append_assoc]
      · rw [List.forall_mem_append]
        exact ⟨stillSilent, silent⟩

/-! ## The fate of an entry -/

/-- What has become of an entry that waited: it was discarded, or it has begun or still
waits and was not missed, or it was missed and has neither begun nor waits. -/
def Settled (entry : Label × Entry α) (lines : List (Moment α)) (known : Standing α) : Prop :=
  Discarded entry lines ∨
    (Begun entry lines ∨ entry ∈ known.waiting) ∧ ¬Missed entry.1 lines ∨
      Missed entry.1 lines ∧ ¬Begun entry lines ∧ entry ∉ known.waiting

theorem Settled.kept_iff {entry : Label × Entry α} {lines : List (Moment α)}
    {known : Standing α} (settled : Settled entry lines known)
    (undiscarded : ¬Discarded entry lines) :
    (Begun entry lines ∨ entry ∈ known.waiting) ↔ ¬Missed entry.1 lines := by
  rcases settled with discarded | ⟨kept, notMissed⟩ | ⟨missed, notBegun, gone⟩
  · exact absurd discarded undiscarded
  · exact ⟨fun _ => notMissed, fun _ => kept⟩
  · constructor
    · rintro (begun | waits)
      · exact absurd begun notBegun
      · exact absurd waits gone
    · exact fun notMissed => absurd missed notMissed

/-- Lines before that tell nothing of the entry do not change its fate. -/
theorem Settled.after_silent {entry : Label × Entry α} {lines older : List (Moment α)}
    {known : Standing α} (settled : Settled entry lines known)
    (silent : ∀ moment ∈ older, moment.SilentOn entry.1) :
    Settled entry (lines ++ older) known := by
  have notBegun : ¬Begun entry older := not_begun_of_silent silent entry.2
  have notMissed : ¬Missed entry.1 older := not_missed_of_silent silent
  unfold Settled Begun Missed Discarded at *
  simp only [told_append, notBegun, notMissed, or_false]
  exact settled.imp_left Or.inl

/-- The fate of an entry after a move that tells nothing of it is its fate before. -/
theorem exists_settled {run middle after : Run W α} {entry : Label × Entry α}
    {span : List (Moment α)} (journal : middle.journal = span ++ run.journal)
    (silent : ∀ moment ∈ span, moment.SilentOn entry.1)
    (later : ∃ lines, after.journal = lines ++ middle.journal ∧
      Settled entry lines after.standing) :
    ∃ lines, after.journal = lines ++ run.journal ∧ Settled entry lines after.standing := by
  obtain ⟨lines, told, settled⟩ := later
  refine ⟨lines ++ span, ?_, settled.after_silent silent⟩
  rw [told, journal, List.append_assoc]

section Left

variable {label : Label} {entry : Entry α} {lines span : List (Moment α)}
  {known now : Standing α} (silent : ∀ moment ∈ lines, moment.SilentOn label)
  (quiet : ∀ moment ∈ span, moment.Quiet)
include silent quiet

/-- An entry that has begun and is not told of again. -/
theorem Settled.of_begins (flushing : Bool) :
    Settled (label, entry) (lines ++ ⟨.entryBegan label entry flushing, known⟩ :: span) now := by
  refine .inr (.inl ⟨.inl ?_, ?_⟩)
  · rw [Begun, told_append, told_cons]
    exact .inr (.inl ⟨flushing, rfl⟩)
  · rw [Missed, told_append, told_cons]
    rintro (missed | ⟨failure, same⟩ | missed)
    · exact not_missed_of_silent silent missed
    · cases same
    · exact not_missed_of_silent (fun moment mem => (quiet moment mem).silentOn label) missed

/-- An entry that was missed and is not told of again. -/
theorem Settled.of_misses (failure : Failure) (lacks : now.Lacks label) :
    Settled (label, entry) (lines ++ ⟨.brought label (some failure), known⟩ :: span) now := by
  refine .inr (.inr ⟨?_, ?_, fun waits => lacks _ waits rfl⟩)
  · rw [Missed, told_append, told_cons]
    exact .inr (.inl ⟨failure, rfl⟩)
  · rw [Begun, told_append, told_cons]
    rintro (begun | ⟨flushing, same⟩ | begun)
    · exact not_begun_of_silent silent entry begun
    · cases same
    · exact not_begun_of_silent (fun moment mem => (quiet moment mem).silentOn label) entry begun

end Left

/-- Every entry that waits meets one of three fates. -/
theorem Moves.settled {run after : Run W α} {entry : Label × Entry α}
    (moves : Moves setting run after) (started : run.standing.started = true)
    (waits : entry ∈ run.standing.waiting) :
    ∃ lines, after.journal = lines ++ run.journal ∧ Settled entry lines after.standing := by
  induction moves using Relation.ReflTransGen.head_induction_on with
  | refl => exact ⟨[], rfl, .inr (.inl ⟨.inr waits, not_told_nil⟩)⟩
  | @head run middle move rest ih =>
      have stillStarted := move.shift.started started
      cases move.shift with
      | keeps span journal quiet same remaining =>
          rw [← Standing.waiting_congr remaining] at waits
          exact exists_settled journal
            (fun moment mem => (quiet moment mem).silentOn entry.1) (ih stillStarted waits)
      | starts span failure journal quiet fresh =>
          exact Bool.noConfusion (fresh.symm.trans started)
      | forgets reply known journal goesOn same remaining =>
          have lacks : middle.standing.Lacks entry.1 := by
            rw [Standing.Lacks, Standing.waiting_forgotten remaining]
            exact List.forall_mem_nil _
          obtain ⟨lines, later, -⟩ := Moves.lacks rest stillStarted lacks
          refine ⟨lines ++ [_, _], by rw [later, journal, List.append_assoc]; rfl, .inl ?_⟩
          rw [Discarded, told_append, told_cons, told_cons]
          exact .inr (.inr (.inl ⟨⟨rfl, goesOn⟩, waits⟩))
      | begins span first begun others flushing known journal quiet waiting same remaining =>
          have nowWaiting := Standing.waiting_of_remaining remaining
          have apart := Standing.ne_first_of_mem waiting
          have mem := waits
          rw [waiting, List.mem_cons] at mem
          rcases mem with rfl | mem
          · have lacks := Standing.lacks_first waiting remaining
            obtain ⟨lines, later, silent, -⟩ := Moves.lacks rest stillStarted lacks
            refine ⟨lines ++ ⟨.entryBegan first begun flushing, known⟩ :: span, ?_,
              .of_begins silent quiet flushing⟩
            rw [later, journal, List.append_assoc, List.cons_append]
          · have silent : ∀ moment ∈ ⟨.entryBegan first begun flushing, known⟩ :: span,
                moment.SilentOn entry.1 :=
              List.forall_mem_cons.2 ⟨Moment.silentOn_entryBegan (apart entry mem).symm,
                fun moment mem => (quiet moment mem).silentOn entry.1⟩
            exact exists_settled journal silent (ih stillStarted (nowWaiting ▸ mem))
      | loses span first lost others failure known journal quiet waiting same remaining =>
          have nowWaiting := Standing.waiting_of_remaining remaining
          have apart := Standing.ne_first_of_mem waiting
          have mem := waits
          rw [waiting, List.mem_cons] at mem
          rcases mem with rfl | mem
          · have lacks := Standing.lacks_first waiting remaining
            obtain ⟨lines, later, silent, stillLacks⟩ := Moves.lacks rest stillStarted lacks
            refine ⟨lines ++ ⟨.brought first (some failure), known⟩ :: span, ?_,
              .of_misses silent quiet failure stillLacks⟩
            rw [later, journal, List.append_assoc, List.cons_append]
          · have silent : ∀ moment ∈ ⟨.brought first (some failure), known⟩ :: span,
                moment.SilentOn entry.1 :=
              List.forall_mem_cons.2 ⟨Moment.silentOn_brought (apart entry mem).symm,
                fun moment mem => (quiet moment mem).silentOn entry.1⟩
            exact exists_settled journal silent (ih stillStarted (nowWaiting ▸ mem))

/-! ## Where a line was written -/

/-- Some lines, written between two standings: a command that reaches the runner is the
oldest of them and tells what was known before, an answer is the newest of them and tells
what is known afterwards. -/
structure Framed (before after : Standing α) (lines : List (Moment α)) : Prop where
  dispatch : ∀ newer line older, lines = newer ++ line :: older →
    line.event.isDispatch = true → older = [] ∧ line.standing = before
  answer : ∀ newer line older, lines = newer ++ line :: older →
    line.event.isAnswer = true → newer = [] ∧ line.standing = after

namespace Framed

variable {before after : Standing α} {lines : List (Moment α)}

/-- Lines without a command and without an answer. -/
theorem of_plain
    (plain : ∀ moment ∈ lines, moment.event.isDispatch = false ∧ moment.event.isAnswer = false) :
    Framed before after lines where
  dispatch newer line older split isDispatch := by
    have mem : line ∈ lines := split ▸ List.mem_append_right _ List.mem_cons_self
    exact Bool.noConfusion (isDispatch.symm.trans (plain line mem).1)
  answer newer line older split isAnswer := by
    have mem : line ∈ lines := split ▸ List.mem_append_right _ List.mem_cons_self
    exact Bool.noConfusion (isAnswer.symm.trans (plain line mem).2)

/-- One line that tells what is known before and afterwards. -/
theorem single (event : Event α) (known : Standing α) : Framed known known [⟨event, known⟩] where
  dispatch newer line older split _ := by
    obtain ⟨rfl, rest⟩ | ⟨_, rest, empty⟩ := List.append_eq_cons_iff.1 split.symm
    · obtain ⟨rfl, rfl⟩ := List.cons.inj rest
      exact ⟨rfl, rfl⟩
    · simp at empty
  answer newer line older split _ := by
    obtain ⟨rfl, rest⟩ | ⟨_, rest, empty⟩ := List.append_eq_cons_iff.1 split.symm
    · obtain ⟨rfl, rfl⟩ := List.cons.inj rest
      exact ⟨rfl, rfl⟩
    · simp at empty

/-- A command and its answer. -/
theorem pair (command : Command α) (result : Except Failure Reply) :
    Framed before after [⟨.answered command result, after⟩, ⟨.dispatched command, before⟩] where
  dispatch newer line older split isDispatch := by
    match newer, split with
    | [], split =>
        obtain ⟨rfl, -⟩ := List.cons.inj split
        exact nomatch isDispatch
    | [_], split =>
        obtain ⟨-, split⟩ := List.cons.inj split
        obtain ⟨rfl, rfl⟩ := List.cons.inj split
        exact ⟨rfl, rfl⟩
    | _ :: _ :: _, split => simp at split
  answer newer line older split isAnswer := by
    match newer, split with
    | [], split =>
        obtain ⟨rfl, -⟩ := List.cons.inj split
        exact ⟨rfl, rfl⟩
    | [_], split =>
        obtain ⟨-, split⟩ := List.cons.inj split
        obtain ⟨rfl, rfl⟩ := List.cons.inj split
        exact nomatch isAnswer
    | _ :: _ :: _, split => simp at split

end Framed

/-- Every move frames the lines it writes. -/
theorem Move.framed {run after : Run W α} (move : Move setting run after) :
    ∃ lines, after.journal = lines ++ run.journal ∧
      Framed run.standing after.standing lines := by
  have none : ∀ before after : Standing α, Framed before after [] := by
    intro before after
    exact .of_plain (List.forall_mem_nil _)
  cases move with
  | act | declare | prepare | aim => exact ⟨[], rfl, none _ _⟩
  | mark | dispatch | answer | wait | invoke | closePage | write =>
      exact ⟨[_], rfl, .single _ _⟩
  | refuse | discard => exact ⟨[_, _], rfl, .pair _ _⟩
  | step | abort | change | begin =>
      exact ⟨[_], rfl, .of_plain (List.forall_mem_singleton.2 ⟨rfl, rfl⟩)⟩
  | failLaunch | start | lose =>
      refine ⟨[_, _], rfl, .of_plain ?_⟩
      rw [List.forall_mem_cons, List.forall_mem_singleton]
      exact ⟨⟨rfl, rfl⟩, rfl, rfl⟩
  | failReset | bring =>
      refine ⟨[_, _, _], rfl, .of_plain ?_⟩
      rw [List.forall_mem_cons, List.forall_mem_cons, List.forall_mem_singleton]
      exact ⟨⟨rfl, rfl⟩, ⟨rfl, rfl⟩, rfl, rfl⟩

/-- Moves only write lines in front of those there are. -/
theorem Moves.journal {run after : Run W α} (moves : Moves setting run after) :
    ∃ lines, after.journal = lines ++ run.journal := by
  induction moves with
  | refl => exact ⟨[], rfl⟩
  | @tail middle after _ move ih =>
      obtain ⟨older, before⟩ := ih
      obtain ⟨newer, written, -⟩ := move.framed
      exact ⟨newer ++ older, by rw [written, before, List.append_assoc]⟩

/-- Where a line stands, one move has written it among the lines of that move. -/
theorem Moves.split {start final : Run W α} (moves : Moves setting start final)
    {later earlier : List (Moment α)} {line : Moment α}
    (journal : final.journal = later ++ line :: earlier)
    (inside : start.journal.length ≤ earlier.length) :
    ∃ run after newer older, Moves setting start run ∧ Move setting run after ∧
      Moves setting after final ∧
      Framed run.standing after.standing (newer ++ line :: older) ∧
      earlier = older ++ run.journal ∧ after.journal = newer ++ line :: earlier := by
  induction moves generalizing later with
  | refl =>
      rw [journal, List.length_append, List.length_cons] at inside
      omega
  | @tail middle final moved move ih =>
      obtain ⟨lines, written, framed⟩ := move.framed
      have before : (∃ between, middle.journal = between ++ line :: earlier) →
          ∃ run after newer older, Moves setting start run ∧ Move setting run after ∧
            Moves setting after final ∧
            Framed run.standing after.standing (newer ++ line :: older) ∧
            earlier = older ++ run.journal ∧ after.journal = newer ++ line :: earlier := by
        rintro ⟨between, same⟩
        obtain ⟨run, after, newer, older, reached, made, rest, others⟩ := ih same
        exact ⟨run, after, newer, older, reached, made, rest.tail move, others⟩
      have cut : lines ++ middle.journal = later ++ line :: earlier := written.symm.trans journal
      rcases List.append_eq_append_iff.1 cut with ⟨between, -, same⟩ | ⟨own, rfl, same⟩
      · exact before ⟨between, same⟩
      · cases own with
        | nil => exact before ⟨[], same.symm⟩
        | cons first older =>
            obtain ⟨rfl, rfl⟩ := List.cons.inj same
            exact ⟨middle, final, later, older, moved, move, .refl, framed, rfl, journal⟩

/-- A command reaches the runner between two moves. -/
theorem Moves.split_dispatch {start final : Run W α} (moves : Moves setting start final)
    {later earlier : List (Moment α)} {command : Command α} {known : Standing α}
    (journal : final.journal = later ++ ⟨.dispatched command, known⟩ :: earlier)
    (inside : start.journal.length ≤ earlier.length) :
    ∃ run, Moves setting start run ∧ Moves setting run final ∧ run.journal = earlier ∧
      run.standing = known := by
  obtain ⟨run, after, newer, older, reached, move, rest, framed, rfl, -⟩ :=
    moves.split journal inside
  obtain ⟨rfl, same⟩ := framed.dispatch _ _ _ rfl rfl
  exact ⟨run, reached, .head move rest, rfl, same.symm⟩

/-- A command is answered between two moves. -/
theorem Moves.split_answer {start final : Run W α} (moves : Moves setting start final)
    {later earlier : List (Moment α)} {command : Command α} {result : Except Failure Reply}
    {known : Standing α}
    (journal : final.journal = later ++ ⟨.answered command result, known⟩ :: earlier)
    (inside : start.journal.length ≤ earlier.length) :
    ∃ run, Moves setting start run ∧ Moves setting run final ∧
      run.journal = ⟨.answered command result, known⟩ :: earlier ∧ run.standing = known := by
  obtain ⟨run, after, newer, older, reached, move, rest, framed, -, written⟩ :=
    moves.split journal inside
  obtain ⟨rfl, same⟩ := framed.answer _ _ _ rfl rfl
  exact ⟨after, reached.tail move, rest, written, same.symm⟩

/-! ## Between a command and an answer -/

/-- Between a command and an answer, an entry that waits and that nobody discards is kept if
and only if it is not missed. -/
theorem Moves.kept_iff {start final : Run W α} (moves : Moves setting start final)
    {later lines earlier : List (Moment α)} {command answered : Command α}
    {result : Except Failure Reply} {before after : Standing α}
    (journal : final.journal = later ++ ⟨.answered answered result, after⟩ ::
      (lines ++ ⟨.dispatched command, before⟩ :: earlier))
    (inside : start.journal.length ≤ earlier.length) (started : before.started = true)
    {entry : Label × Entry α} (waits : entry ∈ before.waiting)
    (undiscarded : ¬Discarded entry (lines ++ [⟨.dispatched command, before⟩])) :
    (Begun entry lines ∨ entry ∈ after.waiting) ↔ ¬Missed entry.1 lines := by
  have apart : final.journal = (later ++ ⟨.answered answered result, after⟩ :: lines) ++
      ⟨.dispatched command, before⟩ :: earlier := by
    rw [journal, List.append_assoc, List.cons_append]
  obtain ⟨run, reached, rest, rfl, rfl⟩ := moves.split_dispatch apart inside
  obtain ⟨ended, moved, -, written, rfl⟩ := rest.split_answer journal (by
    rw [List.length_append, List.length_cons]
    omega)
  obtain ⟨all, told, settled⟩ := Moves.settled moved started waits
  have same : all = ⟨.answered answered result, ended.standing⟩ ::
      (lines ++ [⟨.dispatched command, run.standing⟩]) := by
    refine List.append_cancel_right (told.symm.trans (written.trans ?_))
    simp
  rw [same] at settled
  have answerSilent : Moment.SilentOn ⟨.answered answered result, ended.standing⟩ entry.1 :=
    Moment.silentOn_answered _ _
  have dispatchSilent : Moment.SilentOn ⟨.dispatched command, run.standing⟩ entry.1 :=
    Moment.silentOn_dispatched _
  have begun : Begun entry (⟨.answered answered result, ended.standing⟩ ::
      (lines ++ [⟨.dispatched command, run.standing⟩])) ↔ Begun entry lines := by
    simp [Begun, answerSilent.begins, dispatchSilent.begins]
  have missed : Missed entry.1 (⟨.answered answered result, ended.standing⟩ ::
      (lines ++ [⟨.dispatched command, run.standing⟩])) ↔ Missed entry.1 lines := by
    simp [Missed, answerSilent.misses, dispatchSilent.misses]
  rw [← begun, ← missed]
  refine settled.kept_iff ?_
  rw [Discarded, told_cons]
  rintro (⟨⟨same, -⟩, -⟩ | discarded)
  · cases same
  · exact undiscarded discarded

/-! ## The entries of a whole session -/

/-- A session that is running has started at some move. -/
theorem Moves.exists_start {start final : Run W α} (moves : Moves setting start final)
    (fresh : start.standing.started = false) (started : final.standing.started = true) :
    ∃ run after, Moves setting start run ∧ run.standing.started = false ∧
      Move setting run after ∧ after.standing.started = true ∧ Moves setting after final := by
  induction moves with
  | refl => exact Bool.noConfusion (fresh.symm.trans started)
  | @tail middle final moved move ih =>
      cases already : middle.standing.started with
      | false => exact ⟨middle, final, moved, already, move, started, .refl⟩
      | true =>
          obtain ⟨run, after, reached, notStarted, made, nowStarted, rest⟩ := ih already
          exact ⟨run, after, reached, notStarted, made, nowStarted, rest.tail move⟩

/-- Since the session started, each of its entries has met its fate. -/
theorem Moves.settled_since_start {world : W} {final : Run W α}
    (moves : Moves setting { world } final) (started : final.standing.started = true) :
    ∃ later first earlier, final.journal = later ++ first :: earlier ∧ first.Starts ∧
      ∀ entry ∈ first.standing.expects, Settled entry later final.standing := by
  obtain ⟨run, after, reached, fresh, move, nowStarted, rest⟩ := moves.exists_start rfl started
  have inOrder := reached.inOrder (Run.inOrder_initial world)
  cases move.shift with
  | keeps span journal quiet same =>
      exact Bool.noConfusion (nowStarted.symm.trans (same.trans fresh))
  | forgets reply known journal goesOn same =>
      exact Bool.noConfusion (nowStarted.symm.trans (same.trans fresh))
  | begins span label entry others flushing known journal quiet waiting same =>
      exact Bool.noConfusion (nowStarted.symm.trans (same.trans fresh))
  | loses span label entry others failure known journal quiet waiting same =>
      exact Bool.noConfusion (nowStarted.symm.trans (same.trans fresh))
  | starts span failure journal quiet _ _ remaining =>
      obtain ⟨all, told⟩ := rest.journal
      refine ⟨all ++ span, ⟨.called .launch failure, run.standing.begun⟩, run.journal, ?_,
        ⟨failure, rfl⟩, ?_⟩
      · rw [told, journal, List.append_assoc]
      · intro entry declared
        have waits : entry ∈ after.standing.waiting := by
          rw [Standing.waiting_of_remaining remaining]
          exact Table.mem_ofList_of_mem inOrder.apart declared
        obtain ⟨lines, same, settled⟩ := Moves.settled rest nowStarted waits
        obtain rfl : lines = all := List.append_cancel_right (same.symm.trans told)
        exact settled.after_silent fun moment mem => (quiet moment mem).silentOn entry.1

/-! ## Entries that run without a failure -/

/-- While a session runs, no entry is added to those that wait. -/
theorem Shift.waiting_length_le {run after : Run W α} (shift : Shift run after)
    (started : run.standing.started = true) :
    after.standing.waiting.length ≤ run.standing.waiting.length := by
  cases shift with
  | keeps span journal quiet same remaining =>
      exact Nat.le_of_eq (congrArg List.length (Standing.waiting_congr remaining))
  | starts span failure journal quiet fresh => exact Bool.noConfusion (fresh.symm.trans started)
  | forgets reply known journal goesOn same remaining =>
      rw [Standing.waiting_forgotten remaining]
      exact Nat.zero_le _
  | begins span label entry rest flushing known journal quiet waiting same remaining =>
      rw [waiting, Standing.waiting_of_remaining remaining, List.length_cons]
      exact Nat.le_succ _
  | loses span label entry rest failure known journal quiet waiting same remaining =>
      rw [waiting, Standing.waiting_of_remaining remaining, List.length_cons]
      exact Nat.le_succ _

theorem Moves.waiting_length_le {run after : Run W α} (moves : Moves setting run after)
    (started : run.standing.started = true) :
    after.standing.started = true ∧
      after.standing.waiting.length ≤ run.standing.waiting.length := by
  induction moves with
  | refl => exact ⟨started, Nat.le_refl _⟩
  | tail _ move ih =>
      obtain ⟨stillStarted, fewer⟩ := ih
      exact ⟨move.shift.started stillStarted,
        Nat.le_trans (move.shift.waiting_length_le stillStarted) fewer⟩

namespace Runner

variable {run after : Run W α}

/-- Preparing the app for an entry changes at most which update it shows. -/
theorem standing_of_approach {upto : Option Label} {label : Label}
    (isOpen : run.standing.sessionOpen = true)
    (ran : (approach setting upto label).runOn run = (.ok (), after)) :
    ∃ cursor, after.standing = { run.standing with cursor } := by
  cases upto with
  | some bound =>
      obtain ⟨-, rfl⟩ := Prod.mk.inj ran
      exact ⟨run.standing.cursor, rfl⟩
  | none =>
      rw [approach] at ran
      by_cases shown : run.standing.cursor = some label ∨ run.standing.specs.isEmpty = true
      · rw [runOn_bringTo_shown run setting shown] at ran
        obtain ⟨-, rfl⟩ := Prod.mk.inj ran
        exact ⟨run.standing.cursor, rfl⟩
      · have elsewhere : run.standing.cursor ≠ some label ∧
            (!run.standing.specs.isEmpty) = true := by
          simpa [not_or] using shown
        cases result : ((setting.testBed.write (run.standing.changesFor label)).runOn
            run.world).1 with
        | error failure =>
            rw [runOn_bringTo_failed run setting elsewhere isOpen result] at ran
            cases (Prod.mk.inj ran).1
        | ok _ =>
            rw [runOn_bringTo_written run setting elsewhere isOpen result] at ran
            obtain ⟨-, rfl⟩ := Prod.mk.inj ran
            exact ⟨some label, rfl⟩

/-- When what is due has been run without a failure, nothing is due, whatever the entries have
done. -/
theorem due?_of_runDue {upto : Option Label} {most : Nat} (isOpen : run.standing.sessionOpen = true)
    (started : run.standing.started = true) (enough : run.standing.waiting.length ≤ most)
    (ran : (runDue setting most upto).runOn run = (.ok (), after)) :
    after.standing.due? upto = none := by
  induction most generalizing run with
  | zero =>
      obtain ⟨-, rfl⟩ := Prod.mk.inj ran
      exact Standing.due?_of_waiting_nil (List.length_eq_zero_iff.1 (Nat.le_zero.1 enough)) upto
  | succ most ih =>
      cases due : run.standing.due? upto with
      | none =>
          rw [runOn_runDue_none setting due] at ran
          obtain ⟨-, rfl⟩ := Prod.mk.inj ran
          exact due
      | some taken =>
          obtain ⟨⟨label, entry⟩, rest⟩ := taken
          rw [runDue, Action.runOn_bind_ok (runOn_takeDue_some due)] at ran
          obtain ⟨_, before, approached, ran⟩ := Action.exists_of_runOn_bind_ok ran
          have leftOpen : (run.leaving rest).standing.sessionOpen = true := isOpen
          obtain ⟨cursor, known⟩ := standing_of_approach leftOpen approached
          obtain ⟨_, middle, played, ran⟩ := Action.exists_of_runOn_bind_ok ran
          have beforeOpen : before.standing.sessionOpen = true := known ▸ isOpen
          have beforeStarted : before.standing.started = true := known ▸ started
          have beforeWaiting : before.standing.waiting = rest.entries := by
            rw [known]
            rfl
          -- whatever the entry does, at most the entries behind it wait afterwards
          have moved : Moves setting (before.beginning label entry upto.isNone) middle := by
            have begunOpen :
                (before.beginning label entry upto.isNone).standing.sessionOpen = true := beforeOpen
            have movingDue : MovingDue setting (runDue setting most) :=
              fun _ isOpen upto => moves_runDue most upto isOpen
            have plays := moves_playEntry (moves_answer movingDue) label entry begunOpen
            have ended : ((runEntry setting (answer setting (runDue setting most)) upto.isNone label
                entry).runOn before).2 = middle := congrArg Prod.snd played
            rw [← runOn_runEntry, ended] at plays
            exact plays
          obtain ⟨middleStarted, fewer⟩ := moved.waiting_length_le beforeStarted
          have middleEnough : middle.standing.waiting.length ≤ most := by
            have length : (before.beginning label entry upto.isNone).standing.waiting.length =
                rest.entries.length := congrArg List.length beforeWaiting
            rw [Standing.waiting_of_due due, List.length_cons] at enough
            omega
          exact ih (moved.open beforeOpen) middleStarted middleEnough ran

/-- A flush that succeeds leaves no entry waiting. -/
theorem waiting_of_flush {most : Nat} (isOpen : run.standing.sessionOpen = true)
    (started : run.standing.started = true) (enough : run.standing.waiting.length ≤ most)
    (ran : (runDue setting most none).runOn run = (.ok (), after)) :
    after.standing.waiting = [] :=
  Standing.waiting_of_due_none (due?_of_runDue isOpen started enough ran)

/-- Once the session has been started without a failure, it has started. -/
theorem started_of_ensureStarted {due : Option Label → Act W α Unit}
    (movingDue : MovingDue setting due)
    (done : (ensureStarted setting due).runOn run = (.ok (), after)) :
    after.standing.started = true := by
  rcases ensureStarted_cases setting due run with
    ⟨started, ran⟩ | ⟨failure, -, -, ran⟩ | ⟨failure, -, -, -, ran⟩ | ⟨changed, -, -, -, ran⟩
  · obtain ⟨-, rfl⟩ := Prod.mk.inj (ran.symm.trans done)
    exact started
  · exact nomatch (Prod.mk.inj (ran.symm.trans done)).1
  · exact nomatch (Prod.mk.inj (ran.symm.trans done)).1
  · have entered : Moves setting (run.started setting)
        ((enterInitial due).runOn (run.started setting)).2 := moves_enterInitial movingDue rfl
    rw [← ran, done] at entered
    exact (Moves.waiting_length_le entered rfl).1

/-- Going on means that the run has not been aborted. -/
theorem goesOn_of_failIfAborted
    (done : (failIfAborted : Act W α Unit).runOn run = (.ok (), after)) :
    run.standing.aborted = none ∧ after = run := by
  cases aborted : run.standing.aborted with
  | some failure =>
      rw [runOn_failIfAborted_some run aborted] at done
      exact nomatch (Prod.mk.inj done).1
  | none =>
      rw [runOn_failIfAborted_none run aborted] at done
      exact ⟨rfl, (Prod.mk.inj done).2.symm⟩

/-- When all entries have been run, the session has started and no entry waits. -/
theorem waiting_of_finishEntries (ready : run.Ready) (goesOn : run.standing.aborted = none)
    (finished : (finishEntries setting).runOn run = (.ok true, after)) :
    after.standing.started = true ∧ after.standing.waiting = [] := by
  rw [finishEntries, Action.runOn_bind_ok (runOn_standing run)] at finished
  by_cases nothing : (!run.standing.started && run.standing.expects.isEmpty) = true
  · rw [if_pos nothing] at finished
    cases (Prod.mk.inj finished).1
  · rw [if_neg nothing] at finished
    obtain ⟨_, middle, begun, finished⟩ := Action.exists_of_runOn_bind_ok finished
    have isOpen := open_of_ensureStarted moves_runAllDue ready goesOn begun
    have started := started_of_ensureStarted moves_runAllDue begun
    rw [Action.runOn_attempt_bind] at finished
    obtain ⟨_, last, checked, finished⟩ := Action.exists_of_runOn_bind_ok finished
    obtain ⟨-, rfl⟩ := goesOn_of_failIfAborted checked
    obtain ⟨_, ended, flushed, finished⟩ := Action.exists_of_runOn_bind_ok finished
    rw [Action.runOn_ofExcept] at flushed
    obtain ⟨succeeded, rfl⟩ := Prod.mk.inj flushed
    obtain ⟨-, rfl⟩ := Prod.mk.inj finished
    have ran : (runDue setting middle.standing.remainingCount none).runOn middle =
        (.ok (), ((runAllDue setting none).runOn middle).2) := Prod.ext succeeded rfl
    have moved : Moves setting middle ((runAllDue setting none).runOn middle).2 :=
      moves_runAllDue middle isOpen none
    have enough := Nat.le_of_eq middle.standing.remainingCount_eq_length.symm
    exact ⟨(moved.waiting_length_le started).1, waiting_of_flush isOpen started enough ran⟩

/-- When a test has been driven to its end, the session has started and no entry waits. -/
theorem waiting_of_driveToEnd {procedure : Procedure W α} (ready : run.Ready)
    (passed : (driveToEnd setting procedure).runOn run = (.ok true, after)) :
    after.standing.started = true ∧ after.standing.waiting = [] := by
  have driven : Moves setting run
      ((drive (answer setting (runAllDue setting)) procedure).runOn run).2 :=
    moves_drive (moves_answer moves_runAllDue) procedure ready
  rw [driveToEnd, Action.runOn_attempt_bind, Action.runOn_bind_ok (runOn_record _ _)] at passed
  obtain ⟨_, last, checked, finished⟩ := Action.exists_of_runOn_bind_ok passed
  obtain ⟨goesOn, rfl⟩ := goesOn_of_failIfAborted checked
  obtain ⟨_, ended, returned, finished⟩ := Action.exists_of_runOn_bind_ok finished
  rw [Action.runOn_ofExcept] at returned
  obtain ⟨-, rfl⟩ := Prod.mk.inj returned
  refine waiting_of_finishEntries ?_ goesOn finished
  exact driven.ready ready

end Runner

/-! ## Invocations -/

/-- Closing the app at the end of an invocation leaves the entries alone. -/
theorem Invocation.journal_of_run (setting : Setting W α) (title : Option String)
    (procedure : Procedure W α) (start : Run W α) :
    ∃ closing,
      ((Invocation.run setting title procedure).runOn start).2.journal =
        closing ++ ((Runner.driveToEnd setting procedure).runOn start).2.journal ∧
      ∀ moment ∈ closing, moment.Quiet ∧ moment.event.isAnswer = false := by
  rw [Invocation.runOn_run]
  dsimp only
  generalize ((Runner.driveToEnd setting procedure).runOn start).2 = driven
  cases isOpen : driven.standing.sessionOpen with
  | false =>
      rw [Runner.runOn_close_closed driven isOpen]
      exact ⟨[], rfl, List.forall_mem_nil _⟩
  | true =>
      cases keeps : setting.config.keepRunning with
      | true =>
          rw [Runner.runOn_close_kept driven isOpen keeps]
          exact ⟨[], rfl, List.forall_mem_nil _⟩
      | false =>
          rw [Runner.runOn_close_open driven isOpen keeps]
          refine ⟨[_, _], rfl, ?_⟩
          rw [List.forall_mem_cons, List.forall_mem_singleton]
          exact ⟨⟨.of_isQuiet _ rfl, rfl⟩, .of_isQuiet _ rfl, rfl⟩

/-- **An entry that nobody discards is kept if and only if no flush misses it.** Between a
command and an answer, an entry that waits at the command has begun or still waits at the
answer, unless a flush failed to write the files of its update. So in an invocation that
passes, of the entries that were declared when the session started, those that nobody
discarded have begun, except for those that were missed. -/
theorem kept_iff_not_missed (setting : Setting W α) (title : Option String)
    (procedure : Procedure W α) (world : W) :
    let ended := (Invocation.run setting title procedure).runOn { world }
    (∀ (later lines earlier : List (Moment α)) (command answered : Command α)
        (result : Except Failure Reply) (before after : Standing α),
      ended.2.journal = later ++ ⟨.answered answered result, after⟩ ::
        (lines ++ ⟨.dispatched command, before⟩ :: earlier) →
      before.started = true →
      ∀ entry ∈ before.waiting, ¬Discarded entry (lines ++ [⟨.dispatched command, before⟩]) →
        ((Begun entry lines ∨ entry ∈ after.waiting) ↔ ¬Missed entry.1 lines)) ∧
    (∀ report, ended.1 = .ok report → report.outcome = .passed →
      ∃ later first earlier, ended.2.journal = later ++ first :: earlier ∧ first.Starts ∧
        ∀ entry ∈ first.standing.expects, ¬Discarded entry later →
          (Begun entry later ↔ ¬Missed entry.1 later)) := by
  intro ended
  have ready : ({ world } : Run W α).Ready := fun started => nomatch started
  have moves : Moves setting { world } ((Runner.driveToEnd setting procedure).runOn { world }).2 :=
    Runner.moves_driveToEnd procedure ready
  obtain ⟨closing, written, quiet⟩ := Invocation.journal_of_run setting title procedure { world }
  constructor
  · intro later lines earlier command answered result before after journal started entry waits
      undiscarded
    have cut := written.symm.trans journal
    -- the answer is not one of the lines that closing the app has written
    rcases List.append_eq_append_iff.1 cut with ⟨front, rfl, same⟩ | ⟨own, rfl, same⟩
    · exact moves.kept_iff same (Nat.zero_le _) started waits undiscarded
    · cases own with
      | nil =>
          have whole : ((Runner.driveToEnd setting procedure).runOn { world }).2.journal =
              [] ++ ⟨.answered answered result, after⟩ ::
                (lines ++ ⟨.dispatched command, before⟩ :: earlier) := same.symm
          exact moves.kept_iff whole (Nat.zero_le _) started waits undiscarded
      | cons first others =>
          obtain ⟨rfl, -⟩ := List.cons.inj same
          have plain := (quiet _ (List.mem_append_right _ List.mem_cons_self)).2
          exact Bool.noConfusion plain
  · intro report reported passed
    have driven := Invocation.driven_of_passed (Prod.ext reported rfl) passed
    obtain ⟨started, nothing⟩ := Runner.waiting_of_driveToEnd ready (Prod.ext driven rfl)
    obtain ⟨later, first, earlier, journal, starts, settled⟩ := moves.settled_since_start started
    refine ⟨closing ++ later, first, earlier, ?_, starts, ?_⟩
    · rw [written, journal, List.append_assoc]
    · intro entry declared undiscarded
      rw [Discarded, told_append, not_or] at undiscarded
      have kept := (settled entry declared).kept_iff undiscarded.2
      have silent : ∀ moment ∈ closing, moment.SilentOn entry.1 :=
        fun moment mem => (quiet moment mem).1.silentOn entry.1
      have notBegun : ¬Begun entry closing := not_begun_of_silent silent entry.2
      have notMissed : ¬Missed entry.1 closing := not_missed_of_silent silent
      rw [nothing, List.mem_nil_iff, or_false] at kept
      rw [Begun, Missed, told_append, told_append, or_iff_right notBegun, or_iff_right notMissed]
      exact kept

/-- An event that forgets all entries. -/
def Event.isDiscard : Event α → Bool
  | .dispatched .discard => true
  | _ => false

theorem not_discarded_of_all {entry : Label × Entry α} {lines : List (Moment α)}
    (others : (lines.all fun moment => !moment.event.isDiscard) = true) :
    ¬Discarded entry lines := by
  rintro ⟨moment, mem, ⟨same, -⟩, -⟩
  have other := List.all_eq_true.1 others moment mem
  rw [same] at other
  exact Bool.noConfusion other

theorem not_begun_of_begunEntries {entry : Label × Entry α} {lines : List (Moment α)}
    (none : begunEntries lines = []) : ¬Begun entry lines := by
  rintro ⟨moment, mem, flushing, same⟩
  rw [begunEntries, List.reverse_eq_nil_iff, List.filterMap_eq_nil_iff] at none
  have nothing := none moment mem
  rw [same] at nothing
  contradiction

/-- A test bed that opens the app and cannot change its files. -/
def TestBed.stuck : TestBed Unit :=
  { TestBed.still with
    write := fun _ => throw { cause := .build "Unexpected token (1:1)", phase := .build } }

/-- A test that handles the failure of its flush. -/
def handledFlush : Procedure Unit Unit :=
  .send (.contents (Table.ofList [("App.html", .text "<p></p>")])) fun _ =>
    .send (.before ⟨"1"⟩ ()) fun _ => .send .flush fun _ => .finish (.ok ())

/-- A test that handles the failure of its flush can pass, though its only entry has not
begun and nobody has discarded it. -/
theorem passed_without_entry :
    let ended := (Invocation.run (.plain .stuck) none handledFlush).runOn { world := () }
    ended.1 = .ok { title := none, outcome := .passed, entriesRun := 0, stepsRun := 0 } ∧
      ∃ later first earlier, ended.2.journal = later ++ first :: earlier ∧ first.Starts ∧
        ∃ entry ∈ first.standing.expects, ¬Discarded entry later ∧ ¬Begun entry later := by
  refine ⟨rfl, [_, _, _, _, _, _, _], _, _, rfl, ⟨none, rfl⟩, _, .head _, ?_, ?_⟩
  · exact not_discarded_of_all rfl
  · exact not_begun_of_begunEntries rfl

/-- The only entry of a test is kept by a flush that succeeds. -/
theorem kept_of_flush :
    let ended := (Invocation.run (.plain .still) none
      (Procedure.sendAll [.before ⟨"1"⟩ (), .page [] [], .flush])).runOn { world := () }
    (∃ (later lines earlier : List (Moment Unit)) (command answered : Command Unit)
        (result : Except Failure Reply) (before after : Standing Unit),
      ended.2.journal = later ++ ⟨.answered answered result, after⟩ ::
        (lines ++ ⟨.dispatched command, before⟩ :: earlier) ∧ before.started = true ∧
      ∃ entry ∈ before.waiting, ¬Discarded entry (lines ++ [⟨.dispatched command, before⟩]) ∧
        ((Begun entry lines ∨ entry ∈ after.waiting) ↔ ¬Missed entry.1 lines)) ∧
    ∃ later first earlier, ended.2.journal = later ++ first :: earlier ∧ first.Starts ∧
      ∀ entry ∈ first.standing.expects, ¬Discarded entry later →
        (Begun entry later ↔ ¬Missed entry.1 later) := by
  have holds := kept_iff_not_missed (.plain .still) none
    (Procedure.sendAll [.before ⟨"1"⟩ (), .page [] [], .flush]) ()
  constructor
  · refine ⟨[_, _, _], [_, _, _, _], _, _, _, _, _, _, rfl, rfl, _, .head _, ?_, ?_⟩
    · exact not_discarded_of_all rfl
    · exact holds.1 [_, _, _] [_, _, _, _] _ _ _ _ _ _ rfl rfl _ (.head _)
        (not_discarded_of_all rfl)
  · exact holds.2 _ rfl rfl

end HotReload
