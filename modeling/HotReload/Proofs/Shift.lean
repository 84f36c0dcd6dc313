import HotReload.Proofs.Moves

/-!
# What a move does to the entries

Most moves leave the remaining entries as they are. The others are five: the session
starts, all entries are forgotten, the first entry begins, or the first entry is lost
because a flush cannot bring the app to its update. A shift says which of these a move
is, and which line of the journal tells so (`Move.shift`).

A line that tells nothing about entries is quiet.
-/

set_option autoImplicit false

namespace HotReload

variable {W α : Type}

/-! ## What a line of the journal tells -/

/-- Whether an event tells nothing about entries, whatever is known. -/
def Event.isQuiet : Event α → Bool
  | .entryBegan _ _ _ | .brought _ (some _) | .dispatched .discard | .called .launch _ => false
  | _ => true

namespace Moment

/-- The line of an entry that begins. -/
def Begins (moment : Moment α) (label : Label) (entry : Entry α) : Prop :=
  ∃ flushing, moment.event = .entryBegan label entry flushing

/-- The line of a flush that could not bring the app to the update of a label. -/
def Misses (moment : Moment α) (label : Label) : Prop :=
  ∃ failure, moment.event = .brought label (some failure)

/-- The line of a command to forget all entries that is carried out. -/
def Forgets (moment : Moment α) : Prop :=
  moment.event = .dispatched .discard ∧ moment.standing.aborted = none

/-- The line of a session that starts. -/
def Starts (moment : Moment α) : Prop :=
  ∃ failure, moment.event = .called .launch failure

/-- A line that tells of no entry that begins or is lost, of no entries that are
forgotten, and of no session that starts. -/
structure Quiet (moment : Moment α) : Prop where
  begins : ∀ label entry, ¬moment.Begins label entry
  misses : ∀ label, ¬moment.Misses label
  forgets : ¬moment.Forgets
  starts : ¬moment.Starts

theorem Quiet.of_isQuiet {event : Event α} (known : Standing α)
    (isQuiet : event.isQuiet = true) : Quiet ⟨event, known⟩ where
  begins := by
    rintro label entry ⟨flushing, rfl⟩
    exact Bool.false_ne_true isQuiet
  misses := by
    rintro label ⟨failure, rfl⟩
    exact Bool.false_ne_true isQuiet
  forgets := by
    rintro ⟨rfl, -⟩
    exact Bool.false_ne_true isQuiet
  starts := by
    rintro ⟨failure, rfl⟩
    exact Bool.false_ne_true isQuiet

/-- A command that is refused forgets nothing. -/
theorem Quiet.of_refused {known : Standing α} (command : Command α)
    (ended : known.aborted.isSome = true) : Quiet ⟨.dispatched command, known⟩ where
  begins := by
    rintro label entry ⟨flushing, same⟩
    cases same
  misses := by
    rintro label ⟨failure, same⟩
    cases same
  forgets := by
    rintro ⟨-, goesOn⟩
    rw [goesOn] at ended
    exact Bool.false_ne_true ended
  starts := by
    rintro ⟨failure, same⟩
    cases same

end Moment

/-- The entries that have not begun, in label order. -/
def Standing.waiting (known : Standing α) : List (Label × Entry α) :=
  match known.remaining with
  | none => []
  | some entries => entries.entries

namespace Standing

theorem waiting_of_remaining {known : Standing α} {rest : Table Label (Entry α)}
    (remaining : known.remaining = some rest) : known.waiting = rest.entries := by
  rw [waiting, remaining]

theorem waiting_congr {first second : Standing α}
    (remaining : first.remaining = second.remaining) : first.waiting = second.waiting := by
  rw [waiting, waiting, remaining]

theorem waiting_forgotten {first second : Standing α}
    (remaining : first.remaining = second.remaining.map fun _ => {}) : first.waiting = [] := by
  rw [waiting, remaining]
  cases second.remaining <;> rfl

theorem remainingCount_eq_length (known : Standing α) :
    known.remainingCount = known.waiting.length := by
  unfold remainingCount waiting
  cases known.remaining <;> rfl

/-- The entry that is due is the first that waits, if the bound reaches it. -/
theorem due?_cases (known : Standing α) (upto : Option Label) :
    (known.waiting = [] ∧ known.due? upto = none) ∨
    ∃ (first : Label × Entry α) (behind : Table Label (Entry α)),
      known.waiting = first :: behind.entries ∧
      known.due? upto =
        if (upto.all fun bound => first.1.atMost bound) = true then some (first, behind)
        else none := by
  unfold due? waiting
  cases known.remaining with
  | none => exact .inl ⟨rfl, rfl⟩
  | some table =>
      obtain ⟨entries, ascending⟩ := table
      cases entries with
      | nil => exact .inl ⟨rfl, rfl⟩
      | cons first rest =>
          refine .inr ⟨first, ⟨rest, (List.pairwise_cons.1 ascending).2⟩, rfl, ?_⟩
          cases upto with
          | none => rfl
          | some bound => rfl

theorem waiting_of_due_none {known : Standing α} (nothing : known.due? none = none) :
    known.waiting = [] := by
  rcases known.due?_cases none with ⟨waiting, -⟩ | ⟨first, behind, -, due⟩
  · exact waiting
  · exact nomatch nothing.symm.trans due

/-- Where nothing waits, nothing is due. -/
theorem due?_of_waiting_nil {known : Standing α} (waiting : known.waiting = [])
    (upto : Option Label) : known.due? upto = none := by
  rcases known.due?_cases upto with ⟨-, none⟩ | ⟨first, behind, others, -⟩
  · exact none
  · exact nomatch waiting.symm.trans others

/-- The first entry that is due is the first of those that wait. -/
theorem waiting_of_due {known : Standing α} {upto : Option Label}
    {first : Label × Entry α} {rest : Table Label (Entry α)}
    (due : known.due? upto = some (first, rest)) : known.waiting = first :: rest.entries := by
  rcases known.due?_cases upto with ⟨-, none⟩ | ⟨head, behind, waiting, found⟩
  · exact nomatch due.symm.trans none
  · rw [due] at found
    split at found
    · obtain ⟨rfl, rfl⟩ := Prod.mk.inj (Option.some.inj found)
      exact waiting
    · exact nomatch found

/-- The first entry that waits is due if the bound, when there is one, reaches it. -/
theorem exists_due {known : Standing α} {first : Label × Entry α} {rest : List (Label × Entry α)}
    (waiting : known.waiting = first :: rest) {upto : Option Label}
    (reached : ∀ bound ∈ upto, first.1.atMost bound = true) :
    ∃ behind : Table Label (Entry α), behind.entries = rest ∧
      known.due? upto = some (first, behind) := by
  rcases known.due?_cases upto with ⟨nothing, -⟩ | ⟨head, behind, others, due⟩
  · exact nomatch waiting.symm.trans nothing
  · obtain ⟨rfl, rfl⟩ := List.cons.inj (waiting.symm.trans others)
    refine ⟨behind, rfl, due.trans (if_pos ?_)⟩
    rw [Option.all_eq_true]
    exact reached

/-- An entry that is due up to a bound is due without one, and its label is at most the
bound. -/
theorem due?_bounded {known : Standing α} {bound : Label} {first : Label × Entry α}
    {rest : Table Label (Entry α)} (due : known.due? (some bound) = some (first, rest)) :
    known.due? none = some (first, rest) ∧ first.1.atMost bound = true := by
  rcases known.due?_cases (some bound) with ⟨-, nothing⟩ | ⟨head, behind, waiting, found⟩
  · exact nomatch due.symm.trans nothing
  · have unbounded : ∀ bound ∈ (none : Option Label), head.1.atMost bound = true :=
      fun _ mem => nomatch mem
    obtain ⟨others, same, first⟩ := exists_due waiting unbounded
    obtain rfl : others = behind := Table.ext same
    rw [due] at found
    split at found
    · rename_i reached
      obtain ⟨rfl, rfl⟩ := Prod.mk.inj (Option.some.inj found)
      exact ⟨first, reached⟩
    · exact nomatch found

/-- Nothing is due up to a bound that no waiting entry is at most. -/
theorem due?_eq_none {known : Standing α} {bound : Label}
    (above : ∀ entry ∈ known.waiting, entry.1.atMost bound = false) :
    known.due? (some bound) = none := by
  rcases known.due?_cases (some bound) with ⟨-, none⟩ | ⟨first, behind, waiting, due⟩
  · exact none
  · refine due.trans (if_neg ?_)
    rw [Option.all_some, above first (by rw [waiting]; exact List.mem_cons_self)]
    exact Bool.false_ne_true

end Standing

/-! ## Shifts -/

/-- What a move does to the entries of a run. -/
inductive Shift (run after : Run W α) : Prop
  /-- The remaining entries stay. -/
  | keeps (span : List (Moment α)) (journal : after.journal = span ++ run.journal)
      (quiet : ∀ moment ∈ span, moment.Quiet)
      (started : after.standing.started = run.standing.started)
      (remaining : after.standing.remaining = run.standing.remaining)
      (frozen : run.standing.started = true → after.standing.expects = run.standing.expects)
      (apart : (run.standing.expects.map Prod.fst).Nodup →
        (after.standing.expects.map Prod.fst).Nodup)
  /-- The session starts. -/
  | starts (span : List (Moment α)) (failure : Option Failure)
      (journal : after.journal =
        span ++ ⟨.called .launch failure, run.standing.begun⟩ :: run.journal)
      (quiet : ∀ moment ∈ span, moment.Quiet)
      (fresh : run.standing.started = false)
      (started : after.standing.started = true)
      (remaining : after.standing.remaining = some (Table.ofList run.standing.expects))
      (frozen : after.standing.expects = run.standing.expects)
  /-- All entries are forgotten. -/
  | forgets (reply : Reply) (known : Standing α)
      (journal : after.journal =
        ⟨.answered .discard (.ok reply), known⟩ :: ⟨.dispatched .discard, run.standing⟩ ::
          run.journal)
      (goesOn : run.standing.aborted = none)
      (started : after.standing.started = run.standing.started)
      (remaining : after.standing.remaining = run.standing.remaining.map fun _ => {})
      (expects : after.standing.expects = [])
  /-- The first entry begins. -/
  | begins (span : List (Moment α)) (label : Label) (entry : Entry α)
      (rest : Table Label (Entry α)) (flushing : Bool) (known : Standing α)
      (journal : after.journal =
        ⟨.entryBegan label entry flushing, known⟩ :: (span ++ run.journal))
      (quiet : ∀ moment ∈ span, moment.Quiet)
      (waiting : run.standing.waiting = (label, entry) :: rest.entries)
      (started : after.standing.started = run.standing.started)
      (remaining : after.standing.remaining = some rest)
      (frozen : after.standing.expects = run.standing.expects)
  /-- The first entry is lost. -/
  | loses (span : List (Moment α)) (label : Label) (entry : Entry α)
      (rest : Table Label (Entry α)) (failure : Failure) (known : Standing α)
      (journal : after.journal =
        ⟨.brought label (some failure), known⟩ :: (span ++ run.journal))
      (quiet : ∀ moment ∈ span, moment.Quiet)
      (waiting : run.standing.waiting = (label, entry) :: rest.entries)
      (started : after.standing.started = run.standing.started)
      (remaining : after.standing.remaining = some rest)
      (frozen : after.standing.expects = run.standing.expects)

section Keeping

variable {run after : Run W α}
  (started : after.standing.started = run.standing.started)
  (remaining : after.standing.remaining = run.standing.remaining)
  (expects : after.standing.expects = run.standing.expects)
include started remaining expects

/-- Nothing is written into the journal. -/
theorem Shift.silent (journal : after.journal = run.journal) : Shift run after :=
  .keeps [] journal (List.forall_mem_nil _) started remaining (fun _ => expects)
    fun apart => expects ▸ apart

/-- One quiet line is written into the journal. -/
theorem Shift.line {event : Event α} {known : Standing α}
    (journal : after.journal = ⟨event, known⟩ :: run.journal)
    (quiet : Moment.Quiet ⟨event, known⟩) : Shift run after :=
  .keeps [⟨event, known⟩] journal (by simpa using quiet) started remaining (fun _ => expects)
    fun apart => expects ▸ apart

end Keeping

variable {setting : Setting W α}

theorem Event.isQuiet_of_isMark {event : Event α} (isMark : event.isMark = true) :
    event.isQuiet = true := by
  cases event with
  | entryEnded | hookBegan | hookEnded | stepEnded | returned => rfl
  | _ => exact nomatch isMark

theorem Event.isQuiet_dispatched {command : Command α} (other : command ≠ .discard) :
    (Event.dispatched command).isQuiet = true := by
  cases command with
  | discard => exact absurd rfl other
  | _ => rfl

/-- Every move is a shift. -/
theorem Move.shift {run after : Run W α} (move : Move setting run after) :
    Shift run after := by
  cases move with
  | act | declare | aim => exact .silent rfl rfl rfl rfl
  | prepare templates inits expects initLabel fresh apart =>
      exact .keeps [] rfl (List.forall_mem_nil _) rfl rfl
        (fun started => Bool.noConfusion (fresh.symm.trans started)) apart
  | mark event isMark =>
      exact .line rfl rfl rfl rfl (.of_isQuiet _ (Event.isQuiet_of_isMark isMark))
  | step | answer | abort | write | wait | invoke | closePage | change =>
      exact .line rfl rfl rfl rfl (.of_isQuiet _ rfl)
  | dispatch command goesOn other =>
      exact .line rfl rfl rfl rfl (.of_isQuiet _ (Event.isQuiet_dispatched other))
  | refuse command failure ended =>
      refine .keeps [_, _] rfl ?_ rfl rfl (fun _ => rfl) id
      rw [List.forall_mem_cons, List.forall_mem_singleton]
      exact ⟨.of_isQuiet _ rfl, .of_refused command (by rw [ended]; rfl)⟩
  | discard goesOn => exact .forgets _ _ rfl goesOn rfl rfl rfl
  | failLaunch failure fresh failed =>
      refine .starts [_] _ rfl ?_ fresh rfl rfl rfl
      rw [List.forall_mem_singleton]
      exact .of_isQuiet _ rfl
  | failReset failure fresh opened failed =>
      refine .starts [_, _] _ rfl ?_ fresh rfl rfl rfl
      rw [List.forall_mem_cons, List.forall_mem_singleton]
      exact ⟨.of_isQuiet _ rfl, .of_isQuiet _ rfl⟩
  | start changed fresh opened written =>
      refine .starts [_] _ rfl ?_ fresh rfl rfl rfl
      rw [List.forall_mem_singleton]
      exact .of_isQuiet _ rfl
  | begin upto label entry rest due isOpen shown =>
      exact .begins [] label entry rest _ _ rfl (List.forall_mem_nil _)
        (Standing.waiting_of_due due) rfl rfl rfl
  | bring label entry rest due isOpen written =>
      have told := Run.bringing_journal (run.leaving rest) setting
        (congrArg Runner.failure? written)
      refine .begins [_, _] label entry rest _ _ (congrArg (List.cons _) told) ?_
        (Standing.waiting_of_due due) rfl rfl rfl
      rw [List.forall_mem_cons, List.forall_mem_singleton]
      exact ⟨.of_isQuiet _ rfl, .of_isQuiet _ rfl⟩
  | lose label entry rest failure due isOpen failed =>
      have told := Run.bringing_journal (run.leaving rest) setting
        (congrArg Runner.failure? failed)
      refine .loses [_] label entry rest failure _ told ?_ (Standing.waiting_of_due due) rfl rfl rfl
      rw [List.forall_mem_singleton]
      exact .of_isQuiet _ rfl

end HotReload
