import HotReload.Proofs.Shift
import HotReload.Proofs.Tables

/-!
# The order in which entries begin

However sub-procedures nest runs within runs, change backwards, flush, discard or
swallow failures, entries begin in strictly ascending order of their labels, and each of
them is the one that was declared for its label when the session started
(`begun_in_order`).

The invariant is about one list: the entries that have begun, followed by those that
wait (`Run.queue`). An entry that begins moves from the second part to the first, which
leaves the list as it is; all other moves can only take entries out. So the order that
the list has at the start of the session is never lost, at whatever depth the entry
begins.
-/

set_option autoImplicit false

namespace HotReload

variable {W α : Type}

/-! ## What the journal tells -/

/-- The entry that begins with an event. -/
def Event.begins? : Event α → Option (Label × Entry α)
  | .entryBegan label entry _ => some (label, entry)
  | _ => none

/-- Whether the session starts with an event. -/
def Event.isStart : Event α → Bool
  | .called .launch _ => true
  | _ => false

/-- The entries that have begun, in the order in which they began. -/
def begunEntries (journal : List (Moment α)) : List (Label × Entry α) :=
  (journal.filterMap fun moment => moment.event.begins?).reverse

/-- What was known at each start of the session. -/
def knownAtStarts (journal : List (Moment α)) : List (Standing α) :=
  (journal.filter fun moment => moment.event.isStart).map Moment.standing

theorem begunEntries_append (newer older : List (Moment α)) :
    begunEntries (newer ++ older) = begunEntries older ++ begunEntries newer := by
  simp [begunEntries]

theorem begunEntries_cons (newest : Moment α) (older : List (Moment α)) :
    begunEntries (newest :: older) = begunEntries older ++ newest.event.begins?.toList := by
  rw [begunEntries, begunEntries, List.filterMap_cons]
  cases newest.event.begins? <;> simp

/-- Lines in which no entry begins tell of none. -/
theorem begunEntries_eq_nil {lines : List (Moment α)}
    (none : ∀ line ∈ lines, line.event.begins? = none) : begunEntries lines = [] := by
  rw [begunEntries, List.reverse_eq_nil_iff, List.filterMap_eq_nil_iff]
  exact none

theorem knownAtStarts_append (newer older : List (Moment α)) :
    knownAtStarts (newer ++ older) = knownAtStarts newer ++ knownAtStarts older := by
  simp [knownAtStarts]

theorem knownAtStarts_cons {newest : Moment α} (other : newest.event.isStart = false)
    (older : List (Moment α)) : knownAtStarts (newest :: older) = knownAtStarts older := by
  simp [knownAtStarts, other]

theorem Moment.Quiet.begins?_eq_none {moment : Moment α} (quiet : moment.Quiet) :
    moment.event.begins? = none := by
  cases told : moment.event with
  | entryBegan label entry flushing => exact absurd ⟨flushing, told⟩ (quiet.begins label entry)
  | _ => rfl

theorem Moment.Quiet.isStart_eq_false {moment : Moment α} (quiet : moment.Quiet) :
    moment.event.isStart = false := by
  cases told : moment.event with
  | called call failure =>
      cases call with
      | launch => exact absurd ⟨failure, told⟩ quiet.starts
      | _ => rfl
  | _ => rfl

section Quiet

variable {span : List (Moment α)} (quiet : ∀ moment ∈ span, moment.Quiet)
  (older : List (Moment α))
include quiet

/-- Quiet lines tell of no entry that begins. -/
theorem begunEntries_quiet_append : begunEntries (span ++ older) = begunEntries older := by
  have none : begunEntries span = [] :=
    begunEntries_eq_nil fun moment mem => (quiet moment mem).begins?_eq_none
  rw [begunEntries_append, none, List.append_nil]

/-- Quiet lines tell of no session that starts. -/
theorem knownAtStarts_quiet_append : knownAtStarts (span ++ older) = knownAtStarts older := by
  have none : knownAtStarts span = [] := by
    rw [knownAtStarts, List.map_eq_nil_iff, List.filter_eq_nil_iff]
    intro moment mem started
    rw [(quiet moment mem).isStart_eq_false] at started
    exact Bool.false_ne_true started
  rw [knownAtStarts_append, none, List.nil_append]

end Quiet

/-! ## The invariant -/

/-- The entries that have begun, followed by those that wait. -/
def Run.queue (run : Run W α) : List (Label × Entry α) :=
  begunEntries run.journal ++ run.standing.waiting

/-- An entry is in front of another one. -/
def InFront (first second : Label × Entry α) : Prop :=
  first.1.before second.1 = true

theorem InFront.ne {first second : Label × Entry α} (inFront : InFront first second) :
    first.1 ≠ second.1 := by
  intro same
  have less : compare first.1 second.1 = .lt := beq_iff_eq.1 inFront
  rw [same, Std.ReflOrd.compare_self] at less
  exact nomatch less

/-- The entries of a run begin in order: those that have begun and those that wait are in
ascending order of labels, and were declared when the session started, each label once. -/
structure Run.InOrder (run : Run W α) : Prop where
  ascending : run.queue.Pairwise InFront
  apart : (run.standing.expects.map Prod.fst).Nodup
  fresh : run.standing.started = false → knownAtStarts run.journal = [] ∧ run.queue = []
  declared : run.standing.started = true → ∃ known, knownAtStarts run.journal = [known] ∧
    (known.expects.map Prod.fst).Nodup ∧ ∀ entry ∈ run.queue, entry ∈ known.expects

/-- No entry has begun before a run. -/
theorem Run.inOrder_initial (world : W) : ({ world } : Run W α).InOrder where
  ascending := List.Pairwise.nil
  apart := List.nodup_nil
  fresh _ := ⟨rfl, rfl⟩
  declared started := nomatch started

/-- The entries of a table are in ascending order. -/
theorem inFront_table (table : Table Label (Entry α)) : table.entries.Pairwise InFront :=
  table.ascending.imp beq_iff_eq.2

theorem Standing.waiting_inFront (known : Standing α) : known.waiting.Pairwise InFront := by
  unfold waiting
  cases known.remaining with
  | none => exact List.Pairwise.nil
  | some table => exact inFront_table table

/-- The first waiting entry is in front of the others. -/
theorem Standing.first_inFront {known : Standing α} {first : Label × Entry α}
    {rest : List (Label × Entry α)} (waiting : known.waiting = first :: rest) :
    ∀ other ∈ rest, InFront first other := by
  have inFront := known.waiting_inFront
  rw [waiting, List.pairwise_cons] at inFront
  exact inFront.1

/-- The entries behind the first one have other labels. -/
theorem Standing.ne_first_of_mem {known : Standing α} {first : Label × Entry α}
    {rest : List (Label × Entry α)} (waiting : known.waiting = first :: rest) :
    ∀ other ∈ rest, other.1 ≠ first.1 :=
  fun other mem => (Standing.first_inFront waiting other mem).ne.symm

/-- Order is kept when entries are only taken out and no session starts. -/
theorem Run.InOrder.of_sublist {run after : Run W α} (inOrder : run.InOrder)
    (queue : after.queue.Sublist run.queue)
    (started : after.standing.started = run.standing.started)
    (starts : knownAtStarts after.journal = knownAtStarts run.journal)
    (apart : (after.standing.expects.map Prod.fst).Nodup) : after.InOrder where
  ascending := inOrder.ascending.sublist queue
  apart := apart
  fresh notStarted := by
    obtain ⟨none, empty⟩ := inOrder.fresh (started ▸ notStarted)
    rw [starts]
    refine ⟨none, List.sublist_nil.1 ?_⟩
    rw [← empty]
    exact queue
  declared hasStarted := by
    obtain ⟨known, once, labels, mem⟩ := inOrder.declared (started ▸ hasStarted)
    rw [starts]
    exact ⟨known, once, labels, fun entry listed => mem entry (queue.subset listed)⟩

/-- Every shift keeps the order. -/
theorem Shift.inOrder {run after : Run W α} (shift : Shift run after) (inOrder : run.InOrder) :
    after.InOrder := by
  cases shift with
  | keeps span journal quiet started remaining frozen apart =>
      have begun : begunEntries after.journal = begunEntries run.journal := by
        rw [journal, begunEntries_quiet_append quiet]
      refine inOrder.of_sublist ?_ started ?_ (apart inOrder.apart)
      · rw [Run.queue, Run.queue, begun, Standing.waiting, Standing.waiting, remaining]
      · rw [journal, knownAtStarts_quiet_append quiet]
  | starts span failure journal quiet fresh started remaining frozen =>
      obtain ⟨none, empty⟩ := inOrder.fresh fresh
      have noneBegun : begunEntries run.journal = [] := (List.append_eq_nil_iff.1 empty).1
      have begun : begunEntries after.journal = [] := by
        rw [journal, begunEntries_quiet_append quiet, begunEntries_cons, noneBegun]
        rfl
      have queue : after.queue = (Table.ofList run.standing.expects).entries := by
        rw [Run.queue, begun, Standing.waiting, remaining]
        rfl
      have starts : knownAtStarts after.journal = [run.standing.begun] := by
        rw [journal, knownAtStarts_quiet_append quiet]
        exact congrArg (List.cons _) none
      refine ⟨?_, frozen ▸ inOrder.apart, fun notStarted => ?_, fun _ => ?_⟩
      · rw [queue]
        exact inFront_table _
      · exact Bool.noConfusion (notStarted.symm.trans started)
      · refine ⟨run.standing.begun, starts, inOrder.apart, fun entry listed => ?_⟩
        rw [queue] at listed
        exact Table.mem_of_mem_ofList listed
  | forgets reply known journal goesOn started remaining expects =>
      have begun : begunEntries after.journal = begunEntries run.journal := by
        rw [journal, begunEntries_cons, begunEntries_cons]
        simp [Event.begins?]
      have nothing : after.standing.waiting = [] := by
        rw [Standing.waiting, remaining]
        cases run.standing.remaining <;> rfl
      refine inOrder.of_sublist ?_ started ?_ (expects ▸ List.nodup_nil)
      · rw [Run.queue, begun, nothing, List.append_nil]
        exact List.sublist_append_left _ _
      · rw [journal]
        rfl
  | begins span label entry rest flushing known journal quiet waiting started remaining frozen =>
      -- the entry only moves from those that wait to those that have begun
      have begun : begunEntries after.journal = begunEntries run.journal ++ [(label, entry)] := by
        rw [journal, begunEntries_cons, begunEntries_quiet_append quiet]
        rfl
      have same : after.queue = run.queue := by
        rw [Run.queue, Run.queue, begun, waiting, Standing.waiting, remaining, List.append_assoc]
        rfl
      refine inOrder.of_sublist (same ▸ List.Sublist.refl _) started ?_ (frozen ▸ inOrder.apart)
      rw [journal, knownAtStarts_cons rfl, knownAtStarts_quiet_append quiet]
  | loses span label entry rest failure known journal quiet waiting started remaining frozen =>
      have begun : begunEntries after.journal = begunEntries run.journal := by
        rw [journal, begunEntries_cons, begunEntries_quiet_append quiet]
        exact List.append_nil _
      refine inOrder.of_sublist ?_ started ?_ (frozen ▸ inOrder.apart)
      · rw [Run.queue, Run.queue, begun, waiting, Standing.waiting, remaining]
        exact (List.sublist_cons_self _ _).append_left _
      · rw [journal, knownAtStarts_cons rfl, knownAtStarts_quiet_append quiet]

variable {setting : Setting W α}

/-- Every sequence of moves keeps the order. -/
theorem Moves.inOrder {run after : Run W α} (moves : Moves setting run after)
    (inOrder : run.InOrder) : after.InOrder := by
  induction moves with
  | refl => exact inOrder
  | tail _ move ih => exact move.shift.inOrder ih

/-! ## The order of a whole run -/

/-- An entry that stands in a list with different labels is the one found for its label. -/
theorem find?_of_mem_nodup {expects : List (Label × Entry α)} {entry : Label × Entry α}
    (apart : (expects.map Prod.fst).Nodup) (mem : entry ∈ expects) :
    (expects.find? fun expect => expect.1 == entry.1) = some entry := by
  have there : (expects.find? fun expect => expect.1 == entry.1).isSome := by
    rw [List.find?_isSome]
    exact ⟨entry, mem, beq_self_eq_true _⟩
  obtain ⟨found, isFound⟩ := Option.isSome_iff_exists.1 there
  have label := List.find?_some isFound
  have same : found = entry :=
    List.inj_on_of_nodup_map apart (List.mem_of_find?_eq_some isFound) mem (beq_iff_eq.1 label)
  rw [isFound, same]

/-- **Entries begin in strictly ascending order of their labels, and each is the one
declared for its label when the session started.** The session starts at most once; while
it has not started, no entry has begun. This holds of every test, whatever its
sub-procedures, its functions and the test bed do, and however the run ends. -/
theorem begun_in_order (setting : Setting W α) (procedure : Procedure W α) (world : W) :
    let journal := ((Runner.driveToEnd setting procedure).runOn { world }).2.journal
    ((begunEntries journal).Pairwise fun first second => first.1.before second.1 = true) ∧
      (begunEntries journal = [] ∨ ∃ known, knownAtStarts journal = [known] ∧
        ∀ begun ∈ begunEntries journal,
          (known.expects.find? fun expect => expect.1 == begun.1) = some begun) := by
  intro journal
  have moved : Moves setting { world } ((Runner.driveToEnd setting procedure).runOn { world }).2 :=
    Runner.moves_driveToEnd procedure fun started => nomatch started
  have inOrder := moved.inOrder (Run.inOrder_initial world)
  refine ⟨(List.pairwise_append.1 inOrder.ascending).1, ?_⟩
  cases hasStarted : ((Runner.driveToEnd setting procedure).runOn { world }).2.standing.started with
  | false => exact .inl (List.append_eq_nil_iff.1 (inOrder.fresh hasStarted).2).1
  | true =>
      obtain ⟨known, once, labels, declared⟩ := inOrder.declared hasStarted
      refine .inr ⟨known, once, fun begun listed => ?_⟩
      exact find?_of_mem_nodup labels (declared begun (List.mem_append_left _ listed))

end HotReload
