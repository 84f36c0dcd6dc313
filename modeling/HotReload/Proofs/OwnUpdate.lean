import HotReload.Proofs.EntryFate
import HotReload.Proofs.Preparation

/-!
# Which update a flushed entry runs against

A flush writes the files of an update before the entry of this update begins, unless the
runner takes the app to show the update already. The runner goes by the update to which it has
last brought the app. More may have been sent to the build server since then, and files may
have been declared anew, so the entry can begin while the app shows something else
(`flushed_against_other_text`).

What holds is `flushed_against`: if the flush has written, the last change sent for every
declared file is the one of the update. Otherwise the update has been written at some line
since which the runner has taken the app to show it, and the same holds if and only if no
declared file has been diverted since that line (`Diverted`).

An entry that waits while the app shows its update has been overtaken: it waits behind an
entry that a change runs first. The entry of the update that the app starts with never waits,
because it has begun when the session is entered (`Run.Tracked.left`).
-/

set_option autoImplicit false

namespace HotReload

variable {W α : Type}

/-! ## What has been sent -/

/-- The change that was sent to the build server for a file, whether or not the call has
failed. Files that a reset does not name are removed. -/
def Event.sent? (path : String) : Event α → Option FileChange
  | .called (.write changes) _ => changes.find? path
  | .called (.reset files) _ =>
    some (match files.find? path with
      | some text => .write text
      | none => .remove)
  | _ => none

/-- The change that was last sent for a file. -/
def lastSent? (path : String) (journal : List (Moment α)) : Option FileChange :=
  journal.findSome? fun line => line.event.sent? path

/-- The change that was last sent for any declared file is the one of an update. -/
def ShowsUpdate (label : Label) (known : Standing α) (journal : List (Moment α)) : Prop :=
  ∀ path change, (known.changesFor label).find? path = some change →
    lastSent? path journal = some change

/-- The line of a call that has written the files of an update. -/
def Moment.Reaches (line : Moment α) (label : Label) : Prop :=
  line.event = .called (.write (line.standing.changesFor label)) none

/-- The line of a moment at which the app is taken to show an update. -/
def Moment.At (line : Moment α) (label : Label) : Prop :=
  line.standing.cursor = some label ∨ line.event = .brought label none

/-- How another change than that of an update can be the last one for a declared file, though
the files of the update have been written: since then something else was sent, or nothing was
sent and the file was declared otherwise at that time, or not at all. -/
inductive Diverted (label : Label) (since : List (Moment α)) (arrival : Standing α)
    (older : List (Moment α)) (known : Standing α) (path : String) : Prop
  | overwritten (change sent : FileChange)
      (own : (known.changesFor label).find? path = some change)
      (last : lastSent? path since = some sent) (other : sent ≠ change)
  | redeclared (change former : FileChange)
      (own : (known.changesFor label).find? path = some change)
      (unsent : lastSent? path since = none)
      (was : (arrival.changesFor label).find? path = some former) (other : former ≠ change)
  | added (change : FileChange) (own : (known.changesFor label).find? path = some change)
      (unsent : lastSent? path since = none)
      (undeclared : (arrival.changesFor label).find? path = none)
      (other : lastSent? path older ≠ some change)

/-- What was last sent before a flush lets the entry of an update begin. -/
inductive FlushedAgainst (label : Label) (known : Standing α) (before : List (Moment α)) : Prop
  /-- The flush has written the files of the update. -/
  | written (brought wrote : Moment α) (older : List (Moment α))
      (split : before = brought :: wrote :: older)
      (isBrought : brought.event = .brought label none)
      (wrotes : wrote.event = .called (.write (known.changesFor label)) none)
      (shows : ShowsUpdate label known before)
  /-- The files of the update were written before, and the app has been taken to show it since
  then. -/
  | shown (since : List (Moment α)) (arrival : Moment α) (older : List (Moment α))
      (split : before = since ++ arrival :: older) (reaches : arrival.Reaches label)
      (stays : ∀ line ∈ since, line.At label)
      (shows_iff : ShowsUpdate label known before ↔
        ∀ path, ¬Diverted label since arrival.standing older known path)

theorem lastSent?_append (path : String) (newer older : List (Moment α)) :
    lastSent? path (newer ++ older) = (lastSent? path newer).or (lastSent? path older) :=
  List.findSome?_append

theorem lastSent?_cons (path : String) (newest : Moment α) (older : List (Moment α)) :
    lastSent? path (newest :: older) = (newest.event.sent? path).or (lastSent? path older) := by
  rw [lastSent?, List.findSome?_cons]
  cases newest.event.sent? path <;> rfl

theorem Moment.Reaches.sent? {line : Moment α} {label : Label} (reaches : line.Reaches label)
    (path : String) : line.event.sent? path = (line.standing.changesFor label).find? path := by
  rw [reaches]
  rfl

/-- After the files of an update have been written, the update is shown unless a declared file
is diverted. -/
theorem showsUpdate_iff {label : Label} {since older : List (Moment α)} {arrival : Moment α}
    (reaches : arrival.Reaches label) (known : Standing α) :
    ShowsUpdate label known (since ++ arrival :: older) ↔
      ∀ path, ¬Diverted label since arrival.standing older known path := by
  have last : ∀ path, lastSent? path (since ++ arrival :: older) =
      (lastSent? path since).or (((arrival.standing.changesFor label).find? path).or
        (lastSent? path older)) := by
    intro path
    rw [lastSent?_append, lastSent?_cons, reaches.sent?]
  constructor
  · intro shows path diverted
    cases diverted with
    | overwritten change sent own sentLast other =>
        have same := shows path change own
        rw [last, sentLast] at same
        exact other (Option.some.inj same)
    | redeclared change former own unsent was other =>
        have same := shows path change own
        rw [last, unsent, was] at same
        exact other (Option.some.inj same)
    | added change own unsent undeclared other =>
        have same := shows path change own
        rw [last, unsent, undeclared] at same
        exact other same
  · intro undiverted path change own
    by_contra other
    rw [last] at other
    refine undiverted path ?_
    cases sentLast : lastSent? path since with
    | some sent =>
        rw [sentLast] at other
        exact .overwritten change sent own sentLast fun same => other (congrArg some same)
    | none =>
        rw [sentLast] at other
        cases was : (arrival.standing.changesFor label).find? path with
        | some former =>
            rw [was] at other
            exact .redeclared change former own sentLast was
              fun same => other (congrArg some same)
        | none =>
            rw [was] at other
            exact .added change own sentLast was other

/-! ## Where the update was written -/

/-- The files of an update have been written, and the app has been taken to show it since. -/
def Arrived (label : Label) (journal : List (Moment α)) : Prop :=
  ∃ since arrival older, journal = since ++ arrival :: older ∧ arrival.Reaches label ∧
    ∀ line ∈ since, line.At label

theorem Arrived.append {label : Label} {journal : List (Moment α)}
    (arrived : Arrived label journal) {lines : List (Moment α)}
    (stays : ∀ line ∈ lines, line.At label) : Arrived label (lines ++ journal) := by
  obtain ⟨since, arrival, older, rfl, reaches, stayed⟩ := arrived
  refine ⟨lines ++ since, arrival, older, (List.append_assoc _ _ _).symm, reaches, ?_⟩
  exact List.forall_mem_append.2 ⟨stays, stayed⟩

/-- How a flush approaches an update: it writes the files, or the app has arrived before. -/
inductive Approached (label : Label) (known : Standing α) (before : List (Moment α)) : Prop
  | written (earlier : Standing α) (older : List (Moment α)) (specs : earlier.specs = known.specs)
      (split : before = ⟨.brought label none, earlier⟩ ::
        ⟨.called (.write (earlier.changesFor label)) none, earlier⟩ :: older)
  | shown (arrived : Arrived label before)

theorem Approached.flushedAgainst {label : Label} {known : Standing α}
    {before : List (Moment α)} (approached : Approached label known before) :
    FlushedAgainst label known before := by
  cases approached with
  | written earlier older specs split =>
      have same : earlier.changesFor label = known.changesFor label := by
        rw [Standing.changesFor, Standing.changesFor, specs]
      rw [same] at split
      refine .written _ _ older split rfl rfl fun path change own => ?_
      rw [split, lastSent?_cons, lastSent?_cons]
      show (none.or (((known.changesFor label).find? path).or _)) = _
      rw [own]
      rfl
  | shown arrived =>
      obtain ⟨since, arrival, older, rfl, reaches, stays⟩ := arrived
      exact .shown since arrival older rfl reaches stays (showsUpdate_iff reaches known)

/-- Whether an event is an entry that a flush lets begin. -/
def Event.isFlushed : Event α → Bool
  | .entryBegan _ _ flushing => flushing
  | _ => false

/-- Journals in which every entry that a flush has let begin, while files were declared, was
approached before. -/
def Grounded : List (Moment α) → Prop
  | [] => True
  | newest :: older =>
    (∀ label entry, newest.event = .entryBegan label entry true →
      newest.standing.specs.isEmpty = false → Approached label newest.standing older) ∧
    Grounded older

theorem Grounded.cons {newest : Moment α} {older : List (Moment α)}
    (unflushed : newest.event.isFlushed = false) (grounded : Grounded older) :
    Grounded (newest :: older) := by
  refine ⟨fun label entry began => ?_, grounded⟩
  rw [began] at unflushed
  exact nomatch unflushed

theorem Grounded.append {lines older : List (Moment α)} (grounded : Grounded older)
    (unflushed : ∀ line ∈ lines, line.event.isFlushed = false) : Grounded (lines ++ older) := by
  induction lines with
  | nil => exact grounded
  | cons newest lines ih =>
      rw [List.forall_mem_cons] at unflushed
      exact .cons unflushed.1 (ih unflushed.2)

theorem Grounded.approached {later before : List (Moment α)} {label : Label} {entry : Entry α}
    {known : Standing α}
    (grounded : Grounded (later ++ ⟨.entryBegan label entry true, known⟩ :: before))
    (declared : known.specs.isEmpty = false) : Approached label known before := by
  induction later with
  | nil => exact grounded.1 label entry rfl declared
  | cons newest later ih => exact ih grounded.2

theorem Event.isFlushed_of_isTalk {event : Event α} (isTalk : event.isTalk = true) :
    event.isFlushed = false := by
  cases event with
  | entryBegan => exact nomatch isTalk
  | _ => rfl

theorem grounded_talk {lines : List (Moment α)} (talk : ∀ line ∈ lines, line.event.isTalk = true) :
    Grounded lines := by
  have grounded : Grounded (lines ++ []) :=
    Grounded.append trivial fun line mem => Event.isFlushed_of_isTalk (talk line mem)
  rwa [List.append_nil] at grounded

/-! ## What moves do to the update that is shown -/

/-- What a move does to the update that the app is taken to show, and whether it is a flush
that lets an entry begin. -/
inductive Turn (run after : Run W α) : Prop
  /-- The update stays, and no flush lets an entry begin. -/
  | stays (lines : List (Moment α)) (journal : after.journal = lines ++ run.journal)
      (cursor : after.standing.cursor = run.standing.cursor)
      (steady : ∀ line ∈ lines, line.standing.cursor = run.standing.cursor)
      (unflushed : ∀ line ∈ lines, line.event.isFlushed = false)
  /-- The app is taken to show the update it starts with. -/
  | aims (label : Label) (journal : after.journal = run.journal)
      (initial : run.standing.initLabel = some label)
      (cursor : after.standing.cursor = some label)
  /-- A change brings the app to an update. -/
  | arrives (label : Label)
      (journal : after.journal =
        ⟨.called (.write (run.standing.changesFor label)) none, run.standing⟩ :: run.journal)
      (cursor : after.standing.cursor = some label)
  /-- A flush lets an entry begin, and writes nothing. -/
  | begins (label : Label) (entry : Entry α) (rest : Table Label (Entry α))
      (waiting : run.standing.waiting = (label, entry) :: rest.entries)
      (shown : run.standing.cursor = some label ∨ run.standing.specs.isEmpty = true)
      (journal : after.journal =
        ⟨.entryBegan label entry true, { run.standing with remaining := some rest }⟩ ::
          run.journal)
      (cursor : after.standing.cursor = run.standing.cursor)
  /-- A flush brings the app to an update, and its entry begins. -/
  | brings (label : Label) (entry : Entry α) (before brought : Standing α)
      (specs : before.specs = brought.specs) (there : brought.cursor = some label)
      (journal : after.journal =
        ⟨.entryBegan label entry true, brought⟩ :: ⟨.brought label none, before⟩ ::
          ⟨.called (.write (before.changesFor label)) none, before⟩ :: run.journal)
      (cursor : after.standing.cursor = some label)

section Staying

variable {run after : Run W α} (cursor : after.standing.cursor = run.standing.cursor)
include cursor

/-- Nothing is written into the journal. -/
theorem Turn.silent (journal : after.journal = run.journal) : Turn run after :=
  .stays [] journal cursor (List.forall_mem_nil _) (List.forall_mem_nil _)

/-- One line is written into the journal. -/
theorem Turn.line {event : Event α} {known : Standing α}
    (journal : after.journal = ⟨event, known⟩ :: run.journal)
    (steady : known.cursor = run.standing.cursor) (unflushed : event.isFlushed = false) :
    Turn run after :=
  .stays [_] journal cursor (List.forall_mem_singleton.2 steady)
    (List.forall_mem_singleton.2 unflushed)

/-- Two lines are written into the journal. -/
theorem Turn.lines {second first : Event α} {known old : Standing α}
    (journal : after.journal = ⟨second, known⟩ :: ⟨first, old⟩ :: run.journal)
    (steady : known.cursor = run.standing.cursor ∧ old.cursor = run.standing.cursor)
    (unflushed : second.isFlushed = false ∧ first.isFlushed = false) : Turn run after := by
  refine .stays [_, _] journal cursor ?_ ?_
  · exact List.forall_mem_cons.2 ⟨steady.1, List.forall_mem_singleton.2 steady.2⟩
  · exact List.forall_mem_cons.2 ⟨unflushed.1, List.forall_mem_singleton.2 unflushed.2⟩

end Staying

variable {setting : Setting W α}

/-- Every move is a turn. -/
theorem Move.turn {run after : Run W α} (move : Move setting run after) : Turn run after := by
  cases move with
  | act | declare | prepare => exact .silent rfl rfl
  | mark event isMark =>
      refine .line rfl rfl rfl ?_
      cases event with
      | entryBegan => exact nomatch isMark
      | _ => rfl
  | step | dispatch | answer | abort | write | wait | invoke | closePage =>
      exact .line rfl rfl rfl rfl
  | refuse | discard | failLaunch | start => exact .lines rfl rfl ⟨rfl, rfl⟩ ⟨rfl, rfl⟩
  | failReset failure fresh opened failed =>
      refine .stays [_, _, _] rfl rfl ?_ ?_
      · simp only [List.forall_mem_cons, List.not_mem_nil, false_implies, implies_true, and_true]
        exact ⟨rfl, rfl, rfl⟩
      · simp only [List.forall_mem_cons, List.not_mem_nil, false_implies, implies_true, and_true]
        exact ⟨rfl, rfl, rfl⟩
  | aim label initial => exact .aims label rfl initial rfl
  | change label isOpen written =>
      refine .arrives label ?_ rfl
      show (run.writing setting _).journal = _
      rw [Run.writing, Run.afterCall_journal, written]
      rfl
  | begin upto label entry rest due isOpen shown =>
      cases upto with
      | none => exact .begins label entry rest (Standing.waiting_of_due due) (shown rfl) rfl rfl
      | some bound => exact .line rfl rfl rfl rfl
  | bring label entry rest due isOpen written =>
      have told := Run.bringing_journal (run.leaving rest) setting
        (congrArg Runner.failure? written)
      exact .brings label entry (run.leaving rest).standing
        ((run.leaving rest).showing label).standing rfl rfl (congrArg (List.cons _) told) rfl
  | lose label entry rest failure due isOpen failed =>
      have told := Run.bringing_journal (run.leaving rest) setting
        (congrArg Runner.failure? failed)
      exact .lines rfl told ⟨rfl, rfl⟩ ⟨rfl, rfl⟩

/-- Once the session has started, the update it starts with stays the same. -/
theorem Move.initLabel {run after : Run W α} (move : Move setting run after)
    (started : run.standing.started = true) :
    after.standing.initLabel = run.standing.initLabel := by
  cases move with
  | prepare templates inits expects initLabel fresh =>
      exact Bool.noConfusion (fresh.symm.trans started)
  | _ => rfl

/-- What is known of a session: no entry waits under the update it has started with, and if
one waits under the update that is shown, the files of this update have been written. -/
structure Run.Tracked (run : Run W α) : Prop where
  started : run.standing.started = true
  left : ∀ label, run.standing.initLabel = some label → run.standing.Lacks label
  arrived : ∀ label, run.standing.cursor = some label →
    run.standing.Lacks label ∨ Arrived label run.journal
  grounded : Grounded run.journal

/-- Every turn in a session keeps track. -/
theorem Turn.tracked {run after : Run W α} (turn : Turn run after) (tracked : run.Tracked)
    (started : after.standing.started = true)
    (initLabel : after.standing.initLabel = run.standing.initLabel)
    (lacks : ∀ label, run.standing.Lacks label → after.standing.Lacks label) :
    after.Tracked := by
  have left : ∀ label, after.standing.initLabel = some label → after.standing.Lacks label :=
    fun label initial => lacks label (tracked.left label (initLabel ▸ initial))
  cases turn with
  | stays lines journal cursor steady unflushed =>
      refine ⟨started, left, fun label here => ?_, ?_⟩
      · rw [cursor] at here
        rw [journal]
        refine (tracked.arrived label here).imp (lacks label) fun arrived => ?_
        exact arrived.append fun line mem => .inl ((steady line mem).trans here)
      · rw [journal]
        exact tracked.grounded.append unflushed
  | aims label journal initial cursor =>
      refine ⟨started, left, fun other here => .inl ?_, journal ▸ tracked.grounded⟩
      obtain rfl := Option.some.inj (cursor.symm.trans here)
      exact lacks label (tracked.left label initial)
  | arrives label journal cursor =>
      refine ⟨started, left, fun other here => .inr ?_, ?_⟩
      · obtain rfl := Option.some.inj (cursor.symm.trans here)
        exact ⟨[], _, run.journal, journal, rfl, List.forall_mem_nil _⟩
      · rw [journal]
        exact .cons rfl tracked.grounded
  | begins label entry rest waiting shown journal cursor =>
      have waits : ¬run.standing.Lacks label := fun none =>
        none (label, entry) (waiting ▸ List.mem_cons_self) rfl
      refine ⟨started, left, fun other here => ?_, ?_⟩
      · rw [cursor] at here
        rw [journal]
        refine (tracked.arrived other here).imp (lacks other) fun arrived => ?_
        exact arrived.append (List.forall_mem_singleton.2 (.inl here))
      · rw [journal]
        refine ⟨fun other same began declared => ?_, tracked.grounded⟩
        obtain ⟨rfl, -, -⟩ := Event.entryBegan.inj began
        rcases shown with here | none
        · exact .shown ((tracked.arrived _ here).resolve_left waits)
        · exact nomatch none.symm.trans declared
  | brings label entry before brought specs there journal cursor =>
      refine ⟨started, left, fun other here => .inr ?_, ?_⟩
      · obtain rfl := Option.some.inj (cursor.symm.trans here)
        refine ⟨[_, _], _, run.journal, journal, rfl, ?_⟩
        exact List.forall_mem_cons.2 ⟨.inl there, List.forall_mem_singleton.2 (.inr rfl)⟩
      · rw [journal]
        refine ⟨fun other same began _ => ?_, ?_⟩
        · obtain ⟨rfl, -, -⟩ := Event.entryBegan.inj began
          exact .written before run.journal specs rfl
        · exact .cons rfl (.cons rfl tracked.grounded)

theorem Moves.tracked {run after : Run W α} (moves : Moves setting run after)
    (tracked : run.Tracked) : after.Tracked := by
  induction moves with
  | refl => exact tracked
  | tail _ move ih =>
      refine move.turn.tracked ih (move.shift.started ih.started) (move.initLabel ih.started) ?_
      intro label lacks
      obtain ⟨_, _, _, stillLacks⟩ := move.shift.lacks ih.started lacks
      exact stillLacks

/-! ## A whole run -/

/-- When nothing is due up to a label, no entry waits under it. -/
theorem Standing.lacks_of_due {known : Standing α} {label : Label}
    (nothing : known.due? (some label) = none) : known.Lacks label := by
  rintro other mem rfl
  obtain ⟨first, rest, waiting⟩ := List.exists_cons_of_ne_nil (List.ne_nil_of_mem mem)
  have reached : ∀ bound ∈ some other.1, first.1.atMost bound = true := by
    rintro bound ⟨⟩
    rw [waiting, List.mem_cons] at mem
    rcases mem with rfl | behind
    · exact Label.atMost_self _
    · exact Label.atMost_of_lt (beq_iff_eq.1 (Standing.first_inFront waiting other behind))
  obtain ⟨behind, -, due⟩ := Standing.exists_due waiting reached
  exact nomatch nothing.symm.trans due

/-- A session that has just been entered is tracked. -/
theorem Run.Starting.tracked {run begun : Run W α} (starting : run.Starting)
    (enters : run.Enters setting begun) : begun.Tracked := by
  have launched : Grounded (run.started setting).journal :=
    .cons rfl (.cons rfl (grounded_talk starting.talk))
  cases enters with
  | bare changed opened written initial =>
      refine ⟨rfl, fun label here => ?_, fun label here => ?_, launched⟩
      · exact nomatch initial.symm.trans here
      · exact nomatch starting.nowhere.symm.trans here
  | shows label changed opened written initial nothing =>
      have lacks : ((run.started setting).showing label).standing.Lacks label :=
        Standing.lacks_of_due nothing
      refine ⟨rfl, fun other here => ?_, fun other here => .inl ?_, launched⟩
      · obtain rfl := Option.some.inj (initial.symm.trans here)
        exact lacks
      · obtain rfl := Option.some.inj here
        exact lacks
  | begins label entry rest changed opened written initial due =>
      have lacks : ((((run.started setting).showing label).leaving rest).beginning label entry
          false).standing.Lacks label :=
        Standing.lacks_first (Standing.waiting_of_due due) rfl
      refine ⟨rfl, fun other here => ?_, fun other here => .inl ?_, ?_⟩
      · obtain rfl := Option.some.inj (initial.symm.trans here)
        exact lacks
      · obtain rfl := Option.some.inj here
        exact lacks
      · exact .cons rfl launched

theorem grounded_driveToEnd (setting : Setting W α) (procedure : Procedure W α) (world : W) :
    Grounded ((Runner.driveToEnd setting procedure).runOn { world }).2.journal := by
  rcases Runner.went_driveToEnd setting procedure world with
    preparing | ⟨start, starting, went⟩
  · exact grounded_talk preparing.talk
  · cases went with
    | nowhere begun fails talks =>
        obtain ⟨lines, journal, talk⟩ := talks
        rw [journal]
        have quiet := grounded_talk starting.talk
        refine Grounded.append ?_ fun line mem => Event.isFlushed_of_isTalk (talk line mem)
        cases fails with
        | unopened => exact .cons rfl (.cons rfl quiet)
        | unwritten => exact .cons rfl (.cons rfl (.cons rfl quiet))
        | late => exact .cons rfl (.cons rfl quiet)
    | on begun enters moves => exact (moves.tracked (starting.tracked enters)).grounded

/-- **What a flushed entry runs against.** When a flush lets the entry of a label begin while
files are declared, then either the flush has just written the files of this update, and for
every declared file the change last sent is the one of the update; or the files of the update
were written at some line since which the app has been taken to show it, and the same holds if
and only if no declared file has been diverted since that line. This holds of every test,
whatever its sub-procedures, its functions and the test bed do. -/
theorem flushed_against (setting : Setting W α) (procedure : Procedure W α) (world : W) :
    let journal := ((Runner.driveToEnd setting procedure).runOn { world }).2.journal
    ∀ (later : List (Moment α)) (label : Label) (entry : Entry α) (known : Standing α)
      (before : List (Moment α)),
      journal = later ++ ⟨.entryBegan label entry true, known⟩ :: before →
      known.specs.isEmpty = false →
      FlushedAgainst label known before := by
  intro journal later label entry known before split declared
  have grounded : Grounded journal := grounded_driveToEnd setting procedure world
  rw [split] at grounded
  exact (grounded.approached declared).flushedAgainst

/-- The setting of a test whose sub-procedure declares another text of a file and flushes. -/
def Setting.redeclaring : Setting Unit Unit where
  config := {}
  testBed := .still
  playbook := {
    procedure := fun _ =>
      .sendAll [.contents (Table.ofList [("App.html", .text "<p>new</p>")]), .flush]
    function := fun _ => .finish (.ok ()) }

/-- A test that changes the app to its second update, and flushes in between. -/
def overtakingTest : Procedure Unit Unit :=
  .sendAll [.contents (Table.ofList [("App.html", .labelled [(⟨"2"⟩, "<p>two</p>")])]),
    .expect [(⟨"1"⟩, .sub ()), (⟨"2"⟩, .call ())], .change (.label ⟨"2"⟩)]

/-- The second entry is flushed while the first one runs, and the app is taken to show its
update. -/
theorem flushed_overtaken :
    ∃ (later : List (Moment Unit)) (entry : Entry Unit) (known : Standing Unit)
      (before : List (Moment Unit)),
      ((Runner.driveToEnd .redeclaring overtakingTest).runOn { world := () }).2.journal =
        later ++ ⟨.entryBegan ⟨"2"⟩ entry true, known⟩ :: before ∧
      known.specs.isEmpty = false ∧ FlushedAgainst ⟨"2"⟩ known before := by
  refine ⟨[_, _, _, _, _, _, _, _], _, _, _, rfl, rfl, ?_⟩
  exact flushed_against .redeclaring overtakingTest () [_, _, _, _, _, _, _, _] _ _ _ _ rfl rfl

/-- A flushed entry can begin while the text that was last sent for a declared file is not the
one of its update. -/
theorem flushed_against_other_text :
    ∃ (later : List (Moment Unit)) (label : Label) (entry : Entry Unit) (known : Standing Unit)
      (before : List (Moment Unit)),
      ((Runner.driveToEnd .redeclaring overtakingTest).runOn { world := () }).2.journal =
        later ++ ⟨.entryBegan label entry true, known⟩ :: before ∧
      known.specs.isEmpty = false ∧ ¬ShowsUpdate label known before := by
  refine ⟨[_, _, _, _, _, _, _, _], ⟨"2"⟩, _, _, _, rfl, rfl, fun shows => ?_⟩
  have same := shows "App.html" (.write "<p>new</p>") rfl
  exact absurd same (by decide)

end HotReload
