import HotReload.Proofs.EntryFate
import HotReload.Proofs.Preparation

/-!
# The session starts once

Declarations never touch the app. It is opened if and only if a command needs it before the
run is aborted, or the procedure returns well and leaves entries to run, and then it is opened
once (`started_once`). Its first files are what the commands before have declared, and
nothing else is called before these files have been written.
-/

set_option autoImplicit false

namespace HotReload

variable {W α : Type} {setting : Setting W α}

/-- Whether a call opens the app. -/
def Call.isLaunch : Call → Bool
  | .launch => true
  | _ => false

/-- The files that a call writes in the place of all others. -/
def Call.files? : Call → Option (Table String String)
  | .reset files => some files
  | _ => none

/-- The calls of a run that has started the session with some files: the app is opened, then
these files are written, and then there may be others. -/
inductive Opening (files : Table String String) : List (Call × Option Failure) → Prop
  | unopened (failure : Failure) : Opening files [(.launch, some failure)]
  | unwritten (failure : Failure) :
      Opening files [(.launch, none), (.reset files, some failure)]
  | written (later : List (Call × Option Failure))
      (running : ∀ made ∈ later, made.1.isRunning = true) :
      Opening files ((.launch, none) :: (.reset files, none) :: later)

theorem Call.isLaunch_of_isRunning {call : Call} (isRunning : call.isRunning = true) :
    call.isLaunch = false := by
  cases call with
  | launch => exact nomatch isRunning
  | _ => rfl

/-- A session that is started is opened once. -/
theorem Opening.countP_isLaunch {files : Table String String}
    {calls : List (Call × Option Failure)} (opening : Opening files calls) :
    calls.countP (fun made => made.1.isLaunch) = 1 := by
  cases opening with
  | unopened | unwritten => rfl
  | written later running =>
      have none : later.countP (fun made => made.1.isLaunch) = 0 := by
        rw [List.countP_eq_zero]
        intro made mem
        rw [Call.isLaunch_of_isRunning (running made mem)]
        exact Bool.false_ne_true
      rw [List.countP_cons, List.countP_cons, none]
      rfl

theorem Opening.launches {files : Table String String} {calls : List (Call × Option Failure)}
    (opening : Opening files calls) : ∃ made ∈ calls, made.1 = .launch := by
  cases opening with
  | unopened | unwritten | written => exact ⟨_, .head _, rfl⟩

namespace Run

variable {run : Run W α}

theorem Starting.calls (starting : run.Starting) : madeCalls run.journal = [] :=
  madeCalls_talk starting.talk

/-- A session that does not come about has been tried to start with the declared files. -/
theorem Starting.fails (starting : run.Starting) {begun : Run W α}
    (fails : run.Fails setting begun) :
    (∃ newer failure, begun.journal =
      newer ++ ⟨.called .launch failure, run.standing.begun⟩ :: run.journal) ∧
    Opening run.standing.inits (madeCalls begun.journal) := by
  have none := starting.calls
  cases fails with
  | unopened failure failed =>
      refine ⟨⟨[_], _, rfl⟩, ?_⟩
      rw [aborting_journal, madeCalls_other rfl, madeCalls_launched none, failed]
      exact .unopened failure
  | unwritten failure opened failed =>
      refine ⟨⟨[_, _], _, rfl⟩, ?_⟩
      rw [aborting_journal, madeCalls_other rfl, madeCalls_resetting none opened, failed]
      exact .unwritten failure
  | late label changed opened written =>
      refine ⟨⟨[_], _, rfl⟩, ?_⟩
      rw [started, knowing_journal, madeCalls_resetting none opened, written]
      exact .written [] (List.forall_mem_nil _)

/-- A session that is entered has been opened, and the declared files have been written. -/
theorem Starting.enters (starting : run.Starting) {begun : Run W α}
    (enters : run.Enters setting begun) :
    (∃ newer failure, begun.journal =
      newer ++ ⟨.called .launch failure, run.standing.begun⟩ :: run.journal) ∧
    madeCalls begun.journal = [(.launch, none), (.reset run.standing.inits, none)] := by
  have none := starting.calls
  have calls : ∀ changed, (setting.testBed.launch.runOn run.world).1 = .ok () →
      ((setting.testBed.reset run.standing.inits).runOn (run.launched setting).world).1 =
        .ok changed →
      madeCalls (run.started setting).journal =
        [(.launch, .none), (.reset run.standing.inits, .none)] := by
    intro changed opened written
    rw [started, knowing_journal, madeCalls_resetting none opened, written]
    rfl
  cases enters with
  | bare changed opened written => exact ⟨⟨[_], _, rfl⟩, calls changed opened written⟩
  | shows label changed opened written => exact ⟨⟨[_], _, rfl⟩, calls changed opened written⟩
  | begins label entry rest changed opened written =>
      exact ⟨⟨[_, _], _, rfl⟩, (madeCalls_other rfl _ _).trans (calls changed opened written)⟩

/-- When a session has been started with some files, its calls are those of an opening, and the
app was opened directly behind what the start found. -/
theorem Starting.went (starting : run.Starting) {ended : Run W α} (custody : Custody ended)
    (went : run.Went setting ended) :
    (∃ later failure, ended.journal =
      later ++ ⟨.called .launch failure, run.standing.begun⟩ :: run.journal) ∧
    Opening run.standing.inits (madeCalls ended.journal) := by
  cases went with
  | nowhere begun fails talks =>
      obtain ⟨lines, same, talk⟩ := talks
      obtain ⟨⟨newer, failure, split⟩, opening⟩ := starting.fails fails
      rw [same, madeCalls_append, madeCalls_talk talk, List.append_nil]
      refine ⟨⟨lines ++ newer, failure, ?_⟩, opening⟩
      rw [split, List.append_assoc]
  | on begun enters moves =>
      obtain ⟨lines, same⟩ := moves.journal
      obtain ⟨⟨newer, failure, split⟩, made⟩ := starting.enters enters
      have calls : madeCalls ended.journal =
          (.launch, none) :: (.reset run.standing.inits, none) :: madeCalls lines := by
        rw [same, madeCalls_append, made]
        rfl
      refine ⟨⟨lines ++ newer, failure, ?_⟩, ?_⟩
      · rw [same, split, List.append_assoc]
      · -- of all that custody knows, only an open session has made these calls
        cases custody with
        | idle fresh closed none => exact nomatch calls.symm.trans none
        | unopened failure started closed one => exact nomatch calls.symm.trans one
        | leaked files failure started closed two => exact nomatch calls.symm.trans two
        | held files later started isOpen others running =>
            obtain ⟨-, rest⟩ := List.cons.inj (calls.symm.trans others)
            rw [calls, (List.cons.inj rest).2]
            exact .written later running

end Run

/-- **The session starts once, when it is needed, and with its files.** The app is opened at most
once. It is opened if and only if a command that needs it reaches a runner that has not been
aborted, or the procedure returns well, nothing has aborted the run and entries are declared.
Otherwise nothing is called at all. The first call to the opened app writes exactly the files
that the commands up to then have declared, and nothing else is called before they have been
written. This holds of every test, whatever its sub-procedures, its functions and the test bed
do. -/
theorem started_once (setting : Setting W α) (procedure : Procedure W α) (world : W) :
    let journal := ((Runner.driveToEnd setting procedure).runOn { world }).2.journal
    let calls := madeCalls journal
    calls.countP (fun made => made.1.isLaunch) ≤ 1 ∧
    ((∃ made ∈ calls, made.1 = .launch) ↔ Needed journal) ∧
    (¬Needed journal → calls = []) ∧
    (Needed journal →
      ∃ (later : List (Moment α)) (failure : Option Failure) (known : Standing α)
        (before : List (Moment α)) (files : Table String String),
        journal = later ++ ⟨.called .launch failure, known⟩ :: before ∧
        madeCalls before = [] ∧
        (∀ path, files.find? path = initText? path before) ∧
        Opening files calls) := by
  intro journal calls
  rcases Runner.went_driveToEnd setting procedure world with preparing | ⟨start, starting, went⟩
  · have none : calls = [] := madeCalls_talk preparing.talk
    rw [none]
    exact ⟨Nat.zero_le _, by simpa using preparing.unneeded, fun _ => rfl,
      fun needed => absurd needed preparing.unneeded⟩
  · obtain ⟨⟨later, failure, split⟩, opening⟩ :=
      starting.went (custody_driveToEnd setting procedure world) went
    -- the line of the launch stands directly before the line that needs the app
    have needed : Needed journal := by
      have whole : journal = _ := split
      rw [whole, ← List.singleton_append, ← List.append_assoc]
      exact starting.needed.append _
    exact ⟨Nat.le_of_eq opening.countP_isLaunch, ⟨fun _ => needed, fun _ => opening.launches⟩,
      fun unneeded => absurd needed unneeded,
      fun _ => ⟨later, failure, _, _, _, split, starting.calls, starting.files.inits, opening⟩⟩

/-- A test that declares its first files in every way, and then waits. -/
def declaringFiles : Procedure Unit Unit :=
  .sendAll [
    .templates (Table.ofList [("greeting", .render fun name => "Hello, " ++ name.getD "you")]),
    .contents (Table.ofList [
      ("own", .labelled [(.universal, "any"), (⟨"1"⟩, "one")]),
      ("shared", .labelled [(.universal, "any"), (⟨"2"⟩, "two")]),
      ("removed", .text "any"),
      ("later", .labelled [(⟨"2"⟩, "two")])]),
    .init (.files (Table.ofList [("forgotten", .text "forgotten")])),
    .init (.label ⟨"1"⟩),
    .init (.files (Table.ofList [
      ("greeting", .text "Ada"),
      ("plain", .text "plain"),
      ("made", .template (.render fun more => "made" ++ more.getD "")),
      ("remade", .template (.render fun more => "made" ++ more.getD "")),
      ("removed", .remove)])),
    .init (.files (Table.ofList [("remade", .text " again")])),
    .wait "changes"]

/-- Each of the first files has the text that the newest declaration gives it. -/
theorem started_once_declaringFiles :
    let journal :=
      ((Runner.driveToEnd (.plain .still) declaringFiles).runOn { world := () }).2.journal
    Needed journal ∧
    ∃ (later : List (Moment Unit)) (failure : Option Failure) (known : Standing Unit)
      (before : List (Moment Unit)) (files : Table String String),
      journal = later ++ ⟨.called .launch failure, known⟩ :: before ∧
      (∀ path, files.find? path = initText? path before) ∧
      Opening files (madeCalls journal) ∧
      files.entries = [("greeting", "Hello, Ada"), ("made", "made"), ("own", "one"),
        ("plain", "plain"), ("remade", "made again"), ("shared", "any")] := by
  intro journal
  have written : ((madeCalls journal).findSome? fun made => made.1.files?.map Table.entries) =
      some [("greeting", "Hello, Ada"), ("made", "made"), ("own", "one"), ("plain", "plain"),
        ("remade", "made again"), ("shared", "any")] := by
    decide +kernel
  obtain ⟨-, -, nothing, opens⟩ := started_once (.plain .still) declaringFiles ()
  have needed : Needed journal := by
    by_contra unneeded
    rw [nothing unneeded] at written
    exact nomatch written
  obtain ⟨later, failure, known, before, files, split, -, declared, opening⟩ := opens needed
  refine ⟨needed, later, failure, known, before, files, split, declared, opening, ?_⟩
  have opened : Opening files (madeCalls journal) := opening
  generalize madeCalls journal = calls at written opened
  cases opened with
  | unopened => exact nomatch written
  | unwritten | written => exact Option.some.inj written

end HotReload
