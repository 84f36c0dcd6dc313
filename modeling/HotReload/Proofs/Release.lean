import HotReload.Proofs.Moves

/-!
# Which sessions are released

An invocation that is not to keep its app running closes the page and the build server
at its end. The runner closes a session that is open, and a session only counts as open
once its first files are written. So a session whose first files cannot be written is
opened and never closed (`unreleased_of_failed_reset`), and a session is closed exactly once,
by the last two calls, if and only if its first files were written and no function closed
the page before (`released_iff`).

The calls of a run are custody of one of four kinds: there are none, the launch failed,
the first files failed, or the session is held. No move leads out of the second or the
third kind, because every other call needs an open session.
-/

set_option autoImplicit false

namespace HotReload

variable {W α β : Type}

/-! ## The calls of a run -/

/-- The call that an event tells of, with the failure it ended with. -/
def Event.call? : Event α → Option (Call × Option Failure)
  | .called call failure => some (call, failure)
  | _ => none

/-- The calls that a journal tells of, in the order in which they were made. -/
def madeCalls (journal : List (Moment α)) : List (Call × Option Failure) :=
  (journal.filterMap fun moment => moment.event.call?).reverse

/-- Whether a call is one that is made in an open session. -/
def Call.isRunning : Call → Bool
  | .write _ | .wait _ | .invoke _ _ | .closePage => true
  | .launch | .reset _ | .closeBuild => false

/-- Whether a call closes the page. -/
def Call.closesPage : Call → Bool
  | .closePage => true
  | _ => false

/-- Whether a call closes the build server. -/
def Call.closesBuild : Call → Bool
  | .closeBuild => true
  | _ => false

theorem madeCalls_append (newer older : List (Moment α)) :
    madeCalls (newer ++ older) = madeCalls older ++ madeCalls newer := by
  rw [madeCalls, List.filterMap_append, List.reverse_append, madeCalls, madeCalls]

theorem madeCalls_cons (newest : Moment α) (older : List (Moment α)) :
    madeCalls (newest :: older) = madeCalls older ++ newest.event.call?.toList := by
  rw [madeCalls, madeCalls, List.filterMap_cons]
  cases newest.event.call? <;> simp

@[simp] theorem madeCalls_called (call : Call) (failure : Option Failure) (known : Standing α)
    (older : List (Moment α)) :
    madeCalls (⟨.called call failure, known⟩ :: older) = madeCalls older ++ [(call, failure)] :=
  madeCalls_cons _ older

/-- Other lines tell of no call. -/
theorem madeCalls_other {event : Event α} (other : event.call? = none) (known : Standing α)
    (older : List (Moment α)) : madeCalls (⟨event, known⟩ :: older) = madeCalls older := by
  rw [madeCalls_cons, other, Option.toList_none, List.append_nil]

theorem madeCalls_afterCall (run : Run W α) (call : Call) (action : Action W Failure β) :
    madeCalls (run.afterCall call action).journal =
      madeCalls run.journal ++
        [(call, Runner.failure? (action.runOn run.world).1)] := by
  rw [Run.afterCall_journal, madeCalls_called]

/-! ## Custody -/

/-- What has become of the session, and which calls have been made. -/
inductive Custody (run : Run W α) : Prop
  /-- The session has not started. -/
  | idle (fresh : run.standing.started = false) (closed : run.standing.sessionOpen = false)
      (calls : madeCalls run.journal = [])
  /-- The app could not be opened. -/
  | unopened (failure : Failure) (started : run.standing.started = true)
      (closed : run.standing.sessionOpen = false)
      (calls : madeCalls run.journal = [(.launch, some failure)])
  /-- The app was opened, and its first files could not be written. -/
  | leaked (files : Table String String) (failure : Failure)
      (started : run.standing.started = true) (closed : run.standing.sessionOpen = false)
      (calls : madeCalls run.journal = [(.launch, none), (.reset files, some failure)])
  /-- The session is open. -/
  | held (files : Table String String) (later : List (Call × Option Failure))
      (started : run.standing.started = true) (isOpen : run.standing.sessionOpen = true)
      (calls : madeCalls run.journal = (.launch, none) :: (.reset files, none) :: later)
      (running : ∀ made ∈ later, made.1.isRunning = true)

namespace Custody

variable {run after : Run W α}

/-- Custody stays while no call is made. -/
theorem unchanged (custody : Custody run)
    (started : after.standing.started = run.standing.started)
    (sessionOpen : after.standing.sessionOpen = run.standing.sessionOpen)
    (calls : madeCalls after.journal = madeCalls run.journal) : Custody after := by
  cases custody with
  | idle fresh closed made =>
      exact .idle (started.trans fresh) (sessionOpen.trans closed) (calls.trans made)
  | unopened failure begun closed made =>
      exact .unopened failure (started.trans begun) (sessionOpen.trans closed) (calls.trans made)
  | leaked files failure begun closed made =>
      exact .leaked files failure (started.trans begun) (sessionOpen.trans closed)
        (calls.trans made)
  | held files later begun isOpen made running =>
      exact .held files later (started.trans begun) (sessionOpen.trans isOpen)
        (calls.trans made) running

/-- An open session stays held when one more call is made in it. -/
theorem called {call : Call} {failure : Option Failure} (custody : Custody run)
    (isOpen : run.standing.sessionOpen = true) (isRunning : call.isRunning = true)
    (started : after.standing.started = run.standing.started)
    (sessionOpen : after.standing.sessionOpen = run.standing.sessionOpen)
    (calls : madeCalls after.journal = madeCalls run.journal ++ [(call, failure)]) :
    Custody after := by
  cases custody with
  | idle fresh closed made => exact Bool.noConfusion (isOpen.symm.trans closed)
  | unopened failure begun closed made => exact Bool.noConfusion (isOpen.symm.trans closed)
  | leaked files failure begun closed made => exact Bool.noConfusion (isOpen.symm.trans closed)
  | held files later begun _ made running =>
      refine .held files (later ++ [(call, failure)]) (started.trans begun)
        (sessionOpen.trans isOpen) ?_ ?_
      · rw [calls, made]
        rfl
      · intro other mem
        rcases List.mem_append.1 mem with earlier | last
        · exact running other earlier
        · rw [List.mem_singleton.1 last]
          exact isRunning

/-- While the session has not started, no call has been made. -/
theorem calls_of_fresh (custody : Custody run) (fresh : run.standing.started = false) :
    madeCalls run.journal = [] ∧ run.standing.sessionOpen = false := by
  cases custody with
  | idle _ closed made => exact ⟨made, closed⟩
  | unopened _ started => exact Bool.noConfusion (fresh.symm.trans started)
  | leaked _ _ started => exact Bool.noConfusion (fresh.symm.trans started)
  | held _ _ started => exact Bool.noConfusion (fresh.symm.trans started)

end Custody

variable {setting : Setting W α}

theorem Event.call?_of_isMark {event : Event α} (isMark : event.isMark = true) :
    event.call? = none := by
  cases event with
  | entryEnded | hookBegan | hookEnded | stepEnded | returned => rfl
  | _ => exact nomatch isMark

/-- The call that opens the app is the first one. -/
theorem madeCalls_launched {run : Run W α} (none : madeCalls run.journal = []) :
    madeCalls (run.launched setting).journal =
      [(.launch, Runner.failure? (setting.testBed.launch.runOn run.world).1)] := by
  rw [Run.launched, madeCalls_afterCall, Run.knowing_journal, none]
  rfl

/-- The first files are written by the second call. -/
theorem madeCalls_resetting {run : Run W α} (none : madeCalls run.journal = [])
    (opened : (setting.testBed.launch.runOn run.world).1 = .ok ()) :
    madeCalls ((run.launched setting).resetting setting).journal =
      [(.launch, .none), (.reset run.standing.inits, Runner.failure?
        ((setting.testBed.reset run.standing.inits).runOn (run.launched setting).world).1)] := by
  rw [Run.resetting, madeCalls_afterCall, madeCalls_launched none, opened]
  rfl

/-- A flush that brings the app to an update makes one call. -/
theorem madeCalls_bringing (run : Run W α) (label : Label) :
    madeCalls (run.bringing setting label).journal = madeCalls run.journal ++
      [(.write (run.standing.changesFor label), Runner.failure?
        ((setting.testBed.write (run.standing.changesFor label)).runOn run.world).1)] := by
  rw [Run.bringing, Run.noting_journal, madeCalls_other rfl, Run.writing, madeCalls_afterCall]

/-- Every move keeps custody. -/
theorem Move.custody {run after : Run W α} (move : Move setting run after)
    (custody : Custody run) : Custody after := by
  cases move with
  | act | declare | prepare | aim => exact custody.unchanged rfl rfl rfl
  | mark event isMark =>
      exact custody.unchanged rfl rfl (madeCalls_other (Event.call?_of_isMark isMark) _ _)
  | step | dispatch | answer | abort | begin =>
      exact custody.unchanged rfl rfl (madeCalls_other rfl _ _)
  | refuse | discard =>
      exact custody.unchanged rfl rfl ((madeCalls_other rfl _ _).trans (madeCalls_other rfl _ _))
  | failLaunch failure fresh failed =>
      obtain ⟨none, closed⟩ := custody.calls_of_fresh fresh
      refine .unopened failure rfl closed ?_
      rw [Run.aborting_journal, madeCalls_other rfl, madeCalls_launched none, failed]
      rfl
  | failReset failure fresh opened failed =>
      obtain ⟨none, closed⟩ := custody.calls_of_fresh fresh
      refine .leaked run.standing.inits failure rfl closed ?_
      rw [Run.aborting_journal, madeCalls_other rfl, madeCalls_resetting none opened, failed]
      rfl
  | start changed fresh opened written =>
      obtain ⟨none, closed⟩ := custody.calls_of_fresh fresh
      refine .held run.standing.inits [] rfl rfl ?_ (List.forall_mem_nil _)
      rw [Run.started, Run.knowing_journal, madeCalls_resetting none opened, written]
      rfl
  | write changes isOpen => exact custody.called isOpen rfl rfl rfl (madeCalls_afterCall _ _ _)
  | wait what isOpen => exact custody.called isOpen rfl rfl rfl (madeCalls_afterCall _ _ _)
  | invoke path arguments isOpen =>
      exact custody.called isOpen rfl rfl rfl (madeCalls_afterCall _ _ _)
  | closePage isOpen => exact custody.called isOpen rfl rfl rfl (madeCalls_afterCall _ _ _)
  | change label isOpen written =>
      exact custody.called isOpen rfl rfl rfl (madeCalls_afterCall _ _ _)
  | bring label entry rest due isOpen written =>
      have wrote : madeCalls (((run.leaving rest).bringing setting label).showing label
          |>.beginning label entry true).journal = madeCalls run.journal ++ _ :=
        (madeCalls_other rfl _ _).trans (madeCalls_bringing (run.leaving rest) label)
      exact custody.called isOpen rfl rfl rfl wrote
  | lose label entry rest failure due isOpen failed =>
      exact custody.called isOpen rfl rfl rfl (madeCalls_bringing (run.leaving rest) label)

theorem Moves.custody {run after : Run W α} (moves : Moves setting run after)
    (custody : Custody run) : Custody after := by
  induction moves with
  | refl => exact custody
  | tail _ move ih => exact move.custody ih

/-! ## Closing -/

theorem madeCalls_closing (run : Run W α) :
    madeCalls (run.closing setting).journal = madeCalls run.journal ++
      [(.closePage, Runner.failure? (setting.testBed.closePage.runOn run.world).1),
        (.closeBuild, Runner.failure?
          (setting.testBed.closeBuild.runOn (run.closingPage setting).world).1)] := by
  rw [Run.closing, madeCalls_afterCall, Run.closingPage, madeCalls_afterCall,
    Run.knowing_journal, List.append_assoc]
  rfl

/-- The session is released: the page and the build server are closed once each, and
nothing is called after that. -/
structure Released (calls : List (Call × Option Failure)) : Prop where
  page : (calls.filter fun made => made.1.closesPage).length = 1
  build : (calls.filter fun made => made.1.closesBuild).length = 1
  last : ∃ before page build, calls = before ++ [(.closePage, page), (.closeBuild, build)]

/-- Two closing calls at the end release the session if and only if the page was not
closed before. -/
theorem released_append_iff {before : List (Call × Option Failure)} {page build : Option Failure}
    (noBuild : ∀ made ∈ before, made.1.closesBuild = false) :
    Released (before ++ [(.closePage, page), (.closeBuild, build)]) ↔
      ∀ made ∈ before, made.1.closesPage = false := by
  let calls : List (Call × Option Failure) := before ++ [(.closePage, page), (.closeBuild, build)]
  have pages : (calls.filter fun made => made.1.closesPage).length =
      (before.filter fun made => made.1.closesPage).length + 1 := by
    rw [List.filter_append, List.length_append]
    rfl
  have builds : (calls.filter fun made => made.1.closesBuild).length = 1 := by
    have none : (before.filter fun made => made.1.closesBuild) = [] := by
      simpa [List.filter_eq_nil_iff] using noBuild
    rw [List.filter_append, none]
    rfl
  constructor
  · intro released
    have once : (calls.filter fun made => made.1.closesPage).length = 1 := released.page
    rw [pages, Nat.add_eq_right, List.length_eq_zero_iff, List.filter_eq_nil_iff] at once
    intro made mem
    exact Bool.eq_false_iff.2 (once made mem)
  · intro untouched
    refine ⟨?_, builds, before, page, build, rfl⟩
    show (calls.filter fun made => made.1.closesPage).length = 1
    rw [pages, Nat.add_eq_right, List.length_eq_zero_iff, List.filter_eq_nil_iff]
    intro made mem
    exact Bool.eq_false_iff.1 (untouched made mem)

theorem Call.closesBuild_of_isRunning {call : Call} (isRunning : call.isRunning = true) :
    call.closesBuild = false := by
  cases call with
  | closeBuild => exact nomatch isRunning
  | _ => rfl

section Invocations

variable (setting : Setting W α) (title : Option String) (procedure : Procedure W α) (world : W)

/-- After a whole drive the calls are custody. -/
theorem custody_driveToEnd :
    Custody ((Runner.driveToEnd setting procedure).runOn { world }).2 := by
  have moved : Moves setting { world } ((Runner.driveToEnd setting procedure).runOn { world }).2 :=
    Runner.moves_driveToEnd procedure fun started => nomatch started
  exact moved.custody (.idle rfl rfl rfl)

/-- An invocation calls nothing more when its session is not open at the end. -/
theorem madeCalls_run_closed
    (closed : ((Runner.driveToEnd setting procedure).runOn { world }).2.standing.sessionOpen =
      false) :
    madeCalls ((Invocation.run setting title procedure).runOn { world }).2.journal =
      madeCalls ((Runner.driveToEnd setting procedure).runOn { world }).2.journal := by
  rw [Invocation.runOn_run]
  simp only [Runner.runOn_close_closed _ closed]

/-- An invocation ends with two closing calls when its session is open at the end. -/
theorem madeCalls_run_open (stops : setting.config.keepRunning = false)
    (isOpen : ((Runner.driveToEnd setting procedure).runOn { world }).2.standing.sessionOpen =
      true) :
    ∃ page build,
      madeCalls ((Invocation.run setting title procedure).runOn { world }).2.journal =
        madeCalls ((Runner.driveToEnd setting procedure).runOn { world }).2.journal ++
          [(.closePage, page), (.closeBuild, build)] := by
  rw [Invocation.runOn_run]
  simp only [Runner.runOn_close_open _ isOpen stops]
  exact ⟨_, _, madeCalls_closing _⟩

/-- **When an opened session is released.** If the app is not to be kept running, a session
that the launcher opened is released at the end of the invocation if and only if its first
files were written and no function of the test closed the page before. If its first files
could not be written, nothing is called after that failure. -/
theorem released_iff (stops : setting.config.keepRunning = false) :
    let driven := madeCalls ((Runner.driveToEnd setting procedure).runOn { world }).2.journal
    let calls := madeCalls ((Invocation.run setting title procedure).runOn { world }).2.journal
    (.launch, none) ∈ calls →
      (Released calls ↔ (∃ files, (.reset files, none) ∈ calls) ∧
        ∀ made ∈ driven, made.1.closesPage = false) ∧
      (∀ files failure, (.reset files, some failure) ∈ calls →
        calls = [(.launch, none), (.reset files, some failure)]) := by
  intro driven calls opened
  cases custody_driveToEnd setting procedure world with
  | idle fresh closed made =>
      have none : calls = [] :=
        (madeCalls_run_closed setting title procedure world closed).trans made
      rw [none] at opened
      exact absurd opened List.not_mem_nil
  | unopened failure started closed made =>
      have failed : calls = [(.launch, some failure)] :=
        (madeCalls_run_closed setting title procedure world closed).trans made
      rw [failed, List.mem_singleton] at opened
      exact nomatch opened
  | leaked files failure started closed made =>
      have leaked : calls = [(.launch, none), (.reset files, some failure)] :=
        (madeCalls_run_closed setting title procedure world closed).trans made
      rw [leaked]
      refine ⟨⟨fun released => Nat.noConfusion released.page, ?_⟩, ?_⟩
      · rintro ⟨⟨others, written⟩, -⟩
        simp at written
      · intro others other mem
        simp only [List.mem_cons, Prod.mk.injEq, reduceCtorEq, false_and, false_or,
          Call.reset.injEq, Option.some.injEq, List.not_mem_nil, or_false] at mem
        rw [mem.1, mem.2]
  | held files later started isOpen made running =>
      obtain ⟨page, build, closed⟩ := madeCalls_run_open setting title procedure world stops isOpen
      have atEnd : calls = driven ++ [(.closePage, page), (.closeBuild, build)] := closed
      have held : ∀ call ∈ driven,
          call = (.launch, none) ∨ call = (.reset files, none) ∨ call.1.isRunning = true := by
        intro call mem
        rw [show driven = _ from made, List.mem_cons, List.mem_cons] at mem
        exact mem.imp_right (Or.imp_right (running call))
      have noBuild : ∀ call ∈ driven, call.1.closesBuild = false := by
        intro call mem
        rcases held call mem with rfl | rfl | isRunning
        · rfl
        · rfl
        · exact Call.closesBuild_of_isRunning isRunning
      have written : (.reset files, none) ∈ calls := by
        rw [atEnd, show driven = _ from made]
        exact List.mem_append_left _ (List.mem_cons_of_mem _ List.mem_cons_self)
      constructor
      · rw [atEnd, released_append_iff noBuild, ← atEnd]
        exact ⟨fun untouched => ⟨⟨files, written⟩, untouched⟩, And.right⟩
      · intro others failure mem
        rw [atEnd, List.mem_append] at mem
        rcases mem with during | closing
        · rcases held _ during with same | same | isRunning
          · exact nomatch same
          · exact nomatch same
          · exact nomatch isRunning
        · simp at closing

end Invocations

/-- A flush of a test without files and entries opens a session, and it is released. -/
theorem released_of_flush :
    Released (madeCalls ((Invocation.run (.plain .still) none
      (Procedure.sendAll [.flush])).runOn { world := () }).2.journal) := by
  have opened : (.launch, none) ∈ madeCalls ((Invocation.run (.plain .still) none
      (Procedure.sendAll [.flush])).runOn { world := () }).2.journal := .head _
  refine ((released_iff (.plain .still) none (Procedure.sendAll [.flush]) () rfl opened).1).2 ?_
  refine ⟨⟨{}, .tail _ (.head _)⟩, ?_⟩
  exact List.forall_mem_cons.2 ⟨rfl, List.forall_mem_singleton.2 rfl⟩

/-- A test bed that opens the app and cannot write the first files. -/
def TestBed.unwritable : TestBed Unit :=
  { TestBed.still with
    reset := fun _ => throw { cause := .build "Unexpected token (1:1)", phase := .build } }

/-- A session whose first files cannot be written is opened and never released. -/
theorem unreleased_of_failed_reset :
    let calls := madeCalls ((Invocation.run (.plain .unwritable) none
      (Procedure.sendAll [.flush])).runOn { world := () }).2.journal
    (Setting.plain .unwritable).config.keepRunning = false ∧ (.launch, none) ∈ calls ∧
      ¬Released calls := by
  refine ⟨rfl, .head _, fun released => ?_⟩
  have once := released.page
  exact Nat.noConfusion (show 0 = 1 from once)

end HotReload
