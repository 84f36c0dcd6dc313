import HotReload.Proofs.CompiledEntries
import HotReload.Proofs.EntryOrder
import HotReload.Proofs.LabelOrder

/-!
# What a page that shows one file makes of an entry

A page may show the text that was last left in one file (`TestBed.Shows`). Then an entry
of a compiled spec, with sub-procedures that send no command (`Procedure.Calm`), runs to
its end if the normal form of that text is the markup of every step, and otherwise fails
at the first step with other markup (`Runner.runOn_runAllDue`). Whether and where that is
the case is worked out by `firstMiss`.
-/

set_option autoImplicit false

namespace HotReload

variable {W α : Type}

/-! ## Pages and procedures -/

/-- The text of a file after a change that may concern it. -/
def FileChange.textAfter (old : String) : Option FileChange → String
  | none => old
  | some (.write text) => text
  | some .remove => ""

/-- The path at which a page is asked for the markup of an element. -/
def markupQuery (selector : String) : List Json :=
  [.string selector, .string "el => el.innerHTML"]

/-- An app that opens, accepts every change, closes, and whose page shows the text that was
last left at a path; the text is empty when there is no file. -/
structure TestBed.Shows (testBed : TestBed W) (selector path : String)
    (shown : W → String) : Prop where
  opens : ∀ world, (testBed.launch.runOn world).1 = .ok ()
  resets : ∀ files world, ∃ changed, ((testBed.reset files).runOn world).1 = .ok changed
  shows_reset : ∀ files world,
    shown ((testBed.reset files).runOn world).2 = (files.find? path).getD ""
  writes : ∀ changes world, ((testBed.write changes).runOn world).1 = .ok ()
  shows_write : ∀ changes world,
    shown ((testBed.write changes).runOn world).2 =
      FileChange.textAfter (shown world) (changes.find? path)
  answers : ∀ world,
    ((testBed.invoke ["$eval"] (markupQuery selector)).runOn world).1 = .ok (.string (shown world))
  shows_query : ∀ world,
    shown ((testBed.invoke ["$eval"] (markupQuery selector)).runOn world).2 = shown world
  closesPage : ∀ world, (testBed.closePage.runOn world).1 = .ok ()
  closesBuild : ∀ world, (testBed.closeBuild.runOn world).1 = .ok ()

/-- A procedure that sends no command, leaves alone what the page shows, and ends well. -/
def Procedure.Calm (shown : W → String) : Procedure W α → Prop
  | .finish result => result = .ok ()
  | .act effect next =>
    (∀ world, shown (effect world) = shown world) ∧ ∀ world, (next world).Calm shown
  | .send _ _ => False

/-- The markup that is compared when the page shows a text. -/
def Setting.markupOf (setting : Setting W α) (text : String) : String :=
  Runner.comparedMarkup setting.config.appHtmlPrefix text

/-! ## The first step that fails -/

/-- The first step whose markup is not the actual one, with its index and its markup. -/
def firstMiss (actual : String) : (index : Nat) → List (Step α) → Option (Nat × String)
  | _, [] => none
  | index, .html markup :: rest =>
    if actual = markup then firstMiss actual (index + 1) rest else some (index, markup)
  | index, _ :: rest => firstMiss actual (index + 1) rest

/-- How the steps of a label end when one of them may fail. -/
def judgeSteps (differences : Difference.Finder) (label : Label) (actual : String) (index : Nat)
    (steps : List (Step α)) : Except Failure Unit :=
  match firstMiss actual index steps with
  | none => .ok ()
  | some (index, markup) => .error (Failure.mismatch label.name index markup actual differences)

/-- A step that passes leaves the verdict to the steps behind it. -/
theorem judgeSteps_cons (differences : Difference.Finder) (label : Label) (actual : String)
    (index : Nat) (step : Step α) (rest : List (Step α)) :
    judgeSteps differences label actual index (step :: rest) =
      (judgeSteps differences label actual index [step]).bind fun _ =>
        judgeSteps differences label actual (index + 1) rest := by
  cases step with
  | html markup =>
      by_cases same : actual = markup
      · simp [judgeSteps, firstMiss, same, Except.bind]
      · simp [judgeSteps, firstMiss, same, Except.bind]
  | sub handle => rfl
  | call handle => rfl

theorem firstMiss_eq_none_iff {actual : String} {index : Nat} {steps : List (Step α)} :
    firstMiss actual index steps = none ↔ ∀ markup, .html markup ∈ steps → actual = markup := by
  fun_induction firstMiss actual index steps with
  | case1 => simp
  | case2 index rest ih =>
      rw [ih]
      simp
  | case3 index markup rest other =>
      simp only [reduceCtorEq, List.mem_cons, Step.html.injEq, false_iff, not_forall]
      exact ⟨markup, .inl rfl, other⟩
  | case4 index step rest other ih =>
      rw [ih]
      refine forall_congr' fun markup => ?_
      rw [List.mem_cons, or_iff_right]
      exact fun same => other markup same.symm

/-- The first step that fails is a step with other markup, and all before it have the actual
markup. -/
theorem firstMiss_eq_some {actual markup : String} {index missed : Nat} {steps : List (Step α)}
    (miss : firstMiss actual index steps = some (missed, markup)) :
    ∃ offset, missed = index + offset ∧ steps[offset]? = some (.html markup) ∧ actual ≠ markup ∧
      ∀ earlier < offset, ∀ other, steps[earlier]? = some (.html other) → actual = other := by
  fun_induction firstMiss actual index steps with
  | case1 => exact nomatch miss
  | case2 index rest ih =>
      obtain ⟨offset, rfl, there, apart, before⟩ := ih miss
      refine ⟨offset + 1, by omega, there, apart, ?_⟩
      intro earlier less other found
      cases earlier with
      | zero => exact Step.html.inj (Option.some.inj found)
      | succ earlier => exact before earlier (Nat.lt_of_succ_lt_succ less) other found
  | case3 index first rest other =>
      obtain ⟨rfl, rfl⟩ := Prod.mk.inj (Option.some.inj miss)
      exact ⟨0, rfl, rfl, other, fun _ less => absurd less (Nat.not_lt_zero _)⟩
  | case4 index step rest notMarkup ih =>
      obtain ⟨offset, rfl, there, apart, before⟩ := ih miss
      refine ⟨offset + 1, by omega, there, apart, ?_⟩
      intro earlier less other found
      cases earlier with
      | zero => exact absurd (Option.some.inj found) (notMarkup other)
      | succ earlier => exact before earlier (Nat.lt_of_succ_lt_succ less) other found

/-! ## Playing entries -/

/-- After some playing the page shows what it showed, and only the number of steps is
another. -/
structure Run.Played (shown : W → String) (run after : Run W α) (steps : Nat) : Prop where
  shows : shown after.world = shown run.world
  standing : after.standing = { run.standing with stepsRun := steps }

theorem Run.Played.trans {shown : W → String} {run middle after : Run W α} {some all : Nat}
    (first : run.Played shown middle some) (second : middle.Played shown after all) :
    run.Played shown after all where
  shows := second.shows.trans first.shows
  standing := by rw [second.standing, first.standing]

/-- After the first entry has run the page shows what it showed, the entries behind it wait,
and only the two numbers are others. -/
structure Run.Reached (shown : W → String) (run after : Run W α)
    (behind : Table Label (Entry α)) (steps : Nat) : Prop where
  shows : shown after.world = shown run.world
  standing : after.standing =
    { run.standing with
      remaining := some behind
      entriesRun := run.standing.entriesRun + 1
      stepsRun := steps }

namespace Runner

/-- When no markup is ignored, the whole markup of the page is compared. -/
theorem normalize_comparedMarkup (markup : String) :
    Html.normalize (comparedMarkup "" markup) = Html.normalize markup := by
  have whole : comparedMarkup "" markup = String.ofList (Text.trimStart markup.toList) := by
    simp [comparedMarkup]
  rw [whole, Html.normalize, String.toList_ofList, Html.normalChars_trimStart, Html.normalize]

/-- Comparing what the page answers with some markup. -/
theorem runOn_compareMarkup_answered {setting : Setting W α} {run : Run W α}
    (isOpen : run.standing.sessionOpen = true) {page : Json}
    (answered : ((setting.testBed.invoke ["$eval"]
      (markupQuery setting.config.appRootSelector)).runOn run.world).1 = .ok page)
    (label : Label) (index : Nat) (markup : String) :
    (compareMarkup setting label index markup).runOn run =
      (if Html.normalize (setting.markupOf page.asText) = Html.normalize markup then .ok ()
        else .error (Failure.mismatch label.name index (Html.normalize markup)
          (Html.normalize (setting.markupOf page.asText)) setting.differences),
      run.afterCall (.invoke ["$eval"] (markupQuery setting.config.appRootSelector))
        (setting.testBed.invoke ["$eval"] (markupQuery setting.config.appRootSelector))) := by
  have asked := runOn_invoke setting isOpen ["$eval"] (markupQuery setting.config.appRootSelector)
  rw [answered] at asked
  rw [compareMarkup]
  refine (Action.runOn_bind_ok asked _).trans ?_
  change (if Html.normalize (setting.markupOf page.asText) ≠ Html.normalize markup then _ else _ :
    Act W α Unit).runOn _ = _
  by_cases same : Html.normalize (setting.markupOf page.asText) = Html.normalize markup
  · rw [if_pos same, if_neg (not_not.2 same)]
    rfl
  · rw [if_neg same, if_pos same]
    rfl

/-- No entry behind the first is due up to the label of the first. -/
theorem due?_behind {run : Run W α} {label : Label} {entry : Entry α}
    {behind : Table Label (Entry α)}
    (waiting : run.standing.waiting = (label, entry) :: behind.entries)
    {known : Standing α} (remaining : known.remaining = some behind) :
    known.due? (some label) = none := by
  refine Standing.due?_eq_none fun other mem => ?_
  rw [Standing.waiting_of_remaining remaining] at mem
  exact Label.not_atMost_of_lt (beq_iff_eq.1 (Standing.first_inFront waiting other mem))

section Calm

variable {setting : Setting W α} {shown : W → String} (dispatch : Command α → Act W α Reply)

/-- A calm procedure ends well and changes nothing that matters. -/
theorem runOn_drive_calm {procedure : Procedure W α} (calm : procedure.Calm shown)
    (run : Run W α) :
    ∃ after, (drive dispatch procedure).runOn run = (.ok (), after) ∧
      run.Played shown after run.standing.stepsRun := by
  induction procedure generalizing run with
  | finish result =>
      rw [runOn_drive_finish, show result = .ok () from calm]
      exact ⟨run, rfl, rfl, rfl⟩
  | act effect next ih =>
      rw [runOn_drive_act]
      obtain ⟨after, ran, played⟩ :=
        ih (effect run.world) (calm.2 _) { run with world := effect run.world }
      exact ⟨after, ran, played.shows.trans (calm.1 run.world), played.standing⟩
  | send command next ih => exact calm.elim

theorem runOn_runHook_calm {subs : List α}
    (calm : ∀ handle ∈ subs, (setting.playbook.procedure handle).Calm shown)
    {handle : Option α} (supplied : ∀ one ∈ handle, one ∈ subs) (label : Label) (hook : Hook)
    (run : Run W α) :
    ∃ after, (runHook setting dispatch label hook handle).runOn run = (.ok (), after) ∧
      run.Played shown after run.standing.stepsRun := by
  cases handle with
  | none => exact ⟨run, rfl, rfl, rfl⟩
  | some handle =>
      obtain ⟨after, ran, played⟩ := runOn_drive_calm dispatch (calm handle (supplied handle rfl))
        (run.noting (.hookBegan label hook))
      refine ⟨after.noting (.hookEnded label hook), ?_, played.shows, played.standing⟩
      rw [runHook, Action.runOn_bind_ok (runOn_record run _), Action.runOn_bind_ok ran,
        runOn_record]

end Calm

section Shown

variable {setting : Setting W α} {shown : W → String} {path : String} {subs : List α}
  (dispatch : Command α → Act W α Reply)
  (shows : setting.testBed.Shows setting.config.appRootSelector path shown)
  (calm : ∀ handle ∈ subs, (setting.playbook.procedure handle).Calm shown)
include shows

/-- Comparing the page with markup in normal form. -/
theorem runOn_compareMarkup {run : Run W α} (isOpen : run.standing.sessionOpen = true)
    (label : Label) (index : Nat) {markup : String} (normal : Html.normalize markup = markup) :
    ∃ after, (compareMarkup setting label index markup).runOn run =
        (if Html.normalize (setting.markupOf (shown run.world)) = markup then .ok ()
          else .error (Failure.mismatch label.name index markup
            (Html.normalize (setting.markupOf (shown run.world))) setting.differences), after) ∧
      run.Played shown after run.standing.stepsRun := by
  have ran := runOn_compareMarkup_answered isOpen (shows.answers run.world) label index markup
  rw [normal] at ran
  exact ⟨_, ran, shows.shows_query run.world, rfl⟩

include calm

variable {actual : String}

theorem runOn_doStep {run : Run W α} (isOpen : run.standing.sessionOpen = true)
    (here : Html.normalize (setting.markupOf (shown run.world)) = actual) (label : Label)
    (index : Nat) {step : Step α} (compiled : step.Compiled subs) :
    ∃ after, (doStep setting dispatch label index step).runOn run =
        (judgeSteps setting.differences label actual index [step], after) ∧
      run.Played shown after run.standing.stepsRun := by
  subst here
  cases step with
  | html markup =>
      obtain ⟨after, ran, played⟩ := runOn_compareMarkup shows isOpen label index compiled
      refine ⟨after, ?_, played⟩
      rw [doStep, ran, judgeSteps, firstMiss]
      split <;> rfl
  | sub handle => exact runOn_drive_calm dispatch (calm handle compiled) run
  | call handle => exact compiled.elim

theorem runOn_runStep {run : Run W α} (isOpen : run.standing.sessionOpen = true)
    (here : Html.normalize (setting.markupOf (shown run.world)) = actual) (label : Label)
    (index : Nat) {step : Step α} (compiled : step.Compiled subs) :
    ∃ after, (runStep setting dispatch label index step).runOn run =
        (judgeSteps setting.differences label actual index [step], after) ∧
      run.Played shown after (run.standing.stepsRun + 1) := by
  let begun : Run W α :=
    (run.knowing { run.standing with stepsRun := run.standing.stepsRun + 1 }).noting
      (.stepBegan label index)
  have beginning : run.Played shown begun (run.standing.stepsRun + 1) := ⟨rfl, rfl⟩
  have begunOpen : begun.standing.sessionOpen = true := isOpen
  obtain ⟨done, ran, played⟩ :=
    runOn_doStep dispatch shows calm begunOpen here label index compiled
  have all := beginning.trans played
  rw [runStep, Action.runOn_bind_ok (runOn_revise run _),
    Action.runOn_bind_ok (runOn_record _ _)]
  cases judged : judgeSteps setting.differences label actual index [step] with
  | error failure =>
      exact ⟨done, Action.runOn_bind_error (ran.trans (by rw [← judged])) _, all⟩
  | ok _ =>
      refine ⟨done.noting (.stepEnded label index), ?_, all.shows, all.standing⟩
      rw [Action.runOn_bind_ok (ran.trans (by rw [← judged])), runOn_record]

/-- The steps of a label are run up to the first that fails. -/
theorem runOn_runSteps {run : Run W α} (isOpen : run.standing.sessionOpen = true)
    (here : Html.normalize (setting.markupOf (shown run.world)) = actual) (label : Label)
    (index : Nat) {steps : List (Step α)} (compiled : ∀ step ∈ steps, step.Compiled subs) :
    ∃ after count, (runSteps setting dispatch label index steps).runOn run =
        (judgeSteps setting.differences label actual index steps, after) ∧
      run.Played shown after count ∧
      (judgeSteps setting.differences label actual index steps = .ok () →
        count = run.standing.stepsRun + steps.length) := by
  induction steps generalizing run index with
  | nil => exact ⟨run, run.standing.stepsRun, rfl, ⟨rfl, rfl⟩, fun _ => rfl⟩
  | cons step rest ih =>
      rw [List.forall_mem_cons] at compiled
      obtain ⟨middle, ran, played⟩ :=
        runOn_runStep dispatch shows calm isOpen here label index compiled.1
      rw [runSteps, judgeSteps_cons]
      cases judged : judgeSteps setting.differences label actual index [step] with
      | error failure =>
          rw [judged] at ran
          exact ⟨middle, _, Action.runOn_bind_error ran _, played, fun passed => nomatch passed⟩
      | ok _ =>
          rw [judged] at ran
          have stillOpen : middle.standing.sessionOpen = true := by
            rw [played.standing]
            exact isOpen
          have stillHere : Html.normalize (setting.markupOf (shown middle.world)) = actual := by
            rw [played.shows]
            exact here
          obtain ⟨after, count, ranRest, playedRest, counted⟩ :=
            ih stillOpen stillHere (index + 1) compiled.2
          refine ⟨after, count, ?_, played.trans playedRest, fun passed => ?_⟩
          · rw [Action.runOn_bind_ok ran, ranRest]
            rfl
          · have begun : middle.standing.stepsRun = run.standing.stepsRun + 1 := by
              rw [played.standing]
            rw [counted passed, begun, List.length_cons]
            omega

/-- An entry ends as its steps do; its hooks pass. -/
theorem runOn_playEntry {run : Run W α} (isOpen : run.standing.sessionOpen = true)
    (here : Html.normalize (setting.markupOf (shown run.world)) = actual) (label : Label)
    {entry : Entry α} (compiled : entry.Compiled subs) :
    ∃ after count, (playEntry setting dispatch label entry).runOn run =
        (judgeSteps setting.differences label actual 0 entry.steps, after) ∧
      run.Played shown after count ∧
      (judgeSteps setting.differences label actual 0 entry.steps = .ok () →
        count = run.standing.stepsRun + entry.steps.length) := by
  obtain ⟨ready, ranBefore, playedBefore⟩ :=
    runOn_runHook_calm dispatch calm compiled.before label .before run
  have stillOpen : ready.standing.sessionOpen = true := by
    rw [playedBefore.standing]
    exact isOpen
  have stillHere : Html.normalize (setting.markupOf (shown ready.world)) = actual := by
    rw [playedBefore.shows]
    exact here
  obtain ⟨done, count, ran, played, counted⟩ :=
    runOn_runSteps dispatch shows calm stillOpen stillHere label 0 compiled.steps
  rw [playedBefore.standing] at counted
  have playedSteps := playedBefore.trans played
  rw [playEntry, Action.runOn_bind_ok ranBefore]
  cases judged : judgeSteps setting.differences label actual 0 entry.steps with
  | error failure =>
      rw [judged] at ran
      exact ⟨done, count, Action.runOn_bind_error ran _, playedSteps, fun passed => nomatch passed⟩
  | ok _ =>
      rw [judged] at ran
      obtain ⟨after, ranAfter, playedAfter⟩ :=
        runOn_runHook_calm dispatch calm compiled.after label .after done
      have all := playedSteps.trans playedAfter
      refine ⟨after.noting (.entryEnded label), done.standing.stepsRun, ?_,
        ⟨all.shows, all.standing⟩, fun _ => ?_⟩
      · rw [Action.runOn_bind_ok ran, Action.runOn_bind_ok ranAfter, runOn_record]
      · rw [played.standing]
        exact counted judged

/-- **A change to the label of the first waiting entry runs this entry alone.** -/
theorem runOn_runAllDue {run : Run W α} (isOpen : run.standing.sessionOpen = true)
    (here : Html.normalize (setting.markupOf (shown run.world)) = actual) {label : Label}
    {entry : Entry α} {rest : List (Label × Entry α)}
    (waiting : run.standing.waiting = (label, entry) :: rest)
    (compiled : entry.Compiled subs) :
    ∃ after behind count, (runAllDue setting (some label)).runOn run =
        (judgeSteps setting.differences label actual 0 entry.steps, after) ∧
      behind.entries = rest ∧ run.Reached shown after behind count ∧
      (judgeSteps setting.differences label actual 0 entry.steps = .ok () →
        count = run.standing.stepsRun + entry.steps.length) := by
  have reaches : ∀ bound ∈ some label, label.atMost bound = true := by
    rintro bound ⟨⟩
    exact label.atMost_self
  obtain ⟨behind, rfl, due⟩ := Standing.exists_due waiting reaches
  let begun : Run W α := (run.leaving behind).beginning label entry false
  have begunOpen : begun.standing.sessionOpen = true := isOpen
  obtain ⟨after, count, ran, played, counted⟩ :=
    runOn_playEntry (answer setting (runDue setting behind.entries.length)) shows calm
      begunOpen here label compiled
  have reached : run.Reached shown after behind count := ⟨played.shows, played.standing⟩
  refine ⟨after, behind, count, ?_, rfl, reached, counted⟩
  rw [runAllDue, Action.runOn_bind_ok (runOn_standing run), Standing.remainingCount_eq_length,
    waiting, List.length_cons, runDue, Action.runOn_bind_ok (runOn_takeDue_some due),
    Action.runOn_bind_ok (show (approach setting (some label) label).runOn (run.leaving behind) =
      (.ok (), run.leaving behind) from rfl), Option.isNone_some]
  have entered := (runOn_runEntry (run.leaving behind) setting
    (answer setting (runDue setting behind.entries.length)) false label entry).trans ran
  cases judged : judgeSteps setting.differences label actual 0 entry.steps with
  | error failure => exact Action.runOn_bind_error (entered.trans (by rw [← judged])) _
  | ok _ =>
      rw [Action.runOn_bind_ok (entered.trans (by rw [← judged]))]
      have left : after.standing.remaining = some behind := by rw [reached.standing]
      have nothing := due?_behind waiting left
      rw [runOn_runDue_none setting nothing]

end Shown

end Runner

end HotReload
