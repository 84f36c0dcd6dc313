import HotReload.Proofs.AppliedChanges

/-!
# What the console of a build server says

Every rebuild that succeeds adds a line to the console, the first one behind the line that announces
it, and nothing else ever adds one: a call that is refused, a rebuild that fails and a call that
rebuilds nothing leave the console as it is (`Build.comes_perform`). So the console is the list of
the successful rebuilds, told one by one (`Build.console_truthful`). What is told of a batch of
changes is true: it is reported as done exactly when some file is not what it was before.

The rebuild hook may do with the tree what operations do, as long as it leaves the files as they are
(`RebuildHook.Still`). It may fail.
-/

set_option autoImplicit false

namespace HotReload

open Files (Fault Path Tree)

variable {σ : Type}

/-- A rebuild that works on the tree by its operations and leaves all files as they are. -/
structure RebuildHook.Still (hook : RebuildHook σ) : Prop where
  operates : ∀ tree host, ∃ accesses : List Tree.Access,
    (hook.runOn (tree, host)).2.1 = tree.afterAll accesses
  files : ∀ tree host, (hook.runOn (tree, host)).2.1.files = tree.files

theorem RebuildHook.Still.parted {hook : RebuildHook σ} (still : hook.Still)
    {root : String} {tree : Tree} (parted : tree.Parted root) (host : σ) :
    (hook.runOn (tree, host)).2.1.Parted root := by
  obtain ⟨accesses, same⟩ := still.operates tree host
  rw [same]
  exact parted.afterAll accesses

namespace Build

/-! ## Calls and rebuilds -/

/-- A call of a build server. -/
inductive Call
  | reset (files : Table String String)
  | writeFiles (changes : Changes)
  | wait (what : String)
  | close

/-- Carries out a call. A reset answers the changed paths. -/
def Call.perform (hook : RebuildHook σ) : Call → Operation σ (List String)
  | .reset files => Build.reset hook files
  | .writeFiles changes => do
    Build.writeFiles hook changes
    pure []
  | .wait what => do
    Build.wait hook what
    pure []
  | .close => do
    revise Build.close
    pure []

/-- A call by which a rebuild has succeeded. -/
structure Rebuild (σ : Type) where
  call : Call
  before : Build × σ
  answer : List String
  after : Build × σ

/-- What calls have come to: the rebuilds that have succeeded, and what the server is now. -/
structure History (σ : Type) where
  state : Build × σ
  rebuilds : List (Rebuild σ) := []

/-- The rebuild of a call, if one has succeeded: the call has, and the server has counted a
rebuild. -/
def rebuild? (call : Call) (before : Build × σ) :
    Except Failure (List String) × (Build × σ) → Option (Rebuild σ)
  | (.ok answer, after) =>
    if after.1.builds = before.1.builds then none else some { call, before, answer, after }
  | (.error _, _) => none

/-- Goes on by a call. -/
def History.behind (hook : RebuildHook σ) (history : History σ) (call : Call) : History σ :=
  let outcome := (call.perform hook).runOn history.state
  { state := outcome.2
    rebuilds := history.rebuilds ++ (rebuild? call history.state outcome).toList }

/-- The history of some calls. -/
def history (hook : RebuildHook σ) (state : Build × σ) (calls : List Call) : History σ :=
  calls.foldl (History.behind hook) { state }

/-! ## What is told -/

/-- What a line on the console tells of the rebuild it stands for. -/
structure Rebuild.Told (config : Config) (rebuild : Rebuild σ) (line : String) : Prop where
  status : line = config.doneMessage ∨ line = config.nothingChangedMessage
  reset : ∀ files, rebuild.call = .reset files →
    (line = config.doneMessage ↔ rebuild.answer ≠ [])
  wait : ∀ what, rebuild.call = .wait what → line = config.nothingChangedMessage
  written : ∀ changes, rebuild.call = .writeFiles changes →
    LeadApart rebuild.before.1.tree changes.entries →
      (line = config.doneMessage ↔ rebuild.after.1.tree.files ≠ rebuild.before.1.tree.files)

/-- A batch of changes has taken effect, in the words of those who read files. -/
structure TookEffect (tree : Tree) (changes : Changes) (after : Tree) : Prop where
  written : ∀ key text, changes.find? key = some (.write text) →
    after.read (sourcePath key) = .ok text
  removed : ∀ key, changes.find? key = some .remove →
    ∃ path, tree.resolve (sourcePath key) = .ok path ∧ after.files.contains path = false
  others : ∀ path, (∀ key ∈ changes.keys, tree.resolve (sourcePath key) ≠ .ok path) →
    after.files.find? path = tree.files.find? path

variable {config : Config} {hook : RebuildHook σ} {build : Build} {host : σ} {root : String}

/-! ## One call -/

/-- A server of a configuration: it has its messages, and a tree that keeps files and directories
apart. -/
structure Serves (config : Config) (build : Build) : Prop where
  ready : build.readyMessage = config.readyMessage
  done : build.doneMessage = config.doneMessage
  nothingChanged : build.nothingChangedMessage = config.nothingChangedMessage
  parted : build.tree.Parted config.appDirectory

theorem serves_ofConfig (made : ofConfig config = .ok build) :
    Serves config build ∧ build.console = [] := by
  unfold ofConfig at made
  split at made
  · cases made
  · obtain rfl := Except.ok.inj made
    exact ⟨⟨rfl, rfl, rfl, Tree.parted_new _⟩, rfl⟩

theorem runOn_ensureOpen_closed (closed : build.closed = true) :
    (ensureOpen : Operation σ Unit).runOn (build, host) =
      (.error (failure "build server is closed"), build, host) := by
  have present : (current : Operation σ Build).runOn (build, host) = (.ok build, build, host) := rfl
  rw [ensureOpen, Action.runOn_bind_ok present, closed]
  rfl

/-- A rebuild keeps the files. It adds its lines to the console, or fails and adds none. -/
theorem rebuild_cases (build : Build) (host : σ) (still : hook.Still)
    (parted : build.tree.Parted root) (changed : Bool) :
    ∃ (after : Tree) (new : σ), after.Parted root ∧ after.files = build.tree.files ∧
      ((∃ failure, (rebuild hook changed).runOn (build, host) =
          (.error failure, { build with tree := after, builds := build.builds + 1 }, new)) ∨
        (rebuild hook changed).runOn (build, host) =
          (.ok (), { build with
            tree := after
            builds := build.builds + 1
            console := build.console ++ build.statusLines changed }, new)) := by
  have kept := still.parted parted host
  have files := still.files build.tree host
  rcases ran : hook.runOn (build.tree, host) with ⟨result, after, new⟩
  rw [ran] at kept files
  refine ⟨after, new, kept, files, ?_⟩
  cases result with
  | error message => exact .inl ⟨_, runOn_rebuild_error ran changed⟩
  | ok _ => exact .inr (runOn_rebuild_ok ran changed)

/-- Files are written back up to the first that is refused, and nothing but the tree changes. -/
theorem restore_cases (build : Build) (host : σ) (parted : build.tree.Parted root)
    (kept : List (Path × String)) :
    ∃ (after : Tree) (result : Except Failure Unit), after.Parted root ∧
      (restore kept).runOn (build, host) = (result, { build with tree := after }, host) := by
  induction kept generalizing build with
  | nil => exact ⟨build.tree, _, parted, rfl⟩
  | cons file rest ih =>
      obtain ⟨path, contents⟩ := file
      have wrote := runOn_onTree (Tree.write path.toText contents) build host
      have partedMiddle := Tree.keeps_write path.toText contents build.tree parted
      rcases ran : (Tree.write path.toText contents).runOn build.tree with ⟨result, middle⟩
      rw [ran] at wrote partedMiddle
      cases result with
      | error fault => exact ⟨middle, _, partedMiddle, Action.runOn_bind_error wrote _⟩
      | ok _ =>
          obtain ⟨after, result, partedAfter, restored⟩ :=
            ih { build with tree := middle } partedMiddle
          exact ⟨after, result, partedAfter, (Action.runOn_bind_ok wrote _).trans restored⟩

/-- A reset comes to its rebuild, or is refused before. -/
theorem reset_cases (hook : RebuildHook σ) (build : Build) (host : σ)
    (parted : build.tree.Parted root) (files : Table String String) :
    ∃ after : Tree, after.Parted root ∧
      ((∃ failure, (reset hook files).runOn (build, host) =
          (.error failure, { build with tree := after }, host)) ∨
        ∃ paths : List Path, (reset hook files).runOn (build, host) =
          (do
            rebuild hook (!paths.isEmpty)
            pure (paths.map Path.toText)).runOn ({ build with tree := after }, host)) := by
  have present : ∀ build : Build,
      (current : Operation σ Build).runOn (build, host) = (.ok build, build, host) := fun _ => rfl
  rcases Bool.eq_false_or_eq_true build.closed with closed | isOpen
  · refine ⟨build.tree, parted, .inl ⟨failure "build server is closed", ?_⟩⟩
    rw [reset, Action.runOn_bind_error (runOn_ensureOpen_closed closed)]
  · have emptied := runOn_onTree (Tree.reset (sources files)) build host
    have partedMiddle := Tree.keeps_reset (sources files) build.tree parted
    rcases ran : (Tree.reset (sources files)).runOn build.tree with ⟨result, middle⟩
    rw [ran] at emptied partedMiddle
    cases result with
    | error fault => exact ⟨middle, partedMiddle, .inl ⟨_, runOn_reset_failed isOpen ran⟩⟩
    | ok changed =>
        obtain ⟨after, result, partedAfter, restored⟩ := restore_cases
          { build with tree := middle } host partedMiddle build.keptOutput
        refine ⟨after, partedAfter, ?_⟩
        cases result with
        | error failure =>
            refine .inl ⟨failure, ?_⟩
            rw [reset, Action.runOn_bind_ok (runOn_ensureOpen isOpen),
              Action.runOn_bind_ok (present build), Action.runOn_bind_ok emptied,
              Action.runOn_bind_error restored]
        | ok _ =>
            have root := partedAfter.given.trans parted.given.symm
            exact .inr ⟨_, runOn_reset_ok isOpen ran restored root⟩

/-- A batch of changes is made and comes to its rebuild, or is refused before. -/
theorem writeFiles_cases (hook : RebuildHook σ) (build : Build) (host : σ)
    (parted : build.tree.Parted root) (changes : Changes) :
    ∃ after : Tree, after.Parted root ∧
      ((∃ failure, (writeFiles hook changes).runOn (build, host) =
          (.error failure, { build with tree := after }, host)) ∨
        Applied build.tree changes.entries after ∧
          (writeFiles hook changes).runOn (build, host) =
            (rebuild hook
              (changes.entries.any fun change => differs build.tree change.1 change.2)).runOn
                ({ build with tree := after }, host)) := by
  have present : (current : Operation σ Build).runOn (build, host) = (.ok build, build, host) := rfl
  rcases Bool.eq_false_or_eq_true build.closed with closed | isOpen
  · refine ⟨build.tree, parted, .inl ⟨failure "build server is closed", ?_⟩⟩
    rw [writeFiles, Action.runOn_bind_error (runOn_ensureOpen_closed closed)]
  · obtain ⟨after, partedAfter, made⟩ := applyEach_cases build host parted changes.entries
    refine ⟨after, partedAfter, ?_⟩
    rw [writeFiles, Action.runOn_bind_ok (runOn_ensureOpen isOpen), Action.runOn_bind_ok present]
    rcases made with ⟨failure, failed⟩ | ⟨ran, applied⟩
    · exact .inl ⟨failure, Action.runOn_bind_error failed _⟩
    · exact .inr ⟨applied, Action.runOn_bind_ok ran _⟩

/-- A batch of changes that has been made is read back, whatever directories the rebuild makes. -/
theorem Applied.tookEffect {tree middle after : Tree} {changes : Changes}
    (applied : Applied tree changes.entries middle) (apart : LeadApart tree changes.entries)
    (given : tree.root = root) (parted : after.Parted root) (files : after.files = middle.files) :
    TookEffect tree changes after := by
  have root := parted.given.trans given.symm
  constructor
  · intro key text wanted
    have listed := Table.find?_eq_some_iff.1 wanted
    obtain ⟨path, leads⟩ := applied.resolves _ listed
    have found := applied.changed apart _ listed path leads
    have answer := parted.toOption_read ((Tree.resolve_congr root _).trans leads)
    rw [files, found] at answer
    cases read : after.read (sourcePath key) with
    | error fault => rw [read] at answer; cases answer
    | ok contents => rw [read] at answer; exact congrArg _ (Option.some.inj answer)
  · intro key wanted
    have listed := Table.find?_eq_some_iff.1 wanted
    obtain ⟨path, leads⟩ := applied.resolves _ listed
    refine ⟨path, leads, ?_⟩
    rw [files, Table.contains, applied.changed apart _ listed path leads]
    rfl
  · intro path untouched
    rw [files]
    apply applied.others path
    intro change listed
    exact untouched change.1 (List.mem_map_of_mem listed)

/-- A call has rebuilt, and one line reports it. -/
structure Rebuild.Reported (config : Config) (rebuild : Rebuild σ) (line : String) : Prop where
  console : rebuild.after.1.console = rebuild.before.1.console ++
    ((if rebuild.before.1.console.isEmpty then [config.readyMessage] else []) ++ [line])
  told : rebuild.Told config line

/-- What a call comes to: it rebuilds and reports that, or it leaves the console as it is. -/
structure Comes (config : Config) (call : Call) (before : Build × σ)
    (outcome : Except Failure (List String) × (Build × σ)) : Prop where
  serves : Serves config outcome.2.1
  console : rebuild? call before outcome = none ∧ outcome.2.1.console = before.1.console ∨
    ∃ rebuild line, rebuild? call before outcome = some rebuild ∧ rebuild.before = before ∧
      rebuild.after = outcome.2 ∧ rebuild.Reported config line

/-- A call that is refused before it rebuilds. -/
theorem comes_refused (serves : Serves config build) (call : Call) {tree : Tree}
    (parted : tree.Parted config.appDirectory) (failure : Failure) :
    Comes config call (build, host) (.error failure, { build with tree }, host) where
  serves := ⟨serves.ready, serves.done, serves.nothingChanged, parted⟩
  console := .inl ⟨rfl, rfl⟩

/-- A call that does nothing but rebuild behind some changes of the tree. -/
theorem comes_rebuild (still : hook.Still) (serves : Serves config build) (call : Call)
    {middle : Tree} (parted : middle.Parted config.appDirectory) {changed : Bool}
    {answer : List String}
    (told : ∀ (after : Build) (new : σ), after.tree.files = middle.files →
      Rebuild.Told config ⟨call, (build, host), answer, (after, new)⟩
        (if changed then config.doneMessage else config.nothingChangedMessage)) :
    Comes config call (build, host)
      ((do rebuild hook changed; pure answer : Operation σ (List String)).runOn
        ({ build with tree := middle }, host)) := by
  obtain ⟨after, new, partedAfter, files, ⟨failure, failed⟩ | ran⟩ :=
    rebuild_cases { build with tree := middle } host still parted changed
  · rw [Action.runOn_bind_error failed]
    exact ⟨⟨serves.ready, serves.done, serves.nothingChanged, partedAfter⟩, .inl ⟨rfl, rfl⟩⟩
  · rw [Action.runOn_bind_ok ran]
    refine ⟨⟨serves.ready, serves.done, serves.nothingChanged, partedAfter⟩, .inr ⟨_, _,
      if_neg (Nat.succ_ne_self _), rfl, rfl, ?_, told _ _ files⟩⟩
    show build.console ++ statusLines _ changed = _
    rw [statusLines, serves.ready, serves.done, serves.nothingChanged]

/-- The line of a rebuild says that it is done exactly when something has changed. -/
theorem line_eq_done_iff (different : config.doneMessage ≠ config.nothingChangedMessage)
    (changed : Bool) :
    (if changed then config.doneMessage else config.nothingChangedMessage) = config.doneMessage ↔
      changed = true := by
  cases changed <;> simp [different.symm]

/-- **What a call comes to.** -/
theorem comes_perform (host : σ) (still : hook.Still)
    (different : config.doneMessage ≠ config.nothingChangedMessage)
    (serves : Serves config build) (call : Call) :
    Comes config call (build, host) ((call.perform hook).runOn (build, host)) := by
  cases call with
  | reset files =>
      obtain ⟨middle, parted, ⟨failure, failed⟩ | ⟨paths, ran⟩⟩ :=
        reset_cases hook build host serves.parted files
      · rw [Call.perform, failed]
        exact comes_refused serves _ parted failure
      · rw [Call.perform, ran]
        apply comes_rebuild still serves _ parted
        intro after new _
        refine ⟨by grind, ?_, nofun, nofun⟩
        intro _ _
        rw [line_eq_done_iff different]
        simp
  | writeFiles changes =>
      obtain ⟨middle, parted, ⟨failure, failed⟩ | ⟨applied, ran⟩⟩ :=
        writeFiles_cases hook build host serves.parted changes
      · rw [Call.perform, Action.runOn_bind_error failed]
        exact comes_refused serves _ parted failure
      · rw [Call.perform, Action.runOn_bind, ran, ← Action.runOn_bind]
        apply comes_rebuild still serves _ parted
        intro after new files
        refine ⟨by grind, nofun, nofun, ?_⟩
        rintro changes ⟨⟩ apart
        rw [line_eq_done_iff different, files]
        exact any_differs_iff serves.parted applied apart
  | wait what =>
      rcases Bool.eq_false_or_eq_true build.closed with closed | isOpen
      · rw [Call.perform, Build.wait, Action.runOn_bind_error
          (Action.runOn_bind_error (runOn_ensureOpen_closed closed) _)]
        exact comes_refused serves _ serves.parted _
      · have waits : (Build.wait hook what).runOn (build, host) =
            (if what = "rebuild" then rebuild hook false
              else if what = "idle" then pure ()
              else throw (failure ("unknown wait condition '" ++ what ++ "'"))).runOn
                (build, host) := by
          rw [Build.wait, Action.runOn_bind_ok (runOn_ensureOpen isOpen)]
        rw [Call.perform, Action.runOn_bind, waits, ← Action.runOn_bind]
        split
        · apply comes_rebuild still serves _ serves.parted
          intro after new _
          exact ⟨.inr rfl, nofun, fun _ _ => rfl, nofun⟩
        · split
          · exact ⟨serves, .inl ⟨if_pos rfl, rfl⟩⟩
          · exact comes_refused serves _ serves.parted _
  | close =>
      exact ⟨⟨serves.ready, serves.done, serves.nothingChanged, serves.parted⟩,
        .inl ⟨if_pos rfl, rfl⟩⟩

/-! ## All calls -/

/-- The console of a server is what has been told of its rebuilds. -/
structure History.Truthful (config : Config) (history : History σ) (lines : List String) :
    Prop where
  serves : Serves config history.state.1
  console : history.state.1.console = if lines.isEmpty then [] else config.readyMessage :: lines
  told : List.Forall₂ (Rebuild.Told config) history.rebuilds lines

/-- A call adds the line of its rebuild. -/
theorem History.Truthful.behind (still : hook.Still)
    (different : config.doneMessage ≠ config.nothingChangedMessage) {history : History σ}
    {lines : List String} (truthful : history.Truthful config lines) (call : Call) :
    ∃ lines, (history.behind hook call).Truthful config lines := by
  obtain ⟨serves, console, told⟩ := truthful
  obtain ⟨servesAfter, ⟨none, silent⟩ | ⟨rebuild, line, some, before, after, reported⟩⟩ :=
    comes_perform history.state.2 still different serves call
  · have same : (history.behind hook call).rebuilds = history.rebuilds := by
      show _ ++ (rebuild? call history.state _).toList = _
      rw [none]
      exact List.append_nil _
    exact ⟨lines, servesAfter, silent.trans console, same ▸ told⟩
  · have more : (history.behind hook call).rebuilds = history.rebuilds ++ [rebuild] := by
      show _ ++ (rebuild? call history.state _).toList = _
      rw [some]
      rfl
    refine ⟨lines ++ [line], servesAfter, ?_, ?_⟩
    · have shows := reported.console
      rw [before, after] at shows
      refine shows.trans ?_
      rw [console]
      cases lines <;> rfl
    · rw [more]
      exact List.rel_append told (.cons reported.told .nil)

theorem exists_truthful (made : ofConfig config = .ok build) (still : hook.Still)
    (different : config.doneMessage ≠ config.nothingChangedMessage) (host : σ)
    (calls : List Call) :
    ∃ lines, (history hook (build, host) calls).Truthful config lines := by
  induction calls using List.reverseRecOn with
  | nil =>
      obtain ⟨serves, empty⟩ := serves_ofConfig made
      exact ⟨[], serves, empty, .nil⟩
  | append_singleton calls call ih =>
      obtain ⟨lines, truthful⟩ := ih
      rw [history, List.foldl_append]
      exact truthful.behind still different call

/-- A batch of changes that succeeds has taken effect, and the last line of the console says whether
it has changed the files. -/
theorem writeFiles_reported (still : hook.Still)
    (different : config.doneMessage ≠ config.nothingChangedMessage)
    (serves : Serves config build) {changes : Changes} {after : Build × σ}
    (ran : (writeFiles hook changes).runOn (build, host) = (.ok (), after))
    (apart : LeadApart build.tree changes.entries) :
    TookEffect build.tree changes after.1.tree ∧
      ∃ line, after.1.console.getLast? = some line ∧
        (line = config.doneMessage ∨ line = config.nothingChangedMessage) ∧
        (line = config.doneMessage ↔ after.1.tree.files ≠ build.tree.files) := by
  obtain ⟨middle, parted, ⟨failure, failed⟩ | ⟨applied, goes⟩⟩ :=
    writeFiles_cases hook build host serves.parted changes
  · exact nomatch (Prod.mk.inj (failed.symm.trans ran)).1
  · rw [goes] at ran
    obtain ⟨tree, new, partedAfter, files, ⟨failure, failed⟩ | rebuilt⟩ :=
      rebuild_cases { build with tree := middle } host still parted
        (changes.entries.any fun change => differs build.tree change.1 change.2)
    · exact nomatch (Prod.mk.inj (failed.symm.trans ran)).1
    · obtain rfl := (Prod.mk.inj (rebuilt.symm.trans ran)).2
      refine ⟨applied.tookEffect apart serves.parted.given partedAfter files,
        if (changes.entries.any fun change => differs build.tree change.1 change.2) then
          config.doneMessage
        else
          config.nothingChangedMessage, ?_, ?_, ?_⟩
      · show (build.console ++ statusLines _ _).getLast? = _
        rw [statusLines, serves.done, serves.nothingChanged, ← List.append_assoc,
          List.getLast?_concat]
      · grind
      · rw [line_eq_done_iff different, files]
        exact any_differs_iff serves.parted applied apart

/-- **Changes take effect, and the console tells the truth.** The console is empty as long as no
rebuild has succeeded. Then it holds the line that announces the first one, and behind it one line
for each successful rebuild, in order. Whenever a batch of changes succeeds whose keys lead to
different paths, every file that it writes is read back, every file that it removes is gone, and all
other files are what they were. Its line says that it is done exactly when some file is not what it
was before. -/
theorem console_truthful (made : ofConfig config = .ok build) (still : hook.Still)
    (different : config.doneMessage ≠ config.nothingChangedMessage) (host : σ)
    (calls : List Call) :
    (∃ lines : List String,
      (history hook (build, host) calls).state.1.console =
        (if lines.isEmpty then [] else config.readyMessage :: lines) ∧
      List.Forall₂ (Rebuild.Told config) (history hook (build, host) calls).rebuilds lines) ∧
    ∀ changes after,
      (writeFiles hook changes).runOn (history hook (build, host) calls).state = (.ok (), after) →
      LeadApart (history hook (build, host) calls).state.1.tree changes.entries →
        TookEffect (history hook (build, host) calls).state.1.tree changes after.1.tree ∧
        ∃ line, after.1.console.getLast? = some line ∧
          (line = config.doneMessage ∨ line = config.nothingChangedMessage) ∧
          (line = config.doneMessage ↔
            after.1.tree.files ≠ (history hook (build, host) calls).state.1.tree.files) := by
  obtain ⟨lines, serves, console, told⟩ := exists_truthful made still different host calls
  refine ⟨⟨lines, console, told⟩, ?_⟩
  intro changes after ran apart
  exact writeFiles_reported still different serves ran apart

/-! A rebuild that makes the directory of the built output, and fails as long as a source is
marked as broken. -/

def checking : RebuildHook Unit :=
  Action.ofRun fun (tree, host) =>
    match (Tree.makeDirectory "public").runOn tree with
    | (.error fault, after) => (.error fault.message, after, host)
    | (.ok _, after) =>
        if (after.read "src/broken.js").toOption.isSome then (.error "broken source", after, host)
        else (.ok (), after, host)

theorem still_checking : checking.Still := by
  have leaves : ∀ tree host, (checking.runOn (tree, host)).2.1 =
      ((Tree.makeDirectory "public").runOn tree).2 := by
    intro tree host
    simp only [checking, Action.runOn_ofRun]
    split
    · rename_i ran
      rw [ran]
    · rename_i ran
      rw [ran]
      split <;> rfl
  constructor
  · intro tree host
    exact ⟨[.makeDirectory "public"], leaves tree host⟩
  · intro tree host
    rw [leaves, Tree.files_makeDirectory]

/-- The server of the default configuration, whose root is relative. -/
def plainServer : Build where
  tree := { root := "app" }
  fastReset := true
  readyMessage := "[HMR] Enabled"
  doneMessage := "[HMR] Up to date"
  nothingChangedMessage := "[HMR] Nothing changed"

/-- The first rebuild fails. The mark is removed, and then nothing changes. A write above the root
is refused. -/
def checkedCalls : List Call :=
  [.writeFiles (Table.ofList [("broken.js", .write ""), ("main.js", .write "old")]),
    .writeFiles (Table.ofList [("broken.js", .remove)]),
    .writeFiles (Table.ofList [("gone.js", .remove), ("main.js", .write "old")]),
    .writeFiles (Table.ofList [("../../../main.js", .write "new")]),
    .wait "rebuild"]

/-- A file is swapped for another one. -/
def swap : Changes :=
  Table.ofList [("a.js", .write "new"), ("main.js", .remove)]

/-- Three of five rebuilds have succeeded, and a fourth one follows. -/
theorem console_truthful_checking :
    ofConfig {} = .ok plainServer ∧ checking.Still ∧
      plainServer.doneMessage ≠ plainServer.nothingChangedMessage ∧
      (history checking (plainServer, ()) checkedCalls).state.1.console =
        ["[HMR] Enabled", "[HMR] Up to date", "[HMR] Nothing changed", "[HMR] Nothing changed"] ∧
      (history checking (plainServer, ()) checkedCalls).rebuilds.length = 3 ∧
      LeadApart (history checking (plainServer, ()) checkedCalls).state.1.tree swap.entries ∧
      ∃ after,
        (writeFiles checking swap).runOn (history checking (plainServer, ()) checkedCalls).state =
          (.ok (), after) ∧
        after.1.tree.read "src/a.js" = .ok "new" ∧
        after.1.console.getLast? = some "[HMR] Up to date" ∧
        after.1.tree.files ≠
          (history checking (plainServer, ()) checkedCalls).state.1.tree.files := by
  have made : ofConfig {} = .ok plainServer := rfl
  have different : plainServer.doneMessage ≠ plainServer.nothingChangedMessage := by decide
  have shown : (history checking (plainServer, ()) checkedCalls).state.1.console =
      ["[HMR] Enabled", "[HMR] Up to date", "[HMR] Nothing changed", "[HMR] Nothing changed"] := by
    decide +kernel
  have apart :
      LeadApart (history checking (plainServer, ()) checkedCalls).state.1.tree swap.entries := by
    have entries : swap.entries = [("a.js", .write "new"), ("main.js", .remove)] := rfl
    have elsewhere :
        (history checking (plainServer, ()) checkedCalls).state.1.tree.resolve (sourcePath "a.js") ≠
          (history checking (plainServer, ()) checkedCalls).state.1.tree.resolve
            (sourcePath "main.js") := by
      decide +kernel
    rw [entries, LeadApart, List.pairwise_pair]
    intro path leads other
    exact elsewhere (leads.trans other.symm)
  obtain ⟨⟨lines, console, told⟩, takes⟩ :=
    console_truthful made still_checking different () checkedCalls
  refine ⟨made, still_checking, different, shown, ?_, apart, ?_⟩
  · rw [told.length_eq]
    rw [shown] at console
    split at console
    · cases console
    · rw [← (List.cons.inj console).2]
      rfl
  · have fine : ((writeFiles checking swap).runOn
        (history checking (plainServer, ()) checkedCalls).state).1.isOk = true := by
      decide +kernel
    have updated : ((writeFiles checking swap).runOn
        (history checking (plainServer, ()) checkedCalls).state).2.1.console.getLast? =
          some plainServer.doneMessage := by
      decide +kernel
    rcases ran : (writeFiles checking swap).runOn
      (history checking (plainServer, ()) checkedCalls).state with ⟨_ | ⟨⟩, after⟩
    · rw [ran] at fine
      cases fine
    · rw [ran] at updated
      obtain ⟨effect, line, last, -, done⟩ := takes swap after ran apart
      obtain rfl := Option.some.inj (last.symm.trans updated)
      exact ⟨after, rfl, effect.written "a.js" "new" (by decide +kernel), updated, done.1 rfl⟩

end Build

end HotReload
