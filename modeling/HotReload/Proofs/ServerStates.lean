import HotReload.Proofs.ManyFiles
import HotReload.Proofs.ServedFiles

/-!
# What a build server can come to

A build server changes its file tree by the operations of the tree alone, and so does a rebuild. So
the tree of a server is one that operations have led to (`Build.Reached.reachable`), whatever has
been asked of the server and whatever has failed. In such a tree every file lies where its own path
leads to (`Tree.Reachable.resolve_toText`), so that files can be taken out of a tree and written
back.

A rebuild counts in any case, and adds its lines to the console when its hook succeeds
(`Build.runOn_rebuild_ok`). A reset empties the tree, writes the sources and then the built output
that it keeps. The output is only written when all sources are (`Build.runOn_reset_ok`), else the
reset ends with what is written (`Build.runOn_reset_failed`).
-/

set_option autoImplicit false

namespace HotReload

/-! ## What actions keep -/

namespace Action

variable {σ ε α β : Type} {holds : σ → Prop}

/-- Whatever an action comes to, it keeps a property of the state. -/
def Keeps (holds : σ → Prop) (action : Action σ ε α) : Prop :=
  ∀ state, holds state → holds (action.runOn state).2

theorem keeps_pure (answer : α) : Keeps holds (pure answer : Action σ ε α) := by
  intro state before
  exact before

theorem keeps_throw (failure : ε) : Keeps holds (throw failure : Action σ ε α) := by
  intro state before
  exact before

theorem keeps_get : Keeps holds (get : Action σ ε σ) := by
  intro state before
  exact before

theorem keeps_modify {change : σ → σ} (kept : ∀ state, holds state → holds (change state)) :
    Keeps holds (modify change : Action σ ε Unit) := by
  intro state before
  exact kept state before

theorem Keeps.attempt {action : Action σ ε α} (keeps : Keeps holds action) :
    Keeps holds action.attempt := by
  intro state before
  exact keeps state before

theorem Keeps.bind {first : Action σ ε α} {next : α → Action σ ε β} (keeps : Keeps holds first)
    (later : ∀ answer, Keeps holds (next answer)) : Keeps holds (first >>= next) := by
  intro state before
  have middle := keeps state before
  rcases ran : first.runOn state with ⟨result, after⟩
  rw [ran] at middle
  cases result with
  | error failure =>
      rw [runOn_bind_error ran]
      exact middle
  | ok answer =>
      rw [runOn_bind_ok ran]
      exact later answer after middle

end Action

namespace Files.Tree

variable {tree : Tree} {path : Path} {text root : String}

/-! ## Trees that operations lead to -/

theorem Founded.files_makeDirectory (founded : tree.Founded root) (text : String) :
    ((makeDirectory text).runOn tree).2.files = tree.files := by
  cases resolved : tree.resolve text with
  | error fault => rw [runOn_makeDirectory_refused resolved]
  | ok path =>
      rw [runOn_makeDirectory resolved]
      exact (made_makeAll founded.rootPath_ne_nil path).files

/-- Removing a file puts no other file into the tree. -/
theorem stood_of_remove (stands : ((remove text).runOn tree).2.files.contains path = true) :
    tree.files.contains path = true := by
  cases resolved : tree.resolve text with
  | error fault =>
      rw [runOn_remove_refused resolved] at stands
      exact stands
  | ok place =>
      rw [runOn_remove resolved] at stands
      split at stands
      · exact ((contains_withoutFile tree place path).1 stands).1
      · exact stands

/-- A tree that operations have led to, from an empty one whose root is absolute and never goes
up. -/
inductive Reachable : Tree → Prop
  | empty {root : String} (rooted : ({ root } : Tree).Rooted) : Reachable { root }
  | access {tree : Tree} (reachable : Reachable tree) (access : Access) :
      Reachable (access.leaves tree)

namespace Reachable

theorem orderly (reachable : Reachable tree) : tree.Orderly tree.root := by
  induction reachable with
  | empty rooted => exact orderly_afterAll rooted []
  | @access tree _ access before =>
      have after := (invariant_orderly tree.root).leaves before access
      rw [after.founded.given]
      exact after

theorem founded (reachable : Reachable tree) : tree.Founded tree.root :=
  reachable.orderly.founded

/-- Every file is there by some name. -/
theorem exists_name (reachable : Reachable tree) (stands : tree.files.contains path = true) :
    ∃ text, tree.resolve text = .ok path := by
  induction reachable generalizing path with
  | empty rooted => exact nomatch stands
  | @access tree reachable access ih =>
      have founded := reachable.founded
      have root := ((invariant_orderly tree.root).leaves reachable.orderly access).founded.given
      suffices ∃ text, tree.resolve text = .ok path by
        obtain ⟨text, leads⟩ := this
        exact ⟨text, (resolve_congr root text).trans leads⟩
      cases access with
      | read | stat => exact ih stands
      | write text contents =>
          rcases founded.stored_of_write text contents stands with old | leads
          · exact ih old
          · exact ⟨text, leads⟩
      | makeDirectory text =>
          apply ih
          rw [← founded.files_makeDirectory text]
          exact stands
      | remove text =>
          apply ih
          exact stood_of_remove stands
      | reset files =>
          obtain ⟨changed, same⟩ := leaves_reset tree files
          rw [same] at stands
          rcases founded.blank.stored_of_writeEach changed stands with old | ⟨file, -, leads⟩
          · exact nomatch old
          · exact ⟨file.1, leads⟩

/-- **A file of a tree lies where its own path, written out, leads to.** -/
theorem resolve_toText (reachable : Reachable tree) (stands : tree.files.contains path = true) :
    tree.resolve path.toText = .ok path := by
  obtain ⟨text, leads⟩ := reachable.exists_name stands
  exact reachable.founded.resolve_toText leads

end Reachable

/-- A reset empties the tree and writes its files. -/
theorem runOn_reset (tree : Tree) (files : Table String String) :
    (reset files).runOn tree =
      (((writeEach (tree.files.mapValues fun _ _ => ()) files.entries).runOn
          { root := tree.root }).1.map Table.keys,
        ((writeEach (tree.files.mapValues fun _ _ => ()) files.entries).runOn
          { root := tree.root }).2) := by
  rw [reset, Action.runOn_bind_ok (Action.runOn_get tree),
    Action.runOn_bind_ok (Action.runOn_set _ tree), Action.runOn_bind]
  rcases (writeEach (tree.files.mapValues fun _ _ => ()) files.entries).runOn
    { root := tree.root } with ⟨result, after⟩
  cases result with
  | error fault => rfl
  | ok changed => rfl

end Files.Tree

open Files (Fault Path Tree)

variable {σ α : Type}

/-- A rebuild that leaves no tree but those that operations can lead to. -/
def RebuildHook.Lawful (hook : RebuildHook σ) : Prop :=
  Action.Keeps (fun part => part.1.Reachable) hook

namespace Build

variable {hook : RebuildHook σ} {build : Build} {host : σ}

/-! ## Trees of a server -/

/-- The server has a tree that operations have led to. -/
def Settled (state : Build × σ) : Prop :=
  state.1.tree.Reachable

theorem runOn_onTree (operation : Tree.Operation α) (build : Build) (host : σ) :
    (onTree operation).runOn (build, host) =
      ((operation.runOn build.tree).1.mapError faultFailure,
        { build with tree := (operation.runOn build.tree).2 }, host) := rfl

theorem keeps_onTree {operation : Tree.Operation α}
    (keeps : Action.Keeps Tree.Reachable operation) :
    Action.Keeps Settled (onTree operation : Operation σ α) := by
  intro state before
  exact keeps state.1.tree before

theorem keeps_revise {change : Build → Build} (same : ∀ build, (change build).tree = build.tree) :
    Action.Keeps Settled (revise change : Operation σ Unit) := by
  apply Action.keeps_modify
  intro state before
  unfold Settled
  rw [same]
  exact before

theorem keeps_current : Action.Keeps Settled (current : Operation σ Build) :=
  Action.keeps_get.bind fun _ => Action.keeps_pure _

theorem keeps_ensureOpen : Action.Keeps Settled (ensureOpen : Operation σ Unit) := by
  apply keeps_current.bind
  intro build
  split
  · exact Action.keeps_throw _
  · exact Action.keeps_pure _

theorem keeps_rebuild (lawful : hook.Lawful) (changed : Bool) :
    Action.Keeps Settled (rebuild hook changed) := by
  apply Action.Keeps.bind
  · exact keeps_revise fun _ => rfl
  · intro _
    apply Action.Keeps.bind
    · intro state before
      exact lawful (state.1.tree, state.2) before
    · intro _
      exact keeps_revise fun _ => rfl

theorem keeps_write (text contents : String) :
    Action.Keeps Tree.Reachable (Tree.write text contents) :=
  fun _ before => before.access (.write text contents)

theorem keeps_restore (kept : List (Path × String)) :
    Action.Keeps Settled (restore kept : Operation σ Unit) := by
  induction kept with
  | nil => exact Action.keeps_pure _
  | cons file rest ih =>
      apply (keeps_onTree (keeps_write _ _)).bind
      intro _
      exact ih

theorem keeps_reset (lawful : hook.Lawful) (files : Table String String) :
    Action.Keeps Settled (reset hook files) := by
  apply keeps_ensureOpen.bind
  intro _
  apply keeps_current.bind
  intro build
  apply (keeps_onTree fun tree before => before.access (.reset (sources files))).bind
  intro changed
  apply (keeps_restore _).bind
  intro _
  apply keeps_current.bind
  intro build
  apply (keeps_rebuild lawful _).bind
  intro _
  exact Action.keeps_pure _

theorem keeps_apply (path : String) (change : FileChange) :
    Action.Keeps Settled (apply path change : Operation σ Unit) := by
  cases change with
  | write text => exact keeps_onTree (keeps_write _ _)
  | remove =>
      apply (keeps_onTree (Action.Keeps.attempt ?_)).bind
      · intro result
        split
        · exact Action.keeps_pure _
        · exact Action.keeps_pure _
        · exact Action.keeps_throw _
      · intro tree before
        exact before.access (.remove (sourcePath path))

theorem keeps_applyEach (changes : List (String × FileChange)) :
    Action.Keeps Settled (applyEach changes : Operation σ Unit) := by
  induction changes with
  | nil => exact Action.keeps_pure _
  | cons change rest ih =>
      apply (keeps_apply change.1 change.2).bind
      intro _
      exact ih

theorem keeps_writeFiles (lawful : hook.Lawful) (changes : Changes) :
    Action.Keeps Settled (writeFiles hook changes) := by
  apply keeps_ensureOpen.bind
  intro _
  apply keeps_current.bind
  intro build
  apply (keeps_applyEach _).bind
  intro _
  exact keeps_rebuild lawful _

theorem keeps_wait (lawful : hook.Lawful) (what : String) :
    Action.Keeps Settled (wait hook what) := by
  apply keeps_ensureOpen.bind
  intro _
  split
  · exact keeps_rebuild lawful false
  · split
    · exact Action.keeps_pure _
    · exact Action.keeps_throw _

/-! ## States of a server -/

/-- What a server for a configuration can come to. It may have another rebuild each time, and what
the rebuilds know of the host may change in between. -/
inductive Reached (config : Config) : Build × σ → Prop
  | start {build : Build} (host : σ) (made : ofConfig config = .ok build) :
      Reached config (build, host)
  | host {build : Build} {old : σ} (reached : Reached config (build, old)) (new : σ) :
      Reached config (build, new)
  | reset {state : Build × σ} (reached : Reached config state) {hook : RebuildHook σ}
      (lawful : hook.Lawful) (files : Table String String) :
      Reached config ((reset hook files).runOn state).2
  | writeFiles {state : Build × σ} (reached : Reached config state) {hook : RebuildHook σ}
      (lawful : hook.Lawful) (changes : Changes) :
      Reached config ((writeFiles hook changes).runOn state).2
  | wait {state : Build × σ} (reached : Reached config state) {hook : RebuildHook σ}
      (lawful : hook.Lawful) (what : String) : Reached config ((wait hook what).runOn state).2
  | close {build : Build} {host : σ} (reached : Reached config (build, host)) :
      Reached config (close build, host)

/-- **The tree of a server is one that operations have led to.** -/
theorem Reached.reachable {config : Config} {state : Build × σ} (reached : Reached config state)
    (rooted : ({ root := config.appDirectory } : Tree).Rooted) : state.1.tree.Reachable := by
  induction reached with
  | start host made =>
      unfold ofConfig at made
      split at made
      · cases made
      · obtain rfl := Except.ok.inj made
        exact .empty rooted
  | host _ _ ih => exact ih
  | reset _ lawful files ih => exact keeps_reset lawful files _ ih
  | writeFiles _ lawful changes ih => exact keeps_writeFiles lawful changes _ ih
  | wait _ lawful what ih => exact keeps_wait lawful what _ ih
  | close _ ih => exact ih

/-! ## A rebuild -/

section Rebuild

variable {after : Tree} {new : σ}

theorem runOn_runHook (hook : RebuildHook σ) (build : Build) (host : σ) :
    (runHook hook).runOn (build, host) =
      ((hook.runOn (build.tree, host)).1.mapError failure,
        { build with tree := (hook.runOn (build.tree, host)).2.1 },
        (hook.runOn (build.tree, host)).2.2) := rfl

theorem runOn_revise (change : Build → Build) (build : Build) (host : σ) :
    (revise change : Operation σ Unit).runOn (build, host) = (.ok (), change build, host) := rfl

theorem runOn_rebuild_ok (ran : hook.runOn (build.tree, host) = (.ok (), after, new))
    (changed : Bool) :
    (rebuild hook changed).runOn (build, host) =
      (.ok (), { build with
        tree := after
        builds := build.builds + 1
        console := build.console ++ build.statusLines changed }, new) := by
  have works := runOn_runHook hook { build with builds := build.builds + 1 } host
  rw [ran] at works
  rw [rebuild, Action.runOn_bind_ok (runOn_revise _ _ _), Action.runOn_bind_ok works,
    runOn_revise]
  rfl

theorem runOn_rebuild_error {message : String}
    (ran : hook.runOn (build.tree, host) = (.error message, after, new)) (changed : Bool) :
    (rebuild hook changed).runOn (build, host) =
      (.error (failure message),
        { build with tree := after, builds := build.builds + 1 }, new) := by
  have works := runOn_runHook hook { build with builds := build.builds + 1 } host
  rw [ran] at works
  rw [rebuild, Action.runOn_bind_ok (runOn_revise _ _ _), Action.runOn_bind_error works]

end Rebuild

/-! ## A reset step by step -/

/-- Files of a tree, named by their own paths. -/
def named (kept : List (Path × String)) : List (String × String) :=
  kept.map fun file => (file.1.toText, file.2)

/-- Files are written back one after the other. -/
theorem runOn_restore {root : String} (founded : build.tree.Founded root)
    (kept : List (Path × String)) (changed : Table Path Unit) :
    (restore kept).runOn (build, host) =
      ((((Tree.writeEach changed (named kept)).runOn build.tree).1.map fun _ => ()).mapError
          faultFailure,
        { build with tree := ((Tree.writeEach changed (named kept)).runOn build.tree).2 },
        host) := by
  induction kept generalizing build changed with
  | nil => rfl
  | cons file rest ih =>
      obtain ⟨path, contents⟩ := file
      have step := runOn_onTree (Tree.write path.toText contents) build host
      have after := (founded.step_write path.toText contents).founded founded
      rw [restore, named, List.map_cons, ← named]
      rcases founded.write_result path.toText contents with
        ⟨place, resolved, -, ok, -⟩ | ⟨fault, failed, -, -⟩
      · rw [ok] at step
        rw [Action.runOn_bind_ok step, ih after (changed.insert place ()),
          founded.runOn_writeEach_cons resolved (Prod.fst_eq_iff.1 ok)]
      · rw [failed] at step
        rw [Action.runOn_bind_error step, Tree.writeEach,
          Action.runOn_bind_error (Prod.fst_eq_iff.1 failed)]
        rfl

theorem runOn_ensureOpen (isOpen : build.closed = false) :
    (ensureOpen : Operation σ Unit).runOn (build, host) = (.ok (), build, host) := by
  have present : (current : Operation σ Build).runOn (build, host) = (.ok build, build, host) := rfl
  rw [ensureOpen, Action.runOn_bind_ok present, isOpen]
  rfl

section Reset

variable {files : Table String String} {middle after : Tree} (isOpen : build.closed = false)
include isOpen

/-- When the sources cannot be written, the reset ends there. -/
theorem runOn_reset_failed {fault : Fault}
    (failed : (Tree.reset (sources files)).runOn build.tree = (.error fault, middle)) :
    (reset hook files).runOn (build, host) =
      (.error (faultFailure fault), { build with tree := middle }, host) := by
  have present : (current : Operation σ Build).runOn (build, host) = (.ok build, build, host) := rfl
  have stops := runOn_onTree (Tree.reset (sources files)) build host
  rw [failed] at stops
  rw [reset, Action.runOn_bind_ok (runOn_ensureOpen isOpen), Action.runOn_bind_ok present,
    Action.runOn_bind_error stops]

/-- When the sources are written and the output is written back, the server rebuilds. -/
theorem runOn_reset_ok {changed : List Path}
    (wrote : (Tree.reset (sources files)).runOn build.tree = (.ok changed, middle))
    (restored : (restore build.keptOutput).runOn ({ build with tree := middle }, host) =
      (.ok (), { build with tree := after }, host))
    (root : after.root = build.tree.root) :
    (reset hook files).runOn (build, host) =
      (do
        let paths := changed.filter fun path => !(outputPath build.tree).contains path
        rebuild hook (!paths.isEmpty)
        pure (paths.map Path.toText)).runOn ({ build with tree := after }, host) := by
  have present : ∀ build : Build,
      (current : Operation σ Build).runOn (build, host) = (.ok build, build, host) := fun _ => rfl
  have goes := runOn_onTree (Tree.reset (sources files)) build host
  have output : outputPath after = outputPath build.tree := by
    rw [outputPath, outputPath, root]
  rw [wrote] at goes
  rw [reset, Action.runOn_bind_ok (runOn_ensureOpen isOpen), Action.runOn_bind_ok (present build),
    Action.runOn_bind_ok goes, Action.runOn_bind_ok restored, Action.runOn_bind_ok (present _),
    output]

end Reset

end Build

end HotReload
