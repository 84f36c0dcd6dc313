import HotReload.Proofs.ServerStates

/-!
# Changes that are made one after the other

A batch of changes writes some files and removes others. Here nothing is asked of the root of the
tree, which may be relative or go up: all that counts is that a tree keeps its files and its
directories apart (`Tree.Parted`), so that what is read at a path is the file that stands there.

Every change that is made leaves its wanted text at its path, or no file, and no other file changes
(`Build.apply_cases`). When the keys of a batch lead to different paths, this is true of the batch
(`Build.Applied`). So comparing what is read with what is wanted, before anything is written, tells
whether the batch will change the files (`Build.any_differs_iff`).
-/

set_option autoImplicit false

namespace HotReload

namespace Files

theorem Path.prefix_of_mem_fronts {path front : Path} (mem : front ∈ path.fronts) :
    front <+: path := by
  induction path generalizing front with
  | nil =>
      obtain rfl := List.mem_singleton.1 mem
      exact List.prefix_refl _
  | cons component rest ih =>
      rcases List.mem_append.1 mem with longer | last
      · obtain ⟨front, listed, rfl⟩ := List.mem_map.1 longer
        exact List.cons_prefix_cons.2 ⟨rfl, ih listed⟩
      · obtain rfl := List.mem_singleton.1 last
        exact List.nil_prefix

theorem Path.prefix_of_mem_ancestors {path dir : Path} (mem : dir ∈ path.ancestors) :
    dir <+: path := by
  unfold ancestors at mem
  split at mem
  · exact prefix_of_mem_fronts ((List.dropLast_sublist _).mem mem)
  · exact prefix_of_mem_fronts mem

/-- A path does not lie in itself. -/
theorem Path.not_mem_ancestors_of_parent {path dir : Path} (parent : path.parent? = some dir) :
    path ∉ dir.ancestors := by
  intro mem
  have short := (prefix_of_mem_ancestors mem).length_le
  unfold parent? at parent
  split at parent
  · cases parent
  · cases parent
  · rename_i none _
    obtain rfl := Option.some.inj parent
    have some : path ≠ [] := by
      rintro rfl
      exact none rfl
    have long := List.length_pos_of_ne_nil some
    rw [List.length_dropLast] at short
    omega

namespace Tree

variable {tree after : Tree} {root text : String} {path : Path}

/-! ## Files and directories apart -/

/-- A tree with a given root, in which no path is both a file and a directory. -/
structure Parted (root : String) (tree : Tree) : Prop where
  given : tree.root = root
  apart : ∀ path, tree.files.contains path = true → tree.hasDirectory path = false

theorem parted_new (root : String) : ({ root } : Tree).Parted root where
  given := rfl
  apart _ stands := nomatch stands

/-- What reading answers is the file that stands at the path, if one does. -/
theorem Parted.toOption_read (parted : tree.Parted root) (resolved : tree.resolve text = .ok path) :
    (tree.read text).toOption = tree.files.find? path := by
  rw [read, resolved]
  cases found : tree.files.find? path with
  | none =>
      cases directory : tree.hasDirectory path <;>
        simp [bind, Except.bind, directory, found] <;> rfl
  | some contents =>
      have free : tree.hasDirectory path = false := by
        apply parted.apart
        rw [Table.contains, found]
        rfl
      simp [bind, Except.bind, free, found]
      rfl

/-- A name is only refused because it leads out of the root. -/
theorem fault_of_resolve {fault : Fault} (refused : tree.resolve text = .error fault) :
    fault = .outsideRoot text := by
  simp only [resolve] at refused
  generalize Path.normal _ = full at refused
  split at refused
  · cases refused
  · exact (Except.error.inj refused).symm

/-- Some of the paths that no file barred have become directories, and nothing else has changed. -/
structure Spread (tree : Tree) (paths : List Path) (after : Tree) : Prop where
  root : after.root = tree.root
  files : after.files = tree.files
  directories : ∀ path, after.hasDirectory path = true →
    tree.hasDirectory path = true ∨ path ∈ paths ∧ tree.files.contains path = false

theorem Spread.refl (tree : Tree) (paths : List Path) : tree.Spread paths tree where
  root := rfl
  files := rfl
  directories _ directory := .inl directory

theorem spread_makeEach (tree : Tree) (paths : List Path) :
    tree.Spread paths ((makeEach paths).runOn tree).2 := by
  induction paths generalizing tree with
  | nil => exact .refl tree []
  | cons first above ih =>
      rw [runOn_makeEach_cons]
      split
      · split
        · exact .refl tree _
        · rename_i free
          obtain ⟨root, files, directories⟩ := ih (tree.withDirectory first)
          refine ⟨root, files, ?_⟩
          intro path directory
          rcases directories path directory with old | ⟨mem, clear⟩
          · rcases (hasDirectory_withDirectory tree first path).1 old with older | rfl
            · exact .inl older
            · exact .inr ⟨List.mem_cons_self, Bool.eq_false_iff.2 free⟩
          · exact .inr ⟨List.mem_cons_of_mem _ mem, clear⟩
      · exact .refl tree _

theorem Spread.parted {paths : List Path} (parted : tree.Parted root)
    (spread : tree.Spread paths after) : after.Parted root where
  given := spread.root.trans parted.given
  apart path stands := by
    rw [spread.files] at stands
    apply Bool.eq_false_iff.2
    intro directory
    rcases spread.directories path directory with old | ⟨-, clear⟩
    · exact Bool.false_ne_true ((parted.apart path stands).symm.trans old)
    · exact Bool.false_ne_true (clear.symm.trans stands)

/-- **What writing a file comes to**: some directories are made, and behind them the file, if
nothing has been refused by then. -/
theorem write_leaves (tree : Tree) (text contents : String) :
    ∃ paths middle, tree.Spread paths middle ∧
      ((∃ fault, (write text contents).runOn tree = (.error fault, middle)) ∨
        ∃ path, tree.resolve text = .ok path ∧ tree.hasDirectory path = false ∧ path ∉ paths ∧
          (write text contents).runOn tree = (.ok (), middle.withFile path contents)) := by
  cases resolved : tree.resolve text with
  | error fault =>
      exact ⟨[], tree, .refl tree [], .inl ⟨fault, runOn_write_refused resolved contents⟩⟩
  | ok path =>
      cases directory : tree.hasDirectory path with
      | true =>
          exact ⟨[], tree, .refl tree [],
            .inl ⟨_, runOn_write_directory resolved directory contents⟩⟩
      | false =>
          have goes : (write text contents).runOn tree =
              (path.parent?.elim (modify (withFile · path contents))
                fun dir => makeAll dir >>= fun _ => modify (withFile · path contents)).runOn
                  tree := by
            rw [write, Action.runOn_bind, runOn_resolved, resolved]
            dsimp only
            rw [Action.runOn_bind_ok (Action.runOn_get tree), directory]
            cases path.parent? <;> rfl
          cases parent : path.parent? with
          | none =>
              rw [parent] at goes
              exact ⟨[], tree, .refl tree [],
                .inr ⟨path, rfl, directory, List.not_mem_nil, goes⟩⟩
          | some dir =>
              rw [parent] at goes
              have spread := spread_makeEach tree dir.ancestors
              have outside := Path.not_mem_ancestors_of_parent parent
              rcases ran : (makeEach dir.ancestors).runOn tree with ⟨result, middle⟩
              rw [ran] at spread
              refine ⟨dir.ancestors, middle, spread, ?_⟩
              cases result with
              | error fault => exact .inl ⟨fault, goes.trans (Action.runOn_bind_error ran _)⟩
              | ok _ =>
                  exact .inr
                    ⟨path, rfl, directory, outside, goes.trans (Action.runOn_bind_ok ran _)⟩

theorem parted_withFile {contents : String} (parted : tree.Parted root)
    (free : tree.hasDirectory path = false) : (tree.withFile path contents).Parted root where
  given := parted.given
  apart other stands := by
    rcases (contains_withFile tree path other contents).1 stands with old | rfl
    · exact parted.apart other old
    · exact free

theorem keeps_write (text contents : String) :
    Action.Keeps (Parted root) (write text contents) := by
  intro tree parted
  obtain ⟨paths, middle, spread, ⟨fault, ran⟩ | ⟨path, -, free, outside, ran⟩⟩ :=
    write_leaves tree text contents
  · rw [ran]
    exact spread.parted parted
  · rw [ran]
    apply parted_withFile (spread.parted parted)
    apply Bool.eq_false_iff.2
    intro directory
    rcases spread.directories path directory with old | ⟨mem, -⟩
    · exact Bool.false_ne_true (free.symm.trans old)
    · exact outside mem

theorem keeps_remove (text : String) : Action.Keeps (Parted root) (remove text) := by
  intro tree parted
  cases resolved : tree.resolve text with
  | error fault =>
      rw [runOn_remove_refused resolved]
      exact parted
  | ok path =>
      rw [runOn_remove resolved]
      split
      · refine ⟨parted.given, ?_⟩
        intro file stands
        exact parted.apart file ((contains_withoutFile tree path file).1 stands).1
      · exact parted

theorem keeps_makeDirectory (text : String) :
    Action.Keeps (Parted root) (makeDirectory text) := by
  intro tree parted
  cases resolved : tree.resolve text with
  | error fault =>
      rw [runOn_makeDirectory_refused resolved]
      exact parted
  | ok path =>
      rw [runOn_makeDirectory resolved]
      exact (spread_makeEach tree path.ancestors).parted parted

theorem files_makeDirectory (tree : Tree) (text : String) :
    ((makeDirectory text).runOn tree).2.files = tree.files := by
  cases resolved : tree.resolve text with
  | error fault => rw [runOn_makeDirectory_refused resolved]
  | ok path =>
      rw [runOn_makeDirectory resolved]
      exact (spread_makeEach tree path.ancestors).files

theorem keeps_resolved (text : String) : Action.Keeps (Parted root) (Tree.resolved text) := by
  intro tree parted
  rw [runOn_resolved]
  exact parted

theorem keeps_writeEach (changed : Table Path Unit) (files : List (String × String)) :
    Action.Keeps (Parted root) (writeEach changed files) := by
  induction files generalizing changed with
  | nil => exact Action.keeps_pure _
  | cons file rest ih =>
      apply (keeps_write file.1 file.2).bind
      intro _
      apply (keeps_resolved file.1).bind
      intro path
      exact ih _

theorem keeps_reset (files : Table String String) : Action.Keeps (Parted root) (reset files) := by
  intro tree parted
  rw [runOn_reset]
  apply keeps_writeEach _ files.entries
  rw [parted.given]
  exact parted_new root

/-- **No operation makes a path both a file and a directory.** -/
theorem Parted.leaves (parted : tree.Parted root) (access : Access) :
    (access.leaves tree).Parted root := by
  cases access with
  | read | stat => exact parted
  | write text contents => exact keeps_write text contents tree parted
  | makeDirectory text => exact keeps_makeDirectory text tree parted
  | remove text => exact keeps_remove text tree parted
  | reset files => exact keeps_reset files tree parted

theorem Parted.afterAll (parted : tree.Parted root) (accesses : List Access) :
    (tree.afterAll accesses).Parted root := by
  induction accesses using List.reverseRecOn with
  | nil => exact parted
  | append_singleton front access ih =>
      rw [afterAll_concat]
      exact ih.leaves access

end Tree

end Files

open Files (Fault Path Tree)

variable {σ : Type}

namespace Build

variable {root : String} {tree after : Tree}

/-! ## One change -/

/-- What making one change comes to: a tree in which the path of the change holds the wanted text,
or no file, and every other path what it held before. A change that is refused may have made
directories. -/
theorem apply_cases (build : Build) (host : σ) (parted : build.tree.Parted root) (path : String)
    (change : FileChange) :
    ∃ after : Tree, after.Parted root ∧
      ((∃ failure, (apply path change).runOn (build, host) =
          (.error failure, { build with tree := after }, host)) ∨
        (apply path change).runOn (build, host) = (.ok (), { build with tree := after }, host) ∧
          ∃ place, build.tree.resolve (sourcePath path) = .ok place ∧
            ∀ other, after.files.find? other =
              if other = place then change.text? else build.tree.files.find? other) := by
  cases change with
  | write text =>
      have wrote := runOn_onTree (Tree.write (sourcePath path) text) build host
      refine ⟨_, Tree.keeps_write (sourcePath path) text build.tree parted, ?_⟩
      obtain ⟨paths, middle, spread, ⟨fault, ran⟩ | ⟨place, resolved, -, -, ran⟩⟩ :=
        Tree.write_leaves build.tree (sourcePath path) text
      · rw [ran] at wrote ⊢
        exact .inl ⟨_, wrote⟩
      · rw [ran] at wrote ⊢
        refine .inr ⟨wrote, place, resolved, ?_⟩
        intro other
        simp only [Tree.withFile, Table.find?_insert, spread.files, FileChange.text?,
          Std.LawfulEqOrd.compare_eq_iff_eq]
  | remove =>
      have kept := Tree.keeps_remove (sourcePath path) build.tree parted
      have tried := runOn_onTree (Action.attempt (Tree.remove (sourcePath path))) build host
      rw [Action.runOn_attempt] at tried
      refine ⟨_, kept, ?_⟩
      cases resolved : build.tree.resolve (sourcePath path) with
      | error fault =>
          rw [Tree.runOn_remove_refused resolved] at tried ⊢
          obtain rfl := Tree.fault_of_resolve resolved
          exact .inl ⟨_, Action.runOn_bind_ok tried _⟩
      | ok place =>
          rw [Tree.runOn_remove resolved] at tried ⊢
          right
          split at tried
          · rename_i stands
            rw [if_pos stands]
            refine ⟨Action.runOn_bind_ok tried _, place, rfl, ?_⟩
            intro other
            exact Tree.find?_withoutFile build.tree place other
          · rename_i gone
            rw [if_neg gone]
            refine ⟨Action.runOn_bind_ok tried _, place, rfl, ?_⟩
            intro other
            split
            · rename_i same
              subst same
              exact Option.not_isSome_iff_eq_none.1 gone
            · rfl

/-! ## A batch of changes -/

/-- The keys of some changes lead to pairwise different paths. -/
def LeadApart (tree : Tree) (changes : List (String × FileChange)) : Prop :=
  changes.Pairwise fun first second => ∀ path,
    tree.resolve (sourcePath first.1) = .ok path → tree.resolve (sourcePath second.1) ≠ .ok path

/-- A batch of changes has been made. Each key leads to a path. Where the keys lead to different
paths, each path holds the wanted text, or no file. All other paths hold what they held before. -/
structure Applied (tree : Tree) (changes : List (String × FileChange)) (after : Tree) : Prop where
  resolves : ∀ change ∈ changes, ∃ path, tree.resolve (sourcePath change.1) = .ok path
  changed : LeadApart tree changes → ∀ change ∈ changes, ∀ path,
    tree.resolve (sourcePath change.1) = .ok path → after.files.find? path = change.2.text?
  others : ∀ path, (∀ change ∈ changes, tree.resolve (sourcePath change.1) ≠ .ok path) →
    after.files.find? path = tree.files.find? path

theorem leadApart_congr (same : after.root = tree.root) (changes : List (String × FileChange)) :
    LeadApart after changes ↔ LeadApart tree changes := by
  simp only [LeadApart, Tree.resolve_congr same]

/-- A change is made, and then the others. -/
theorem Applied.cons {middle : Tree} {key : String} {change : FileChange} {place : Path}
    {rest : List (String × FileChange)} (root : middle.root = tree.root)
    (leads : tree.resolve (sourcePath key) = .ok place)
    (files : ∀ other, middle.files.find? other =
      if other = place then change.text? else tree.files.find? other)
    (applied : Applied middle rest after) : Applied tree ((key, change) :: rest) after := by
  have same := Tree.resolve_congr root
  constructor
  · intro listing listed
    rcases List.mem_cons.1 listed with rfl | later
    · exact ⟨place, leads⟩
    · obtain ⟨path, resolved⟩ := applied.resolves listing later
      exact ⟨path, (same _).symm.trans resolved⟩
  · intro apart listing listed path resolved
    obtain ⟨first, others⟩ := List.pairwise_cons.1 apart
    rcases List.mem_cons.1 listed with rfl | later
    · obtain rfl := Except.ok.inj (leads.symm.trans resolved)
      rw [applied.others place, files, if_pos rfl]
      intro other listed
      rw [same]
      exact first other listed place leads
    · exact applied.changed ((leadApart_congr root rest).2 others) listing later path
        ((same _).trans resolved)
  · intro path untouched
    obtain ⟨first, later⟩ := List.forall_mem_cons.1 untouched
    rw [applied.others path, files, if_neg]
    · rintro rfl
      exact first leads
    · intro other listed
      rw [same]
      exact later other listed

/-- What making several changes comes to. -/
theorem applyEach_cases (build : Build) (host : σ) (parted : build.tree.Parted root)
    (changes : List (String × FileChange)) :
    ∃ after : Tree, after.Parted root ∧
      ((∃ failure, (applyEach changes).runOn (build, host) =
          (.error failure, { build with tree := after }, host)) ∨
        (applyEach changes).runOn (build, host) = (.ok (), { build with tree := after }, host) ∧
          Applied build.tree changes after) := by
  induction changes generalizing build with
  | nil => exact ⟨build.tree, parted, .inr ⟨rfl, ⟨nofun, nofun, fun _ _ => rfl⟩⟩⟩
  | cons change rest ih =>
      obtain ⟨key, change⟩ := change
      obtain ⟨middle, partedMiddle, ⟨failure, failed⟩ | ⟨ran, place, leads, files⟩⟩ :=
        apply_cases build host parted key change
      · exact ⟨middle, partedMiddle, .inl ⟨failure, Action.runOn_bind_error failed _⟩⟩
      · obtain ⟨after, partedAfter, later⟩ :=
          ih { build with tree := middle } partedMiddle
        rw [applyEach, Action.runOn_bind_ok ran]
        refine ⟨after, partedAfter, later.imp_right ?_⟩
        rintro ⟨ranRest, applied⟩
        exact ⟨ranRest, applied.cons (partedMiddle.given.trans parted.given.symm) leads files⟩

section Applied

variable {changes : List (String × FileChange)} (parted : tree.Parted root)
  (applied : Applied tree changes after) (apart : LeadApart tree changes)
include parted applied apart

/-- A change differs from what is there when its path holds something else than afterwards. -/
theorem differs_iff {change : String × FileChange} (listed : change ∈ changes) {path : Path}
    (leads : tree.resolve (sourcePath change.1) = .ok path) :
    differs tree change.1 change.2 = true ↔ tree.files.find? path ≠ after.files.find? path := by
  rw [differs, parted.toOption_read leads, applied.changed apart change listed path leads,
    bne_iff_ne]

/-- **Some change differs from what is there exactly when the batch changes the files.** -/
theorem any_differs_iff :
    (changes.any fun change => differs tree change.1 change.2) = true ↔
      after.files ≠ tree.files := by
  rw [List.any_eq_true]
  constructor
  · rintro ⟨change, listed, differs⟩ same
    obtain ⟨path, leads⟩ := applied.resolves change listed
    apply (differs_iff parted applied apart listed leads).1 differs
    rw [same]
  · intro changed
    by_contra none
    apply changed
    apply Table.ext_find?
    intro path
    by_cases touched : ∃ change ∈ changes, tree.resolve (sourcePath change.1) = .ok path
    · obtain ⟨change, listed, leads⟩ := touched
      have equal := (differs_iff parted applied apart listed leads).not.1
        fun differs => none ⟨change, listed, differs⟩
      exact (not_not.1 equal).symm
    · apply applied.others path
      intro change listed leads
      exact touched ⟨change, listed, leads⟩

end Applied

end Build

end HotReload
