import HotReload.Proofs.PathStore

/-!
# Several files written one after the other

Files are written in turn, each of them into the tree that the ones before have left. Writing makes
directories, so a file can be in the way of a later one, or a directory in the way of a later file.
Both come to the same: one path lies above another one. So all files are written if their paths are
free at first and none of them lies above another one (`Tree.Founded.writeEach_filled`), and only
then (`Tree.Founded.admits_of_writeEach`), in whatever order they come. Then the tree holds the
files that it held before and the new ones over them (`Tree.Filled`).

The path of every file that a tree holds is the path of some name, and written out it is a name of
itself (`Tree.Rooted.resolve_toText`).
-/

set_option autoImplicit false

namespace HotReload

/-! ## Written paths -/

namespace Text

theorem splitAt_eq_splitOn (separator : Char) (cs : List Char) :
    splitAt separator cs = cs.splitOn separator := by
  induction cs with
  | nil => rfl
  | cons c rest ih =>
      rw [splitAt, ih, List.splitOn, List.splitOn, List.splitOnP_cons_eq_if_modifyHead]
      by_cases same : c = separator
      · simp [same]
      · cases pieces : rest.splitOnP (· == separator) with
        | nil => exact absurd pieces (List.splitOnP_ne_nil _ _)
        | cons piece more => simp [same]

theorem separator_notMem_of_mem_splitAt {separator : Char} {cs piece : List Char}
    (mem : piece ∈ splitAt separator cs) : separator ∉ piece := by
  induction cs generalizing piece with
  | nil =>
      obtain rfl := List.mem_singleton.1 mem
      exact List.not_mem_nil
  | cons c rest ih =>
      by_cases same : c = separator
      · rw [splitAt, if_pos same] at mem
        rcases List.mem_cons.1 mem with rfl | later
        · exact List.not_mem_nil
        · exact ih later
      · obtain ⟨first, more, pieces, whole⟩ := splitAt_cons_of_ne same rest
        rw [whole] at mem
        rcases List.mem_cons.1 mem with rfl | later
        · have others := ih (pieces ▸ List.mem_cons_self)
          intro found
          rcases List.mem_cons.1 found with here | later
          · exact same here.symm
          · exact others later
        · exact ih (pieces ▸ List.mem_cons_of_mem _ later)

end Text

namespace Files

namespace Path

/-- A name as it can stand between two slashes: it is neither empty nor a step. -/
structure IsName (name : String) : Prop where
  component : component? name.toList = some (.name name)
  whole : '/' ∉ name.toList

theorem isName_of_mem_steps {text name : String} (mem : .name name ∈ steps text) :
    IsName name := by
  obtain ⟨piece, listed, made⟩ := List.mem_filterMap.1 mem
  have same : name = String.ofList piece := by
    unfold component? at made
    split at made
    · exact nomatch made
    · split at made
      · exact nomatch made
      · exact (Component.name.inj (Option.some.inj made)).symm
  subst same
  constructor
  · rw [String.toList_ofList]
    exact made
  · rw [String.toList_ofList]
    exact Text.separator_notMem_of_mem_splitAt listed

/-- Names with slashes between them are steps to these names. -/
theorem steps_intercalate {names : List String} (isName : ∀ name ∈ names, IsName name) :
    steps ("/".intercalate names) = names.map .name := by
  rcases eq_or_ne names [] with rfl | some
  · rfl
  · have pieces : Text.splitAt '/' ("/".intercalate names).toList = names.map String.toList := by
      rw [Text.splitAt_eq_splitOn, String.toList_intercalate]
      apply List.splitOn_intercalate
      · intro piece mem
        obtain ⟨name, listed, rfl⟩ := List.mem_map.1 mem
        exact (isName name listed).whole
      · simpa using some
    rw [steps, pieces, List.filterMap_map]
    apply List.filterMap_eq_map_iff_forall_eq_some.2
    intro name listed
    exact (isName name listed).component

/-- **An absolute path of names is the path of its written form.** -/
theorem ofText_toText {names : List String} (isName : ∀ name ∈ names, IsName name) :
    ofText (absolute names).toText = absolute names := by
  have written : (absolute names).toText = "/" ++ "/".intercalate names := by
    rw [absolute, toText, List.map_map]
    congr 2
    exact List.map_id' names
  have chars : ("/" ++ "/".intercalate names).toList =
      [] ++ '/' :: ("/".intercalate names).toList := by
    rw [String.toList_append]
    rfl
  rw [written, ofText_of_isAbsolute, steps_of_slash chars, steps_empty, String.ofList_toList,
    List.nil_append, steps_intercalate isName, absolute]
  rw [isAbsolute, chars]
  rfl

/-- None of two paths lies above the other. -/
def Beside (first second : Path) : Prop :=
  ¬first.Above second ∧ ¬second.Above first

/-- Normalising a path adds nothing to it but the root. -/
theorem mem_of_mem_normal {path : Path} {component : Component} (mem : component ∈ normal path) :
    component = .root ∨ component ∈ path := by
  induction path using List.reverseRecOn generalizing component with
  | nil => exact absurd mem List.not_mem_nil
  | append_singleton front last ih =>
      have before : component ∈ normal front → component = .root ∨ component ∈ front ++ [last] := by
        intro mem
        exact (ih mem).imp_right (List.mem_append_left _)
      rw [normal, List.foldl_append, ← normal] at mem
      cases last with
      | root => exact .inl (List.mem_singleton.1 mem)
      | here => exact before mem
      | up =>
          apply before
          change component ∈ step (normal front) .up at mem
          simp only [step] at mem
          split at mem
          · exact mem
          · exact mem
          · exact (List.dropLast_sublist _).mem mem
      | name text =>
          rcases List.mem_append.1 mem with old | new
          · exact before old
          · exact .inr (List.mem_append_right _ new)

end Path

namespace Tree

variable {tree after : Tree} {text contents root : String} {path place other : Path}

/-- The names in a path that some name leads to are names. -/
theorem Rooted.isName_of_resolve (rooted : tree.Rooted) (resolved : tree.resolve text = .ok path) :
    ∃ names, path = Path.absolute names ∧ ∀ name ∈ names, Path.IsName name := by
  obtain ⟨names, rfl, -⟩ := rooted.exists_names_of_resolve resolved
  refine ⟨names, rfl, ?_⟩
  intro name listed
  have normal : Path.absolute names = Path.normal (tree.located text) := by
    rw [rooted.resolve_eq] at resolved
    split at resolved
    · exact (Except.ok.inj resolved).symm
    · exact nomatch resolved
  have mem : Component.name name ∈ Path.absolute names :=
    List.mem_cons_of_mem _ (List.mem_map_of_mem listed)
  rw [normal] at mem
  have written := (Path.mem_of_mem_normal mem).resolve_left nofun
  unfold located at written
  cases absolute : Path.isAbsolute text with
  | true =>
      rw [Path.join, absolute, if_pos rfl, Path.ofText_of_isAbsolute absolute] at written
      exact Path.isName_of_mem_steps ((List.mem_cons.1 written).resolve_left nofun)
  | false =>
      rw [Path.ofText_join rooted.given absolute, Path.ofText_of_isAbsolute rooted.absolute]
        at written
      rcases List.mem_append.1 written with above | below
      · exact Path.isName_of_mem_steps ((List.mem_cons.1 above).resolve_left nofun)
      · exact Path.isName_of_mem_steps below

/-- **A path that some name leads to is, written out, a name of itself.** -/
theorem Rooted.resolve_toText (rooted : tree.Rooted) (resolved : tree.resolve text = .ok path) :
    tree.resolve path.toText = .ok path := by
  obtain ⟨names, rfl, isName⟩ := rooted.isName_of_resolve resolved
  obtain ⟨-, -, inside⟩ := rooted.exists_names_of_resolve resolved
  have whole := Path.ofText_toText isName
  have absolute : Path.isAbsolute (Path.absolute names).toText = true := by
    rw [Path.isAbsolute, Path.absolute, Path.toText, String.toList_append]
    rfl
  have leads : Path.normal (tree.located (Path.absolute names).toText) = Path.absolute names := by
    rw [located, Path.join, absolute, if_pos rfl, whole, Path.normal_absolute]
  rw [rooted.resolve_eq, leads, if_pos (Path.contains_iff.2 inside)]

/-! ## Files in turn -/

/-- The places of some files that are to be written: the paths that their names lead to. -/
def Resolves (tree : Tree) (given : List (String × String)) (places : List (Path × String)) :
    Prop :=
  List.Forall₂ (fun file place => tree.resolve file.1 = .ok place.1 ∧ file.2 = place.2)
    given places

/-- Files can be placed one after the other: every path is free at first, and none of them lies
above another one. -/
structure Admits (tree : Tree) (places : List (Path × String)) : Prop where
  free : ∀ place ∈ places, tree.Free place.1
  beside : places.Pairwise fun first second => Path.Beside first.1 second.1

/-- Files have been placed one after the other, and all that lies above them is a directory. -/
structure Filled (tree : Tree) (places : List (Path × String)) (after : Tree) : Prop where
  root : after.root = tree.root
  files : after.files =
    places.foldl (fun files place => files.insert place.1 place.2) tree.files
  directories : ∀ dir, after.hasDirectory dir = true ↔
    tree.hasDirectory dir = true ∨ ∃ place ∈ places, tree.rootPath <+: dir ∧ dir.Above place.1

/-- **A file that has been placed is in the way of what lies above or below it, and of nothing
else.** -/
theorem Placed.free_iff (placed : tree.Placed path contents after)
    (inside : tree.rootPath <+: path) (within : tree.rootPath <+: other) :
    after.Free other ↔ tree.Free other ∧ Path.Beside path other := by
  have root : after.rootPath = tree.rootPath := congrArg Path.ofText placed.root
  have stands : ∀ file, after.files.contains file = false ↔
      tree.files.contains file = false ∧ file ≠ path := by
    intro file
    rw [Table.contains, placed.find?_files, Table.contains]
    by_cases same : file = path <;> simp [same]
  constructor
  · intro free
    refine ⟨⟨?_, ?_⟩, ?_, ?_⟩
    · apply Bool.eq_false_iff.2
      intro directory
      have still := (placed.directories other).2 (.inl directory)
      exact Bool.false_ne_true (free.bare.symm.trans still)
    · intro file inside above
      exact ((stands file).1 (free.clear file (root ▸ inside) above)).1
    · intro above
      exact ((stands path).1 (free.clear path (root ▸ inside) above)).2 rfl
    · intro above
      have directory := (placed.directories other).2 (.inr ⟨within, above⟩)
      exact Bool.false_ne_true (free.bare.symm.trans directory)
  · rintro ⟨free, below, above⟩
    constructor
    · apply Bool.eq_false_iff.2
      intro directory
      rcases (placed.directories other).1 directory with old | ⟨-, higher⟩
      · exact Bool.false_ne_true (free.bare.symm.trans old)
      · exact above higher
    · intro file inside higher
      refine (stands file).2 ⟨free.clear file (root ▸ inside) higher, ?_⟩
      rintro rfl
      exact below higher

theorem Filled.founded {places : List (Path × String)} (founded : tree.Founded root)
    (filled : tree.Filled places after) : after.Founded root where
  absolute := filled.root ▸ founded.absolute
  direct := by
    rw [rootPath, filled.root]
    exact founded.direct
  given := filled.root.trans founded.given
  ground := by
    rw [rootPath, filled.root]
    exact (filled.directories _).2 (.inl founded.ground)

theorem Resolves.congr {given : List (String × String)} {places : List (Path × String)}
    (root : after.root = tree.root) :
    after.Resolves given places ↔ tree.Resolves given places := by
  simp only [Resolves, resolve_congr root]

theorem Resolves.inside {given : List (String × String)} {places : List (Path × String)}
    (rooted : tree.Rooted) (resolves : tree.Resolves given places) :
    ∀ place ∈ places, tree.rootPath <+: place.1 := by
  induction resolves with
  | nil => exact List.forall_mem_nil _
  | cons first _ ih =>
      obtain ⟨-, -, inside⟩ := rooted.exists_names_of_resolve first.1
      exact List.forall_mem_cons.2 ⟨inside, ih⟩

/-- When a file has been placed, others can be placed if they could be placed before and none of
them lies above it or below it. -/
theorem Placed.admits_iff {given : List (String × String)} {places : List (Path × String)}
    (rooted : tree.Rooted) (placed : tree.Placed path contents after)
    (inside : tree.rootPath <+: path) (free : tree.Free path)
    (resolves : tree.Resolves given places) :
    after.Admits places ↔ tree.Admits ((path, contents) :: places) := by
  have within := resolves.inside rooted
  constructor
  · intro admits
    have split : ∀ place ∈ places, tree.Free place.1 ∧ Path.Beside path place.1 := by
      intro place listed
      exact (placed.free_iff inside (within place listed)).1 (admits.free place listed)
    constructor
    · exact List.forall_mem_cons.2 ⟨free, fun place listed => (split place listed).1⟩
    · exact List.pairwise_cons.2 ⟨fun place listed => (split place listed).2, admits.beside⟩
  · intro admits
    obtain ⟨-, others⟩ := List.forall_mem_cons.1 admits.free
    obtain ⟨besideFirst, beside⟩ := List.pairwise_cons.1 admits.beside
    refine ⟨?_, beside⟩
    intro place listed
    exact (placed.free_iff inside (within place listed)).2
      ⟨others place listed, besideFirst place listed⟩

/-- Files that are placed behind the first one are placed behind it. -/
theorem Placed.filled {places : List (Path × String)} {last : Tree}
    (placed : tree.Placed path contents after) (filled : after.Filled places last) :
    tree.Filled ((path, contents) :: places) last where
  root := filled.root.trans placed.root
  files := by rw [filled.files, placed.files, List.foldl_cons]
  directories dir := by
    have root : after.rootPath = tree.rootPath := congrArg Path.ofText placed.root
    rw [filled.directories, placed.directories, root, or_assoc]
    simp only [List.mem_cons, exists_eq_or_imp]

section Founded

variable {given : List (String × String)} {places : List (Path × String)}
  (founded : tree.Founded root)
include founded

/-- When a file has been written, the others are written. -/
theorem Founded.runOn_writeEach_cons (resolved : tree.resolve text = .ok path)
    (written : (write text contents).runOn tree = (.ok (), after)) (changed : Table Path Unit) :
    (writeEach changed ((text, contents) :: given)).runOn tree =
      (writeEach (changed.insert path ()) given).runOn after := by
  have again := founded.resolve_of_write text contents
  rw [written, resolved] at again
  have leads : (Tree.resolved text).runOn after = (.ok path, after) := by
    rw [runOn_resolved]
    exact congrArg (·, after) again
  rw [writeEach, Action.runOn_bind_ok written, Action.runOn_bind_ok leads]

/-- **Files that can be placed are written.** -/
theorem Founded.writeEach_filled (resolves : tree.Resolves given places)
    (admits : tree.Admits places) (changed : Table Path Unit) :
    ∃ after, (writeEach changed given).runOn tree =
        (.ok (places.foldl (fun paths place => paths.insert place.1 ()) changed), after) ∧
      tree.Filled places after := by
  induction given generalizing tree changed places with
  | nil =>
      obtain rfl := List.forall₂_nil_left_iff.1 resolves
      refine ⟨tree, rfl, rfl, rfl, ?_⟩
      intro dir
      simp
  | cons file given ih =>
      obtain ⟨⟨path, written⟩, places, ⟨resolved, same⟩, rest, rfl⟩ :=
        List.forall₂_cons_left_iff.1 resolves
      obtain ⟨text, contents⟩ := file
      obtain rfl : contents = written := same
      rcases founded.write_result text contents with
        ⟨found, leads, free, ok, placed⟩ | ⟨fault, -, -, barred⟩
      · obtain rfl := Except.ok.inj (resolved.symm.trans leads)
        have written := Prod.fst_eq_iff.1 ok
        have inside := (founded.exists_names_of_resolve resolved).choose_spec.2
        have foundedAfter := (founded.step_write text contents).founded founded
        obtain ⟨last, ran, filled⟩ := ih foundedAfter ((Resolves.congr placed.root).2 rest)
          ((placed.admits_iff founded.toRooted inside free rest).2 admits)
          (changed.insert path ())
        refine ⟨last, ?_, placed.filled filled⟩
        rw [founded.runOn_writeEach_cons resolved written, ran, List.foldl_cons]
      · exact absurd (admits.free _ List.mem_cons_self) (barred path resolved)

/-- Files that are written can be placed. -/
theorem Founded.admits_of_writeEach {changed paths : Table Path Unit}
    (ok : ((writeEach changed given).runOn tree).1 = .ok paths) :
    ∃ places, tree.Resolves given places ∧ tree.Admits places := by
  induction given generalizing tree changed with
  | nil => exact ⟨[], .nil, List.forall_mem_nil _, .nil⟩
  | cons file given ih =>
      obtain ⟨text, contents⟩ := file
      rcases founded.write_result text contents with
        ⟨path, resolved, free, written, placed⟩ | ⟨fault, failed, -, -⟩
      · have inside := (founded.exists_names_of_resolve resolved).choose_spec.2
        have foundedAfter := (founded.step_write text contents).founded founded
        rw [founded.runOn_writeEach_cons resolved (Prod.fst_eq_iff.1 written)] at ok
        obtain ⟨places, rest, admits⟩ := ih foundedAfter ok
        have resolves := (Resolves.congr placed.root).1 rest
        refine ⟨(path, contents) :: places, .cons ⟨resolved, rfl⟩ resolves, ?_⟩
        exact (placed.admits_iff founded.toRooted inside free resolves).1 admits
      · rw [writeEach, Action.runOn_bind_error (Prod.fst_eq_iff.1 failed)] at ok
        cases ok

/-- A file that is there when files have been written was there before or is one of them, whether or
not all of them could be written. -/
theorem Founded.stored_of_write (text contents : String)
    (stands : ((write text contents).runOn tree).2.files.contains place = true) :
    tree.files.contains place = true ∨ tree.resolve text = .ok place := by
  rcases founded.write_result text contents with
    ⟨path, resolved, -, -, placed⟩ | ⟨fault, -, files, -⟩
  · rw [Table.contains, placed.find?_files] at stands
    split at stands
    · rename_i same
      exact .inr (same ▸ resolved)
    · exact .inl stands
  · rw [files] at stands
    exact .inl stands

theorem Founded.stored_of_writeEach (changed : Table Path Unit)
    (stands : ((writeEach changed given).runOn tree).2.files.contains place = true) :
    tree.files.contains place = true ∨ ∃ file ∈ given, tree.resolve file.1 = .ok place := by
  induction given generalizing tree changed with
  | nil => exact .inl stands
  | cons file given ih =>
      have before : ((write file.1 file.2).runOn tree).2.files.contains place = true →
          tree.files.contains place = true ∨
            ∃ other ∈ file :: given, tree.resolve other.1 = .ok place := by
        intro there
        exact (founded.stored_of_write _ _ there).imp_right fun here =>
          ⟨file, List.mem_cons_self, here⟩
      rcases founded.writeEach_cons changed file.1 file.2 given with
        ⟨stopped, -⟩ | ⟨-, changed', went⟩
      · rw [stopped] at stands
        exact before stands
      · rw [went] at stands
        have foundedAfter := (founded.step_write file.1 file.2).founded founded
        rcases ih foundedAfter changed' stands with there | ⟨other, listed, leads⟩
        · exact before there
        · rw [resolve_congr (foundedAfter.given.trans founded.given.symm)] at leads
          exact .inr ⟨other, List.mem_cons_of_mem _ listed, leads⟩

end Founded

end Tree

end Files

end HotReload
