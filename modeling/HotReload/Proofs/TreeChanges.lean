import HotReload.Proofs.Paths
import HotReload.Proofs.Tables

/-!
# What the operations of a tree leave

Every operation of a tree works on one path that the root contains, or is refused and changes
nothing. Making a directory is the operation with partial effects: it goes up from the deepest
directory and stops at a file in its way, so what it has made until then stays
(`Tree.Makes`, `runOn_makeAll`). Writing makes the directories above a file in this way and then
places the file, and a reset writes one file after the other into an empty tree.

So a tree changes in four ways only (`Tree.Step`), and what these keep is kept by any sequence of
operations, failed ones included (`Tree.Invariant.afterAll`).
-/

set_option autoImplicit false

namespace HotReload.Files

namespace Path

theorem contains_iff {top path : Path} : top.contains path = true ↔ top <+: path :=
  List.isPrefixOf_iff_prefix

theorem absolute_prefix_iff {top names : List String} :
    absolute top <+: absolute names ↔ top <+: names := by
  rw [← contains_iff, contains_absolute]

theorem fronts_concat (path : Path) (component : Component) :
    fronts (path ++ [component]) = (path ++ [component]) :: fronts path := by
  induction path with
  | nil => rfl
  | cons first rest ih => simp [fronts, ih]

/-- The shortest front of a path is empty. -/
theorem exists_fronts_eq (path : Path) : fronts path = (fronts path).dropLast ++ [[]] := by
  cases path with
  | nil => rfl
  | cons first rest => simp [fronts]

theorem parent?_absolute_concat (names : List String) (name : String) :
    parent? (absolute (names ++ [name])) = some (absolute names) := by
  simp [parent?, absolute_concat]

/-- An absolute path that goes up and to names. -/
def Climbs (path : Path) : Prop :=
  ∃ steps : Path, path = .root :: steps ∧
    ∀ component ∈ steps, component = .up ∨ ∃ name, component = .name name

/-- Steps up and to names lead from the root to an absolute path. -/
theorem Climbs.exists_normal {path : Path} (climbs : path.Climbs) :
    ∃ names, normal path = absolute names := by
  obtain ⟨steps, rfl, moving⟩ := climbs
  refine ⟨_, normal_append [] fun mem => ?_⟩
  rcases moving .root mem with up | ⟨name, named⟩
  · exact nomatch up
  · exact nomatch named

end Path

namespace Tree

variable {tree after : Tree} {path dir file : Path} {text contents : String}

/-! ## Making directories -/

/-- The tree with one more directory. -/
def withDirectory (tree : Tree) (path : Path) : Tree :=
  { tree with directories := tree.directories.insert path () }

theorem hasDirectory_withDirectory (tree : Tree) (dir path : Path) :
    (tree.withDirectory dir).hasDirectory path = true ↔
      tree.hasDirectory path = true ∨ path = dir := by
  simp only [withDirectory, hasDirectory, Table.contains, Table.find?_insert,
    Std.LawfulEqOrd.compare_eq_iff_eq]
  by_cases same : path = dir <;> simp [same]

/-- Making directories stops above the root and at a file. -/
theorem runOn_makeEach_cons (path : Path) (above : List Path) (tree : Tree) :
    (makeEach (path :: above)).runOn tree =
      if tree.rootPath.contains path = true then
        if tree.files.contains path = true then (.error (.notADirectory path.toText), tree)
        else (makeEach above).runOn (tree.withDirectory path)
      else (.ok (), tree) := by
  rw [makeEach, Action.runOn_bind_ok (Action.runOn_get tree)]
  cases tree.rootPath.contains path with
  | false => rfl
  | true =>
      cases tree.files.contains path with
      | true => rfl
      | false => rfl

/-- A directory that is made on the way to another one: no file stands on the way from there. -/
structure Makes (tree : Tree) (dir path : Path) : Prop where
  inside : tree.rootPath <+: path
  above : path <+: dir
  free : ∀ file, path <+: file → file <+: dir → tree.files.contains file = false

/-- What making a directory and those above it comes to. -/
structure Made (tree : Tree) (dir : Path) (result : Except Fault Unit) (after : Tree) : Prop where
  root : after.root = tree.root
  files : after.files = tree.files
  directories : ∀ path, after.hasDirectory path = true ↔
    tree.hasDirectory path = true ∨ tree.Makes dir path
  ok_iff : result = .ok () ↔
    ∀ file, tree.rootPath <+: file → file <+: dir → tree.files.contains file = false

/-- Nothing is made that the root does not contain. -/
theorem Made.outside (outside : ¬tree.rootPath <+: dir) : Made tree dir (.ok ()) tree where
  root := rfl
  files := rfl
  directories path := by
    refine (or_iff_left fun makes => ?_).symm
    exact outside (makes.inside.trans makes.above)
  ok_iff := by
    refine iff_of_true rfl fun file inside above => ?_
    exact absurd (inside.trans above) outside

/-- Nothing is made where a file stands. -/
theorem Made.blocked (inside : tree.rootPath <+: dir) (stands : tree.files.contains dir = true)
    (fault : Fault) : Made tree dir (.error fault) tree where
  root := rfl
  files := rfl
  directories path := by
    refine (or_iff_left fun makes => ?_).symm
    exact Bool.false_ne_true ((makes.free dir makes.above (List.prefix_refl dir)).symm.trans stands)
  ok_iff := by
    refine iff_of_false (fun same => nomatch same) fun free => ?_
    exact Bool.false_ne_true ((free dir inside (List.prefix_refl dir)).symm.trans stands)

/-- The deepest directory is made first, then those above it. -/
theorem Made.below {component : Component} {result : Except Fault Unit}
    (inside : tree.rootPath <+: dir ++ [component])
    (free : tree.files.contains (dir ++ [component]) = false)
    (made : Made (tree.withDirectory (dir ++ [component])) dir result after) :
    Made tree (dir ++ [component]) result after where
  root := made.root
  files := made.files
  directories path := by
    rw [made.directories, hasDirectory_withDirectory, or_assoc]
    refine or_congr_right ?_
    constructor
    · rintro (rfl | makes)
      · refine ⟨inside, List.prefix_refl _, fun file below above => ?_⟩
        rw [below.eq_of_length_le above.length_le] at free
        exact free
      · refine ⟨makes.inside, makes.above.trans (List.prefix_append _ _), ?_⟩
        intro file below above
        rcases List.prefix_concat_iff.1 above with rfl | higher
        · exact free
        · exact makes.free file below higher
    · intro makes
      rcases List.prefix_concat_iff.1 makes.above with rfl | higher
      · exact .inl rfl
      · refine .inr ⟨makes.inside, higher, fun file below above => ?_⟩
        exact makes.free file below (above.trans (List.prefix_append _ _))
  ok_iff := by
    rw [made.ok_iff]
    constructor
    · intro unblocked file within above
      rcases List.prefix_concat_iff.1 above with rfl | higher
      · exact free
      · exact unblocked file within higher
    · intro unblocked file within above
      exact unblocked file within (above.trans (List.prefix_append _ _))

section Rooted

variable (root : tree.rootPath ≠ [])
include root

/-- Above the root of an absolute path nothing is made. -/
theorem runOn_makeEach_concat_nil (paths : List Path) :
    (makeEach (paths ++ [[]])).runOn tree = (makeEach paths).runOn tree := by
  have outside : tree.rootPath.contains [] = false := by
    rw [Bool.eq_false_iff, ne_eq, Path.contains_iff, List.prefix_nil]
    exact root
  induction paths generalizing tree with
  | nil => rw [List.nil_append, runOn_makeEach_cons, outside]; rfl
  | cons path above ih =>
      rw [List.cons_append, runOn_makeEach_cons, runOn_makeEach_cons]
      have same : (makeEach (above ++ [[]])).runOn (tree.withDirectory path) =
          (makeEach above).runOn (tree.withDirectory path) := ih root outside
      rw [same]

theorem runOn_makeAll_eq (dir : Path) :
    (makeAll dir).runOn tree = (makeEach (Path.fronts dir)).runOn tree := by
  rw [makeAll, Path.ancestors]
  split
  · rw [Path.exists_fronts_eq dir, runOn_makeEach_concat_nil root, ← Path.exists_fronts_eq]
  · rfl

/-- **Making a directory makes those on the way up to the root or to a file.** It succeeds if no
file stands on this way. -/
theorem made_makeAll (dir : Path) :
    Made tree dir ((makeAll dir).runOn tree).1 ((makeAll dir).runOn tree).2 := by
  rw [runOn_makeAll_eq root]
  induction dir using List.reverseRecOn generalizing tree with
  | nil =>
      have outside : ¬tree.rootPath <+: [] := mt List.prefix_nil.1 root
      rw [Path.fronts, runOn_makeEach_cons, if_neg (mt Path.contains_iff.1 outside)]
      exact .outside outside
  | append_singleton dir component ih =>
      rw [Path.fronts_concat, runOn_makeEach_cons]
      by_cases inside : tree.rootPath <+: dir ++ [component]
      · rw [if_pos (Path.contains_iff.2 inside)]
        cases stands : tree.files.contains (dir ++ [component]) with
        | true => exact .blocked inside stands _
        | false => exact .below inside stands (ih root)
      · rw [if_neg (mt Path.contains_iff.1 inside)]
        exact .outside inside

end Rooted

/-! ## Where a written path leads -/

/-- The written path made absolute: behind the root of the tree, unless it is absolute already. -/
def located (tree : Tree) (text : String) : Path :=
  Path.ofText (Path.join tree.root text)

theorem Rooted.given (rooted : tree.Rooted) : tree.root ≠ "" := by
  intro empty
  have absolute := rooted.absolute
  rw [empty] at absolute
  exact nomatch absolute

/-- A path in a tree goes up and to names from the root. -/
theorem Rooted.climbs_located (rooted : tree.Rooted) (text : String) :
    (tree.located text).Climbs := by
  unfold located
  cases absolute : Path.isAbsolute text with
  | true =>
      refine ⟨Path.steps text, ?_, fun component => Path.mem_steps⟩
      rw [Path.join, absolute, if_pos rfl, Path.ofText_of_isAbsolute absolute]
  | false =>
      refine ⟨Path.steps tree.root ++ Path.steps text, ?_, fun component mem => ?_⟩
      · rw [Path.ofText_join rooted.given absolute, Path.ofText_of_isAbsolute rooted.absolute,
          List.cons_append]
      · exact (List.mem_append.1 mem).elim Path.mem_steps Path.mem_steps

/-- **A written path leads to the normal form of the path made absolute**, and is refused unless the
root contains this. -/
theorem Rooted.resolve_eq (rooted : tree.Rooted) (text : String) :
    tree.resolve text =
      if tree.rootPath.contains (Path.normal (tree.located text)) = true then
        .ok (Path.normal (tree.located text))
      else .error (.outsideRoot text) := by
  have same : Path.normal (if Path.isAbsolute text = true then Path.ofText text
      else tree.rootPath ++ Path.ofText text) = Path.normal (tree.located text) := by
    unfold located
    cases absolute : Path.isAbsolute text with
    | true => rw [if_pos rfl, Path.join, absolute, if_pos rfl]
    | false =>
        rw [if_neg Bool.false_ne_true, Path.ofText_join rooted.given absolute, Path.ofText_eq text,
          Path.beginning, absolute, if_neg Bool.false_ne_true, rootPath]
        -- a step to the same directory at the beginning changes nothing
        split
        · simp [Path.normal, Path.step]
        · rw [List.nil_append]
  unfold resolve
  dsimp only
  rw [same]

theorem Rooted.exists_names_of_resolve (rooted : tree.Rooted)
    (resolved : tree.resolve text = .ok path) :
    ∃ names, path = Path.absolute names ∧ tree.rootPath <+: path := by
  rw [rooted.resolve_eq] at resolved
  split at resolved
  · rename_i inside
    obtain rfl := Except.ok.inj resolved
    obtain ⟨names, located⟩ := (rooted.climbs_located text).exists_normal
    exact ⟨names, located, Path.contains_iff.1 inside⟩
  · exact nomatch resolved

theorem Rooted.rootPath_ne_nil (rooted : tree.Rooted) : tree.rootPath ≠ [] := by
  obtain ⟨names, same⟩ := rooted.exists_names
  rw [same]
  exact List.cons_ne_nil _ _

/-! ## Operations -/

/-- The tree with the text of a file. -/
def withFile (tree : Tree) (path : Path) (contents : String) : Tree :=
  { tree with files := tree.files.insert path contents }

/-- The tree without a file. -/
def withoutFile (tree : Tree) (path : Path) : Tree :=
  { tree with files := tree.files.erase path }

theorem contains_withFile (tree : Tree) (file path : Path) (contents : String) :
    (tree.withFile file contents).files.contains path = true ↔
      tree.files.contains path = true ∨ path = file := by
  simp only [withFile, Table.contains, Table.find?_insert, Std.LawfulEqOrd.compare_eq_iff_eq]
  by_cases same : path = file <;> simp [same]

theorem contains_withoutFile (tree : Tree) (file path : Path) :
    (tree.withoutFile file).files.contains path = true ↔
      tree.files.contains path = true ∧ path ≠ file := by
  simp only [withoutFile, Table.contains, Table.find?_erase, Std.LawfulEqOrd.compare_eq_iff_eq]
  by_cases same : path = file <;> simp [same]

@[simp] theorem runOn_resolved (text : String) (tree : Tree) :
    (resolved text).runOn tree = (tree.resolve text, tree) := by
  rw [resolved, Action.runOn_bind_ok (Action.runOn_get tree), Action.runOn_ofExcept]

theorem runOn_makeDirectory (resolved : tree.resolve text = .ok path) :
    (makeDirectory text).runOn tree = (makeAll path).runOn tree := by
  rw [makeDirectory, Action.runOn_bind, runOn_resolved, resolved]

theorem runOn_makeDirectory_refused {fault : Fault} (refused : tree.resolve text = .error fault) :
    (makeDirectory text).runOn tree = (.error fault, tree) := by
  rw [makeDirectory, Action.runOn_bind, runOn_resolved, refused]

theorem runOn_remove (resolved : tree.resolve text = .ok path) :
    (remove text).runOn tree =
      if tree.files.contains path = true then (.ok (), tree.withoutFile path)
      else (.error (.notFound path.toText), tree) := by
  rw [remove, Action.runOn_bind, runOn_resolved, resolved]
  dsimp only
  rw [Action.runOn_bind_ok (Action.runOn_get tree)]
  cases tree.files.contains path <;> rfl

theorem runOn_remove_refused {fault : Fault} (refused : tree.resolve text = .error fault) :
    (remove text).runOn tree = (.error fault, tree) := by
  rw [remove, Action.runOn_bind, runOn_resolved, refused]

theorem runOn_write_refused {fault : Fault} (refused : tree.resolve text = .error fault)
    (contents : String) : (write text contents).runOn tree = (.error fault, tree) := by
  rw [write, Action.runOn_bind, runOn_resolved, refused]

theorem runOn_write_directory (resolved : tree.resolve text = .ok path)
    (directory : tree.hasDirectory path = true) (contents : String) :
    (write text contents).runOn tree = (.error (.isADirectory path.toText), tree) := by
  rw [write, Action.runOn_bind, runOn_resolved, resolved]
  dsimp only
  rw [Action.runOn_bind_ok (Action.runOn_get tree), directory]
  rfl

/-- A file is placed when the directories above it have been made. -/
theorem runOn_write {names : List String} {name : String}
    (resolved : tree.resolve text = .ok (Path.absolute (names ++ [name])))
    (free : tree.hasDirectory (Path.absolute (names ++ [name])) = false) (contents : String) :
    (write text contents).runOn tree =
      match (makeAll (Path.absolute names)).runOn tree with
      | (.ok (), after) => (.ok (), after.withFile (Path.absolute (names ++ [name])) contents)
      | (.error fault, after) => (.error fault, after) := by
  rw [write, Action.runOn_bind, runOn_resolved, resolved]
  dsimp only
  rw [Action.runOn_bind_ok (Action.runOn_get tree), free, Path.parent?_absolute_concat]
  simp only [Bool.false_eq_true, if_false]
  rw [Action.runOn_bind]
  rcases (makeAll (Path.absolute names)).runOn tree with ⟨result, after⟩
  cases result <;> rfl

/-! ## Steps -/

/-- A tree whose root was given, is absolute without steps up, and is a directory. -/
structure Founded (root : String) (tree : Tree) : Prop extends tree.Rooted where
  given : tree.root = root
  ground : tree.hasDirectory tree.rootPath = true

/-- The four ways in which a tree changes. -/
inductive Step (tree : Tree) : Tree → Prop
  | stay : Step tree tree
  /-- A directory is made, or as much of the way to it as no file bars. -/
  | make {names : List String} {result : Except Fault Unit} {after : Tree}
      (made : Made tree (Path.absolute names) result after) : Step tree after
  /-- A file is placed where no directory stands, and the directories above it are made. -/
  | place {names : List String} {name : String} {after : Tree} (contents : String)
      (inside : tree.rootPath <+: Path.absolute names)
      (free : tree.hasDirectory (Path.absolute (names ++ [name])) = false)
      (made : Made tree (Path.absolute names) (.ok ()) after) :
      Step tree (after.withFile (Path.absolute (names ++ [name])) contents)
  /-- A file is taken away. -/
  | remove (path : Path) : Step tree (tree.withoutFile path)

theorem Made.founded {root : String} {result : Except Fault Unit} (founded : tree.Founded root)
    (made : Made tree dir result after) : after.Founded root where
  absolute := made.root ▸ founded.absolute
  direct := by
    rw [rootPath, made.root]
    exact founded.direct
  given := made.root.trans founded.given
  ground := by
    rw [rootPath, made.root]
    exact (made.directories _).2 (.inl founded.ground)

theorem Step.founded {root : String} (founded : tree.Founded root) (step : Step tree after) :
    after.Founded root := by
  cases step with
  | stay => exact founded
  | make made => exact made.founded founded
  | place contents inside free made =>
      have middle := made.founded founded
      exact ⟨⟨middle.absolute, middle.direct⟩, middle.given, middle.ground⟩
  | remove path => exact ⟨⟨founded.absolute, founded.direct⟩, founded.given, founded.ground⟩

/-- An empty tree has its root as only directory. -/
theorem hasDirectory_new (root : String) (path : Path) :
    ({ root } : Tree).hasDirectory path = true ↔ path = Path.ofText root := by
  simp only [hasDirectory, Table.contains, Table.find?_insert, Std.LawfulEqOrd.compare_eq_iff_eq]
  by_cases same : path = Path.ofText root
  · simp [same]
  · simpa [same] using Table.find?_of_isEmpty rfl path

section Founded

variable {root : String} (founded : tree.Founded root)
include founded

theorem Founded.blank : ({ root := tree.root } : Tree).Founded root where
  absolute := founded.absolute
  direct := founded.direct
  given := founded.given
  ground := (hasDirectory_new _ _).2 rfl

/-- Below the root there is a directory in which a path lies. -/
theorem Founded.exists_parent (resolved : tree.resolve text = .ok path)
    (free : tree.hasDirectory path = false) :
    ∃ names name, path = Path.absolute (names ++ [name]) ∧
      tree.rootPath <+: Path.absolute names := by
  obtain ⟨names, rfl, inside⟩ := founded.exists_names_of_resolve resolved
  have below : tree.rootPath ≠ Path.absolute names := by
    intro same
    rw [← same, founded.ground] at free
    exact nomatch free
  rcases List.eq_nil_or_concat' names with rfl | ⟨front, name, rfl⟩
  · obtain ⟨base, same⟩ := founded.exists_names
    rw [same, Path.absolute_prefix_iff, List.prefix_nil] at inside
    exact absurd (inside ▸ same) below
  · refine ⟨front, name, rfl, ?_⟩
    rw [Path.absolute_concat, List.prefix_concat_iff] at inside
    exact inside.resolve_left fun same => below (same.trans (Path.absolute_concat _ _).symm)

/-- What writing a file comes to. -/
theorem Founded.write_cases (text contents : String) :
    (∃ fault, (write text contents).runOn tree = (.error fault, tree) ∧
      (tree.resolve text = .error fault ∨
        ∃ path, tree.resolve text = .ok path ∧ tree.hasDirectory path = true)) ∨
    ∃ names name result after,
      tree.resolve text = .ok (Path.absolute (names ++ [name])) ∧
      tree.rootPath <+: Path.absolute names ∧
      tree.hasDirectory (Path.absolute (names ++ [name])) = false ∧
      Made tree (Path.absolute names) result after ∧
      (write text contents).runOn tree =
        (result, match result with
          | .ok () => after.withFile (Path.absolute (names ++ [name])) contents
          | .error _ => after) := by
  cases resolved : tree.resolve text with
  | error fault => exact .inl ⟨fault, runOn_write_refused resolved contents, .inl rfl⟩
  | ok path =>
      cases free : tree.hasDirectory path with
      | true =>
          exact .inl ⟨_, runOn_write_directory resolved free contents, .inr ⟨path, rfl, free⟩⟩
      | false =>
          obtain ⟨names, name, rfl, inside⟩ := founded.exists_parent resolved free
          have made := made_makeAll founded.rootPath_ne_nil (Path.absolute names)
          refine .inr ⟨names, name, _, _, rfl, inside, free, made, ?_⟩
          rw [runOn_write resolved free]
          rcases (makeAll (Path.absolute names)).runOn tree with ⟨result, after⟩
          cases result <;> rfl

theorem Founded.step_write (text contents : String) :
    Step tree ((write text contents).runOn tree).2 := by
  rcases founded.write_cases text contents with
    ⟨fault, ran, -⟩ | ⟨names, name, result, after, -, inside, free, made, ran⟩
  · rw [ran]
    exact .stay
  · rw [ran]
    cases result with
    | ok _ => exact .place contents inside free made
    | error fault => exact .make made

theorem Founded.step_makeDirectory (text : String) :
    Step tree ((makeDirectory text).runOn tree).2 := by
  cases resolved : tree.resolve text with
  | error fault =>
      rw [runOn_makeDirectory_refused resolved]
      exact .stay
  | ok path =>
      obtain ⟨names, rfl, -⟩ := founded.exists_names_of_resolve resolved
      rw [runOn_makeDirectory resolved]
      exact .make (made_makeAll founded.rootPath_ne_nil _)

omit founded in
theorem step_remove (text : String) : Step tree ((remove text).runOn tree).2 := by
  cases resolved : tree.resolve text with
  | error fault =>
      rw [runOn_remove_refused resolved]
      exact .stay
  | ok path =>
      rw [runOn_remove resolved]
      split
      · exact .remove path
      · exact .stay

/-- The path of a file that has been written leads to the same place as before. -/
theorem Founded.resolve_of_write (text contents : String) :
    ((write text contents).runOn tree).2.resolve text = tree.resolve text := by
  have after := (founded.step_write text contents).founded founded
  rw [after.resolve_eq, founded.resolve_eq, located, located, rootPath, rootPath, after.given,
    founded.given]

/-- Files are written up to the first that is refused. -/
theorem Founded.writeEach_cons (changed : Table Path Unit) (text contents : String)
    (rest : List (String × String)) :
    ((writeEach changed ((text, contents) :: rest)).runOn tree).2 =
        ((write text contents).runOn tree).2 ∧
      ((write text contents).runOn tree).1 ≠ .ok () ∨
    ((write text contents).runOn tree).1 = .ok () ∧
      ∃ changed', ((writeEach changed ((text, contents) :: rest)).runOn tree).2 =
        ((writeEach changed' rest).runOn ((write text contents).runOn tree).2).2 := by
  have again := founded.resolve_of_write text contents
  rw [writeEach, Action.runOn_bind]
  cases ran : (write text contents).runOn tree with
  | mk result after =>
      cases result with
      | error fault => exact .inl ⟨rfl, fun same => nomatch same⟩
      | ok _ =>
          refine .inr ⟨rfl, ?_⟩
          rw [ran] at again
          cases resolved : tree.resolve text with
          | error fault =>
              rw [runOn_write_refused resolved] at ran
              exact nomatch (Prod.mk.inj ran).1
          | ok path =>
              have leads : (Tree.resolved text).runOn after = (.ok path, after) := by
                rw [runOn_resolved, again, resolved]
              refine ⟨changed.insert path (), ?_⟩
              dsimp only
              rw [Action.runOn_bind_ok leads]

end Founded

/-! ## Sequences of operations -/

/-- An operation on a tree, with what it is given. -/
inductive Access
  | read (text : String)
  | stat (text : String)
  | write (text contents : String)
  | makeDirectory (text : String)
  | remove (text : String)
  | reset (files : Table String String)

/-- The tree that an operation leaves, whether or not it succeeds. -/
def Access.leaves (tree : Tree) : Access → Tree
  | .read _ | .stat _ => tree
  | .write text contents => ((Tree.write text contents).runOn tree).2
  | .makeDirectory text => ((Tree.makeDirectory text).runOn tree).2
  | .remove text => ((Tree.remove text).runOn tree).2
  | .reset files => ((Tree.reset files).runOn tree).2

/-- The tree after some operations, one after the other. -/
def afterAll (tree : Tree) (accesses : List Access) : Tree :=
  accesses.foldl Access.leaves tree

theorem afterAll_concat (tree : Tree) (accesses : List Access) (access : Access) :
    tree.afterAll (accesses ++ [access]) = access.leaves (tree.afterAll accesses) := by
  rw [afterAll, List.foldl_append, List.foldl_cons, List.foldl_nil, afterAll]

/-- A reset writes its files into an empty tree. -/
theorem leaves_reset (tree : Tree) (files : Table String String) :
    ∃ changed, Access.leaves tree (.reset files) =
      ((writeEach changed files.entries).runOn { root := tree.root }).2 := by
  refine ⟨tree.files.mapValues fun _ _ => (), ?_⟩
  rw [Access.leaves, reset, Action.runOn_bind_ok (Action.runOn_get tree),
    Action.runOn_bind_ok (Action.runOn_set _ tree), Action.runOn_bind]
  rcases (writeEach (tree.files.mapValues fun _ _ => ()) files.entries).runOn
    { root := tree.root } with ⟨result, after⟩
  cases result <;> rfl

/-- What every step keeps, and what holds of an empty tree. -/
structure Invariant (root : String) (holds : Tree → Prop) : Prop where
  founded : ∀ {tree}, holds tree → tree.Founded root
  blank : ∀ {tree}, holds tree → holds { root := tree.root }
  step : ∀ {tree after}, holds tree → Step tree after → holds after

namespace Invariant

variable {root : String} {holds : Tree → Prop} (invariant : Invariant root holds)
include invariant

theorem writeEach (before : holds tree) (changed : Table Path Unit)
    (files : List (String × String)) : holds ((writeEach changed files).runOn tree).2 := by
  induction files generalizing tree changed with
  | nil => exact before
  | cons file rest ih =>
      have written := invariant.step before
        ((invariant.founded before).step_write file.1 file.2)
      rcases (invariant.founded before).writeEach_cons changed file.1 file.2 rest with
        ⟨stopped, -⟩ | ⟨-, changed', went⟩
      · rw [stopped]
        exact written
      · rw [went]
        exact ih written changed'

theorem leaves (before : holds tree) (access : Access) : holds (access.leaves tree) := by
  cases access with
  | read | stat => exact before
  | write text contents =>
      exact invariant.step before ((invariant.founded before).step_write text contents)
  | makeDirectory text =>
      exact invariant.step before ((invariant.founded before).step_makeDirectory text)
  | remove text => exact invariant.step before (step_remove text)
  | reset files =>
      obtain ⟨changed, same⟩ := leaves_reset tree files
      rw [same]
      exact invariant.writeEach (invariant.blank before) changed files.entries

/-- **What every step keeps, every sequence of operations keeps.** -/
theorem afterAll (before : holds tree) (accesses : List Access) :
    holds (tree.afterAll accesses) := by
  induction accesses using List.reverseRecOn with
  | nil => exact before
  | append_singleton front access ih =>
      rw [afterAll_concat]
      exact invariant.leaves ih access

end Invariant

/-- A tree in which nothing has been done. -/
theorem founded_new {root : String} (rooted : ({ root } : Tree).Rooted) :
    ({ root } : Tree).Founded root where
  absolute := rooted.absolute
  direct := rooted.direct
  given := rfl
  ground := (hasDirectory_new _ _).2 rfl

end Tree

end HotReload.Files
