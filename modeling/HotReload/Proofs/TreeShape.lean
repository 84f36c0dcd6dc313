import HotReload.Proofs.Containment

/-!
# Whether a tree stays a tree

A tree keeps its files and its directories apart, and they are changed one path at a time, while
the checks are still running. Whatever is asked of it, the root is a directory, no file is a
directory, and a file lies in directories all the way up to the root (`Tree.Sound`).

That directories lie in directories (`Tree.Whole`) can be lost in one way. A directory is made from
the deepest up, so where a file stands above it the failure comes when the directory is already
there, below the file (`directory_below_file`). As long as no operation strays below a file in this
way, and only so long, the tree stays whole (`stays_whole_iff`).
-/

set_option autoImplicit false

namespace HotReload.Files

namespace Path

/-- Whether a path lies strictly above another one. -/
def Above (top path : Path) : Prop :=
  top <+: path ∧ top ≠ path

theorem isPrefix_of_parent? {path dir : Path} (parent : path.parent? = some dir) :
    dir <+: path := by
  unfold parent? at parent
  split at parent
  · exact nomatch parent
  · exact nomatch parent
  · exact Option.some.inj parent ▸ List.dropLast_prefix path

/-- What lies above the directory of a path lies above the path. -/
theorem Above.of_parent {top path dir : Path} (above : top.Above dir)
    (parent : path.parent? = some dir) : top.Above path := by
  refine ⟨above.1.trans (isPrefix_of_parent? parent), ?_⟩
  rintro rfl
  exact above.2 (above.1.eq_of_length_le (isPrefix_of_parent? parent).length_le)

end Path

namespace Tree

variable {tree after : Tree} {path dir : Path} {text contents : String} {root : String}

/-- What holds of a tree whatever has been asked of it. -/
structure Sound (tree : Tree) : Prop where
  ground : tree.hasDirectory tree.rootPath = true
  apart : ∀ file, tree.files.contains file = true → tree.hasDirectory file = false
  covered : ∀ file path : Path, tree.files.contains file = true →
    tree.rootPath <+: path → path.Above file → tree.hasDirectory path = true

/-- All that lies above a directory, up to the root, is a directory. -/
def Whole (tree : Tree) : Prop :=
  ∀ dir path : Path, tree.hasDirectory dir = true →
    tree.rootPath <+: path → path.Above dir → tree.hasDirectory path = true

/-- Whether a file stands strictly above a path. -/
def FileAbove (tree : Tree) (path : Path) : Prop :=
  ∃ file : Path, tree.files.contains file = true ∧ file.Above path

/-! ## What every step keeps -/

theorem Made.sound {result : Except Fault Unit} (sound : tree.Sound)
    (made : Made tree dir result after) : after.Sound where
  ground := by
    rw [rootPath, made.root]
    exact (made.directories _).2 (.inl sound.ground)
  apart file stands := by
    rw [made.files] at stands
    refine Bool.eq_false_iff.2 fun directory => ?_
    rcases (made.directories file).1 directory with old | makes
    · exact Bool.false_ne_true ((sound.apart file stands).symm.trans old)
    · have free := makes.free file (List.prefix_refl file) makes.above
      exact Bool.false_ne_true (free.symm.trans stands)
  covered file path stands inside above := by
    rw [made.files] at stands
    rw [rootPath, made.root] at inside
    exact (made.directories path).2 (.inl (sound.covered file path stands inside above))

/-- A file is placed where no directory stands, and below directories. -/
theorem Made.sound_withFile {names : List String} {name : String} (sound : tree.Sound)
    (free : tree.hasDirectory (Path.absolute (names ++ [name])) = false)
    (made : Made tree (Path.absolute names) (.ok ()) after) (contents : String) :
    (after.withFile (Path.absolute (names ++ [name])) contents).Sound where
  ground := (made.sound sound).ground
  apart file stands := by
    show after.hasDirectory file = false
    rcases (contains_withFile after _ file contents).1 stands with old | rfl
    · exact (made.sound sound).apart file old
    · refine Bool.eq_false_iff.2 fun directory => ?_
      rcases (made.directories _).1 directory with old | makes
      · exact Bool.false_ne_true (free.symm.trans old)
      · have short := makes.above.length_le
        rw [Path.absolute_concat, List.length_append, List.length_singleton] at short
        exact Nat.not_succ_le_self _ short
  covered file path stands inside above := by
    show after.hasDirectory path = true
    rcases (contains_withFile after _ file contents).1 stands with old | rfl
    · exact (made.sound sound).covered file path old inside above
    · rw [Path.absolute_concat] at above
      have higher := (List.prefix_concat_iff.1 above.1).resolve_left above.2
      have within : tree.rootPath <+: path := by
        rw [rootPath, ← made.root]
        exact inside
      exact (made.directories path).2 (.inr ⟨within, higher, fun file below =>
        made.ok_iff.1 rfl file (within.trans below)⟩)

theorem Step.sound (sound : tree.Sound) (step : Step tree after) : after.Sound := by
  cases step with
  | stay => exact sound
  | make made => exact made.sound sound
  | place contents inside free made => exact made.sound_withFile sound free contents
  | remove file =>
      have stands : ∀ path, (tree.withoutFile file).files.contains path = true →
          tree.files.contains path = true :=
        fun path there => ((contains_withoutFile tree file path).1 there).1
      exact ⟨sound.ground, fun path there => sound.apart path (stands path there),
        fun below path there => sound.covered below path (stands below there)⟩

theorem sound_new (root : String) : ({ root } : Tree).Sound where
  ground := (hasDirectory_new _ _).2 rfl
  apart _ stands := nomatch stands
  covered _ _ stands := nomatch stands

/-- What holds of a tree after any operations. -/
structure Orderly (root : String) (tree : Tree) : Prop where
  founded : tree.Founded root
  contained : tree.Contained
  sound : tree.Sound

theorem invariant_orderly (root : String) : Invariant root (Orderly root) where
  founded := Orderly.founded
  blank orderly := ⟨orderly.founded.blank, orderly.founded.contained_new, sound_new _⟩
  step orderly step :=
    ⟨step.founded orderly.founded, step.contained orderly.contained, step.sound orderly.sound⟩

/-! ## Operations that stray below a file -/

/-- Only the root is a directory of an empty tree. -/
theorem whole_new (root : String) : ({ root } : Tree).Whole := by
  intro dir path directory inside above
  obtain rfl := (hasDirectory_new root dir).1 directory
  exact absurd (above.1.eq_of_length_le inside.length_le) above.2

/-- Nothing of a whole tree lies below a file. -/
theorem Whole.not_fileAbove (whole : tree.Whole) (orderly : tree.Orderly root)
    (directory : tree.hasDirectory dir = true) : ¬tree.FileAbove dir := by
  rintro ⟨file, stands, above⟩
  have inside := orderly.contained.inside file (.inl stands)
  have same := (orderly.sound.apart file stands).symm.trans (whole dir file directory inside above)
  exact Bool.false_ne_true same

/-- **Making a directory keeps a tree whole if no file stands above the directory, and only then.**
A file at the place of the directory itself bars it before anything has been made. -/
theorem Made.whole_iff {result : Except Fault Unit} (orderly : tree.Orderly root)
    (whole : tree.Whole) (inside : tree.rootPath <+: dir) (made : Made tree dir result after) :
    after.Whole ↔ ¬tree.FileAbove dir := by
  have sound := orderly.sound
  constructor
  · rintro afterwards ⟨file, stands, above⟩
    have within := orderly.contained.inside file (.inl stands)
    -- the file above is a directory for all that stands below it, so no other file is on the way
    have free : tree.files.contains dir = false := by
      refine Bool.eq_false_iff.2 fun deeper => Bool.false_ne_true ?_
      exact (sound.apart file stands).symm.trans (sound.covered dir file deeper within above)
    have deepest : after.hasDirectory dir = true := by
      refine (made.directories dir).2 (.inr ⟨inside, List.prefix_refl dir, ?_⟩)
      intro other below higher
      rw [higher.eq_of_length_le below.length_le]
      exact free
    have standing : after.files.contains file = true := made.files ▸ stands
    have directory : after.hasDirectory file = true := by
      refine afterwards dir file deepest ?_ above
      rw [rootPath, made.root]
      exact within
    exact Bool.false_ne_true (((made.sound sound).apart file standing).symm.trans directory)
  · intro clear below path directory within above
    rw [rootPath, made.root] at within
    refine (made.directories path).2 ?_
    rcases (made.directories below).1 directory with old | makes
    · exact .inl (whole below path old within above)
    · refine .inr ⟨within, above.1.trans makes.above, fun file deeper higher => ?_⟩
      by_cases same : file = dir
      · exact makes.free file (same ▸ makes.above) higher
      · exact Bool.eq_false_iff.2 fun stands => clear ⟨file, stands, higher, same⟩

/-- Writing a file asks for a directory below another file. -/
def WriteStrays (tree : Tree) (text : String) : Prop :=
  ∃ path dir : Path,
    tree.resolve text = .ok path ∧ path.parent? = some dir ∧ tree.FileAbove dir

/-- One of some files to be written, all before it being written, asks for a directory below
another file. -/
def WritesStray (tree : Tree) : List (String × String) → Prop
  | [] => False
  | (text, contents) :: rest => tree.WriteStrays text ∨
      ((write text contents).runOn tree).1 = .ok () ∧
        ((write text contents).runOn tree).2.WritesStray rest

/-- The operation asks for a directory below a file. -/
def Access.Strays (tree : Tree) : Access → Prop
  | .read _ | .stat _ | .remove _ => False
  | .write text _ => tree.WriteStrays text
  | .makeDirectory text => ∃ dir, tree.resolve text = .ok dir ∧ tree.FileAbove dir
  | .reset files => ({ root := tree.root } : Tree).WritesStray files.entries

section Orderly

variable (orderly : tree.Orderly root)
include orderly

theorem Orderly.write (text contents : String) :
    ((write text contents).runOn tree).2.Orderly root :=
  (invariant_orderly root).step orderly (orderly.founded.step_write text contents)

/-- A file that is written does not stray. -/
theorem Orderly.not_writeStrays (written : ((Tree.write text contents).runOn tree).1 = .ok ()) :
    ¬tree.WriteStrays text := by
  rintro ⟨path, dir, resolved, parent, file, stands, above⟩
  rcases orderly.founded.write_cases text contents with
    ⟨fault, ran, -⟩ | ⟨names, name, result, after, leads, -, -, made, ran⟩
  · rw [ran] at written
    exact nomatch written
  · rw [ran] at written
    obtain rfl := Except.ok.inj (resolved.symm.trans leads)
    obtain rfl := Option.some.inj (parent.symm.trans (Path.parent?_absolute_concat names name))
    have free := made.ok_iff.1 written file (orderly.contained.inside file (.inl stands)) above.1
    exact Bool.false_ne_true (free.symm.trans stands)

theorem Orderly.whole_write_iff (whole : tree.Whole) (text contents : String) :
    ((Tree.write text contents).runOn tree).2.Whole ↔ ¬tree.WriteStrays text := by
  rcases orderly.founded.write_cases text contents with
    ⟨fault, ran, refused⟩ | ⟨names, name, result, after, leads, inside, -, made, ran⟩
  · rw [ran]
    refine iff_of_true whole ?_
    rintro ⟨path, dir, resolved, parent, file, stands, above⟩
    rcases refused with refused | ⟨place, leads, directory⟩
    · exact nomatch resolved.symm.trans refused
    · obtain rfl := Except.ok.inj (resolved.symm.trans leads)
      exact whole.not_fileAbove orderly directory ⟨file, stands, above.of_parent parent⟩
  · have strays : tree.WriteStrays text ↔ tree.FileAbove (Path.absolute names) := by
      constructor
      · rintro ⟨path, dir, resolved, parent, barred⟩
        obtain rfl := Except.ok.inj (resolved.symm.trans leads)
        obtain rfl := Option.some.inj (parent.symm.trans (Path.parent?_absolute_concat names name))
        exact barred
      · exact fun barred => ⟨_, _, leads, Path.parent?_absolute_concat names name, barred⟩
    rw [ran, strays, ← made.whole_iff orderly whole inside]
    cases result with
    | ok _ => exact Iff.rfl
    | error fault => exact Iff.rfl

theorem Orderly.whole_makeDirectory_iff (whole : tree.Whole) (text : String) :
    ((makeDirectory text).runOn tree).2.Whole ↔ ¬(Access.makeDirectory text).Strays tree := by
  cases resolved : tree.resolve text with
  | error fault =>
      rw [runOn_makeDirectory_refused resolved]
      refine iff_of_true whole ?_
      rintro ⟨dir, leads, -⟩
      exact nomatch resolved.symm.trans leads
  | ok dir =>
      obtain ⟨names, rfl, inside⟩ := orderly.founded.exists_names_of_resolve resolved
      have made := made_makeAll orderly.founded.rootPath_ne_nil (Path.absolute names)
      rw [runOn_makeDirectory resolved, made.whole_iff orderly whole inside, not_iff_not]
      constructor
      · exact fun barred => ⟨_, resolved, barred⟩
      · rintro ⟨dir, leads, barred⟩
        obtain rfl := Except.ok.inj (resolved.symm.trans leads)
        exact barred

end Orderly

/-- Files are written one after the other as long as they are written. -/
theorem Orderly.whole_writeEach_iff (orderly : tree.Orderly root) (whole : tree.Whole)
    (changed : Table Path Unit) (files : List (String × String)) :
    ((writeEach changed files).runOn tree).2.Whole ↔ ¬tree.WritesStray files := by
  induction files generalizing tree changed with
  | nil => exact iff_of_true whole id
  | cons file rest ih =>
      obtain ⟨text, contents⟩ := file
      have first := orderly.whole_write_iff whole text contents
      rcases orderly.founded.writeEach_cons changed text contents rest with
        ⟨stopped, failed⟩ | ⟨written, changed', went⟩
      · rw [stopped, first, WritesStray, or_iff_left fun later => failed later.1]
      · have kept := orderly.not_writeStrays written
        rw [went, ih (orderly.write text contents) (first.2 kept) changed', WritesStray,
          or_iff_right kept, and_iff_right written]

/-- **One operation keeps a whole tree whole if it does not stray below a file, and only then.** -/
theorem Orderly.whole_leaves_iff (orderly : tree.Orderly root) (whole : tree.Whole)
    (access : Access) : (access.leaves tree).Whole ↔ ¬access.Strays tree := by
  cases access with
  | read | stat => exact iff_of_true whole id
  | write text contents => exact orderly.whole_write_iff whole text contents
  | makeDirectory text => exact orderly.whole_makeDirectory_iff whole text
  | remove text =>
      refine iff_of_true ?_ id
      show ((remove text).runOn tree).2.Whole
      cases resolved : tree.resolve text with
      | error fault =>
          rw [runOn_remove_refused resolved]
          exact whole
      | ok path =>
          rw [runOn_remove resolved]
          split
          · exact whole
          · exact whole
  | reset files =>
      obtain ⟨changed, same⟩ := leaves_reset tree files
      rw [same]
      exact ((invariant_orderly root).blank orderly).whole_writeEach_iff (whole_new _) changed _

/-! ## All operations -/

/-- **When a tree stays a tree.** After any operations, the root is a directory, no file is a
directory, and a file lies in directories all the way up to the root. The directories stay in
directories as long as no operation asks for a directory below a file, and only so long. -/
theorem stays_whole_iff (rooted : ({ root } : Tree).Rooted) (accesses : List Access) :
    (({ root } : Tree).afterAll accesses).Sound ∧
    ((∀ before, before <+: accesses → (({ root } : Tree).afterAll before).Whole) ↔
      ∀ before access, before ++ [access] <+: accesses →
        ¬access.Strays (({ root } : Tree).afterAll before)) := by
  have fresh := founded_new rooted
  have orderly : ∀ accesses, (({ root } : Tree).afterAll accesses).Orderly root :=
    (invariant_orderly root).afterAll ⟨fresh, fresh.contained_new, sound_new root⟩
  refine ⟨(orderly accesses).sound, ?_, ?_⟩
  · intro whole before access front
    refine ((orderly before).whole_leaves_iff ?_ access).1 ?_
    · exact whole before ((List.prefix_append _ _).trans front)
    · rw [← afterAll_concat]
      exact whole _ front
  · intro kept before front
    induction before using List.reverseRecOn with
    | nil => exact whole_new root
    | append_singleton before access ih =>
        rw [afterAll_concat]
        have earlier := ih ((List.prefix_append _ _).trans front)
        exact ((orderly before).whole_leaves_iff earlier access).2 (kept before access front)

/-- A file, and a request for a directory below it. -/
def barredAccesses : List Access :=
  [.write "a" "file", .makeDirectory "a/b"]

/-- What these requests leave. -/
def barredTree : Tree :=
  ({ root := "/r" } : Tree).afterAll barredAccesses

theorem rooted_r : ({ root := "/r" } : Tree).Rooted :=
  ⟨rfl, by decide⟩

theorem not_whole_barredTree : ¬barredTree.Whole := by
  intro whole
  have below : barredTree.hasDirectory (Path.absolute ["r", "a", "b"]) = true := by
    decide +kernel
  have above : barredTree.hasDirectory (Path.absolute ["r", "a"]) = false := by
    decide +kernel
  have inside : barredTree.rootPath <+: Path.absolute ["r", "a"] := by decide +kernel
  have higher : (Path.absolute ["r", "a"]).Above (Path.absolute ["r", "a", "b"]) :=
    ⟨by decide, by decide⟩
  exact Bool.false_ne_true (above.symm.trans (whole _ _ below inside higher))

/-- One of the two requests strays, and the files still lie in directories. -/
theorem stays_whole_iff_barred :
    ({ root := "/r" } : Tree).Rooted ∧ barredTree.Sound ∧
      ∃ before access, before ++ [access] <+: barredAccesses ∧
        access.Strays (({ root := "/r" } : Tree).afterAll before) := by
  obtain ⟨sound, whole_iff⟩ := stays_whole_iff rooted_r barredAccesses
  refine ⟨rooted_r, sound, ?_⟩
  by_contra none
  push Not at none
  exact not_whole_barredTree (whole_iff.2 none barredAccesses (List.prefix_refl _))

/-- **A failed request leaves a directory below a file.** -/
theorem directory_below_file :
    ({ root := "/r" } : Tree).Rooted ∧
      barredTree.files.contains (Path.absolute ["r", "a"]) = true ∧
      barredTree.hasDirectory (Path.absolute ["r", "a", "b"]) = true ∧ ¬barredTree.Whole :=
  ⟨rooted_r, by decide +kernel, by decide +kernel, not_whole_barredTree⟩

end Tree

end HotReload.Files
