import HotReload.Proofs.TreeShape

/-!
# A store keyed by normal paths

A file can be named in many ways: from the root of the tree or from the root of the system, with
steps up, with steps to the same directory, with slashes that count for nothing. All that counts is
the normal form of the path (`Tree.Leads`): two paths with one normal form read the same, and what
is read at a normal form depends on nothing but what stands there (`Tree.same_answers`).

So a tree is a store whose keys are normal forms. A file that has been written is read under each of
its names. A file that has been removed is not found under any of them. Nothing else changes, except
that the directories above a file that is written are there afterwards. This holds in every tree
that operations can lead to, failed ones included (`keyed_by_normal_path`).
-/

set_option autoImplicit false

namespace HotReload.Files

theorem Path.above_concat_iff {path place : Path} {component : Component} :
    place.Above (path ++ [component]) ↔ place <+: path := by
  rw [Path.Above, List.prefix_concat_iff]
  constructor
  · rintro ⟨same | above, other⟩
    · exact absurd same other
    · exact above
  · intro above
    refine ⟨.inr above, ?_⟩
    rintro rfl
    have short := above.length_le
    rw [List.length_append, List.length_singleton] at short
    omega

namespace Tree

variable {tree after : Tree} {text other contents root : String} {path place : Path}

/-! ## Names of a path -/

/-- A written path is a name of another path: made absolute behind the root, it has this path as
its normal form. -/
def Leads (root text : String) (path : Path) : Prop :=
  (Path.ofText (Path.join root text)).LexicalForm path

/-- A path has one normal form, to which all its steps lead. -/
theorem leads_iff (rooted : ({ root } : Tree).Rooted) :
    Leads root text path ↔ path = Path.normal (Path.ofText (Path.join root text)) :=
  Path.lexicalForm_iff (rooted.climbs_located text)

/-- A name is resolved to its path, and refused if the root does not contain this. -/
theorem Founded.resolve_of_leads (founded : tree.Founded root) (leads : Leads root text path) :
    tree.resolve text =
      if tree.rootPath <+: path then .ok path else .error (.outsideRoot text) := by
  have climbs : (tree.located text).Climbs := founded.climbs_located text
  rw [Leads, ← founded.given] at leads
  obtain rfl := (Path.lexicalForm_iff climbs).1 leads
  rw [founded.resolve_eq]
  simp only [Path.contains_iff]

/-- A name is resolved to no other path than its own. -/
theorem Founded.eq_of_resolve (founded : tree.Founded root) (leads : Leads root text path)
    (resolved : tree.resolve text = .ok place) : path = place := by
  rw [founded.resolve_of_leads leads] at resolved
  split at resolved
  · exact Except.ok.inj resolved
  · exact nomatch resolved

/-! ## What stands at a path -/

theorem read_of_directory (resolved : tree.resolve text = .ok path)
    (directory : tree.hasDirectory path = true) :
    tree.read text = .error (.isADirectory path.toText) := by
  rw [read, resolved]
  exact if_pos directory

theorem stat_of_directory (resolved : tree.resolve text = .ok path)
    (directory : tree.hasDirectory path = true) : tree.stat text = .ok .directory := by
  rw [stat, resolved]
  exact if_pos directory

section NoDirectory

variable (resolved : tree.resolve text = .ok path) (free : tree.hasDirectory path = false)
include resolved free

/-- Where no directory stands, the files are asked. -/
theorem answers_of_files :
    tree.read text = (match tree.files.find? path with
      | some contents => .ok contents
      | none => .error (.notFound path.toText)) ∧
    tree.stat text = (match tree.files.find? path with
      | some contents => .ok (.file contents.utf8ByteSize)
      | none => .error (.notFound path.toText)) := by
  rw [read, stat, resolved]
  have directory : ¬tree.hasDirectory path = true := by
    rw [free]
    exact Bool.false_ne_true
  exact ⟨if_neg directory, if_neg directory⟩

theorem answers_of_file (stands : tree.files.find? path = some contents) :
    tree.read text = .ok contents ∧ tree.stat text = .ok (.file contents.utf8ByteSize) := by
  have answers := answers_of_files resolved free
  rw [stands] at answers
  exact answers

theorem answers_of_nothing (nothing : tree.files.find? path = none) :
    tree.read text = .error (.notFound path.toText) ∧
      tree.stat text = .error (.notFound path.toText) := by
  have answers := answers_of_files resolved free
  rw [nothing] at answers
  exact answers

end NoDirectory

theorem resolve_congr (root : after.root = tree.root) (text : String) :
    after.resolve text = tree.resolve text := by
  unfold resolve rootPath
  rw [root]

/-- **What is answered about a path depends on nothing but what stands there.** -/
theorem same_answers (root : after.root = tree.root)
    (same : ∀ path, tree.resolve text = .ok path →
      after.hasDirectory path = tree.hasDirectory path ∧
        after.files.find? path = tree.files.find? path) :
    after.read text = tree.read text ∧ after.stat text = tree.stat text := by
  have resolves := resolve_congr root text
  cases resolved : tree.resolve text with
  | error fault =>
      rw [resolved] at resolves
      rw [read_refused resolved, read_refused resolves, stat_refused resolved,
        stat_refused resolves]
      exact ⟨rfl, rfl⟩
  | ok path =>
      obtain ⟨directories, files⟩ := same path resolved
      rw [read, read, stat, stat, resolves, resolved]
      simp only [bind, Except.bind, directories, files]
      exact ⟨trivial, trivial⟩

/-! ## Files that are written and removed -/

/-- A file can be placed at a path: no directory stands there, and no file above it. -/
structure Free (tree : Tree) (path : Path) : Prop where
  bare : tree.hasDirectory path = false
  clear : ∀ file : Path, tree.rootPath <+: file → file.Above path →
    tree.files.contains file = false

/-- A file has been placed at a path, and everything above it has become a directory. -/
structure Placed (tree : Tree) (path : Path) (contents : String) (after : Tree) : Prop where
  root : after.root = tree.root
  files : after.files = tree.files.insert path contents
  directories : ∀ place, after.hasDirectory place = true ↔
    tree.hasDirectory place = true ∨ tree.rootPath <+: place ∧ place.Above path

/-- **A file is written if its path is free, and then it is placed there.** If it is not written,
the files stay as they are. -/
theorem Founded.write_result (founded : tree.Founded root) (text contents : String) :
    (∃ path, tree.resolve text = .ok path ∧ tree.Free path ∧
      ((write text contents).runOn tree).1 = .ok () ∧
      tree.Placed path contents ((write text contents).runOn tree).2) ∨
    (∃ fault, ((write text contents).runOn tree).1 = .error fault ∧
      ((write text contents).runOn tree).2.files = tree.files ∧
      ∀ path, tree.resolve text = .ok path → ¬tree.Free path) := by
  rcases founded.write_cases text contents with
    ⟨fault, ran, refused⟩ | ⟨names, name, result, after, leads, inside, bare, made, ran⟩
  · right
    rw [ran]
    refine ⟨fault, rfl, rfl, ?_⟩
    intro path resolved free
    rcases refused with refused | ⟨there, leads, directory⟩
    · exact nomatch resolved.symm.trans refused
    · obtain rfl := Except.ok.inj (resolved.symm.trans leads)
      exact Bool.false_ne_true (free.bare.symm.trans directory)
  · have above_iff : ∀ place : Path, place.Above (Path.absolute (names ++ [name])) ↔
        place <+: Path.absolute names := by
      intro place
      rw [Path.absolute_concat]
      exact Path.above_concat_iff
    rw [ran]
    cases result with
    | ok _ =>
        left
        have clear := made.ok_iff.1 rfl
        refine ⟨_, leads, ⟨bare, ?_⟩, rfl, ⟨made.root, ?_, ?_⟩⟩
        · intro file within above
          exact clear file within ((above_iff file).1 above)
        · show after.files.insert _ contents = _
          rw [made.files]
        · intro place
          show after.hasDirectory place = true ↔ _
          rw [made.directories, above_iff]
          apply or_congr_right
          constructor
          · intro makes
            exact ⟨makes.inside, makes.above⟩
          · rintro ⟨within, above⟩
            refine ⟨within, above, ?_⟩
            intro file below higher
            exact clear file (within.trans below) higher
    | error fault =>
        right
        refine ⟨fault, rfl, made.files, ?_⟩
        intro path resolved free
        obtain rfl := Except.ok.inj (resolved.symm.trans leads)
        have unbarred := made.ok_iff.2 fun file within above =>
          free.clear file within ((above_iff file).2 above)
        exact nomatch unbarred

theorem Placed.bare (placed : tree.Placed path contents after) (free : tree.Free path) :
    after.hasDirectory path = false := by
  apply Bool.eq_false_iff.2
  intro directory
  rcases (placed.directories path).1 directory with old | ⟨-, above⟩
  · exact Bool.false_ne_true (free.bare.symm.trans old)
  · exact above.2 rfl

theorem Placed.find?_files (placed : tree.Placed path contents after) (place : Path) :
    after.files.find? place = if place = path then some contents else tree.files.find? place := by
  rw [placed.files, Table.find?_insert]
  simp only [Std.LawfulEqOrd.compare_eq_iff_eq]

theorem find?_withoutFile (tree : Tree) (path place : Path) :
    (tree.withoutFile path).files.find? place =
      if place = path then none else tree.files.find? place := by
  rw [withoutFile, Table.find?_erase]
  simp only [Std.LawfulEqOrd.compare_eq_iff_eq]

/-- A file that has been written. -/
theorem Founded.placed_of_written (founded : tree.Founded root) (leads : Leads root text path)
    (written : (write text contents).runOn tree = (.ok (), after)) :
    tree.rootPath <+: path ∧ tree.Free path ∧ tree.Placed path contents after := by
  rcases founded.write_result text contents with
    ⟨found, resolved, free, -, placed⟩ | ⟨fault, failed, -, -⟩
  · rw [founded.resolve_of_leads leads] at resolved
    split at resolved
    · rename_i inside
      obtain rfl := Except.ok.inj resolved
      rw [written] at placed
      exact ⟨inside, free, placed⟩
    · exact nomatch resolved
  · rw [written] at failed
    exact nomatch failed

/-- A file that has been removed. -/
theorem Founded.removed (founded : tree.Founded root) (leads : Leads root text path)
    (removed : (remove text).runOn tree = (.ok (), after)) :
    tree.rootPath <+: path ∧ tree.files.contains path = true ∧ after = tree.withoutFile path := by
  have resolved := founded.resolve_of_leads leads
  split at resolved
  · rename_i inside
    rw [runOn_remove resolved] at removed
    split at removed
    · rename_i stands
      exact ⟨inside, stands, (Prod.mk.inj removed).2.symm⟩
    · exact nomatch (Prod.mk.inj removed).1
  · rw [runOn_remove_refused resolved] at removed
    exact nomatch (Prod.mk.inj removed).1

/-! ## The store -/

theorem orderly_afterAll (rooted : ({ root } : Tree).Rooted) (accesses : List Access) :
    (({ root } : Tree).afterAll accesses).Orderly root := by
  have fresh := founded_new rooted
  exact (invariant_orderly root).afterAll ⟨fresh, fresh.contained_new, sound_new root⟩ accesses

/-- What is answered when a file has been written: its text and its size under each of its names,
directories above it, and all else as before. -/
theorem Founded.answers_of_placed (founded : tree.Founded root) (inside : tree.rootPath <+: path)
    (free : tree.Free path) (placed : tree.Placed path contents after)
    (leads : Leads root other place) :
    (place = path →
      after.read other = .ok contents ∧ after.stat other = .ok (.file contents.utf8ByteSize)) ∧
    (tree.rootPath <+: place → place.Above path →
      after.read other = .error (.isADirectory place.toText) ∧
        after.stat other = .ok .directory) ∧
    (place ≠ path → ¬(tree.rootPath <+: place ∧ place.Above path) →
      after.read other = tree.read other ∧ after.stat other = tree.stat other) := by
  have resolved := founded.resolve_of_leads leads
  have resolves : tree.rootPath <+: place → after.resolve other = .ok place := by
    intro within
    rw [resolve_congr placed.root, resolved, if_pos within]
  refine ⟨?_, ?_, ?_⟩
  · rintro rfl
    apply answers_of_file (resolves inside) (placed.bare free)
    rw [placed.find?_files, if_pos rfl]
  · intro within above
    have directory := (placed.directories place).2 (.inr ⟨within, above⟩)
    exact ⟨read_of_directory (resolves within) directory,
      stat_of_directory (resolves within) directory⟩
  · intro apart aside
    apply same_answers placed.root
    intro found leadsTo
    obtain rfl := founded.eq_of_resolve leads leadsTo
    rw [placed.find?_files, if_neg apart, Bool.eq_iff_iff, placed.directories, or_iff_left aside]
    exact ⟨Iff.rfl, rfl⟩

/-- What is answered when a file has been removed: it is not found under any of its names, and all
else is as before. -/
theorem Orderly.answers_of_removed (orderly : tree.Orderly root)
    (inside : tree.rootPath <+: path) (stands : tree.files.contains path = true)
    (leads : Leads root other place) :
    (place = path →
      (tree.withoutFile path).read other = .error (.notFound path.toText) ∧
        (tree.withoutFile path).stat other = .error (.notFound path.toText)) ∧
    (place ≠ path →
      (tree.withoutFile path).read other = tree.read other ∧
        (tree.withoutFile path).stat other = tree.stat other) := by
  have resolved := orderly.founded.resolve_of_leads leads
  have kept : (tree.withoutFile path).root = tree.root := rfl
  constructor
  · rintro rfl
    apply answers_of_nothing
    · rw [resolve_congr kept, resolved, if_pos inside]
    · -- no directory has taken the place of the file
      exact orderly.sound.apart place stands
    · rw [find?_withoutFile, if_pos rfl]
  · intro apart
    apply same_answers kept
    intro found leadsTo
    obtain rfl := orderly.founded.eq_of_resolve leads leadsTo
    rw [find?_withoutFile, if_neg apart]
    exact ⟨rfl, rfl⟩

/-- **A tree is a store keyed by normal paths.** After any operations, a file that is written is
read, with its size, under every name of its path. The directories above it are there, up to the
root, and whatever else is asked is answered as before. A file that is removed is not found under
any name of its path, and whatever else is asked is answered as before. -/
theorem keyed_by_normal_path (rooted : ({ root } : Tree).Rooted) (accesses : List Access)
    {text : String} {path : Path} (leads : Leads root text path) :
    let tree := ({ root } : Tree).afterAll accesses
    (∀ contents after, (write text contents).runOn tree = (.ok (), after) →
      ∀ other place, Leads root other place →
        (place = path →
          after.read other = .ok contents ∧
            after.stat other = .ok (.file contents.utf8ByteSize)) ∧
        (Path.ofText root <+: place → place.Above path →
          after.read other = .error (.isADirectory place.toText) ∧
            after.stat other = .ok .directory) ∧
        (place ≠ path → ¬(Path.ofText root <+: place ∧ place.Above path) →
          after.read other = tree.read other ∧ after.stat other = tree.stat other)) ∧
    (∀ after, (remove text).runOn tree = (.ok (), after) →
      ∀ other place, Leads root other place →
        (place = path →
          after.read other = .error (.notFound path.toText) ∧
            after.stat other = .error (.notFound path.toText)) ∧
        (place ≠ path →
          after.read other = tree.read other ∧ after.stat other = tree.stat other)) := by
  intro tree
  have orderly : tree.Orderly root := orderly_afterAll rooted accesses
  have ground : tree.rootPath = Path.ofText root := congrArg Path.ofText orderly.founded.given
  constructor
  · intro contents after written other place otherLeads
    obtain ⟨inside, free, placed⟩ := orderly.founded.placed_of_written leads written
    rw [← ground]
    exact orderly.founded.answers_of_placed inside free placed otherLeads
  · intro after removed other place otherLeads
    obtain ⟨inside, stands, rfl⟩ := orderly.founded.removed leads removed
    exact orderly.answers_of_removed inside stands otherLeads

/-- A file that has been written, after a failed request has left a directory below another file. -/
def strayAccesses : List Access :=
  [.write "a" "file", .makeDirectory "a/b", .remove "a", .write "lib/App.js" "old"]

/-- What these requests leave. -/
def strayTree : Tree :=
  ({ root := "/app/src" } : Tree).afterAll strayAccesses

/-- The file is written anew and is removed, and it is read under another of its names. -/
theorem keyed_by_normal_path_respelt :
    ({ root := "/app/src" } : Tree).Rooted ∧
      Leads "/app/src" "x/../lib//App.js" (Path.absolute ["app", "src", "lib", "App.js"]) ∧
      ∃ written removed,
        (write "x/../lib//App.js" "new").runOn strayTree = (.ok (), written) ∧
        written.read "/app/./src/lib/App.js" = .ok "new" ∧
        written.stat "a/b" = .ok .directory ∧
        (remove "x/../lib//App.js").runOn strayTree = (.ok (), removed) ∧
        removed.read "/app/./src/lib/App.js" = .error (.notFound "/app/src/lib/App.js") := by
  have rooted : ({ root := "/app/src" } : Tree).Rooted := ⟨rfl, by decide⟩
  have leads : ∀ text ∈ ["x/../lib//App.js", "/app/./src/lib/App.js"],
      Leads "/app/src" text (Path.absolute ["app", "src", "lib", "App.js"]) := by
    simp only [leads_iff rooted]
    decide +kernel
  have given := leads "x/../lib//App.js" (by simp)
  have other := leads "/app/./src/lib/App.js" (by simp)
  have below : Leads "/app/src" "a/b" (Path.absolute ["app", "src", "a", "b"]) := by
    rw [leads_iff rooted]
    decide +kernel
  have wrote : ((write "x/../lib//App.js" "new").runOn strayTree).1 = .ok () := by
    decide +kernel
  have removes : ((remove "x/../lib//App.js").runOn strayTree).1 = .ok () := by
    decide +kernel
  have stray : strayTree.stat "a/b" = .ok .directory := by
    decide +kernel
  obtain ⟨writing, removing⟩ := keyed_by_normal_path rooted strayAccesses given
  rw [← strayTree] at writing removing
  refine ⟨rooted, given, _, _, Prod.fst_eq_iff.1 wrote, ?_, ?_, Prod.fst_eq_iff.1 removes, ?_⟩
  · exact ((writing "new" _ (Prod.fst_eq_iff.1 wrote) _ _ other).1 rfl).1
  · have apart : ¬Path.absolute ["app", "src", "a", "b"] <+:
        Path.absolute ["app", "src", "lib", "App.js"] := by decide
    have kept := (writing "new" _ (Prod.fst_eq_iff.1 wrote) _ _ below).2.2 (by decide)
      fun within => apart within.2.1
    rw [kept.2]
    exact stray
  · have missing := ((removing _ (Prod.fst_eq_iff.1 removes) _ _ other).1 rfl).1
    rw [missing]
    decide +kernel

end Tree

end HotReload.Files
