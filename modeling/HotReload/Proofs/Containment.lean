import HotReload.Proofs.TreeChanges
import Mathlib.Logic.Relation

/-!
# Nothing escapes the root

A path is normalised by its components alone: a step up takes the name in front of it away, and at
the root it vanishes (`Path.Shortens`). However these steps are taken, they end in one path
(`Tree.Rooted.lexicalForm_iff`), and this is where a written path leads.

So whatever is asked of a tree, with whatever paths, all that it stores is the root or lies below
it, and has no step up in its path. An operation on a path that leads elsewhere is refused with the
path as it was written, and changes nothing (`nothing_escapes`).
-/

set_option autoImplicit false

namespace HotReload.Files

open Relation (ReflTransGen)

/-! ## Normal forms of paths -/

namespace Path

/-- One step of normalising a path: a step up takes the name in front of it away, or vanishes at the
root. -/
inductive Shortens : Path → Path → Prop
  | up (front : Path) (name : String) (back : Path) :
      Shortens (front ++ .name name :: .up :: back) (front ++ back)
  | top (back : Path) : Shortens (.root :: .up :: back) (.root :: back)

/-- A path that has no steps up and comes from normalising another one. -/
structure LexicalForm (path form : Path) : Prop where
  reached : ReflTransGen Shortens path form
  direct : .up ∉ form

namespace Shortens

variable {path after : Path}

theorem append (shortens : Shortens path after) (back : Path) :
    Shortens (path ++ back) (after ++ back) := by
  cases shortens with
  | up front name rest =>
      rw [List.append_assoc, List.append_assoc]
      exact .up front name (rest ++ back)
  | top rest => exact .top (rest ++ back)

/-- Shortening does not change where a path leads. -/
theorem normal_eq (shortens : Shortens path after) : normal path = normal after := by
  cases shortens with
  | up front name back =>
      simp only [normal, List.foldl_append, List.foldl_cons]
      congr 1
      simp [step]
  | top back => rfl

theorem climbs (shortens : Shortens path after) (climbs : path.Climbs) : after.Climbs := by
  obtain ⟨steps, same, moving⟩ := climbs
  cases shortens with
  | up front name back =>
      cases front with
      | nil => exact nomatch (List.cons.inj same).1
      | cons first front =>
          obtain ⟨rfl, rfl⟩ := List.cons.inj same
          refine ⟨front ++ back, rfl, fun component mem => moving component ?_⟩
          refine List.mem_append.2 ((List.mem_append.1 mem).imp_right fun later => ?_)
          exact List.mem_cons_of_mem _ (List.mem_cons_of_mem _ later)
  | top back =>
      obtain ⟨-, rfl⟩ := List.cons.inj same
      exact ⟨back, rfl, fun component mem => moving component (List.mem_cons_of_mem _ mem)⟩

end Shortens

/-- Every path shortens to its normal form. -/
theorem shortens_normal {path : Path} (climbs : path.Climbs) :
    ReflTransGen Shortens path (normal path) := by
  obtain ⟨steps, rfl, moving⟩ := climbs
  induction steps using List.reverseRecOn with
  | nil => exact .refl
  | append_singleton steps component ih =>
      have before : ∀ component ∈ steps, component = .up ∨ ∃ name, component = .name name :=
        fun component mem => moving component (List.mem_append_left _ mem)
      have front : ReflTransGen Shortens (.root :: (steps ++ [component]))
          (normal (.root :: steps) ++ [component]) :=
        (ih before).lift (· ++ [component]) fun _ _ shortens => shortens.append _
      have last : normal (.root :: (steps ++ [component])) =
          step (normal (.root :: steps)) component := by
        rw [← List.cons_append, normal, List.foldl_append]
        rfl
      obtain ⟨names, same⟩ := Climbs.exists_normal ⟨steps, rfl, before⟩
      rw [last]
      refine front.trans ?_
      rw [same]
      rcases moving component (List.mem_append_right _ List.mem_cons_self) with rfl | ⟨name, rfl⟩
      · rw [step_up_absolute]
        rcases List.eq_nil_or_concat' names with rfl | ⟨names, name, rfl⟩
        · exact .single (.top [])
        · rw [absolute_concat, List.dropLast_concat, List.append_assoc]
          have taken := Shortens.up (absolute names) name []
          rw [List.append_nil] at taken
          exact .single taken
      · rw [step_name_absolute, absolute_concat]

theorem up_notMem_absolute (names : List String) : .up ∉ absolute names := by
  simp [absolute]

/-- An absolute path without steps up leads to itself. -/
theorem Climbs.normal_eq_self {path : Path} (climbs : path.Climbs) (direct : .up ∉ path) :
    normal path = path := by
  obtain ⟨steps, rfl, moving⟩ := climbs
  have named : steps ∈ Set.range (List.map Component.name) := by
    rw [Set.range_list_map]
    intro component mem
    rcases moving component mem with rfl | ⟨name, rfl⟩
    · exact absurd (List.mem_cons_of_mem _ mem) direct
    · exact ⟨name, rfl⟩
  obtain ⟨names, rfl⟩ := named
  exact normal_absolute names

/-- **A path has one normal form, however it is shortened.** -/
theorem lexicalForm_iff {path form : Path} (climbs : path.Climbs) :
    path.LexicalForm form ↔ form = normal path := by
  constructor
  · rintro ⟨reached, direct⟩
    have kept : form.Climbs ∧ normal path = normal form := by
      clear direct
      induction reached with
      | refl => exact ⟨climbs, rfl⟩
      | tail _ shortens ih => exact ⟨shortens.climbs ih.1, ih.2.trans shortens.normal_eq⟩
    rw [kept.2, kept.1.normal_eq_self direct]
  · rintro rfl
    refine ⟨shortens_normal climbs, ?_⟩
    obtain ⟨names, same⟩ := climbs.exists_normal
    rw [same]
    exact up_notMem_absolute names

end Path

/-! ## What is stored -/

namespace Tree

variable {tree after : Tree} {path dir : Path} {text : String}

/-- Whether a file or a directory stands at a path. -/
def Stores (tree : Tree) (path : Path) : Prop :=
  tree.files.contains path = true ∨ tree.hasDirectory path = true

/-- All that is stored is the root or below it, and reached without going up. -/
structure Contained (tree : Tree) : Prop where
  inside : ∀ path, tree.Stores path → tree.rootPath <+: path
  direct : ∀ path, tree.Stores path → .up ∉ path

theorem Made.contained {names : List String} {result : Except Fault Unit}
    (contained : tree.Contained) (made : Made tree (Path.absolute names) result after) :
    after.Contained := by
  have stored : ∀ path, after.Stores path →
      tree.Stores path ∨ tree.Makes (Path.absolute names) path := by
    intro path stores
    rw [Stores, made.files, made.directories, ← or_assoc] at stores
    exact stores
  have root : after.rootPath = tree.rootPath := by rw [rootPath, made.root, rootPath]
  constructor
  · intro path stores
    rw [root]
    exact (stored path stores).elim (contained.inside path) Makes.inside
  · intro path stores
    rcases stored path stores with old | makes
    · exact contained.direct path old
    · exact fun mem => Path.up_notMem_absolute names (makes.above.subset mem)

/-- **Every step keeps all that is stored inside the root.** -/
theorem Step.contained (contained : tree.Contained) (step : Step tree after) :
    after.Contained := by
  cases step with
  | stay => exact contained
  | make made => exact made.contained contained
  | @place names name middle contents inside free made =>
      have kept := made.contained contained
      have root : middle.rootPath = tree.rootPath := by rw [rootPath, made.root, rootPath]
      have stored : ∀ path,
          (middle.withFile (Path.absolute (names ++ [name])) contents).Stores path →
          middle.Stores path ∨ path = Path.absolute (names ++ [name]) := by
        intro path stores
        rw [Stores, contains_withFile, or_assoc, or_comm (a := path = _), ← or_assoc] at stores
        exact stores
      constructor
      · intro path stores
        rcases stored path stores with old | rfl
        · exact kept.inside path old
        · show middle.rootPath <+: _
          rw [root, Path.absolute_concat]
          exact inside.trans (List.prefix_append _ _)
      · intro path stores
        rcases stored path stores with old | rfl
        · exact kept.direct path old
        · exact Path.up_notMem_absolute _
  | remove file =>
      have stored : ∀ path, (tree.withoutFile file).Stores path → tree.Stores path :=
        fun path stores =>
          stores.imp_left fun there => ((contains_withoutFile tree file path).1 there).1
      exact ⟨fun path stores => contained.inside path (stored path stores),
        fun path stores => contained.direct path (stored path stores)⟩

theorem Founded.contained_new {root : String} (founded : tree.Founded root) :
    ({ root := tree.root } : Tree).Contained := by
  have only : ∀ path, ({ root := tree.root } : Tree).Stores path → path = tree.rootPath := by
    rintro path (file | directory)
    · exact nomatch file
    · exact (hasDirectory_new _ _).1 directory
  constructor
  · intro path stores
    rw [only path stores]
    exact List.prefix_refl _
  · intro path stores
    rw [only path stores]
    exact founded.direct

theorem invariant_contained (root : String) :
    Invariant root fun tree => tree.Founded root ∧ tree.Contained where
  founded := And.left
  blank := fun both => ⟨both.1.blank, both.1.contained_new⟩
  step := fun both step => ⟨step.founded both.1, step.contained both.2⟩

/-! ## What is refused -/

theorem read_refused {fault : Fault} (refused : tree.resolve text = .error fault) :
    tree.read text = .error fault := by
  rw [read, refused]
  rfl

theorem stat_refused {fault : Fault} (refused : tree.resolve text = .error fault) :
    tree.stat text = .error fault := by
  rw [stat, refused]
  rfl

/-- **Nothing escapes the root.** After any operations with any paths, all files and directories are
the root or lie below it, and have no step up in their paths. Every path has one normal form, and an
operation on a path whose normal form is elsewhere is refused with the path as it was written, and
changes nothing. -/
theorem nothing_escapes {root : String} (rooted : ({ root } : Tree).Rooted)
    (accesses : List Access) :
    let tree := ({ root } : Tree).afterAll accesses
    (∀ path, tree.Stores path → Path.ofText root <+: path ∧ .up ∉ path) ∧
    (∀ text, ∃! path, (Path.ofText (Path.join root text)).LexicalForm path) ∧
    ∀ text path, (Path.ofText (Path.join root text)).LexicalForm path →
      ¬Path.ofText root <+: path →
      tree.read text = .error (.outsideRoot text) ∧
      tree.stat text = .error (.outsideRoot text) ∧
      (∀ contents, (write text contents).runOn tree = (.error (.outsideRoot text), tree)) ∧
      (makeDirectory text).runOn tree = (.error (.outsideRoot text), tree) ∧
      (remove text).runOn tree = (.error (.outsideRoot text), tree) := by
  intro tree
  have fresh := founded_new rooted
  obtain ⟨founded, contained⟩ : tree.Founded root ∧ tree.Contained :=
    (invariant_contained root).afterAll ⟨fresh, fresh.contained_new⟩ accesses
  have given : tree.rootPath = Path.ofText root := congrArg Path.ofText founded.given
  refine ⟨fun path stores => ?_, fun text => ?_, fun text path form outside => ?_⟩
  · rw [← given]
    exact ⟨contained.inside path stores, contained.direct path stores⟩
  · have climbs : (Path.ofText (Path.join root text)).Climbs := rooted.climbs_located text
    exact ⟨_, (Path.lexicalForm_iff climbs).2 rfl, fun _ => (Path.lexicalForm_iff climbs).1⟩
  · rw [← given] at outside
    rw [← founded.given] at form
    obtain rfl := (Path.lexicalForm_iff (founded.climbs_located text)).1 form
    have refused : tree.resolve text = .error (.outsideRoot text) := by
      rw [founded.resolve_eq, if_neg (mt Path.contains_iff.1 outside)]
    exact ⟨read_refused refused, stat_refused refused, runOn_write_refused refused,
      runOn_makeDirectory_refused refused, runOn_remove_refused refused⟩

/-- A path leads out of the root by a name that only begins like it. -/
theorem nothing_escapes_sibling :
    let tree := ({ root := "/app/src" } : Tree).afterAll
      [.write "a/b.js" "b", .makeDirectory "../src/c", .write "../srcs/b.js" "x"]
    ({ root := "/app/src" } : Tree).Rooted ∧
    (Path.ofText (Path.join "/app/src" "./a/../../srcs//b.js")).LexicalForm
      (Path.absolute ["app", "srcs", "b.js"]) ∧
    ¬Path.ofText "/app/src" <+: Path.absolute ["app", "srcs", "b.js"] ∧
    tree.read "./a/../../srcs//b.js" = .error (.outsideRoot "./a/../../srcs//b.js") ∧
    tree.Stores (Path.absolute ["app", "src", "c"]) ∧
    Path.ofText "/app/src" <+: Path.absolute ["app", "src", "c"] := by
  have rooted : ({ root := "/app/src" } : Tree).Rooted := ⟨rfl, by decide⟩
  have form : (Path.ofText (Path.join "/app/src" "./a/../../srcs//b.js")).LexicalForm
      (Path.absolute ["app", "srcs", "b.js"]) :=
    (Path.lexicalForm_iff (rooted.climbs_located "./a/../../srcs//b.js")).2 rfl
  have outside : ¬Path.ofText "/app/src" <+: Path.absolute ["app", "srcs", "b.js"] := by decide
  obtain ⟨stored, -, refused⟩ := nothing_escapes rooted
    [.write "a/b.js" "b", .makeDirectory "../src/c", .write "../srcs/b.js" "x"]
  have made : (({ root := "/app/src" } : Tree).afterAll
      [.write "a/b.js" "b", .makeDirectory "../src/c", .write "../srcs/b.js" "x"]).Stores
        (Path.absolute ["app", "src", "c"]) := .inr (by decide +kernel)
  exact ⟨rooted, form, outside, (refused _ _ form outside).1, made, (stored _ made).1⟩

end Tree

end HotReload.Files
