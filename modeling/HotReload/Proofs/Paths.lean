import HotReload.Files.Tree
import HotReload.Proofs.SpecReading
import Mathlib.Data.List.DropRight
import Mathlib.Data.Set.List

/-!
# Where paths lead

A written path is a beginning and some steps (`Path.ofText_eq`), and a path joined to another one
adds its steps (`Path.ofText_join`). From a directory the steps may climb, and come down again
somewhere else. All that counts of them is their route: how often it climbs above the directory, and
the names by which it goes down from there (`Path.Route`). A route drops as many names of the
directory as it climbs and adds its own (`Path.normal_append`).

So it can be read off a route whether it leads back to the directory: it does if it goes down by
the very names that it has climbed (`Path.Route.prefix_leadsFrom_iff`), and so if it never climbs.
-/

set_option autoImplicit false

namespace HotReload

/-! ## Pieces between slashes -/

namespace Text

variable {separator : Char}

theorem splitAt_ne_nil (separator : Char) (cs : List Char) : splitAt separator cs ≠ [] := by
  fun_cases splitAt separator cs <;> simp

theorem splitAt_cons_of_ne {c : Char} (other : c ≠ separator) (cs : List Char) :
    ∃ piece more, splitAt separator cs = piece :: more ∧
      splitAt separator (c :: cs) = (c :: piece) :: more := by
  obtain ⟨piece, more, pieces⟩ := List.exists_cons_of_ne_nil (splitAt_ne_nil separator cs)
  refine ⟨piece, more, pieces, ?_⟩
  rw [splitAt, if_neg other, pieces]

/-- A separator cuts a text in two, each with its own pieces. -/
theorem splitAt_append (separator : Char) (front back : List Char) :
    splitAt separator (front ++ separator :: back) =
      splitAt separator front ++ splitAt separator back := by
  induction front with
  | nil => simp [splitAt]
  | cons c front ih =>
      by_cases here : c = separator
      · simp [splitAt, here, ih]
      · obtain ⟨piece, more, pieces, whole⟩ := splitAt_cons_of_ne here front
        obtain ⟨piece', more', pieces', whole'⟩ :=
          splitAt_cons_of_ne here (front ++ separator :: back)
        rw [ih, pieces, List.cons_append] at pieces'
        obtain ⟨rfl, rfl⟩ := List.cons.inj pieces'
        rw [List.cons_append, whole', whole, List.cons_append]

end Text

namespace Files

namespace Path

/-! ## Written paths -/

/-- The steps of a written path behind its beginning. -/
def steps (text : String) : Path :=
  (Text.splitAt '/' text.toList).filterMap component?

/-- The beginning of a written path. -/
def beginning (text : String) : Path :=
  if isAbsolute text then [.root]
  else if (Text.splitAt '/' text.toList).head? = some ['.'] then [.here]
  else []

/-- A written path is its beginning and its steps. -/
theorem ofText_eq (text : String) : ofText text = beginning text ++ steps text := by
  unfold ofText beginning
  dsimp only
  split
  · rfl
  · split <;> rfl

theorem ofText_of_isAbsolute {text : String} (absolute : isAbsolute text = true) :
    ofText text = .root :: steps text := by
  rw [ofText_eq, beginning, if_pos absolute, List.singleton_append]

/-- A step goes up or down to a name. -/
theorem mem_steps {text : String} {component : Component} (mem : component ∈ steps text) :
    component = .up ∨ ∃ name, component = .name name := by
  obtain ⟨piece, -, made⟩ := List.mem_filterMap.1 mem
  unfold component? at made
  split at made
  · exact nomatch made
  · split at made
    · exact .inl (Option.some.inj made).symm
    · exact .inr ⟨_, (Option.some.inj made).symm⟩

theorem root_notMem_steps (text : String) : .root ∉ steps text := by
  intro mem
  rcases mem_steps mem with up | ⟨name, named⟩
  · exact nomatch up
  · exact nomatch named

/-- Steps that never go up are names. -/
theorem steps_eq_map_name {text : String} (direct : .up ∉ steps text) :
    ∃ names : List String, steps text = names.map .name := by
  have named : steps text ∈ Set.range (List.map Component.name) := by
    rw [Set.range_list_map]
    intro component mem
    rcases mem_steps mem with rfl | ⟨name, rfl⟩
    · exact absurd mem direct
    · exact ⟨name, rfl⟩
  obtain ⟨names, same⟩ := named
  exact ⟨names, same.symm⟩

/-- A slash cuts a path in two, each with its own steps. -/
theorem steps_of_slash {text : String} {front back : List Char}
    (written : text.toList = front ++ '/' :: back) :
    steps text = steps (String.ofList front) ++ steps (String.ofList back) := by
  simp only [steps, written, Text.splitAt_append, List.filterMap_append, String.toList_ofList]

@[simp] theorem steps_empty : steps (String.ofList []) = [] := rfl

/-- How a path begins can be seen from what stands in front of a slash. -/
theorem beginning_of_slash {text other : String} {front back tail : List Char}
    (written : text.toList = front ++ '/' :: back) (given : other.toList = front ++ tail)
    (cut : tail = [] ∧ front ≠ [] ∨ ∃ rest, tail = '/' :: rest) :
    beginning text = beginning other := by
  have heads : text.toList.head? = other.toList.head? := by
    rw [written, given]
    cases front with
    | cons c front => rfl
    | nil =>
        rcases cut with ⟨-, empty⟩ | ⟨rest, rfl⟩
        · exact absurd rfl empty
        · rfl
  have first (back : List Char) : (Text.splitAt '/' (front ++ '/' :: back)).head? =
      (Text.splitAt '/' front).head? := by
    rw [Text.splitAt_append, List.head?_append_of_ne_nil _ (Text.splitAt_ne_nil _ _)]
  have pieces : (Text.splitAt '/' text.toList).head? = (Text.splitAt '/' other.toList).head? := by
    rw [written, given, first]
    rcases cut with ⟨rfl, -⟩ | ⟨rest, rfl⟩
    · rw [List.append_nil]
    · rw [first]
  rw [beginning, beginning, isAbsolute, isAbsolute, heads, pieces]

/-- **A path that is joined to another one adds its steps.** -/
theorem ofText_join {base path : String} (given : base ≠ "") (relative : isAbsolute path = false) :
    ofText (join base path) = ofText base ++ steps path := by
  rw [ofText_eq, ofText_eq, join, relative, if_neg Bool.false_ne_true, List.append_assoc]
  split
  · -- the first path ends in a slash, behind which it has no steps
    rename_i ends
    obtain ⟨front, slash⟩ := List.getLast?_eq_some_iff.1 (ends.resolve_left given)
    have whole : (base ++ path).toList = front ++ '/' :: path.toList := by
      rw [String.toList_append, slash, List.append_assoc, List.singleton_append]
    rw [beginning_of_slash whole slash (.inr ⟨[], rfl⟩), steps_of_slash whole, steps_of_slash slash,
      steps_empty, List.append_nil, String.ofList_toList]
  · have whole : (base ++ "/" ++ path).toList = base.toList ++ '/' :: path.toList := by
      simp
    rw [beginning_of_slash whole (List.append_nil _).symm (.inl ⟨rfl, by simpa using given⟩),
      steps_of_slash whole, String.ofList_toList, String.ofList_toList]

/-- A path that is joined to another one begins where that one does. -/
theorem isAbsolute_join {base path : String} (given : base ≠ "")
    (relative : isAbsolute path = false) : isAbsolute (join base path) = isAbsolute base := by
  obtain ⟨c, cs, written⟩ := List.exists_cons_of_ne_nil (mt String.toList_eq_nil_iff.1 given)
  rw [join, relative, if_neg Bool.false_ne_true]
  split <;> simp [isAbsolute, written]

/-- Slashes in front of a path change none of its steps. -/
theorem steps_dropSlashes (text : String) :
    steps (String.ofList (text.toList.dropWhile (· == '/'))) = steps text := by
  unfold steps
  rw [String.toList_ofList]
  induction text.toList with
  | nil => rfl
  | cons c rest ih =>
      rw [List.dropWhile_cons]
      split
      · rename_i slash
        obtain rfl := beq_iff_eq.1 slash
        rw [ih]
        rfl
      · rfl

/-! ## Absolute paths -/

/-- The absolute path of some names. -/
def absolute (names : List String) : Path :=
  .root :: names.map .name

theorem absolute_concat (names : List String) (name : String) :
    absolute (names ++ [name]) = absolute names ++ [.name name] := by
  simp [absolute]

@[simp] theorem step_name_absolute (names : List String) (name : String) :
    step (absolute names) (.name name) = absolute (names ++ [name]) :=
  (absolute_concat names name).symm

/-- Going up from an absolute path drops its last name, if it has one. -/
@[simp] theorem step_up_absolute (names : List String) :
    step (absolute names) .up = absolute names.dropLast := by
  rcases List.eq_nil_or_concat' names with rfl | ⟨front, name, rfl⟩
  · rfl
  · simp [step, absolute_concat]

theorem name_injective : Function.Injective Component.name :=
  fun _ _ same => Component.name.inj same

theorem absolute_injective : Function.Injective absolute :=
  fun _ _ same => List.map_injective_iff.2 name_injective (List.cons.inj same).2

theorem contains_absolute {top names : List String} :
    (absolute top).contains (absolute names) = true ↔ top <+: names := by
  rw [contains, List.isPrefixOf_iff_prefix, absolute, absolute, List.cons_prefix_cons,
    List.prefix_map_iff_of_injective name_injective]
  exact and_iff_right rfl

/-! ## Routes -/

/-- What steps from a directory come to. -/
structure Route where
  /-- How often the steps climb above the directory. -/
  ups : Nat
  /-- The names that lead down from where they have climbed to. -/
  names : List String
deriving DecidableEq, Repr

namespace Route

/-- The route with one more step. -/
def step (route : Route) : Component → Route
  | .up => if route.names = [] then { route with ups := route.ups + 1 }
      else { route with names := route.names.dropLast }
  | .name text => { route with names := route.names ++ [text] }
  | .root | .here => route

/-- The route of some steps. -/
def ofSteps (path : Path) : Route :=
  path.foldl step ⟨0, []⟩

/-- The names behind the root that a route leads to from a directory. There is nothing above the
root, so climbing stays there. -/
def leadsFrom (route : Route) (base : List String) : List String :=
  base.rdrop route.ups ++ route.names

theorem ofSteps_concat (path : Path) (component : Component) :
    ofSteps (path ++ [component]) = (ofSteps path).step component := by
  rw [ofSteps, List.foldl_append, List.foldl_cons, List.foldl_nil, ofSteps]

theorem leadsFrom_up (route : Route) (base : List String) :
    (route.step .up).leadsFrom base = (route.leadsFrom base).dropLast := by
  unfold leadsFrom step
  dsimp only
  split
  · rename_i top
    dsimp only
    rw [top, List.append_nil, List.append_nil, List.rdrop, List.rdrop, List.dropLast_eq_take,
      List.take_take, List.length_take]
    congr 1
    omega
  · rename_i below
    exact (List.dropLast_append_of_ne_nil below).symm

/-- One more step of a route is a step from where it has led to. -/
theorem absolute_leadsFrom_step (route : Route) (base : List String) {component : Component}
    (apart : component ≠ .root) :
    absolute ((route.step component).leadsFrom base) =
      Path.step (absolute (route.leadsFrom base)) component := by
  cases component with
  | root => exact absurd rfl apart
  | here => rfl
  | up => rw [leadsFrom_up, step_up_absolute]
  | name text => rw [step_name_absolute, leadsFrom, leadsFrom, step, List.append_assoc]

/-- A route comes down again by the very names that it has climbed, if it has climbed at all. -/
def Returns (route : Route) (base : List String) : Prop :=
  base.rtake route.ups <+: route.names

instance (route : Route) (base : List String) : Decidable (route.Returns base) :=
  inferInstanceAs (Decidable (_ <+: _))

/-- **A route stays in the directory from which it leads just if it returns to it.** -/
theorem prefix_leadsFrom_iff (route : Route) (base : List String) :
    base <+: route.leadsFrom base ↔ route.Returns base := by
  have parts : base = base.rdrop route.ups ++ base.rtake route.ups :=
    (List.take_append_drop _ _).symm
  rw [leadsFrom, Returns]
  nth_rewrite 1 [parts]
  exact List.prefix_append_right_inj _

/-- A last name does not bring a route back that is not the last name of the directory. -/
theorem returns_step_name_iff {route : Route} {base : List String} {last name : String}
    (apart : last ≠ name) :
    (route.step (.name name)).Returns (base ++ [last]) ↔ route.Returns (base ++ [last]) := by
  unfold Returns step
  dsimp only
  rw [List.prefix_concat_iff]
  refine or_iff_right fun whole => ?_
  cases climbed : route.ups with
  | zero =>
      rw [climbed, List.rtake_zero] at whole
      exact List.append_ne_nil_of_right_ne_nil _ (List.cons_ne_nil _ _) whole.symm
  | succ ups =>
      rw [climbed, List.rtake_concat_succ] at whole
      exact apart (List.cons.inj (List.append_inj' whole rfl).2).1

end Route

/-! ## Normal paths -/

/-- An absolute path of names leads to itself. -/
theorem normal_absolute (names : List String) : normal (absolute names) = absolute names := by
  induction names using List.reverseRecOn with
  | nil => rfl
  | append_singleton front name ih =>
      rw [absolute_concat, normal, List.foldl_append, ← normal, ih, ← absolute_concat]
      exact step_name_absolute front name

/-- **The steps from a directory lead where their route does.** -/
theorem normal_append (base : List String) {path : Path} (relative : .root ∉ path) :
    normal (absolute base ++ path) = absolute ((Route.ofSteps path).leadsFrom base) := by
  induction path using List.reverseRecOn with
  | nil => simp [normal_absolute, Route.ofSteps, Route.leadsFrom]
  | append_singleton path component ih =>
      obtain ⟨before, last⟩ := not_or.1 (mt List.mem_append.2 relative)
      have apart : component ≠ .root := by simpa [eq_comm] using last
      rw [Route.ofSteps_concat, Route.absolute_leadsFrom_step _ _ apart, ← ih before,
        ← List.append_assoc, normal, List.foldl_append]
      rfl

end Path

/-! ## Paths in a tree -/

namespace Tree

variable {tree : Tree} {text contents : String} {path : Path}

/-- The root of a tree is an absolute path that never goes up. -/
structure Rooted (tree : Tree) : Prop where
  absolute : Path.isAbsolute tree.root = true
  direct : .up ∉ tree.rootPath

theorem Rooted.exists_names (rooted : tree.Rooted) :
    ∃ names, tree.rootPath = Path.absolute names := by
  have whole : tree.rootPath = .root :: Path.steps tree.root :=
    Path.ofText_of_isAbsolute rooted.absolute
  have direct : .up ∉ Path.steps tree.root := fun mem =>
    rooted.direct (whole ▸ List.mem_cons_of_mem _ mem)
  obtain ⟨names, steps⟩ := Path.steps_eq_map_name direct
  exact ⟨names, by rw [whole, steps, Path.absolute]⟩

/-- A relative path is resolved from the root, and must stay below it. -/
theorem resolve_eq_ok_iff (relative : Path.isAbsolute text = false) :
    tree.resolve text = .ok path ↔
      Path.normal (tree.rootPath ++ Path.ofText text) = path ∧
        tree.rootPath.contains path = true := by
  unfold resolve
  dsimp only
  rw [relative, if_neg Bool.false_ne_true]
  constructor
  · intro resolved
    split at resolved
    · rename_i inside
      obtain rfl := Except.ok.inj resolved
      exact ⟨rfl, inside⟩
    · exact nomatch resolved
  · rintro ⟨rfl, inside⟩
    exact if_pos inside

/-- What is read is the file that the path leads to. -/
theorem read_eq_ok_iff :
    tree.read text = .ok contents ↔
      ∃ path, tree.resolve text = .ok path ∧ tree.hasDirectory path = false ∧
        tree.files.find? path = some contents := by
  unfold read
  rw [Spec.bind_eq_ok_iff]
  refine exists_congr fun path => and_congr_right fun _ => ?_
  cases directory : tree.hasDirectory path with
  | true => simp
  | false => cases found : tree.files.find? path <;> simp

end Tree

end Files

end HotReload
