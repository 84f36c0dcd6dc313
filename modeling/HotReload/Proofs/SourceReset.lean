import HotReload.Proofs.ServerStates
import Mathlib.Data.List.Pairwise

/-!
# What a reset leaves

A reset empties the tree of the server, writes the sources and writes the built output back that it
keeps. All of it is written if every source leads to a place below the root and none of these places
lies above another one (`Build.Fits`): the sources fill the empty tree, and as they lie beside the
built output, this still fits in (`Build.runOn_reset_fits`).

Source files with proper names lie in `src`, so they fit in any case, and they leave the built
output alone. A reset with such sources goes on to the rebuild, which finds the sources and the
output that is kept, and no other file. What it answers are the paths of all files outside the
output that were there or that are new (`Build.reset_installs`).
-/

set_option autoImplicit false

namespace HotReload

open Files (Fault Path Tree)

namespace Table

variable {κ ν : Type} [Ord κ] [Std.TransOrd κ] [Std.LawfulEqOrd κ]

/-- Among pairs with different keys, the pairs are what is found. -/
theorem find?_ofList_eq_some_iff {pairs : List (κ × ν)} (apart : (pairs.map Prod.fst).Nodup)
    {key : κ} {value : ν} : (ofList pairs).find? key = some value ↔ (key, value) ∈ pairs := by
  rw [find?_eq_some_iff]
  exact ⟨mem_of_mem_ofList, mem_ofList_of_mem apart⟩

/-- The keys of pairs that are put into a table are added to its keys. -/
theorem mem_keys_foldl_insert {μ : Type} {pairs : List (κ × μ)} {table : Table κ Unit} {key : κ} :
    key ∈ (pairs.foldl (fun table pair => table.insert pair.1 ()) table).keys ↔
      key ∈ table.keys ∨ ∃ pair ∈ pairs, pair.1 = key := by
  induction pairs using List.reverseRecOn with
  | nil => simp
  | append_singleton pairs pair ih =>
      rw [List.foldl_append, List.foldl_cons, List.foldl_nil, mem_keys_iff, find?_insert]
      by_cases same : compare key pair.1 = .eq
      · obtain rfl := Std.LawfulEqOrd.eq_of_compare same
        simp
      · have apart : pair.1 ≠ key := by
          rintro rfl
          exact same Std.ReflOrd.compare_self
        rw [if_neg same, ← mem_keys_iff, ih]
        simp [apart]

end Table

namespace Files.Tree

variable {tree : Tree} {given : List (String × String)} {places : List (Path × String)}

/-! ## Files in an empty tree -/

/-- In an empty tree every path is free but the root. -/
theorem free_new {root : String} {path : Path} :
    ({ root } : Tree).Free path ↔ path ≠ Path.ofText root := by
  constructor
  · intro free same
    exact Bool.false_ne_true (free.bare.symm.trans ((hasDirectory_new root path).2 same))
  · intro below
    constructor
    · exact Bool.eq_false_iff.2 fun directory => below ((hasDirectory_new root path).1 directory)
    · intro file _ _
      rfl

theorem exists_resolves (leads : ∀ file ∈ given, ∃ path, tree.resolve file.1 = .ok path) :
    ∃ places, tree.Resolves given places := by
  induction given with
  | nil => exact ⟨[], .nil⟩
  | cons file given ih =>
      obtain ⟨⟨path, resolved⟩, rest⟩ := List.forall_mem_cons.1 leads
      obtain ⟨places, resolves⟩ := ih rest
      exact ⟨(path, file.2) :: places, .cons ⟨resolved, rfl⟩ resolves⟩

theorem Resolves.exists_file (resolves : tree.Resolves given places) {place : Path × String}
    (listed : place ∈ places) :
    ∃ file ∈ given, tree.resolve file.1 = .ok place.1 ∧ file.2 = place.2 := by
  induction resolves with
  | nil => exact absurd listed List.not_mem_nil
  | @cons file _ _ _ leads _ ih =>
      rcases List.mem_cons.1 listed with rfl | later
      · exact ⟨file, List.mem_cons_self, leads⟩
      · obtain ⟨file, there, leads⟩ := ih later
        exact ⟨file, List.mem_cons_of_mem _ there, leads⟩

theorem Resolves.exists_place (resolves : tree.Resolves given places) {file : String × String}
    (listed : file ∈ given) :
    ∃ place ∈ places, tree.resolve file.1 = .ok place.1 ∧ file.2 = place.2 := by
  induction resolves with
  | nil => exact absurd listed List.not_mem_nil
  | @cons _ place _ _ leads _ ih =>
      rcases List.mem_cons.1 listed with rfl | later
      · exact ⟨place, List.mem_cons_self, leads⟩
      · obtain ⟨place, there, leads⟩ := ih later
        exact ⟨place, List.mem_cons_of_mem _ there, leads⟩

/-- Files with names that lead to different places are placed at different paths. -/
theorem Resolves.nodup (resolves : tree.Resolves given places)
    (apart : given.Pairwise fun first second => tree.resolve first.1 ≠ tree.resolve second.1) :
    (places.map Prod.fst).Nodup := by
  induction resolves with
  | nil => exact List.nodup_nil
  | @cons file place given places leads rest ih =>
      obtain ⟨first, others⟩ := List.pairwise_cons.1 apart
      rw [List.map_cons, List.nodup_cons]
      refine ⟨?_, ih others⟩
      intro again
      obtain ⟨other, listed, same⟩ := List.mem_map.1 again
      obtain ⟨later, there, leadsThere, -⟩ := Resolves.exists_file rest listed
      apply first later there
      rw [leads.1, leadsThere, same]

/-- Among files that can be placed together, none lies above another one. -/
theorem Admits.not_above (admits : tree.Admits places) {first second : Path × String}
    (here : first ∈ places) (there : second ∈ places) : ¬first.1.Above second.1 := by
  have : Std.Symm fun first second : Path × String => Path.Beside first.1 second.1 :=
    ⟨fun _ _ => And.symm⟩
  have alone : ∀ place ∈ places, Path.Beside place.1 place.1 :=
    fun place _ => ⟨fun above => above.2 rfl, fun above => above.2 rfl⟩
  exact (List.Pairwise.forall_of_forall alone admits.beside here there).1

/-- What stands in an empty tree when files have been placed are these files. -/
theorem Filled.exists_place {root : String} {after : Tree} {path : Path}
    (filled : ({ root } : Tree).Filled places after) (stands : after.files.contains path = true) :
    ∃ place ∈ places, place.1 = path := by
  obtain ⟨contents, found⟩ := Option.isSome_iff_exists.1 stands
  have nothing : ({ root } : Tree).files.find? path = none := Table.find?_of_isEmpty rfl path
  rw [filled.files, Table.find?_foldl_insert, nothing, Option.or_none] at found
  exact ⟨_, Table.mem_of_mem_ofList (Table.find?_eq_some_iff.1 found), rfl⟩

/-- No file of a tree lies above another one. -/
theorem Orderly.beside {root : String} {first second : Path} (orderly : tree.Orderly root)
    (here : tree.files.contains first = true) (there : tree.files.contains second = true) :
    Path.Beside first second := by
  have not_above : ∀ first second : Path, tree.files.contains first = true →
      tree.files.contains second = true → ¬first.Above second := by
    intro first second here there above
    have inside := orderly.contained.inside first (.inl here)
    have directory := orderly.sound.covered second first there inside above
    exact Bool.false_ne_true ((orderly.sound.apart first here).symm.trans directory)
  exact ⟨not_above first second here there, not_above second first there here⟩

end Files.Tree

namespace Build

variable {σ : Type} {hook : RebuildHook σ} {build : Build} {host : σ} {tree middle : Tree}
  {files : Table String String} {places : List (Path × String)}

/-! ## Sources that fit -/

/-- Every source leads to a place below the root, and none of these lies above another one. -/
structure Fits (tree : Tree) (files : Table String String) : Prop where
  below : ∀ key ∈ files.keys, ∃ path,
    tree.resolve (sourcePath key) = .ok path ∧ path ≠ tree.rootPath
  beside : ∀ first ∈ files.keys, ∀ second ∈ files.keys, ∀ path other : Path,
    tree.resolve (sourcePath first) = .ok path → tree.resolve (sourcePath second) = .ok other →
      ¬path.Above other

theorem mem_keys_sources {text : String} :
    text ∈ (sources files).keys ↔ ∃ key ∈ files.keys, sourcePath key = text := by
  rw [sources, Table.mem_keys_ofList, List.map_map]
  simp [Table.keys]

/-- The sources fit if they can be placed in an empty tree, and only then. -/
theorem fits_iff : Fits tree files ↔
    ∃ places, tree.Resolves (sources files).entries places ∧
      ({ root := tree.root } : Tree).Admits places := by
  constructor
  · intro fits
    have source : ∀ file ∈ (sources files).entries, ∃ key ∈ files.keys, sourcePath key = file.1 :=
      fun file listed => mem_keys_sources.1 (List.mem_map_of_mem listed)
    obtain ⟨places, resolves⟩ := Tree.exists_resolves fun file listed => by
      obtain ⟨key, given, same⟩ := source file listed
      obtain ⟨path, leads, -⟩ := fits.below key given
      exact ⟨path, same ▸ leads⟩
    have leads : ∀ place ∈ places, ∃ key ∈ files.keys,
        tree.resolve (sourcePath key) = .ok place.1 := by
      intro place listed
      obtain ⟨file, there, leads, -⟩ := resolves.exists_file listed
      obtain ⟨key, given, same⟩ := source file there
      exact ⟨key, given, same ▸ leads⟩
    refine ⟨places, resolves, ?_, ?_⟩
    · intro place listed
      obtain ⟨key, given, leadsHere⟩ := leads place listed
      obtain ⟨path, leadsThere, below⟩ := fits.below key given
      obtain rfl := Except.ok.inj (leadsHere.symm.trans leadsThere)
      exact Tree.free_new.2 below
    · apply List.pairwise_of_forall_mem_list
      intro first here second there
      obtain ⟨key, given, leadsFirst⟩ := leads first here
      obtain ⟨other, givenOther, leadsSecond⟩ := leads second there
      exact ⟨fits.beside key given other givenOther _ _ leadsFirst leadsSecond,
        fits.beside other givenOther key given _ _ leadsSecond leadsFirst⟩
  · rintro ⟨places, resolves, admits⟩
    have leads : ∀ key ∈ files.keys, ∃ place ∈ places,
        tree.resolve (sourcePath key) = .ok place.1 := by
      intro key given
      obtain ⟨file, listed, same⟩ := List.mem_map.1 (mem_keys_sources.2 ⟨key, given, rfl⟩)
      obtain ⟨place, there, leads, -⟩ := resolves.exists_place listed
      exact ⟨place, there, same ▸ leads⟩
    constructor
    · intro key given
      obtain ⟨place, there, leadsHere⟩ := leads key given
      exact ⟨place.1, leadsHere, Tree.free_new.1 (admits.free place there)⟩
    · intro first given second givenSecond path other leadsFirst leadsSecond
      obtain ⟨place, here, leadsHere⟩ := leads first given
      obtain ⟨place', there, leadsThere⟩ := leads second givenSecond
      obtain rfl := Except.ok.inj (leadsHere.symm.trans leadsFirst)
      obtain rfl := Except.ok.inj (leadsThere.symm.trans leadsSecond)
      exact admits.not_above here there

/-! ## Output that is kept -/

theorem mem_keptOutput {file : Path × String} :
    file ∈ build.keptOutput ↔ build.fastReset = true ∧
      (outputPath build.tree).contains file.1 = true ∧
        build.tree.files.find? file.1 = some file.2 := by
  rw [keptOutput, Table.find?_eq_some_iff]
  cases build.fastReset with
  | false => simp
  | true => simp [and_comm]

theorem outputPath_append (rooted : tree.Rooted) :
    outputPath tree = tree.rootPath ++ [.name "public"] := by
  obtain ⟨base, root⟩ := rooted.exists_names
  rw [outputPath_eq rooted root, root, Path.absolute_concat]

theorem stood_of_kept {file : Path × String} (listed : file ∈ build.keptOutput) :
    outputPath build.tree <+: file.1 ∧ build.tree.files.contains file.1 = true := by
  obtain ⟨-, below, found⟩ := mem_keptOutput.1 listed
  refine ⟨Path.contains_iff.1 below, ?_⟩
  rw [Table.contains, found]
  rfl

theorem nodup_keptOutput (build : Build) : (build.keptOutput.map Prod.fst).Nodup := by
  rw [keptOutput]
  split
  · exact (Table.nodup_keys build.tree.files).sublist (List.filter_sublist.map Prod.fst)
  · exact List.nodup_nil

/-- The kept files lie where their own paths lead to. -/
theorem resolves_named (reachable : build.tree.Reachable) :
    build.tree.Resolves (named build.keptOutput) build.keptOutput := by
  apply List.forall₂_map_left_iff.2
  apply List.forall₂_same.2
  intro file listed
  exact ⟨reachable.resolve_toText (stood_of_kept listed).2, rfl⟩

/-- **The output still fits in when the sources are written, if none of them leads into it.** -/
theorem admits_keptOutput (reachable : build.tree.Reachable)
    (inside : ∀ place ∈ places, build.tree.rootPath <+: place.1)
    (admits : ({ root := build.tree.root } : Tree).Admits places)
    (aside : ∀ place ∈ places, ¬outputPath build.tree <+: place.1)
    (filled : ({ root := build.tree.root } : Tree).Filled places middle) :
    middle.Admits build.keptOutput := by
  have output := outputPath_append reachable.founded.toRooted
  constructor
  · intro file listed
    obtain ⟨below, -⟩ := stood_of_kept listed
    constructor
    · apply Bool.eq_false_iff.2
      intro directory
      rcases (filled.directories file.1).1 directory with old | ⟨place, there, -, above⟩
      · -- the output does not lie above the root
        have top : file.1 = build.tree.rootPath := (Tree.hasDirectory_new _ _).1 old
        rw [top, output] at below
        have short := below.length_le
        rw [List.length_append, List.length_singleton] at short
        omega
      · exact aside place there (below.trans above.1)
    · intro other _ above
      apply Bool.eq_false_iff.2
      intro stands
      obtain ⟨place, there, rfl⟩ := filled.exists_place stands
      have apart := Tree.free_new.1 (admits.free place there)
      rcases List.prefix_or_prefix_of_prefix above.1 below with higher | lower
      · rw [output, List.prefix_concat_iff] at higher
        rcases higher with same | higher
        · have whole : outputPath build.tree = place.1 := output.trans same.symm
          exact aside place there (whole ▸ List.prefix_rfl)
        · exact apart (higher.eq_of_length_le (inside place there).length_le)
      · exact aside place there lower
  · apply List.pairwise_of_forall_mem_list
    intro first here second there
    exact reachable.orderly.beside (stood_of_kept here).2 (stood_of_kept there).2

/-- What a reset with sources that fit beside the output comes to: the sources and the kept output
are in the tree when the server rebuilds, and nothing else. -/
theorem runOn_reset_fits (hook : RebuildHook σ) (host : σ) (reachable : build.tree.Reachable)
    (isOpen : build.closed = false)
    (resolves : build.tree.Resolves (sources files).entries places)
    (admits : ({ root := build.tree.root } : Tree).Admits places)
    (aside : ∀ place ∈ places, ¬outputPath build.tree <+: place.1) :
    ∃ (filled : Tree) (changed : Table Path Unit), filled.root = build.tree.root ∧
      (∀ path, filled.files.find? path =
        ((Table.ofList build.keptOutput).find? path).or ((Table.ofList places).find? path)) ∧
      (∀ path, path ∈ changed.keys ↔
        build.tree.files.contains path = true ∨ ∃ place ∈ places, place.1 = path) ∧
      (reset hook files).runOn (build, host) =
        (do
          let paths := changed.keys.filter fun path =>
            !(outputPath build.tree).contains path
          rebuild hook (!paths.isEmpty)
          pure (paths.map Path.toText)).runOn ({ build with tree := filled }, host) := by
  have founded := reachable.founded
  have inside := resolves.inside founded.toRooted
  have blank : ({ root := build.tree.root } : Tree).Resolves (sources files).entries places :=
    (Tree.Resolves.congr rfl).2 resolves
  obtain ⟨middle, wrote, filled⟩ := founded.blank.writeEach_filled blank admits
    (build.tree.files.mapValues fun _ _ => ())
  have emptied := Tree.runOn_reset build.tree (sources files)
  rw [wrote] at emptied
  have middleFounded : middle.Founded build.tree.root := filled.founded founded.blank
  have kept : middle.Resolves (named build.keptOutput) build.keptOutput := by
    apply (Tree.Resolves.congr filled.root).2
    exact resolves_named reachable
  obtain ⟨after, wroteKept, filledKept⟩ := middleFounded.writeEach_filled kept
    (admits_keptOutput reachable inside admits aside filled) {}
  have restored : (restore build.keptOutput).runOn ({ build with tree := middle }, host) = _ :=
    runOn_restore middleFounded build.keptOutput {}
  rw [wroteKept] at restored
  refine ⟨after, _, filledKept.root.trans filled.root, ?_, ?_,
    runOn_reset_ok isOpen emptied restored (filledKept.root.trans filled.root)⟩
  · intro path
    rw [filledKept.files, Table.find?_foldl_insert, filled.files, Table.find?_foldl_insert]
    have nothing : ({ root := build.tree.root } : Tree).files.find? path = none :=
      Table.find?_of_isEmpty rfl path
    rw [nothing, Option.or_none]
  · intro path
    rw [Table.mem_keys_foldl_insert, Table.mem_keys_iff, Table.find?_mapValues, Option.isSome_map]
    rfl

theorem given_of_find? {key text : String} (found : files.find? key = some text) :
    key ∈ files.keys := by
  rw [Table.mem_keys_iff, found]
  rfl

/-! ## Proper sources -/

/-- Source files with proper names: relative paths that never go up and lead to different places, of
which none lies above another one. -/
structure Proper (files : Table String String) : Prop where
  relative : ∀ key ∈ files.keys, Path.isAbsolute key = false
  direct : ∀ key ∈ files.keys, .up ∉ Path.steps key
  apart : ∀ first ∈ files.keys, ∀ second ∈ files.keys,
    Path.steps first = Path.steps second → first = second
  beside : ∀ first ∈ files.keys, ∀ second ∈ files.keys,
    ¬(Path.steps first).Above (Path.steps second)

/-- The place of a source: its steps behind `src` behind the root. -/
def sourcePlace (tree : Tree) (key : String) : Path :=
  tree.rootPath ++ .name "src" :: Path.steps key

theorem steps_sourcePath {key : String} (relative : Path.isAbsolute key = false) :
    Path.steps (sourcePath key) = .name "src" :: Path.steps key := by
  have written : (sourcePath key).toList = "src".toList ++ '/' :: key.toList := by
    rw [sourcePath, Path.join, relative, if_neg Bool.false_ne_true, if_neg (by decide)]
    simp
  rw [Path.steps_of_slash written, String.ofList_toList, String.ofList_toList]
  rfl

/-- Two places of sources are one, or above each other, as the steps of their keys are. -/
theorem sourcePlace_prefix_iff {first second : String} :
    sourcePlace tree first <+: sourcePlace tree second ↔
      Path.steps first <+: Path.steps second := by
  rw [sourcePlace, sourcePlace, List.prefix_append_right_inj, List.cons_prefix_cons]
  exact and_iff_right rfl

theorem sourcePlace_inj {first second : String} :
    sourcePlace tree first = sourcePlace tree second ↔ Path.steps first = Path.steps second := by
  rw [sourcePlace, sourcePlace, List.append_right_inj, List.cons_inj_right]

/-- No source leads into the output. -/
theorem not_output_prefix_sourcePlace (rooted : tree.Rooted) (key : String) :
    ¬outputPath tree <+: sourcePlace tree key := by
  rw [outputPath_append rooted, sourcePlace, List.prefix_append_right_inj, List.cons_prefix_cons]
  intro same
  exact absurd same.1 (by decide)

namespace Proper

variable (proper : Proper files)
include proper

/-- A source is written at its place. -/
theorem resolve_sourcePath (rooted : tree.Rooted) {key : String} (given : key ∈ files.keys) :
    tree.resolve (sourcePath key) = .ok (sourcePlace tree key) := by
  obtain ⟨base, root⟩ := rooted.exists_names
  obtain ⟨names, steps⟩ := Path.steps_eq_map_name (proper.direct key given)
  have relative := proper.relative key given
  have isRelative : Path.isAbsolute (sourcePath key) = false :=
    Path.isAbsolute_join (by decide) relative
  have place : sourcePlace tree key = Path.absolute (base ++ "src" :: names) := by
    rw [sourcePlace, root, steps]
    simp [Path.absolute]
  have located : tree.located (sourcePath key) = sourcePlace tree key := by
    rw [Tree.located, Path.ofText_join rooted.given isRelative, steps_sourcePath relative]
    rfl
  rw [rooted.resolve_eq, located, place, Path.normal_absolute, ← place]
  exact if_pos (Path.contains_iff.2 (List.prefix_append _ _))

theorem fits (rooted : tree.Rooted) : Fits tree files := by
  constructor
  · intro key given
    refine ⟨_, proper.resolve_sourcePath rooted given, ?_⟩
    intro same
    have long := congrArg List.length same
    rw [sourcePlace, List.length_append, List.length_cons] at long
    omega
  · intro first here second there path other leadsFirst leadsSecond above
    rw [proper.resolve_sourcePath rooted here] at leadsFirst
    rw [proper.resolve_sourcePath rooted there] at leadsSecond
    obtain rfl := Except.ok.inj leadsFirst
    obtain rfl := Except.ok.inj leadsSecond
    apply proper.beside first here second there
    exact ⟨sourcePlace_prefix_iff.1 above.1, fun same => above.2 (sourcePlace_inj.2 same)⟩

/-- Different keys have different names in the app. -/
theorem nodup_sources :
    ((files.entries.map fun file => (sourcePath file.1, file.2)).map Prod.fst).Nodup := by
  have keys : (files.entries.map Prod.fst).Nodup := Table.nodup_keys files
  rw [List.map_map]
  apply List.Nodup.map_on _ (List.Nodup.of_map Prod.fst keys)
  intro first here second there same
  have given : first.1 ∈ files.keys := List.mem_map_of_mem here
  have givenThere : second.1 ∈ files.keys := List.mem_map_of_mem there
  have steps : Path.steps (sourcePath first.1) = Path.steps (sourcePath second.1) :=
    congrArg Path.steps same
  rw [steps_sourcePath (proper.relative _ given), steps_sourcePath (proper.relative _ givenThere),
    List.cons_inj_right] at steps
  exact List.inj_on_of_nodup_map keys here there (proper.apart _ given _ givenThere steps)

theorem mem_sources {source : String × String} :
    source ∈ (sources files).entries ↔
      ∃ key, files.find? key = some source.2 ∧ sourcePath key = source.1 := by
  rw [sources, (Table.perm_ofList proper.nodup_sources).mem_iff, List.mem_map]
  simp only [Table.find?_eq_some_iff]
  constructor
  · rintro ⟨file, listed, rfl⟩
    exact ⟨file.1, listed, rfl⟩
  · rintro ⟨key, listed, same⟩
    exact ⟨(key, source.2), listed, Prod.ext same rfl⟩

section Places

variable (rooted : tree.Rooted) (resolves : tree.Resolves (sources files).entries places)
include rooted resolves

/-- Every source is placed with its text at its own place, and nothing else is. -/
theorem mem_places {place : Path × String} :
    place ∈ places ↔
      ∃ key, files.find? key = some place.2 ∧ place.1 = sourcePlace tree key := by
  constructor
  · intro listed
    obtain ⟨source, there, leads, text⟩ := resolves.exists_file listed
    obtain ⟨key, found, same⟩ := proper.mem_sources.1 there
    rw [← same, proper.resolve_sourcePath rooted (given_of_find? found)] at leads
    exact ⟨key, text ▸ found, (Except.ok.inj leads).symm⟩
  · rintro ⟨key, found, same⟩
    have there : (sourcePath key, place.2) ∈ (sources files).entries :=
      proper.mem_sources.2 ⟨key, found, rfl⟩
    obtain ⟨other, listed, leads, text⟩ := resolves.exists_place there
    rw [proper.resolve_sourcePath rooted (given_of_find? found)] at leads
    obtain rfl : place = other := Prod.ext (same.trans (Except.ok.inj leads)) text
    exact listed

theorem nodup_places : (places.map Prod.fst).Nodup := by
  apply resolves.nodup
  have keys : (sources files).entries.Nodup :=
    List.Nodup.of_map Prod.fst (Table.nodup_keys (sources files))
  apply keys.pairwise_of_forall_ne
  intro first here second there apart same
  obtain ⟨key, found, name⟩ := proper.mem_sources.1 here
  obtain ⟨other, foundOther, nameOther⟩ := proper.mem_sources.1 there
  have given := given_of_find? found
  have givenOther := given_of_find? foundOther
  rw [← name, ← nameOther, proper.resolve_sourcePath rooted given,
    proper.resolve_sourcePath rooted givenOther] at same
  obtain rfl := proper.apart key given other givenOther (sourcePlace_inj.1 (Except.ok.inj same))
  apply apart
  exact Prod.ext (name.symm.trans nameOther) (Option.some.inj (found.symm.trans foundOther))

end Places

end Proper

/-! ## The reset -/

/-- **A reset installs the new sources and keeps the built output.** For sources with proper names,
a server that is open goes on to the rebuild. By then the files of the tree are the sources, each at
its place in `src`, and the files of the output as they were if the configuration asks to keep them.
The answer lists, in ascending order and once each, the paths of the files that were there and of
the new ones that lie outside the output. -/
theorem reset_installs {config : Config}
    (rooted : ({ root := config.appDirectory } : Tree).Rooted)
    (reached : Reached config (build, host)) (isOpen : build.closed = false)
    (hook : RebuildHook σ) (proper : Proper files) :
    ∃ (filled : Tree) (paths : List Path),
      (reset hook files).runOn (build, host) =
        (do
          rebuild hook (!paths.isEmpty)
          pure (paths.map Path.toText)).runOn ({ build with tree := filled }, host) ∧
      filled.root = build.tree.root ∧
      (∀ path text, filled.files.find? path = some text ↔
        (∃ key, files.find? key = some text ∧ path = sourcePlace build.tree key) ∨
          build.fastReset = true ∧ (outputPath build.tree).contains path = true ∧
            build.tree.files.find? path = some text) ∧
      (∀ path, path ∈ paths ↔
        (build.tree.files.contains path = true ∨
          ∃ key ∈ files.keys, path = sourcePlace build.tree key) ∧
        (outputPath build.tree).contains path = false) ∧
      paths.Pairwise (fun first second => compare first second = .lt) ∧
      (paths.map Path.toText).Nodup := by
  have reachable : build.tree.Reachable := reached.reachable rooted
  have founded := reachable.founded
  obtain ⟨places, resolves, admits⟩ := fits_iff.1 (proper.fits founded.toRooted)
  have placed : ∀ place : Path × String, place ∈ places ↔
      ∃ key, files.find? key = some place.2 ∧ place.1 = sourcePlace build.tree key :=
    fun _ => proper.mem_places founded.toRooted resolves
  have aside : ∀ place ∈ places, ¬outputPath build.tree <+: place.1 := by
    intro place listed
    obtain ⟨key, -, same⟩ := (placed place).1 listed
    rw [same]
    exact not_output_prefix_sourcePlace founded.toRooted key
  obtain ⟨filled, changed, root, filledFiles, changes, ran⟩ :=
    runOn_reset_fits hook host reachable isOpen resolves admits aside
  refine ⟨filled, _, ran, root, ?_, ?_, ?_, ?_⟩
  · intro path text
    have kept : ∀ text, (Table.ofList build.keptOutput).find? path = some text ↔
        (path, text) ∈ build.keptOutput :=
      fun _ => Table.find?_ofList_eq_some_iff (nodup_keptOutput build)
    have nodup := proper.nodup_places founded.toRooted resolves
    rw [filledFiles, Option.or_eq_some_iff, kept, Table.find?_ofList_eq_some_iff nodup, placed,
      mem_keptOutput]
    constructor
    · rintro (old | ⟨-, new⟩)
      · exact .inr old
      · exact .inl new
    · rintro (⟨key, found, rfl⟩ | old)
      · refine .inr ⟨?_, key, found, rfl⟩
        apply Option.eq_none_iff_forall_ne_some.2
        intro other listed
        apply not_output_prefix_sourcePlace founded.toRooted key
        exact (stood_of_kept ((kept other).1 listed)).1
      · exact .inl old
  · intro path
    rw [List.mem_filter, changes, Bool.not_eq_true']
    apply and_congr_left
    intro _
    apply or_congr_right
    constructor
    · rintro ⟨place, listed, rfl⟩
      obtain ⟨key, found, same⟩ := (placed place).1 listed
      exact ⟨key, given_of_find? found, same⟩
    · rintro ⟨key, given, rfl⟩
      obtain ⟨text, found⟩ := Option.isSome_iff_exists.1 (Table.mem_keys_iff.1 given)
      exact ⟨(_, text), (placed _).2 ⟨key, found, rfl⟩, rfl⟩
  · apply List.Pairwise.filter
    rw [Table.keys, List.pairwise_map]
    exact changed.ascending
  · apply List.Nodup.map_on _ ((Table.nodup_keys changed).filter _)
    have leads : ∀ path ∈ changed.keys.filter fun path => !(outputPath build.tree).contains path,
        build.tree.resolve path.toText = .ok path := by
      intro path listed
      rcases (changes path).1 (List.mem_filter.1 listed).1 with old | ⟨place, new, rfl⟩
      · exact reachable.resolve_toText old
      · obtain ⟨source, -, leads, -⟩ := resolves.exists_file new
        exact founded.resolve_toText leads
    intro first here second there same
    have leadsFirst := leads first here
    rw [same, leads second there] at leadsFirst
    exact (Except.ok.inj leadsFirst).symm

theorem lawful_bundling : bundling.Lawful := by
  intro part before
  exact before.access (.write "public/bundle.js" "built")

theorem reached_bundledServer : Reached { appDirectory := "/app" } (bundledServer, ()) := by
  have made : ofConfig { appDirectory := "/app" } = .ok appServer := rfl
  have wrote : (writeFiles bundling mainSource).runOn (appServer, ()) =
      (.ok (), bundledServer, ()) := rfl
  have written := (Reached.start () made).writeFiles lawful_bundling mainSource
  rw [wrote] at written
  exact written

/-- Other sources for the app, one of them with a step that does not count. -/
def nextSources : Table String String :=
  Table.ofList [("lib/./App.js", "app"), ("index.html", "page")]

theorem proper_nextSources : Proper nextSources where
  relative := by decide +kernel
  direct := by decide +kernel
  apart := by decide +kernel
  beside := by
    unfold Path.Above
    decide +kernel

/-- The bundle is kept, the old source is gone and is reported with the new ones. -/
theorem reset_installs_bundled :
    ({ root := "/app" } : Tree).Rooted ∧
      Reached { appDirectory := "/app" } (bundledServer, ()) ∧ bundledServer.closed = false ∧
      Proper nextSources ∧ ∃ (filled : Tree) (paths : List Path),
        (reset bundling nextSources).runOn (bundledServer, ()) =
          (do
            rebuild bundling (!paths.isEmpty)
            pure (paths.map Path.toText)).runOn ({ bundledServer with tree := filled }, ()) ∧
        filled.files.find? (Path.absolute ["app", "public", "bundle.js"]) = some "built" ∧
        filled.files.find? (Path.absolute ["app", "src", "lib", "App.js"]) = some "app" ∧
        filled.files.find? (Path.absolute ["app", "src", "main.js"]) = none ∧
        Path.absolute ["app", "src", "main.js"] ∈ paths := by
  have rooted : ({ root := "/app" } : Tree).Rooted := ⟨rfl, by decide⟩
  have others : ∀ key ∈ nextSources.keys,
      Path.absolute ["app", "src", "main.js"] ≠ sourcePlace bundledServer.tree key := by
    decide +kernel
  obtain ⟨filled, paths, ran, -, files, changes, -, -⟩ :=
    reset_installs rooted reached_bundledServer rfl bundling proper_nextSources
  refine ⟨rooted, reached_bundledServer, rfl, proper_nextSources, filled, paths, ran, ?_, ?_, ?_,
    ?_⟩
  · exact (files _ _).2 (.inr ⟨rfl, by decide +kernel, by decide +kernel⟩)
  · exact (files _ _).2 (.inl ⟨"lib/./App.js", by decide +kernel, by decide +kernel⟩)
  · apply Option.eq_none_iff_forall_ne_some.2
    intro text found
    rcases (files _ _).1 found with ⟨key, given, same⟩ | ⟨-, inside, -⟩
    · exact others key (given_of_find? given) same
    · exact absurd inside (by decide +kernel)
  · exact (changes _).2 ⟨.inl (by decide +kernel), by decide +kernel⟩

end Build

end HotReload
