import HotReload.Proofs.SourceReset

/-!
# Built output that a reset loses

A reset takes the built output aside and empties the tree. It writes the sources, and then the
output back. If a source cannot be written the reset ends there, and what it has taken aside is
gone: the tree holds the sources that were written until then, and no output.

So output survives a reset whose sources do not lead into it if there is none, or if the sources
fit, and in no other case (`Build.output_survives_iff`). One key that leads out of the app costs the
whole output (`Build.output_lost`).
-/

set_option autoImplicit false

namespace HotReload

open Files (Fault Path Tree)

variable {σ : Type}

/-- In some state of the host, a rebuild leaves the files below a path as they are. -/
def RebuildHook.Spares (hook : RebuildHook σ) (host : σ) (output : Path) : Prop :=
  ∀ (tree : Tree) (path : Path), output.contains path = true →
    (hook.runOn (tree, host)).2.1.files.find? path = tree.files.find? path

namespace Build

variable {hook : RebuildHook σ} {build : Build} {host : σ} {files : Table String String}
  {path : Path}

/-- The sources do not lead into the built output. -/
def Aside (tree : Tree) (files : Table String String) : Prop :=
  ∀ key ∈ files.keys, ∀ path, tree.resolve (sourcePath key) = .ok path →
    (outputPath tree).contains path = false

theorem Aside.not_prefix {tree : Tree} (aside : Aside tree files) {source : String × String}
    (listed : source ∈ (sources files).entries) (leads : tree.resolve source.1 = .ok path) :
    ¬outputPath tree <+: path := by
  obtain ⟨key, given, same⟩ := mem_keys_sources.1 (List.mem_map_of_mem listed)
  have apart := aside key given path (same ▸ leads)
  intro inside
  exact Bool.false_ne_true (apart.symm.trans (Path.contains_iff.2 inside))

/-- A rebuild leaves the tree that its hook leaves, and so does what only answers behind it. -/
theorem tree_rebuild (changed : Bool) (answer : List String) :
    ((do rebuild hook changed; pure answer : Operation σ _).runOn (build, host)).2.1.tree =
      (hook.runOn (build.tree, host)).2.1 := by
  rcases ran : hook.runOn (build.tree, host) with ⟨result, after, new⟩
  cases result with
  | error message => rw [Action.runOn_bind_error (runOn_rebuild_error ran changed)]
  | ok _ =>
      rw [Action.runOn_bind_ok (runOn_rebuild_ok ran changed)]
      rfl

section Reset

variable (reachable : build.tree.Reachable) (isOpen : build.closed = false)
  (aside : Aside build.tree files)
include reachable isOpen aside

/-- **Sources that fit leave the output as it was**, whether or not the rebuild succeeds. -/
theorem output_of_fits (fast : build.fastReset = true)
    (spares : hook.Spares host (outputPath build.tree)) (fits : Fits build.tree files)
    (inside : (outputPath build.tree).contains path = true) {text : String}
    (stands : build.tree.files.find? path = some text) :
    ((reset hook files).runOn (build, host)).2.1.tree.files.find? path = some text := by
  obtain ⟨places, resolves, admits⟩ := fits_iff.1 fits
  have beside : ∀ place ∈ places, ¬outputPath build.tree <+: place.1 := by
    intro place listed
    obtain ⟨source, there, leads, -⟩ := resolves.exists_file listed
    exact aside.not_prefix there leads
  obtain ⟨filled, changed, -, filledFiles, -, ran⟩ :=
    runOn_reset_fits hook host reachable isOpen resolves admits beside
  have kept : (path, text) ∈ build.keptOutput := mem_keptOutput.2 ⟨fast, inside, stands⟩
  have found := (Table.find?_ofList_eq_some_iff (nodup_keptOutput build)).2 kept
  rw [ran, tree_rebuild, spares filled path inside, filledFiles, found, Option.some_or]

/-- **Sources that do not fit cost the whole output**, and the reset is refused. -/
theorem output_of_not_fits (unfit : ¬Fits build.tree files)
    (inside : (outputPath build.tree).contains path = true) :
    (∃ fault, ((reset hook files).runOn (build, host)).1 = .error (faultFailure fault)) ∧
      ((reset hook files).runOn (build, host)).2.1.tree.files.find? path = none := by
  have founded := reachable.founded
  have emptied := Tree.runOn_reset build.tree (sources files)
  rcases wrote : (Tree.writeEach (build.tree.files.mapValues fun _ _ => ())
    (sources files).entries).runOn { root := build.tree.root } with ⟨result, after⟩
  rw [wrote] at emptied
  cases result with
  | ok changed =>
      have ok := congrArg Prod.fst wrote
      obtain ⟨places, resolves, admits⟩ := founded.blank.admits_of_writeEach ok
      have leads : build.tree.Resolves (sources files).entries places :=
        (Tree.Resolves.congr rfl).1 resolves
      exact absurd (fits_iff.2 ⟨places, leads, admits⟩) unfit
  | error fault =>
      rw [runOn_reset_failed isOpen emptied]
      refine ⟨⟨fault, rfl⟩, ?_⟩
      apply Option.not_isSome_iff_eq_none.1
      intro stands
      have there : ((Tree.writeEach (build.tree.files.mapValues fun _ _ => ())
          (sources files).entries).runOn { root := build.tree.root }).2.files.contains path =
            true := by
        rw [wrote]
        exact stands
      rcases founded.blank.stored_of_writeEach _ there with old | ⟨source, listed, leads⟩
      · exact nomatch old
      · exact aside.not_prefix listed leads (Path.contains_iff.1 inside)

end Reset

/-- **When built output survives a reset.** A server that is open and keeps built output is reset
with sources that do not lead into it, and its rebuild spares the output. Then all output is there
afterwards if there was none, or if every source leads to a place below the root and none of these
lies above another one. In all other cases the output is lost. -/
theorem output_survives_iff {config : Config}
    (rooted : ({ root := config.appDirectory } : Tree).Rooted)
    (reached : Reached config (build, host)) (isOpen : build.closed = false)
    (fast : build.fastReset = true) (aside : Aside build.tree files)
    (spares : hook.Spares host (outputPath build.tree)) :
    (∀ path text, (outputPath build.tree).contains path = true →
      build.tree.files.find? path = some text →
        ((reset hook files).runOn (build, host)).2.1.tree.files.find? path = some text) ↔
    (∀ path, (outputPath build.tree).contains path = true →
      build.tree.files.contains path = false) ∨ Fits build.tree files := by
  have reachable : build.tree.Reachable := reached.reachable rooted
  constructor
  · intro survives
    apply or_iff_not_imp_right.2
    intro unfit path inside
    apply Bool.eq_false_iff.2
    intro stands
    obtain ⟨text, found⟩ := Option.isSome_iff_exists.1 stands
    have kept := survives path text inside found
    rw [(output_of_not_fits reachable isOpen aside unfit inside).2] at kept
    cases kept
  · rintro (none | fits) path text inside found
    · have nothing := none path inside
      rw [Table.contains, found] at nothing
      cases nothing
    · exact output_of_fits reachable isOpen aside fast spares fits inside found

/-- A rebuild that does nothing. -/
def idle : RebuildHook Unit :=
  (pure () : Action (Tree × Unit) String Unit)

theorem spares_idle (output : Path) : idle.Spares () output := by
  intro tree path _
  rfl

/-- The bundle survives other sources. -/
theorem output_survives_bundled :
    ({ root := "/app" } : Tree).Rooted ∧ bundledServer.fastReset = true ∧
      Aside bundledServer.tree nextSources ∧
      ((reset idle nextSources).runOn (bundledServer, ())).2.1.tree.files.find?
        (Path.absolute ["app", "public", "bundle.js"]) = some "built" := by
  have rooted : ({ root := "/app" } : Tree).Rooted := ⟨rfl, by decide⟩
  have aside : Aside bundledServer.tree nextSources := by
    intro key given path leads
    rw [proper_nextSources.resolve_sourcePath rooted_bundledServer given] at leads
    obtain rfl := Except.ok.inj leads
    apply Bool.eq_false_iff.2
    intro inside
    exact not_output_prefix_sourcePlace rooted_bundledServer key (Path.contains_iff.1 inside)
  have survives := (output_survives_iff rooted reached_bundledServer rfl rfl aside
    (spares_idle _)).2 (.inr (proper_nextSources.fits rooted_bundledServer))
  exact ⟨rooted, rfl, aside, survives _ _ (by decide +kernel) (by decide +kernel)⟩

/-- Sources with a key that leads out of the app. -/
def escapingSources : Table String String :=
  Table.ofList [("../../x", "y")]

/-- **Built output is lost to a source that leads out of the app.** -/
theorem output_lost :
    ({ root := "/app" } : Tree).Rooted ∧
      Reached { appDirectory := "/app" } (bundledServer, ()) ∧ bundledServer.closed = false ∧
      bundledServer.fastReset = true ∧ Aside bundledServer.tree escapingSources ∧
      idle.Spares () (outputPath bundledServer.tree) ∧
      (outputPath bundledServer.tree).contains (Path.absolute ["app", "public", "bundle.js"]) =
        true ∧
      bundledServer.tree.files.find? (Path.absolute ["app", "public", "bundle.js"]) =
        some "built" ∧
      ((reset idle escapingSources).runOn (bundledServer, ())).2.1.tree.files.find?
        (Path.absolute ["app", "public", "bundle.js"]) = none := by
  have rooted : ({ root := "/app" } : Tree).Rooted := ⟨rfl, by decide⟩
  have refused : ∀ key ∈ escapingSources.keys,
      (bundledServer.tree.resolve (sourcePath key)).toBool = false := by
    decide +kernel
  have aside : Aside bundledServer.tree escapingSources := by
    intro key given path leads
    have out := refused key given
    rw [leads] at out
    exact nomatch out
  refine ⟨rooted, reached_bundledServer, rfl, rfl, aside, spares_idle _, by decide +kernel,
    by decide +kernel, ?_⟩
  decide +kernel

end Build

end HotReload
