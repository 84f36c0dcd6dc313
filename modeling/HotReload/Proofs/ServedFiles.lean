import HotReload.Build
import HotReload.Proofs.Paths

/-!
# What the build server serves

A request is a path below `public`, whose leading slashes do not count. It may go up from there, and
where it leads to is only kept inside the directory of the app. So every served file is a file of
the app, and it is built output just if the route of the request leads back into `public`: if it
never climbs above it, or comes down again by the names that it has climbed
(`served_from_output_iff`). A request that climbs out and goes down to `src` is answered with a
source (`source_served`).
-/

set_option autoImplicit false

namespace HotReload.Build

open Files (Component Fault Path Tree)
open Files.Path (Route)

variable {tree : Tree} {request path : String}

/-! ## The path of a request -/

/-- A request without its leading slashes. -/
def belowRoot (request : String) : String :=
  String.ofList (request.toList.dropWhile (· == '/'))

theorem isAbsolute_belowRoot (request : String) : Path.isAbsolute (belowRoot request) = false := by
  have front := List.head?_dropWhile_not (· == '/') request.toList
  unfold Path.isAbsolute belowRoot
  rw [String.toList_ofList]
  cases first : (request.toList.dropWhile (· == '/')).head? with
  | none => rfl
  | some c => simpa [first] using front

/-- The directory of built output and the steps of the request. -/
theorem ofText_request (request : String) :
    Path.ofText (Path.join "public" (belowRoot request)) =
      .name "public" :: Path.steps request := by
  rw [Path.ofText_join (by decide) (isAbsolute_belowRoot request), belowRoot,
    Path.steps_dropSlashes]
  rfl

/-- A request is served from its own path, or from the index behind it. -/
theorem servedPath_eq_ok (served : servedPath tree request = .ok path) :
    path = Path.join "public" (belowRoot request) ∨
      path = Path.join (Path.join "public" (belowRoot request)) "index.html" := by
  obtain ⟨stat, -, chosen⟩ := Spec.bind_eq_ok_iff.1 served
  cases stat with
  | file bytes => exact .inl (Except.ok.inj chosen).symm
  | directory => exact .inr (Except.ok.inj chosen).symm

/-- What the steps to a served file are. -/
theorem ofText_servedPath (served : servedPath tree request = .ok path) :
    Path.isAbsolute path = false ∧
      ∃ index, (index = [] ∨ index = [.name "index.html"]) ∧
        Path.ofText path = .name "public" :: (Path.steps request ++ index) := by
  have relative := isAbsolute_belowRoot request
  have given : Path.join "public" (belowRoot request) ≠ "" := by
    rw [Path.join, relative]
    simp
  have whole := ofText_request request
  have isAbsolute : Path.isAbsolute (Path.join "public" (belowRoot request)) = false :=
    Path.isAbsolute_join (by decide) relative
  rcases servedPath_eq_ok served with rfl | rfl
  · exact ⟨isAbsolute, [], .inl rfl, by rw [whole, List.append_nil]⟩
  · refine ⟨(Path.isAbsolute_join given rfl).trans isAbsolute, _, .inr rfl, ?_⟩
    rw [Path.ofText_join given rfl, whole]
    rfl

/-! ## Built output -/

theorem outputPath_eq {names : List String} (rooted : tree.Rooted)
    (root : tree.rootPath = Path.absolute names) :
    outputPath tree = Path.absolute (names ++ ["public"]) := by
  have given : tree.root ≠ "" := fun empty => by
    have absolute := rooted.absolute
    rw [empty] at absolute
    exact nomatch absolute
  rw [outputPath, Path.ofText_join given rfl, ← Tree.rootPath, root, Path.absolute_concat]
  rfl

/-- Completing a request with the index does not bring it back to built output. -/
theorem returns_index_iff {index : Path} (request : String) (names : List String)
    (completed : index = [] ∨ index = [.name "index.html"]) :
    (Route.ofSteps (Path.steps request ++ index)).Returns (names ++ ["public"]) ↔
      (Route.ofSteps (Path.steps request)).Returns (names ++ ["public"]) := by
  rcases completed with rfl | rfl
  · rw [List.append_nil]
  · rw [Route.ofSteps_concat, Route.returns_step_name_iff (by decide)]

/-- **A served file is built output just if the route of its request leads back to it.** In any
case it is a file of the app. -/
theorem served_from_output_iff {build : Build} {asset : Asset} (rooted : build.tree.Rooted)
    (served : build.fetch request = .ok asset) :
    ∃ names path, build.tree.rootPath = Path.absolute names ∧
      build.tree.resolve asset.path = .ok path ∧
      build.tree.files.find? path = some asset.body ∧
      build.tree.rootPath.contains path = true ∧
      ((outputPath build.tree).contains path = true ↔
        (Route.ofSteps (Path.steps request)).Returns (names ++ ["public"])) := by
  obtain ⟨names, root⟩ := rooted.exists_names
  obtain ⟨text, chosen, rest⟩ := Spec.bind_eq_ok_iff.1 served
  obtain ⟨body, read, made⟩ := Spec.bind_eq_ok_iff.1 rest
  obtain rfl := Except.ok.inj made
  obtain ⟨relative, index, completed, whole⟩ := ofText_servedPath chosen
  obtain ⟨path, resolved, -, found⟩ := Tree.read_eq_ok_iff.1 read
  obtain ⟨leads, inside⟩ := (Tree.resolve_eq_ok_iff relative).1 resolved
  refine ⟨names, path, root, resolved, found, inside, ?_⟩
  have steps : .root ∉ Path.steps request ++ index := by
    rcases completed with rfl | rfl
    · simpa using Path.root_notMem_steps request
    · simpa using Path.root_notMem_steps request
  have located : path = Path.absolute
      ((Route.ofSteps (Path.steps request ++ index)).leadsFrom (names ++ ["public"])) := by
    rw [← leads, root, whole, ← Path.normal_append _ steps, Path.absolute_concat,
      List.append_assoc, List.singleton_append]
  rw [outputPath_eq rooted root, located, Path.contains_absolute, Route.prefix_leadsFrom_iff,
    returns_index_iff request names completed]

/-! ## An app with a source and a bundle -/

/-- The server of an app at `/app`. -/
def appServer : Build where
  tree := { root := "/app" }
  fastReset := true
  readyMessage := "[HMR] Enabled"
  doneMessage := "[HMR] Up to date"
  nothingChangedMessage := "[HMR] Nothing changed"

/-- A rebuild that writes a bundle. -/
def bundling : RebuildHook Unit :=
  Action.onPart Prod.fst (fun tree state => (tree, state.2)) Fault.message
    (Tree.write "public/bundle.js" "built")

/-- The only source of the app. -/
def mainSource : Changes :=
  Table.ofList [("main.js", .write "source")]

/-- The server after the source was written and bundled. -/
def bundledServer : Build where
  tree := {
    root := "/app"
    files := Table.ofList [(Path.absolute ["app", "src", "main.js"], "source"),
      (Path.absolute ["app", "public", "bundle.js"], "built")]
    directories := Table.ofList [(Path.absolute ["app"], ()), (Path.absolute ["app", "src"], ()),
      (Path.absolute ["app", "public"], ())] }
  builds := 1
  fastReset := true
  readyMessage := "[HMR] Enabled"
  doneMessage := "[HMR] Up to date"
  nothingChangedMessage := "[HMR] Nothing changed"
  console := ["[HMR] Enabled", "[HMR] Up to date"]

theorem rooted_bundledServer : bundledServer.tree.Rooted :=
  ⟨rfl, by decide⟩

/-- A request that climbs above `public` and comes back by the same name. -/
theorem served_from_output_back :
    ∃ asset path, bundledServer.tree.Rooted ∧
      bundledServer.fetch "//../public/./bundle.js" = .ok asset ∧
      bundledServer.tree.resolve asset.path = .ok path ∧
      bundledServer.tree.files.find? path = some asset.body ∧
      (outputPath bundledServer.tree).contains path = true ∧ asset.body = "built" := by
  have served : bundledServer.fetch "//../public/./bundle.js" =
      .ok ⟨"public/../public/./bundle.js", some "text/javascript", "built"⟩ := rfl
  obtain ⟨names, path, root, resolved, found, -, back⟩ :=
    served_from_output_iff rooted_bundledServer served
  have app : bundledServer.tree.rootPath = Path.absolute ["app"] := rfl
  obtain rfl := Path.absolute_injective (app.symm.trans root)
  exact ⟨_, path, rooted_bundledServer, served, resolved, found, back.2 (by decide), rfl⟩

/-- **A source can be requested.** No file of the built output has the text that is served. -/
theorem source_served :
    ∃ asset, ofConfig { appDirectory := "/app" } = .ok appServer ∧
      (writeFiles bundling mainSource).runOn (appServer, ()) = (.ok (), bundledServer, ()) ∧
      bundledServer.tree.Rooted ∧ bundledServer.fetch "/../src/main.js" = .ok asset ∧
      ∀ path, bundledServer.tree.files.find? path = some asset.body →
        (outputPath bundledServer.tree).contains path = false := by
  refine ⟨_, rfl, rfl, rooted_bundledServer, rfl, fun path found => ?_⟩
  have listed : (path, "source") ∈ [
      (Path.absolute ["app", "public", "bundle.js"], "built"),
      (Path.absolute ["app", "src", "main.js"], "source")] := Table.find?_eq_some_iff.1 found
  obtain rfl : path = Path.absolute ["app", "src", "main.js"] := by simpa using listed
  rfl

end HotReload.Build
