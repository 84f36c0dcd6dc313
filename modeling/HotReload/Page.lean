import HotReload.Action
import HotReload.Failure
import HotReload.Json
import HotReload.Table
import HotReload.Text.Lines

/-!
# The page

A page is a tree of plain values, objects and methods, which is addressed by paths
of names. Reading a value or an object without arguments gives it as a JSON value;
a method is called; anything else is refused.

What the methods do is not part of the tree. The tree names them by handles of a
type `μ`, and a call is carried out by an action on a state of the host.
-/

set_option autoImplicit false

namespace HotReload

/-- A node of a page. -/
inductive Node (μ : Type)
  | value (plain : Json)
  | object (children : List (String × Node μ))
  | method (handle : μ)

/-- A page, which may have been closed. -/
structure Page (μ : Type) where
  root : Node μ := .object []
  closed : Bool := false

variable {μ : Type}

namespace Node

mutual

/-- The value of a node; a method shows as a text of its own. -/
def json : Node μ → Json
  | .value plain => plain
  | .object children => .object (jsonOfChildren children)
  | .method _ => .string "[function]"

/-- The values of some children. -/
def jsonOfChildren : List (String × Node μ) → List (String × Json)
  | [] => []
  | (name, node) :: rest => (name, node.json) :: jsonOfChildren rest

end

mutual

/-- A node shows its value or its children. -/
def form : Node μ → Text.Form
  | .value plain => .tagged "Value" [plain.form]
  | .object children => .mapping (formOfChildren children)
  | .method _ => .atom "Method"

/-- The forms of some children. -/
def formOfChildren : List (String × Node μ) → List (String × Text.Form)
  | [] => []
  | (name, node) :: rest => (Text.quoted name, node.form) :: formOfChildren rest

end

/-- The children of an object; other nodes have none. -/
def children : Node μ → List (String × Node μ)
  | .object children => children
  | _ => []

/-- The node that a path leads to. -/
def lookup? : (path : List String) → Node μ → Option (Node μ)
  | [], node => some node
  | segment :: rest, .object children =>
    match Assoc.find? segment children with
    | some child => lookup? rest child
    | none => none
  | _ :: _, _ => none

/-- Puts a node at a path. On the way, a node that is no object becomes one. -/
def insert (node : Node μ) : (path : List String) → Node μ → Node μ
  | [], _ => node
  | segment :: rest, here =>
    let child := (Assoc.find? segment here.children).getD (.object [])
    .object (Assoc.insert segment (insert node rest child) here.children)

end Node

namespace Page

/-- The segments of a dotted path. -/
def segments (dotted : String) : List String :=
  ((Text.splitAt '.' dotted.toList).filter fun segment => !segment.isEmpty).map String.ofList

/-- Puts a node at a dotted path. -/
def insert (page : Page μ) (dotted : String) (node : Node μ) : Page μ :=
  { page with root := Node.insert node (segments dotted) page.root }

/-- The failure of a path, with its reason. -/
def failure (path : List String) (reason : String) : Failure :=
  { cause := .forwarding (".".intercalate path) reason, phase := .page }

/-- Reads or calls what a path leads to. Methods are carried out by `call`. -/
def invoke {W : Type} (call : μ → List Json → Action W String Json) (page : Page μ)
    (path : List String) (arguments : List Json) : Action W Failure Json :=
  match page.root.lookup? path with
  | none => throw (failure path "is undefined")
  | some (.method handle) =>
    (call handle arguments).onPart id (fun world _ => world) (failure path)
  | some node =>
    if arguments.isEmpty then pure node.json else throw (failure path "is not a function")

/-- Closes the page. -/
def close (page : Page μ) : Page μ :=
  { page with closed := true }

/-- A page shows its tree, and whether it is closed. -/
def form (page : Page μ) : Text.Form :=
  .record "PageObject" [("root", page.root.form), ("closed", .bool page.closed)]

end Page

end HotReload
