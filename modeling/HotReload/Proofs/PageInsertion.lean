import HotReload.Page

/-!
# Inserting into a page

An insertion puts a node at a path of a page, and every node on the way to this path becomes an
object. So three things can happen to the look-up of a path. At the place of the insertion and below
it, it goes on in the new node (`Node.lookup?_insert_append`). Above this place it finds an object
into which the rest of the insertion has been made (`Node.lookup?_insert_prefix`). Anywhere else it
finds what it has found before, because a path that leaves the way of the insertion finds no child
in an object that has just been made, as it has found none in the node that stood there
(`Node.lookup?_insert_apart`).

What a page answers depends on the node that is found, and so does what an insertion changes about
it (`Page.insertion_exact`).
-/

set_option autoImplicit false

namespace HotReload

variable {μ W : Type} {node here : Node μ} {path front rest other : List String}
  {segment : String}

/-! ## Look-ups in a changed tree -/

namespace Node

@[simp] theorem lookup?_nil (here : Node μ) : here.lookup? [] = some here := by
  cases here <;> rfl

/-- A look-up goes down into one of the children. -/
theorem lookup?_cons (segment : String) (rest : List String) (here : Node μ) :
    here.lookup? (segment :: rest) =
      (Assoc.find? segment here.children).bind fun child => child.lookup? rest := by
  cases here with
  | object children =>
      rw [lookup?, Node.children]
      cases Assoc.find? segment children <;> rfl
  | value plain => rfl
  | method handle => rfl

theorem lookup?_append (front rest : List String) (here : Node μ) :
    here.lookup? (front ++ rest) = (here.lookup? front).bind fun below => below.lookup? rest := by
  induction front generalizing here with
  | nil => simp
  | cons segment front ih =>
      rw [List.cons_append, lookup?_cons, lookup?_cons, Option.bind_assoc]
      simp only [ih]

/-- Nothing is found below an object without children. -/
theorem lookup?_empty (given : path ≠ []) : (object [] : Node μ).lookup? path = none := by
  obtain ⟨segment, rest, rfl⟩ := List.exists_cons_of_ne_nil given
  rfl

/-- An insertion leaves an object on its way. -/
theorem insert_cons (node here : Node μ) (segment : String) (rest : List String) :
    insert node (segment :: rest) here =
      object (Assoc.insert segment
        (insert node rest ((Assoc.find? segment here.children).getD (object []))) here.children) :=
  rfl

theorem find?_children_insert (name : String) :
    Assoc.find? name (insert node (segment :: rest) here).children =
      if name = segment then
        some (insert node rest ((Assoc.find? segment here.children).getD (object [])))
      else Assoc.find? name here.children := by
  rw [insert_cons, children, Assoc.find?_insert]
  simp only [Std.LawfulEqOrd.compare_eq_iff_eq]

/-- **Above its place an insertion leaves an object** in which the rest of it has been made. -/
theorem lookup?_insert_prefix (node here : Node μ) (front rest : List String) :
    (insert node (front ++ rest) here).lookup? front =
      some (insert node rest ((here.lookup? front).getD (object []))) := by
  induction front generalizing here with
  | nil => simp
  | cons segment front ih =>
      rw [List.cons_append, lookup?_cons, lookup?_cons, find?_children_insert, if_pos rfl,
        Option.bind_some, ih]
      cases Assoc.find? segment here.children with
      | some child => rfl
      | none =>
          cases front with
          | nil => simp
          | cons next front => rfl

/-- **At its place and below it an insertion leaves the new node.** -/
theorem lookup?_insert_append (node here : Node μ) (path rest : List String) :
    (insert node path here).lookup? (path ++ rest) = node.lookup? rest := by
  have placed := lookup?_insert_prefix node here path []
  rw [List.append_nil] at placed
  rw [lookup?_append, placed, Option.bind_some]
  rfl

/-- **Anywhere else an insertion leaves what was there.** -/
theorem lookup?_insert_apart (node here : Node μ) (notAbove : ¬ other <+: path)
    (notBelow : ¬ path <+: other) : (insert node path here).lookup? other = here.lookup? other := by
  induction path generalizing here other with
  | nil => exact absurd List.nil_prefix notBelow
  | cons segment path ih =>
      cases other with
      | nil => exact absurd List.nil_prefix notAbove
      | cons name other =>
          rw [lookup?_cons, lookup?_cons, find?_children_insert]
          by_cases same : name = segment
          · subst same
            have notAbove : ¬ other <+: path := fun above =>
              notAbove (List.cons_prefix_cons.2 ⟨rfl, above⟩)
            have notBelow : ¬ path <+: other := fun below =>
              notBelow (List.cons_prefix_cons.2 ⟨rfl, below⟩)
            rw [if_pos rfl, Option.bind_some, ih _ notAbove notBelow]
            cases Assoc.find? name here.children with
            | some child => rfl
            | none =>
                -- the path goes on, since it is no prefix of that of the insertion
                have given : other ≠ [] := fun none => notAbove (none ▸ List.nil_prefix)
                exact lookup?_empty given
          · rw [if_neg same]

/-! ## Values of changed objects -/

/-- A new child shows in the value of an object at its name. -/
theorem jsonOfChildren_insert (segment : String) (child : Node μ)
    (children : List (String × Node μ)) :
    jsonOfChildren (Assoc.insert segment child children) =
      Assoc.insert segment child.json (jsonOfChildren children) := by
  induction children with
  | nil => rfl
  | cons first rest ih =>
      obtain ⟨name, old⟩ := first
      rw [Assoc.insert, jsonOfChildren, Assoc.insert]
      cases compare segment name with
      | lt => rfl
      | eq => rfl
      | gt => exact congrArg _ ih

end Node

/-! ## What a page answers -/

namespace Page

variable {call : μ → List Json → Action W String Json} {arguments : List Json}

/-- What a page answers at a path that leads to some node, or to none. -/
def respond (call : μ → List Json → Action W String Json) (path : List String)
    (arguments : List Json) : Option (Node μ) → Action W Failure Json
  | none => throw (failure path "is undefined")
  | some (.method handle) => (call handle arguments).onPart id (fun world _ => world) (failure path)
  | some (.value plain) =>
    if arguments = [] then pure plain else throw (failure path "is not a function")
  | some (.object children) =>
    if arguments = [] then pure (.object (Node.jsonOfChildren children))
    else throw (failure path "is not a function")

/-- A page answers by the node that it finds. -/
theorem invoke_eq_respond (page : Page μ) (path : List String) (arguments : List Json) :
    page.invoke call path arguments = respond call path arguments (page.root.lookup? path) := by
  unfold invoke
  cases page.root.lookup? path with
  | none => rfl
  | some node => cases node <;> cases arguments <;> rfl

/-- The children of what stands at a path: none, unless this is an object. -/
def childrenAt (page : Page μ) (path : List String) : List (String × Node μ) :=
  ((page.root.lookup? path).map Node.children).getD []

theorem childrenAt_eq (page : Page μ) (path : List String) :
    page.childrenAt path = ((page.root.lookup? path).getD (.object [])).children := by
  unfold childrenAt
  cases page.root.lookup? path <;> rfl

/-- **Inserting into a page changes exactly that subtree.** At the path of the insertion and below
it the page answers by the new node. Paths apart from it are answered as before. Above it there are
objects: they cannot be called, and their values have the children that were there before, with the
one that leads on to the new node. -/
theorem insertion_exact (call : μ → List Json → Action W String Json) (page : Page μ)
    (dotted : String) (node : Node μ) :
    let after := page.insert dotted node
    (∀ rest arguments, after.invoke call (segments dotted ++ rest) arguments =
      respond call (segments dotted ++ rest) arguments (node.lookup? rest)) ∧
    (∀ other arguments, ¬ other <+: segments dotted → ¬ segments dotted <+: other →
      after.invoke call other arguments = page.invoke call other arguments) ∧
    ∀ front segment rest, segments dotted = front ++ segment :: rest →
      (∀ arguments, arguments ≠ [] →
        after.invoke call front arguments = throw (failure front "is not a function")) ∧
      ∃ child, after.root.lookup? (front ++ [segment]) = some child ∧
        after.invoke call front [] =
          pure (.object (Assoc.insert segment child.json
            (Node.jsonOfChildren (page.childrenAt front)))) := by
  refine ⟨fun rest arguments => ?_, fun other arguments notAbove notBelow => ?_,
    fun front segment rest split => ?_⟩
  · rw [invoke_eq_respond]
    exact congrArg _ (Node.lookup?_insert_append node page.root (segments dotted) rest)
  · rw [invoke_eq_respond, invoke_eq_respond]
    exact congrArg _ (Node.lookup?_insert_apart node page.root notAbove notBelow)
  · have above : (page.insert dotted node).root.lookup? front = _ :=
      split ▸ Node.lookup?_insert_prefix node page.root front (segment :: rest)
    rw [Node.insert_cons, ← childrenAt_eq] at above
    have next : (page.insert dotted node).root.lookup? (front ++ [segment]) =
        some (Node.insert node rest
          ((Assoc.find? segment (page.childrenAt front)).getD (.object []))) := by
      rw [Node.lookup?_append, above, Option.bind_some, Node.lookup?_cons, Node.children,
        Assoc.find?_insert, if_pos Std.ReflOrd.compare_self, Option.bind_some, Node.lookup?_nil]
    refine ⟨fun arguments given => ?_, _, next, ?_⟩
    · rw [invoke_eq_respond, above, respond, if_neg given]
    · rw [invoke_eq_respond, above, respond, if_pos rfl, Node.jsonOfChildren_insert]

/-- A value on the way is replaced by an object, and its neighbours stay. -/
example :
    ((({} : Page Unit).insert "a" (.value .null)).insert "b" (.method ()) |>.insert "a.c"
      (.object [])).root = .object [("a", .object [("c", .object [])]), ("b", .method ())] := rfl

end Page

end HotReload
