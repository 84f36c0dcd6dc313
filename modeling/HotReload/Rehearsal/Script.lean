import HotReload.Rehearsal.Stage
import HotReload.Session.Invocation
import HotReload.Url.Reader

/-!
# Scripts

A script is a procedure that is written out as a list of statements. Each statement
is carried out and written into the trace with its result. A failure ends the script,
unless the statement allows it.

Scripts refer to sub-procedures by name, so they may call each other in any way. How
deep calls nest is bounded (`deepest`).
-/

set_option autoImplicit false

namespace HotReload.Rehearsal

/-! ## Statements -/

/-- A function that a script can name. -/
inductive Function
  | goto (target : String)
  /-- Changes the URL that the page shows. -/
  | gotoState (target : String)
  | breakpoint
  /-- Reads or calls a path of the page. -/
  | call (path : List String) (arguments : List Json)
  | fail (failure : Failure)

/-- What a script refers to: a sub-procedure by its name, or a function. -/
inductive Handle
  | sub (name : String)
  | function (function : Function)

/-- The kind a reply has to have. -/
inductive ReplyKind
  | any
  | value
  | text
  | snapshot

/-- What a statement does. -/
inductive Deed
  | send (command : Command Handle)
  | run (sub : String)
  | raise (failure : Failure)
  /-- Sets how the page answers questions about its elements. -/
  | render (rendering : Rendering)

/-- One statement of a script. -/
structure Statement where
  /-- The name it has in the trace. -/
  name : String
  deed : Deed
  /-- Whether the script goes on when it fails. -/
  allowsFailure : Bool := false
  /-- The kind of reply it wants. -/
  wants : ReplyKind := .any

/-- The failure of a kind that a script asks for. -/
def raised (kind message : String) : Failure :=
  match kind with
  | "build" => { cause := .build message, phase := .build }
  | "forwarding" => { cause := .forwarding "user" message, phase := .page }
  | "assertion" => Failure.mismatch "user" 0 message ""
  | "invalid" => { cause := .invalidCommand "user" message, phase := .protocol }
  | _ => { cause := .io message, phase := .io }

/-- A reply as the kind that is wanted. -/
def ReplyKind.of (wanted : ReplyKind) (reply : Reply) : Except Failure Reply :=
  match wanted with
  | .any => .ok reply
  | .value => reply.asValue.map Reply.value
  | .text => reply.asText.map Reply.text
  | .snapshot => reply.asSnapshot.map Reply.snapshot

/-! ## Procedures from scripts -/

/-- The named scripts of a rehearsal. -/
abbrev Repertoire := Table String (List Statement)

/-- Writes a statement down and goes on, unless it failed and may not fail. -/
def conclude (statement : Statement) (result : Except Failure Reply)
    (rest : Procedure Stage Handle) : Procedure Stage Handle :=
  .act (Stage.note (.did statement.name result)) fun _ =>
    match result with
    | .ok _ => rest
    | .error failure => if statement.allowsFailure then rest else .finish (.error failure)

/-- The procedure of some statements, which call sub-procedures by `sub`. -/
def procedureOf (sub : String → Procedure Stage Handle) :
    List Statement → Procedure Stage Handle
  | [] => .finish (.ok ())
  | statement :: rest =>
    match statement.deed with
    | .send command =>
      .send command fun answer =>
        conclude statement (answer.bind statement.wants.of) (procedureOf sub rest)
    | .run name =>
      (sub name).andThen fun result =>
        conclude statement (result.map fun _ => .done) (procedureOf sub rest)
    | .raise failure => conclude statement (.error failure) (procedureOf sub rest)
    | .render rendering =>
      .act (fun stage => { stage with rendering }) fun _ =>
        conclude statement (.ok .done) (procedureOf sub rest)

/-- The procedure of a named script, which may nest calls up to a depth. -/
def subProcedure (repertoire : Repertoire) : (depth : Nat) → String → Procedure Stage Handle
  | 0, _ => .finish (.error { cause := .io "sub-procedures are nested too deeply", phase := .io })
  | depth + 1, name =>
    .act (Stage.note (.enter name)) fun _ =>
      (procedureOf (subProcedure repertoire depth) ((repertoire.find? name).getD [])).andThen
        fun result => .act (Stage.note (.leave name)) fun _ => .finish result

/-- How deep calls of named scripts may nest. -/
def deepest : Nat := 1000

/-- The function that a script names. -/
def Function.callable : Function → Callable Stage
  | .goto target => Navigation.goto Url.library target
  | .gotoState target => Navigation.gotoState target
  | .breakpoint => Navigation.breakpoint
  | .call path arguments => .ofCall path arguments
  | .fail failure => .finish (.error failure)

/-- What the handles of a script stand for. A handle of the other kind stands for
nothing. -/
def playbook (repertoire : Repertoire) : Playbook Stage Handle where
  procedure
    | .sub name => subProcedure repertoire deepest name
    | .function _ => .finish (.ok ())
  function
    | .sub _ => .finish (.ok ())
    | .function function => function.callable

/-! ## Rehearsals -/

/-- What is performed: a script, or a spec that is a test of its own. -/
inductive Piece
  | script (title : Option String) (statements : List Statement)
  | spec (source : String) (subs : List String)

/-- Everything a rehearsal starts from. -/
structure Plan where
  piece : Piece
  /-- The named scripts. -/
  repertoire : Repertoire := {}
  config : Config
  /-- What is wanted to go wrong. -/
  mishaps : Mishaps := {}
  /-- How the page answers questions about its elements at first. -/
  rendering : Rendering := .built ""
  /-- What is added to the page, by dotted path. -/
  additions : List (String × Node Method) := []

namespace Plan

/-- The stage at the beginning. -/
def stage (plan : Plan) : Stage :=
  { rendering := plan.rendering
    page := plan.additions.foldl (fun page addition => page.insert addition.1 addition.2)
      plainPage }

/-- What stays the same during the rehearsal. -/
def setting (plan : Plan) : Setting Stage Handle :=
  { config := plan.config
    testBed := testBed plan.config plan.mishaps
    playbook := playbook plan.repertoire }

/-- The invocation of the rehearsal. -/
def invocation (plan : Plan) : Runner.Act Stage Handle Report :=
  match plan.piece with
  | .script title statements =>
    Invocation.run plan.setting title
      (procedureOf (subProcedure plan.repertoire deepest) statements)
  | .spec source subs => Invocation.runSpec plan.setting source (subs.map Handle.sub)

/-- Performs the rehearsal. Answers its trace, oldest first, and how it ended. -/
def perform (plan : Plan) : List Trace × Except Failure Report :=
  let (result, run) := plan.invocation.runOn { world := plan.stage }
  (run.world.trace.reverse, result)

end Plan

end HotReload.Rehearsal
