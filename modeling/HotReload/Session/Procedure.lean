import HotReload.Action
import HotReload.Build
import HotReload.Session.Command

/-!
# Procedures

A procedure is the logic of a test. It sends commands one after the other, sees the
reply or the failure of each, and ends well or with a failure. Between commands it
may act on the world, which it shares with the app under test. A function of a test
works the same way on the page alone.

Procedures are trees: a node for every command with a branch for every answer. So a
statement about all procedures is a statement about every way in which a test can go
on after what it has seen, and failures may be handled in any way or in none.

A test bed is what the runner needs from outside: it opens the app, changes its
files, calls its page, and closes it. All this acts on the world, in any way.
-/

set_option autoImplicit false

namespace HotReload

/-- The logic of a test, on a world `W` and with handles `α`. -/
inductive Procedure (W α : Type)
  | finish (result : Except Failure Unit)
  /-- Acts on the world, and goes on as the world then is. -/
  | act (effect : W → W) (next : W → Procedure W α)
  /-- Sends a command, and goes on as it is answered. -/
  | send (command : Command α) (next : Except Failure Reply → Procedure W α)

/-- A function that works on the page of a world `W`. -/
inductive Callable (W : Type)
  | finish (result : Except Failure Unit)
  /-- Acts on the world, and goes on as the world then is. -/
  | act (effect : W → W) (next : W → Callable W)
  /-- Reads or calls a path of the page, and goes on as it is answered. -/
  | invoke (path : List String) (arguments : List Json)
      (next : Except Failure Json → Callable W)
  | close (next : Except Failure Unit → Callable W)

/-- What the handles of a test stand for. -/
structure Playbook (W α : Type) where
  procedure : α → Procedure W α
  function : α → Callable W

/-- The app under test, as its runner can work with it. -/
structure TestBed (W : Type) where
  /-- Opens the build server and the page. -/
  launch : Action W Failure Unit
  /-- Replaces all sources and answers the changed paths. -/
  reset : Table String String → Action W Failure (List String)
  write : Changes → Action W Failure Unit
  wait : String → Action W Failure Unit
  /-- Reads or calls a path of the page. -/
  invoke : List String → List Json → Action W Failure Json
  closePage : Action W Failure Unit
  closeBuild : Action W Failure Unit

namespace Procedure

variable {W α : Type}

/-- One procedure and then another, which sees how the first ended. -/
def andThen (next : Except Failure Unit → Procedure W α) : Procedure W α → Procedure W α
  | .finish result => next result
  | .act effect rest => .act effect fun world => (rest world).andThen next
  | .send command rest => .send command fun answer => (rest answer).andThen next

/-- Sends commands one after the other, up to the first that fails. -/
def sendAll : List (Command α) → Procedure W α
  | [] => .finish (.ok ())
  | command :: rest =>
    .send command fun answer =>
      match answer with
      | .ok _ => sendAll rest
      | .error failure => .finish (.error failure)

end Procedure

namespace Callable

variable {W : Type}

/-- Lets a function work on a page by itself. A page need not do anything to close. -/
def runOn (invoke : List String → List Json → Action W Failure Json)
    (close : Action W Failure Unit := pure ()) : Callable W → Action W Failure Unit
  | .finish result => Action.ofExcept result
  | .act effect next => do
    modify effect
    runOn invoke close (next (← get))
  | .invoke path arguments next => do
    runOn invoke close (next (← Action.attempt (invoke path arguments)))
  | .close next => do
    runOn invoke close (next (← Action.attempt close))

/-- The function that reads or calls one path and ignores the answer. -/
def ofCall (path : List String) (arguments : List Json) : Callable W :=
  .invoke path arguments fun answer => .finish (answer.map fun _ => ())

end Callable

end HotReload
