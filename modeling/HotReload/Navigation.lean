import HotReload.Page
import HotReload.Session.Procedure
import HotReload.Text.Lines
import HotReload.Url.Library

/-!
# Navigation

Functions that move a page or pause it. A page tells its URL under `url`. A target
that begins with a slash is read against that URL, any other target is appended to
its path. URLs are read by a library.
-/

set_option autoImplicit false

namespace HotReload.Navigation

variable {W U : Type}

/-- The failure of the URL of a page. -/
def failure (reason : String) : Failure :=
  Page.failure ["url"] reason

/-- The segments of a target that are not empty. -/
def targetSegments (target : String) : List (List Char) :=
  (Text.splitAt '/' target.toList).filter fun segment => !segment.isEmpty

/-- The URL that a target leads to from the URL that a page tells. -/
def destination (library : UrlLibrary U) (current : Json) (target : String) :
    Except Failure U :=
  match current with
  | .string here =>
    match library.read here with
    | .error reason => .error (failure reason)
    | .ok url =>
      if target.toList.head? = some '/' then (library.join url target).mapError failure
      else
        match library.append? url (targetSegments target) with
        | some url => .ok url
        | none => .error (failure ("cannot append to " ++ here))
  | other => .error (failure ("returned " ++ other.compact ++ " instead of a URL"))

/-- Moves the page to a target. -/
def goto (library : UrlLibrary U) (target : String) : Callable W :=
  .invoke ["url"] [] fun answer =>
    match answer.bind fun current => destination library current target with
    | .ok url => .ofCall ["goto"] [.string (library.text url)]
    | .error failure => .finish (.error failure)

/-- Changes the URL that a page shows, without loading anything. -/
def gotoState (target : String) : Callable W :=
  .ofCall ["evaluate"]
    [.string "url => window.history.pushState(\x7b\x7d, '', url)", .string target]

/-- Pauses the page in its debugger. -/
def breakpoint : Callable W :=
  .ofCall ["evaluate"]
    [.string "// You are here because of breakpoint command\ndebugger"]

end HotReload.Navigation
