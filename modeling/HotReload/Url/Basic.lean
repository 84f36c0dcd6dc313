import HotReload.Url.Host

/-!
# URLs

A URL has a scheme, mostly an authority with user, host and port, a path, and
perhaps a query and a fragment. The path of most URLs is a list of segments; a URL
such as `mailto:a` has an opaque path instead, and nothing can be appended to it.

The schemes of the web always have a host and leave out their default port. Their
URLs may be written with backslashes. URLs of files may have an empty host and have
no port.
-/

set_option autoImplicit false

namespace HotReload

/-- The path of a URL. -/
inductive UrlPath
  /-- A path without structure. -/
  | opaquePath (chars : List Char)
  /-- Segments, each behind a slash. -/
  | segments (segments : List (List Char))
deriving DecidableEq, Repr

/-- A URL, whose parts are written in their encoded form. -/
structure Url where
  /-- The scheme, in lower case. -/
  scheme : List Char
  user : List Char := []
  password : List Char := []
  /-- The host, if there is an authority. -/
  host : Option (List Char) := none
  /-- The port, unless it is the default one. -/
  port : Option Nat := none
  path : UrlPath
  query : Option (List Char) := none
  fragment : Option (List Char) := none
deriving DecidableEq, Repr

namespace Url

/-! ## Schemes -/

/-- The kinds of schemes. -/
inductive SchemeKind
  | web
  | file
  | other
deriving DecidableEq, Repr

/-- The kind of a scheme. -/
def kindOf (scheme : List Char) : SchemeKind :=
  if ["http", "https", "ws", "wss", "ftp"].contains (String.ofList scheme) then .web
  else if String.ofList scheme = "file" then .file
  else .other

/-- Whether backslashes separate segments. -/
def SchemeKind.hasBackslashes : SchemeKind → Bool
  | .web | .file => true
  | .other => false

/-- The port a scheme uses when none is given. -/
def defaultPort? (scheme : List Char) : Option Nat :=
  match String.ofList scheme with
  | "http" | "ws" => some 80
  | "https" | "wss" => some 443
  | "ftp" => some 21
  | _ => none

/-! ## Written form -/

/-- User and password, if there are any. -/
def userText (url : Url) : List Char :=
  if url.user.isEmpty && url.password.isEmpty then []
  else if url.password.isEmpty then url.user ++ ['@']
  else url.user ++ ':' :: url.password ++ ['@']

/-- The authority with its slashes, if there is one. -/
def authorityText (url : Url) : List Char :=
  match url.host with
  | none => []
  | some host =>
    let port := match url.port with
      | none => []
      | some port => ':' :: Text.decimal port
    '/' :: '/' :: url.userText ++ host ++ port

/-- The path. -/
def pathText (url : Url) : List Char :=
  match url.path with
  | .opaquePath chars => chars
  | .segments segments => segments.flatMap ('/' :: ·)

/-- An optional part behind its mark. -/
def markedText (mark : Char) : Option (List Char) → List Char
  | none => []
  | some chars => mark :: chars

/-- The written form. -/
def text (url : Url) : String :=
  String.ofList (url.scheme ++ ':' :: url.authorityText ++ url.pathText
    ++ markedText '?' url.query ++ markedText '#' url.fragment)

/-! ## Appending -/

/-- The segments without an empty one at the end, unless it is the only one. -/
def dropEmptyEnd (segments : List (List Char)) : List (List Char) :=
  if 1 < segments.length ∧ segments.getLast? = some [] then segments.dropLast else segments

/-- Appends an encoded segment; it takes the place of a single empty one. -/
def appendSegment (segments : List (List Char)) (segment : List Char) : List (List Char) :=
  if segments = [[]] then [segment] else segments ++ [segment]

/-- Line breaks and tabs, which URLs ignore. -/
def isIgnored (c : Char) : Bool :=
  c == '\t' || c == '\n' || c == '\r'

/-- Appends segments to the path, after an empty segment at its end is dropped. The
segments `.` and `..` are left out. None if the path is opaque. -/
def append? (url : Url) (segments : List (List Char)) : Option Url :=
  match url.path with
  | .opaquePath _ => none
  | .segments old =>
    let isWeb := (kindOf url.scheme).hasBackslashes
    let new := (segments.filter fun segment => segment ≠ ['.'] ∧ segment ≠ ['.', '.']).map
      fun segment => encode (inSegment isWeb) (segment.filter fun c => !isIgnored c)
    some { url with path := .segments (new.foldl appendSegment (dropEmptyEnd old)) }

end Url

end HotReload
