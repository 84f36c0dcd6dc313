import HotReload.Url.Basic
import HotReload.Url.Library

/-!
# Reading URLs

A URL is read from left to right: the scheme, the authority, the path, the query and
the fragment. Spaces and control characters at both ends are dropped, and tabs and
line breaks everywhere.

A reference that begins with a slash is read against a URL (`Url.rooted`). With one
slash it keeps the scheme and the authority of that URL; with two it has an authority
of its own.

This is the library that the program reads URLs with (`Url.library`). It does not do
all that the standard asks for: see the hosts for what it leaves out.
-/

set_option autoImplicit false

namespace HotReload.Url

/-! ## Pieces -/

/-- A text without spaces and control characters at both ends, and without tabs and
line breaks. -/
def cleaned (text : String) : List Char :=
  let isEnd := fun (c : Char) => decide (c.toNat ≤ 0x20)
  let cs := text.toList.dropWhile isEnd
  ((cs.reverse.dropWhile isEnd).reverse).filter fun c => !isIgnored c

/-- Whether a character is a slash, or a backslash that counts as one. -/
def isSlash (kind : SchemeKind) (c : Char) : Bool :=
  c == '/' || (kind.hasBackslashes && c == '\\')

/-- Whether a character begins the query or the fragment. -/
def isMark (c : Char) : Bool :=
  c == '?' || c == '#'

/-- The scheme in front of a colon, in lower case, and what stands behind it. -/
def scheme? (cs : List Char) : Option (List Char × List Char) :=
  let front := cs.takeWhile fun c => c.isAlphanum || c == '+' || c == '-' || c == '.'
  match front, cs.drop front.length with
  | first :: _, ':' :: rest =>
    if first.isAlpha then some (front.map Char.toLower, rest) else none
  | _, _ => none

/-! ## Query and fragment -/

/-- Adds the query and the fragment that a text begins with. -/
def withMarks (url : Url) (cs : List Char) : Url :=
  let isWeb := (kindOf url.scheme).hasBackslashes
  let query := match cs with
    | '?' :: rest => some (encode (inQuery isWeb) (rest.takeWhile (· != '#')))
    | _ => none
  let fragment := match cs.dropWhile (· != '#') with
    | '#' :: rest => some (encode inFragment rest)
    | _ => none
  { url with query, fragment }

/-! ## Paths -/

/-- The pieces of a text between slashes. -/
def pieces (kind : SchemeKind) : List Char → List (List Char)
  | [] => [[]]
  | c :: cs =>
    if isSlash kind c then [] :: pieces kind cs
    else
      match pieces kind cs with
      | [] => [[c]]
      | piece :: more => (c :: piece) :: more

/-- A text with its encoded dots put back. -/
def withDots : List Char → List Char
  | '%' :: '2' :: 'e' :: cs | '%' :: '2' :: 'E' :: cs => '.' :: withDots cs
  | c :: cs => c :: withDots cs
  | [] => []

/-- Goes along some pieces: `.` stays, `..` takes the last segment back, and anything
else is a further segment. A step at the end leaves an empty segment. -/
def walk (segments : List (List Char)) : List (List Char) → List (List Char)
  | [] => segments
  | piece :: rest =>
    let ending := if rest.isEmpty then [[]] else []
    if withDots piece = ['.', '.'] then walk (segments.dropLast ++ ending) rest
    else if withDots piece = ['.'] then walk (segments ++ ending) rest
    else walk (segments ++ [encode inPath piece]) rest

/-- File paths do not begin with empty segments. -/
def withoutEmptyFront (segments : List (List Char)) : List (List Char) :=
  match segments.dropWhile List.isEmpty with
  | [] => [[]]
  | rest => rest

/-- The segments of a path that is written behind its first slash. -/
def segmentsOf (kind : SchemeKind) (cs : List Char) : List (List Char) :=
  let segments := walk [] (pieces kind cs)
  if kind = .file then withoutEmptyFront segments else segments

/-- Adds the path, the query and the fragment that a text holds. The path is written
behind its first slash, which web URLs may leave out. -/
def withRest (url : Url) (cs : List Char) : Url :=
  let kind := kindOf url.scheme
  let path := cs.takeWhile fun c => !isMark c
  let marks := cs.dropWhile fun c => !isMark c
  let segments :=
    match path with
    | [] => if kind = .other then [] else [[]]
    | c :: rest => segmentsOf kind (if isSlash kind c then rest else c :: rest)
  { url with path := .segments segments }.withMarks marks

/-! ## Authority -/

/-- Whether a character ends the authority. -/
def endsAuthority (kind : SchemeKind) (c : Char) : Bool :=
  isSlash kind c || isMark c

/-- Splits a text at its last `@`. -/
def splitAtLastAt? (cs : List Char) : Option (List Char × List Char) :=
  let back := (cs.reverse.takeWhile (· != '@')).reverse
  if back.length < cs.length then some (cs.take (cs.length - back.length - 1), back) else none

/-- Splits host and port at the first colon outside brackets. -/
def splitPort : (inBrackets : Bool) → List Char → List Char × Option (List Char)
  | _, [] => ([], none)
  | inBrackets, c :: cs =>
    if c = ':' ∧ !inBrackets then ([], some cs)
    else
      let inBrackets := if c = '[' then true else if c = ']' then false else inBrackets
      let (host, port) := splitPort inBrackets cs
      (c :: host, port)

/-- The port that some digits name; no digits name none. -/
def port? (scheme digits : List Char) : Except UrlFault (Option Nat) :=
  if digits.isEmpty then .ok none
  else if digits.all Text.isDigit ∧ Text.digitsValue digits ≤ 65535 then
    let port := Text.digitsValue digits
    .ok (if defaultPort? scheme = some port then none else some port)
  else .error .invalidPort

/-- The host of a URL that is no file. Only other URLs than those of the web may have
an empty host, and then neither user nor port. -/
def hostOf (kind : SchemeKind) (cs : List Char) (isAlone : Bool) :
    Except UrlFault (List Char) :=
  if cs.isEmpty then
    if kind = .other ∧ isAlone then .ok [] else .error .emptyHost
  else if kind = .other then opaqueHost cs
  else webHost cs

/-- Reads what stands behind the two slashes of a URL that is no file. -/
def withAuthority (scheme cs : List Char) : Except UrlFault Url := do
  let kind := kindOf scheme
  let authority := cs.takeWhile fun c => !endsAuthority kind c
  let (userText, hostText) := match splitAtLastAt? authority with
    | some (userText, hostText) => (userText, hostText)
    | none => ([], authority)
  let (host, digits) := splitPort false hostText
  let host ← hostOf kind host (userText.isEmpty && digits.isNone)
  let port ← port? scheme (digits.getD [])
  let user := userText.takeWhile (· != ':')
  let password := userText.drop (user.length + 1)
  let url : Url :=
    { scheme, user := encode inUser user, password := encode inUser password,
      host := some host, port, path := .segments [] }
  pure (url.withRest (cs.drop authority.length))

/-- Reads what stands behind the two slashes of a file URL. The host `localhost` is
left out. -/
def withFileHost (scheme cs : List Char) : Except UrlFault Url := do
  let hostText := cs.takeWhile fun c => !endsAuthority .file c
  let host ← if hostText.isEmpty then pure [] else webHost hostText
  let host := if String.ofList host = "localhost" then [] else host
  let url : Url := { scheme, host := some host, path := .segments [] }
  pure (url.withRest (cs.drop hostText.length))

/-! ## URLs -/

/-- Reads what stands behind the colon of a file URL. -/
def readFile (scheme cs : List Char) : Except UrlFault Url :=
  match cs with
  | first :: second :: rest =>
    if isSlash .file first && isSlash .file second then withFileHost scheme rest
    else .ok ({ scheme, host := some [], path := .segments [] : Url }.withRest cs)
  | _ => .ok ({ scheme, host := some [], path := .segments [] : Url }.withRest cs)

/-- Reads what stands behind the colon of a URL that is neither of the web nor a
file. -/
def readOther (scheme cs : List Char) : Except UrlFault Url :=
  match cs with
  | '/' :: '/' :: rest => withAuthority scheme rest
  | '/' :: _ => .ok ({ scheme, path := .segments [] : Url }.withRest cs)
  | _ =>
    let path := encode isControl (cs.takeWhile fun c => !isMark c)
    .ok ({ scheme, path := .opaquePath path : Url }.withMarks (cs.dropWhile fun c => !isMark c))

/-- Reads a URL. -/
def read (text : String) : Except UrlFault Url :=
  match scheme? (cleaned text) with
  | none => .error .relative
  | some (scheme, cs) =>
    match kindOf scheme with
    | .web => withAuthority scheme (cs.dropWhile (isSlash .web))
    | .file => readFile scheme cs
    | .other => readOther scheme cs

/-- Reads a reference that begins with a slash against a URL. -/
def rooted (url : Url) (reference : String) : Except UrlFault Url :=
  let cs := cleaned reference
  let slashes := cs.takeWhile fun c => c == '/' || c == '\\'
  match url.path with
  | .opaquePath _ => .error .relativeToOpaque
  | .segments _ =>
    if kindOf url.scheme = .file then
      if 2 ≤ slashes.length then withFileHost url.scheme (cs.drop 2)
      else .ok ({ scheme := url.scheme, host := url.host, path := .segments [] : Url }.withRest cs)
    else if 2 ≤ slashes.length then
      withAuthority url.scheme
        (if cs.take 2 = ['/', '/'] then cs.drop 2 else cs.drop slashes.length)
    else
      .ok ({ url with path := .segments [], query := none, fragment := none }.withRest cs)

/-- The parts in their written form. -/
def parts (url : Url) : UrlParts where
  scheme := String.ofList url.scheme
  user := String.ofList url.user
  password := String.ofList url.password
  host := url.host.map String.ofList
  port := url.port
  path := String.ofList url.pathText
  query := url.query.map String.ofList
  fragment := url.fragment.map String.ofList

/-- The library of these URLs. A reference is taken to begin with a slash, since no other
reference is ever joined. -/
def library : UrlLibrary Url where
  read text := (read text).mapError UrlFault.message
  join url reference := (url.rooted reference).mapError UrlFault.message
  append? := append?
  text := text
  parts := parts

end HotReload.Url
