/-!
# URL libraries

A page is moved with the help of a library that reads URLs. The URLs of the library are of a type of
its own, and only the functions of the library are used on them.
-/

set_option autoImplicit false

namespace HotReload

/-- The parts of a URL, in their written form. User and password are empty if there are none. -/
structure UrlParts where
  scheme : String
  user : String
  password : String
  host : Option String
  /-- The port, unless it is the default port of the scheme. -/
  port : Option Nat
  path : String
  query : Option String
  fragment : Option String

/-- A library that reads URLs. -/
structure UrlLibrary (U : Type) where
  /-- Reads a URL, or says why a text is none. -/
  read : (text : String) → Except String U
  /-- Reads a reference against a URL. -/
  join : U → (reference : String) → Except String U
  /-- Appends segments to the path, behind an empty segment at its end if there is one. None if the
  path has no segments. -/
  append? : U → (segments : List (List Char)) → Option U
  /-- The written form. -/
  text : U → String
  parts : U → UrlParts

end HotReload
