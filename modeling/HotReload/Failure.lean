import HotReload.Text.Form

/-!
# Failures

Every stage reports what went wrong as a `Cause`, with the phase it happened in
and, where a spec text is at fault, the bytes of that text. The category of a
cause decides whether a test may handle the failure: failures of the notation, of
the order of commands and of an expectation are fatal, failures of the build
server, of a page call and of files are not.

The wording of every cause is in `Cause.message`, and nowhere else.
-/

set_option autoImplicit false

namespace HotReload

/-- A range of bytes of a text, from `start` up to but without `stop`. -/
structure Span where
  /-- Offset of the first byte. -/
  start : Nat
  /-- Offset behind the last byte. -/
  stop : Nat
deriving DecidableEq, Repr, Inhabited

namespace Span

/-- The empty range at the beginning. -/
def zero : Span := ⟨0, 0⟩

/-- The smallest range that covers both. -/
def join (first second : Span) : Span :=
  ⟨min first.start second.start, max first.stop second.stop⟩

/-- The number of bytes. -/
def length (span : Span) : Nat :=
  span.stop - span.start

/-- A range shows its two ends. -/
def form (span : Span) : Text.Form :=
  .record "Span" [("start", .nat span.start), ("end", .nat span.stop)]

end Span

/-- What went wrong. -/
inductive Cause
  /-- A line begins like a delimiter and is none. -/
  | malformedDelimiter (line : String)
  /-- A marker stands in unconditional text of the expectations. -/
  | markerOutsideCondition (slot : Nat)
  | markerInFile (path : String) (slot : Nat)
  | unknownSub (slot available : Nat)
  /-- A label has a second block with markers. -/
  | secondStepBlock (label : String)
  /-- A label has a third marker outside its step block. -/
  | tooManyHooks (label : String)
  | missingTitle
  | unexpectedToken (expected found : String)
  /-- Initial files or the initial update were declared after the start. -/
  | initAfterStart
  | expectAfterStart (label : String)
  /-- A command makes no sense in the present state. -/
  | invalidCommand (command reason : String)
  | duplicateHook (label hook : String)
  /-- The invocation was aborted before. -/
  | aborted (reason : String)
  | unexpectedReply (expected actual : String)
  | build (message : String)
  /-- A page path could not be read or called. -/
  | forwarding (path reason : String)
  | io (message : String)
  | mismatch (label : String) (step : Nat) (expected actual : String)
deriving DecidableEq, Repr

/-- The groups of causes. -/
inductive Category
  | parse
  | protocol
  | build
  | assertion
  | forwarding
  | io
deriving DecidableEq, Repr

/-- The name of a category. -/
def Category.name : Category → String
  | .parse => "Parse"
  | .protocol => "Protocol"
  | .build => "Build"
  | .assertion => "Assertion"
  | .forwarding => "Forwarding"
  | .io => "Io"

/-- Whether a failure of this category ends the whole invocation. -/
def Category.isFatal : Category → Bool
  | .parse | .protocol | .assertion => true
  | .build | .forwarding | .io => false

namespace Cause

/-- The category of a cause. -/
def category : Cause → Category
  | .malformedDelimiter _ | .markerOutsideCondition _ | .markerInFile _ _ | .unknownSub _ _
  | .secondStepBlock _ | .tooManyHooks _ | .missingTitle | .unexpectedToken _ _ => .parse
  | .initAfterStart | .expectAfterStart _ | .invalidCommand _ _ | .duplicateHook _ _
  | .aborted _ | .unexpectedReply _ _ => .protocol
  | .build _ => .build
  | .forwarding _ _ => .forwarding
  | .io _ => .io
  | .mismatch _ _ _ _ => .assertion

/-- The short code of a cause. -/
def code : Cause → String
  | .malformedDelimiter _ => "malformed_delimiter"
  | .markerOutsideCondition _ => "sub_outside_condition"
  | .markerInFile _ _ => "sub_in_file_content"
  | .unknownSub _ _ => "unknown_sub"
  | .secondStepBlock _ => "duplicate_step_block"
  | .tooManyHooks _ => "too_many_hooks"
  | .missingTitle => "missing_title"
  | .unexpectedToken _ _ => "unexpected_token"
  | .initAfterStart => "init_after_start"
  | .expectAfterStart _ => "expect_after_start"
  | .invalidCommand _ _ => "invalid_command"
  | .duplicateHook _ _ => "duplicate_hook"
  | .aborted _ => "aborted"
  | .unexpectedReply _ _ => "unexpected_reply"
  | .build _ => "build"
  | .forwarding _ _ => "forwarding"
  | .io _ => "io"
  | .mismatch _ _ _ _ => "assertion"

/-- A marker as it is written. -/
def marker (slot : Nat) : String :=
  "$\x7b" ++ toString slot ++ "\x7d"

/-- The text of a cause. -/
def message : Cause → String
  | .malformedDelimiter line => "Parse error: malformed delimiter '" ++ line ++ "'"
  | .markerOutsideCondition slot =>
    "Parse error: sub-procedure " ++ marker slot ++ " must be inside a condition"
  | .markerInFile path slot =>
    "Parse error: sub-procedure " ++ marker slot ++ " is not allowed in file '" ++ path ++ "'"
  | .unknownSub slot available =>
    "Parse error: sub-procedure " ++ marker slot ++ " does not exist (" ++ toString available
      ++ " supplied)"
  | .secondStepBlock label =>
    "Parse error: only a single condition block can have sub-procedure steps (label "
      ++ label ++ ")"
  | .tooManyHooks label =>
    "Parse error: only two root level hooks are allowed, before and after (label "
      ++ label ++ ")"
  | .missingTitle => "Parse error: missing '# <title>' line"
  | .unexpectedToken expected found =>
    "Parse error: expected " ++ expected ++ ", found " ++ found
  | .initAfterStart => "Protocol error: init must happen before the first update"
  | .expectAfterStart label =>
    "Protocol error: expectation for label " ++ label ++ " declared after the test started"
  | .invalidCommand command reason =>
    "Protocol error: invalid '" ++ command ++ "' command: " ++ reason
  | .duplicateHook label hook =>
    "Protocol error: " ++ hook ++ " hook already registered for label " ++ label
  | .aborted reason => "Protocol error: invocation aborted: " ++ reason
  | .unexpectedReply expected actual =>
    "Protocol error: expected " ++ expected ++ " reply, got " ++ actual
  | .build message => "Build error: " ++ message
  | .forwarding path reason => "Forwarding error: page." ++ path ++ " " ++ reason
  | .io message => "I/O error: " ++ message
  | .mismatch label step expected actual =>
    "Assertion failed after update " ++ label ++ " (step " ++ toString step ++ "): expected "
      ++ Text.quoted expected ++ ", got " ++ Text.quoted actual

/-- What a pointer into the spec text says. -/
def pointer : Cause → String
  | .malformedDelimiter _ => "malformed delimiter"
  | .markerOutsideCondition _ => "outside any condition"
  | .markerInFile _ _ => "inside file content"
  | .unknownSub _ _ => "unknown slot"
  | .secondStepBlock _ => "second step block"
  | .tooManyHooks _ => "third hook"
  | .missingTitle => "title expected here"
  | .unexpectedToken _ _ => "unexpected token"
  | .mismatch _ _ _ _ => "assertion failed here"
  | _ => "here"

end Cause

/-- The part of the work in which a failure arose. -/
inductive Phase
  | parse
  | compile
  | protocol
  | build
  | page
  | expect
  | io
  | discover
deriving DecidableEq, Repr

/-- The name of a phase. -/
def Phase.name : Phase → String
  | .parse => "parse"
  | .compile => "compile"
  | .protocol => "protocol"
  | .build => "build"
  | .page => "page"
  | .expect => "expect"
  | .io => "io"
  | .discover => "discover"

/-- A cause with the place it arose at. -/
structure Failure where
  cause : Cause
  phase : Phase
  /-- The name of the spec text at fault, if one is. -/
  source : Option String := none
  /-- The bytes of that text; empty when no text is at fault. -/
  span : Span := Span.zero
  /-- Advice to the author of the test. -/
  help : Option String := none
deriving DecidableEq, Repr

namespace Failure

/-- The full code of a failure. -/
def code (failure : Failure) : String :=
  "hmr_spec::" ++ failure.phase.name ++ "::" ++ failure.cause.code

/-- The text of a failure. -/
def message (failure : Failure) : String :=
  failure.cause.message

/-- The category of a failure. -/
def category (failure : Failure) : Category :=
  failure.cause.category

/-- Whether a failure ends the whole invocation. -/
def isFatal (failure : Failure) : Bool :=
  failure.category.isFatal

/-- The failure with advice. -/
def withHelp (failure : Failure) (help : String) : Failure :=
  { failure with help := some help }

end Failure

/-- Where the failures of a stage are reported. -/
structure Origin where
  phase : Phase
  source : Option String := none
deriving DecidableEq, Repr

/-- The failure of a cause at some bytes of the text. -/
def Origin.report (origin : Origin) (cause : Cause) (span : Span) : Failure :=
  { cause, phase := origin.phase, source := origin.source, span }

end HotReload
