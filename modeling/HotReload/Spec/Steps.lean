import HotReload.Entry
import HotReload.Html
import HotReload.Spec.Document
import HotReload.Text.Blank
import HotReload.Text.Lines

/-!
# Entries from the expectations

Every label behind the divider gets one entry. Unconditional text frames the
markup of each label.

A block with markers is the step block of its label: it is cut at its markers, and
each piece that is not blank becomes a step of its own inside the frame. Markers on
other parts of a label are its hooks, first the one before and then the one after;
the text of such a part is left out. A label without a step block has one step, all
its text.
-/

set_option autoImplicit false

namespace HotReload.Spec

variable {α : Type}

/-! ## Step blocks -/

/-- A piece of a step block. -/
inductive BlockPiece (α : Type)
  | text (chars : List Char)
  | sub (handle : α)
deriving DecidableEq, Repr

/-- The first characters of a text, up to a number of bytes, and the others. -/
def cut : (bytes : Nat) → List Char → List Char × List Char
  | _, [] => ([], [])
  | bytes, c :: cs =>
    if c.utf8Size ≤ bytes then
      let (front, back) := cut (bytes - c.utf8Size) cs
      (c :: front, back)
    else ([], c :: cs)

/-- Cuts a text at its markers. The text begins at byte `left` of its part. -/
def cutPieces (left : Nat) (cs : List Char) : List (Nat × α) → List (BlockPiece α)
  | [] => if cs.isEmpty then [] else [.text cs]
  | (offset, handle) :: rest =>
    if left < offset then
      .text (cut (offset - left) cs).1 :: .sub handle ::
        cutPieces offset (cut (offset - left) cs).2 rest
    else .sub handle :: cutPieces left cs rest

/-- Whether a piece makes a step. -/
def BlockPiece.isStep : BlockPiece α → Bool
  | .text cs => !Text.allBlank cs
  | .sub _ => true

/-- The pieces of a step block that make steps. -/
def stepPieces (text : String) (markers : List (Nat × α)) : List (BlockPiece α) :=
  (cutPieces 0 text.toList markers).filter BlockPiece.isStep

/-! ## Drafts -/

/-- The entry of a label while the parts are gone through. -/
structure Draft (α : Type) where
  label : Label
  /-- The texts of the label and of the frame so far, in order. -/
  lines : List String := []
  /-- The step block, with the number of texts in front of it. -/
  steps : Option (Nat × List (BlockPiece α)) := none
  before : Option α := none
  after : Option α := none
  /-- The first description of the label. -/
  description : Option String := none
deriving DecidableEq, Repr

namespace Draft

/-- The step of a piece between the texts in front of its block and behind it. -/
def framed (head tail : String) : BlockPiece α → Step α
  | .sub handle => .sub handle
  | .text cs => .html (Html.normalize (head ++ String.ofList cs ++ tail))

/-- The steps of a draft. -/
def entrySteps (draft : Draft α) : List (Step α) :=
  match draft.steps with
  | none => [.html (Html.normalize (String.join draft.lines))]
  | some (front, pieces) =>
    pieces.map
      (framed (String.join (draft.lines.take front)) (String.join (draft.lines.drop front)))

/-- The finished entry. -/
def entry (draft : Draft α) : Entry α :=
  { steps := draft.entrySteps, before := draft.before, after := draft.after,
    description := draft.description }

/-- Adds a text. -/
def addLine (draft : Draft α) (text : String) : Draft α :=
  { draft with lines := draft.lines ++ [text] }

/-- Adds a hook, first the one before, then the one after. -/
def addHook (origin : Origin) (span : Span) (draft : Draft α) (handle : α) :
    Except Failure (Draft α) :=
  if draft.before.isNone then .ok { draft with before := some handle }
  else if draft.after.isNone then .ok { draft with after := some handle }
  else
    .error ((origin.report (.tooManyHooks draft.label.name) span).withHelp
      "the first marker is the before hook, the second the after hook")

/-- The sub-procedures of a part's markers, with their offsets. -/
def resolve (origin : Origin) (subs : List α) (part : Part) :
    Except Failure (List (Nat × α)) :=
  part.markers.mapM fun marker =>
    match subs[marker.slot]? with
    | some handle => .ok (marker.offset, handle)
    | none => .error (origin.report (.unknownSub marker.slot subs.length) part.span)

/-- Adds a part of the draft's label. -/
def addPart (origin : Origin) (subs : List α) (part : Part) (draft : Draft α) :
    Except Failure (Draft α) := do
  let draft := { draft with description := draft.description.or part.description }
  let markers ← resolve origin subs part
  if markers.isEmpty then pure (draft.addLine part.text)
  else if part.block = some true then
    match draft.steps with
    | some _ => .error (origin.report (.secondStepBlock draft.label.name) part.span)
    | none =>
      pure { draft with steps := some (draft.lines.length, stepPieces part.text markers) }
  else (markers.map Prod.snd).foldlM (addHook origin part.span) draft

end Draft

/-- Changes the first draft of a label, or adds one. -/
def changeDraft (label : Label) (f : Draft α → Except Failure (Draft α)) :
    List (Draft α) → Except Failure (List (Draft α))
  | [] => do pure [← f { label }]
  | draft :: rest =>
    if draft.label = label then do pure ((← f draft) :: rest)
    else do pure (draft :: (← changeDraft label f rest))

/-- Goes through one part. -/
def addPart (origin : Origin) (subs : List α) (drafts : List (Draft α)) (part : Part) :
    Except Failure (List (Draft α)) :=
  match part.condition with
  | some label => changeDraft label (Draft.addPart origin subs part) drafts
  | none =>
    match part.markers with
    | marker :: _ => .error (origin.report (.markerOutsideCondition marker.slot) part.span)
    | [] => .ok (drafts.map fun draft => draft.addLine part.text)

/-- The entries of the expectations, in the order of their labels' first part. The
markers refer to `subs`. -/
def entries (origin : Origin) (expectations : ConditionalText) (subs : List α) :
    Except Failure (List (Label × Entry α)) := do
  let drafts ← expectations.parts.foldlM (addPart origin subs)
    (expectations.conditions.map fun label => { label })
  pure (drafts.map fun draft => (draft.label, draft.entry))

end HotReload.Spec
