import HotReload.Proofs.Acceptance
import HotReload.Proofs.MarkedText
import Mathlib.Data.List.DropRight
import Mathlib.Data.List.Chain

/-!
# What the lines of a section bring

Outside blocks, the opening of a file block and the divider begin sections (`sections`). The
lines of a section bring items (`items`): a condition begins, or a line of text is added to
what stands under a condition or under none. The parts of conditional text hold items as well
(`Part.items`), so what a section holds can be compared with what its lines bring.

Blank lines at the two ends of a section are exactly the blank items at the two ends of what
it brings, because a block or a condition brings an item even when it has no text
(`items_trimBlank`). `trimEdges` looks at the outer parts only and drops the same items, since
two unconditional parts are never neighbours (`items_trimEdges`).
-/

set_option autoImplicit false

namespace HotReload.Spec

open Text (Line)

variable {lines : List Line} {line : Line} {opened : Option Label}

/-! ## Sections -/

/-- The lines of a section behind the line that opens it. -/
structure SourceSection where
  opening : Line
  lines : List Line := []
deriving DecidableEq, Repr

/-- A section in which some lines have been met. -/
structure Layout where
  spot : Spot := {}
  /-- The sections in front of the present one. -/
  past : List SourceSection := []
  /-- The present section, behind the preamble. -/
  present : Option SourceSection := none
deriving DecidableEq, Repr

/-- Whether a line opens a file block when it stands outside blocks. -/
def isFileOpen (line : Line) : Bool :=
  match Directive.ofLine line.chars with
  | .fileOpen _ => true
  | _ => false

/-- Whether a line is a divider when it stands outside blocks. -/
def isDivider (line : Line) : Bool :=
  Directive.ofLine line.chars == .divider

/-- Whether a line begins a section. Inside a block none does. -/
def opensSection (spot : Spot) (line : Line) : Bool :=
  !spot.inside && (isFileOpen line || isDivider line)

/-- Goes on to the next line. -/
def Layout.behind (layout : Layout) (line : Line) : Layout :=
  if opensSection layout.spot line then
    { spot := layout.spot.behind line
      past := layout.past ++ layout.present.toList
      present := some { opening := line } }
  else
    { layout with
      spot := layout.spot.behind line
      present := layout.present.map fun present =>
        { present with lines := present.lines ++ [line] } }

/-- The layout of some lines. -/
def layout (lines : List Line) : Layout :=
  lines.foldl Layout.behind {}

/-- The sections of some lines, in order. -/
def sections (lines : List Line) : List SourceSection :=
  (layout lines).past ++ (layout lines).present.toList

namespace SourceSection

/-- Whether a section belongs to a file block. -/
def isFile (source : SourceSection) : Bool :=
  isFileOpen source.opening

/-- Whether a section stands behind a divider. -/
def isExpectations (source : SourceSection) : Bool :=
  isDivider source.opening

end SourceSection

theorem layout_append : layout (lines ++ [line]) = (layout lines).behind line := by
  rw [layout, List.foldl_append]
  rfl

@[simp] theorem spot_behind (layout : Layout) (line : Line) :
    (layout.behind line).spot = layout.spot.behind line := by
  unfold Layout.behind
  split <;> rfl

@[simp] theorem spot_layout (lines : List Line) : (layout lines).spot = spotBehind lines := by
  induction lines using List.reverseRecOn with
  | nil => rfl
  | append_singleton lines line ih => rw [layout_append, spot_behind, ih, spotBehind_append]

/-- A line that begins a section stands behind all sections so far. -/
theorem layout_of_opens (begins : opensSection (spotBehind lines) line = true) :
    layout (lines ++ [line]) =
      { spot := (spotBehind lines).behind line
        past := sections lines
        present := some { opening := line } } := by
  rw [layout_append, Layout.behind, spot_layout, if_pos begins, sections]

/-- Any other line belongs to the present section. -/
theorem layout_of_stays (stays : opensSection (spotBehind lines) line = false) :
    layout (lines ++ [line]) =
      { layout lines with
        spot := (spotBehind lines).behind line
        present := (layout lines).present.map fun present =>
          { present with lines := present.lines ++ [line] } } := by
  rw [layout_append, Layout.behind, spot_layout, if_neg (by simp [stays])]

/-! ## Items -/

/-- What a line brings into its section. -/
inductive Item
  /-- A condition begins at a byte, on its line or as a block. -/
  | opens (start : Nat) (label : Label) (block : Bool)
  /-- A line of text, with its line feed, under a condition or under none. -/
  | line (condition : Option Label) (text : List Char)
deriving DecidableEq, Repr

namespace Item

/-- The text of an item. -/
def chars : Item → List Char
  | .opens _ _ _ => []
  | .line _ text => text

/-- Whether an item is a blank line under no condition. -/
def isBlank : Item → Bool
  | .line none text => Text.allBlank text
  | _ => false

end Item

/-- The label of the block that is open behind a line. -/
def openedAfter (opened : Option Label) (line : Line) : Option Label :=
  match opened, Directive.ofLine line.chars with
  | none, .blockOpen label _ => some ⟨String.ofList label⟩
  | some _, .blockClose => none
  | opened, _ => opened

/-- What a line brings. The delimiters of a block and a condition without text bring no text,
a condition brings the text behind its label, and every other line itself. -/
def lineItems (opened : Option Label) (line : Line) : List Item :=
  match opened, Directive.ofLine line.chars with
  | none, .blockOpen label _ => [.opens line.start ⟨String.ofList label⟩ true]
  | none, .condition label text =>
    .opens line.start ⟨String.ofList label⟩ false ::
      if text.isEmpty then [] else [.line (some ⟨String.ofList label⟩) (keptText text ++ ['\n'])]
  | none, _ => [.line none (keptText line.chars ++ ['\n'])]
  | some _, .blockClose => []
  | some label, _ => [.line (some label) (keptText line.chars ++ ['\n'])]

/-- What some lines bring, when a block may be open in front of them. -/
def items (opened : Option Label) : List Line → List Item
  | [] => []
  | line :: rest => lineItems opened line ++ items (openedAfter opened line) rest

/-- The label of the block that is open behind some lines. -/
def openedBehind (lines : List Line) : Option Label :=
  lines.foldl openedAfter none

/-- Whether a line holds blank characters only. -/
def blankLine (line : Line) : Bool :=
  Text.allBlank line.chars

/-- The lines between the first and the last line that is not blank. -/
def trimBlank (lines : List Line) : List Line :=
  (lines.dropWhile blankLine).rdropWhile blankLine

@[simp] theorem openedBehind_append :
    openedBehind (lines ++ [line]) = openedAfter (openedBehind lines) line := by
  rw [openedBehind, List.foldl_append]
  rfl

theorem items_append (opened : Option Label) (front back : List Line) :
    items opened (front ++ back) =
      items opened front ++ items (front.foldl openedAfter opened) back := by
  induction front generalizing opened with
  | nil => rfl
  | cons line front ih =>
      rw [List.cons_append, items, ih, items, List.append_assoc, List.foldl_cons]

theorem items_concat :
    items none (lines ++ [line]) = items none lines ++ lineItems (openedBehind lines) line := by
  rw [items_append]
  simp [items, openedBehind]

/-! ## Blank ends -/

section Edges

variable {β : Type} {p : β → Bool}

theorem dropWhile_eq_self {back : List β} (stops : ∀ item ∈ back.head?, p item = false) :
    back.dropWhile p = back := by
  cases back with
  | nil => rfl
  | cons item rest => simp [stops item rfl]

theorem rdropWhile_eq_self {front : List β} (stops : ∀ item ∈ front.getLast?, p item = false) :
    front.rdropWhile p = front := by
  have turned : front.reverse.dropWhile p = front.reverse :=
    dropWhile_eq_self (by simpa using stops)
  rw [List.rdropWhile, turned, List.reverse_reverse]

theorem dropWhile_append_of_head (front back : List β)
    (stops : ∀ item ∈ back.head?, p item = false) :
    (front ++ back).dropWhile p = front.dropWhile p ++ back := by
  rw [List.dropWhile_append, dropWhile_eq_self stops]
  split
  · rename_i none
    rw [List.isEmpty_iff.1 none, List.nil_append]
  · rfl

theorem rdropWhile_append_of_getLast (front back : List β)
    (stops : ∀ item ∈ front.getLast?, p item = false) :
    (front ++ back).rdropWhile p = front ++ back.rdropWhile p := by
  have turned := dropWhile_append_of_head (p := p) back.reverse front.reverse
    (by simpa using stops)
  simp [List.rdropWhile, turned]

end Edges

theorem isBlank_keptLine (cs : List Char) :
    (Item.line none (keptText cs ++ ['\n'])).isBlank = Text.allBlank cs := by
  have feed : Text.isBlank '\n' = true := by decide
  have kept := allBlank_keptText cs
  simp only [Text.allBlank] at kept
  simp [Item.isBlank, Text.allBlank, feed, kept]

theorem openedAfter_of_blank (blank : blankLine line = true) :
    openedAfter opened line = opened := by
  cases opened <;> simp [openedAfter, ofLine_of_allBlank blank]

theorem lineItems_of_blank (blank : blankLine line = true) :
    lineItems none line = [.line none (keptText line.chars ++ ['\n'])] := by
  simp [lineItems, ofLine_of_allBlank blank]

/-- Outside blocks a line that is not blank brings something first that is not blank. -/
theorem isBlank_head_lineItems (content : blankLine line = false) :
    ∀ item ∈ (lineItems none line ++ items opened lines).head?, item.isBlank = false := by
  have kept := (isBlank_keptLine line.chars).trans content
  unfold lineItems
  cases Directive.ofLine line.chars <;> simp_all <;> simp [Item.isBlank]

/-- The last thing that lines bring is not blank when a block is open behind them. -/
theorem isBlank_getLast_items {label : Label} (inside : openedBehind lines = some label) :
    ∀ item ∈ (items none lines).getLast?, item.isBlank = false := by
  cases lines using List.reverseRecOn with
  | nil => simp [items]
  | append_singleton lines line =>
      rw [openedBehind_append] at inside
      rw [items_concat]
      cases opened : openedBehind lines <;> rw [opened] at inside <;>
        cases directive : Directive.ofLine line.chars <;>
        simp_all [lineItems, openedAfter, Item.isBlank]

theorem openedBehind_dropWhile_blank :
    openedBehind (lines.dropWhile blankLine) = openedBehind lines := by
  unfold openedBehind
  induction lines with
  | nil => rfl
  | cons line lines ih =>
      cases blank : blankLine line with
      | false => simp [blank]
      | true => simpa [blank, openedAfter_of_blank blank] using ih

theorem items_dropWhile_blank :
    items none (lines.dropWhile blankLine) =
      (items none lines).dropWhile Item.isBlank := by
  induction lines with
  | nil => rfl
  | cons line lines ih =>
      cases blank : blankLine line with
      | false =>
          rw [items, dropWhile_eq_self (isBlank_head_lineItems blank)]
          simp [blank, items]
      | true =>
          have kept := (isBlank_keptLine line.chars).trans blank
          simp [items, blank, ih, lineItems_of_blank blank, openedAfter_of_blank blank, kept]

theorem items_rdropWhile_blank (closed : openedBehind lines = none) :
    items none (lines.rdropWhile blankLine) =
      (items none lines).rdropWhile Item.isBlank := by
  induction lines using List.reverseRecOn with
  | nil => rfl
  | append_singleton lines line ih =>
      rw [openedBehind_append] at closed
      cases blank : blankLine line with
      | true =>
          rw [openedAfter_of_blank blank] at closed
          have kept := (isBlank_keptLine line.chars).trans blank
          rw [items_concat, closed, lineItems_of_blank blank, List.rdropWhile_concat_pos _ _ _ kept,
            List.rdropWhile_concat_pos _ _ _ blank, ih closed]
      | false =>
          have shown := (isBlank_keptLine line.chars).trans blank
          rw [List.rdropWhile_concat_neg _ _ _ (by simp [blank]), rdropWhile_eq_self]
          rw [items_concat]
          cases opened : openedBehind lines with
          | some label =>
              -- the line ends the block, and what stands in front of it is not blank
              have ends : lineItems (some label) line = [] := by
                rw [opened] at closed
                cases directive : Directive.ofLine line.chars <;>
                  simp_all [openedAfter, lineItems]
              rw [ends, List.append_nil]
              exact isBlank_getLast_items opened
          | none =>
              cases directive : Directive.ofLine line.chars with
              | condition label text =>
                  cases text <;> simp [lineItems, directive, Item.isBlank]
              | _ => simp_all [lineItems, Item.isBlank]

/-- **The blank lines at the ends of a section are the blank items at the ends of what it
brings.** -/
theorem items_trimBlank (closed : openedBehind lines = none) :
    items none (trimBlank lines) =
      ((items none lines).dropWhile Item.isBlank).rdropWhile Item.isBlank := by
  rw [trimBlank, items_rdropWhile_blank (openedBehind_dropWhile_blank.trans closed),
    items_dropWhile_blank]

/-! ## Items of parts -/

/-- What a part holds. -/
def Part.items (part : Part) : List Item :=
  (match part.condition, part.block with
    | some label, some block => [.opens part.span.start label block]
    | _, _ => []) ++ (wholeLines part.written).map (Item.line part.condition)

theorem Part.flatMap_chars_items (part : Part) : part.items.flatMap Item.chars = part.written := by
  have texts : (wholeLines part.written).flatMap (fun text => (Item.line part.condition text).chars)
      = part.written := by
    simpa [Item.chars] using flatten_wholeLines part.written
  rw [Part.items, List.flatMap_append, List.flatMap_map, texts]
  split <;> rfl

/-- A part as readers make them. -/
structure Part.Formed (part : Part) : Prop where
  block : part.block.isSome = part.isConditional
  unmarked : part.isConditional = false → part.markers = []
  ended : part.isConditional = false → ∀ line ∈ wholeLines part.text.toList, EndedLine line

variable {part : Part} {content : ConditionalText}

theorem Part.items_of_unconditional (formed : part.Formed) (free : part.isConditional = false) :
    part.items = (wholeLines part.text.toList).map (Item.line none) := by
  have condition : part.condition = none := by simpa [Part.isConditional] using free
  simp [Part.items, Part.written, formed.unmarked free, restored, condition]

/-- A conditional part begins and ends with something that is not blank. -/
theorem Part.isBlank_ends (formed : part.Formed) (conditional : part.isConditional = true) :
    part.items ≠ [] ∧ (∀ item ∈ part.items.head?, item.isBlank = false) ∧
      ∀ item ∈ part.items.getLast?, item.isBlank = false := by
  obtain ⟨label, condition⟩ := Option.isSome_iff_exists.1 conditional
  obtain ⟨block, opens⟩ := Option.isSome_iff_exists.1 (formed.block.trans conditional)
  have shape : part.items = .opens part.span.start label block ::
      (wholeLines part.written).map (Item.line (some label)) := by
    simp [Part.items, condition, opens]
  refine ⟨by simp [shape], by simp [shape, Item.isBlank], ?_⟩
  intro item last
  rw [shape] at last
  have mem := List.mem_of_getLast? last
  rcases List.mem_cons.1 mem with rfl | later
  · rfl
  · obtain ⟨text, -, rfl⟩ := List.mem_map.1 later
    rfl

/-- An unconditional part that gives up some of its lines holds the others. -/
theorem Part.items_mapUnconditional {keep : List (List Char) → List (List Char)}
    (shorter : ∀ lines, (keep lines).Sublist lines) (formed : part.Formed)
    (free : part.isConditional = false) :
    (part.mapUnconditional fun cs => (keep (wholeLines cs)).flatten).Formed ∧
      (part.mapUnconditional fun cs => (keep (wholeLines cs)).flatten).items =
        (keep (wholeLines part.text.toList)).map (Item.line none) := by
  have ended : ∀ line ∈ keep (wholeLines part.text.toList), EndedLine line := fun line mem =>
    formed.ended free line ((shorter _).mem mem)
  have kept := wholeLines_flatten ended
  have changed : (part.mapUnconditional fun cs => (keep (wholeLines cs)).flatten) =
      { part with text := String.ofList (keep (wholeLines part.text.toList)).flatten } := by
    simp [mapUnconditional, free]
  have formed' : (part.mapUnconditional fun cs => (keep (wholeLines cs)).flatten).Formed := by
    rw [changed]
    exact ⟨formed.block, formed.unmarked, fun _ => by simpa [kept] using ended⟩
  refine ⟨formed', ?_⟩
  rw [Part.items_of_unconditional formed' (by rw [changed]; exact free), changed]
  simp [kept]

/-- Dropping the blank lines in front of an unconditional part drops the blank items in front. -/
theorem Part.items_dropLeading (formed : part.Formed) :
    (part.mapUnconditional dropLeadingBlankLines).Formed ∧
      (part.mapUnconditional dropLeadingBlankLines).items =
        part.items.dropWhile Item.isBlank := by
  cases conditional : part.isConditional with
  | true =>
      obtain ⟨-, front, -⟩ := isBlank_ends formed conditional
      have same : part.mapUnconditional dropLeadingBlankLines = part := by
        simp [mapUnconditional, conditional]
      rw [same, dropWhile_eq_self front]
      exact ⟨formed, rfl⟩
  | false =>
      have dropped := items_mapUnconditional (fun lines => List.dropWhile_sublist Text.allBlank)
        formed conditional
      refine ⟨dropped.1, dropped.2.trans ?_⟩
      rw [items_of_unconditional formed conditional, List.dropWhile_map]
      rfl

/-- Dropping the blank lines behind an unconditional part drops the blank items behind. -/
theorem Part.items_dropTrailing (formed : part.Formed) :
    (part.mapUnconditional dropTrailingBlankLines).Formed ∧
      (part.mapUnconditional dropTrailingBlankLines).items =
        part.items.rdropWhile Item.isBlank := by
  cases conditional : part.isConditional with
  | true =>
      obtain ⟨-, -, back⟩ := isBlank_ends formed conditional
      have same : part.mapUnconditional dropTrailingBlankLines = part := by
        simp [mapUnconditional, conditional]
      rw [same, rdropWhile_eq_self back]
      exact ⟨formed, rfl⟩
  | false =>
      have dropped := items_mapUnconditional
        (fun lines => (List.rdropWhile_prefix Text.allBlank lines).sublist) formed conditional
      refine ⟨dropped.1, dropped.2.trans ?_⟩
      rw [items_of_unconditional formed conditional, List.rdropWhile, List.rdropWhile,
        ← List.map_reverse, List.dropWhile_map, List.map_reverse]
      rfl

/-! ## Trimming a section -/

/-- Of two neighbours at least one is conditional. -/
def Apart (parts : List Part) : Prop :=
  parts.IsChain fun first second => first.isConditional = true ∨ second.isConditional = true

theorem isConditional_mapUnconditional (f : List Char → List Char) (part : Part) :
    (part.mapUnconditional f).isConditional = part.isConditional := by
  rw [Part.isConditional, Part.condition_mapUnconditional, Part.isConditional]

theorem items_modifyHead {parts : List Part} (formed : ∀ part ∈ parts, part.Formed)
    (apart : Apart parts) :
    (parts.modifyHead (Part.mapUnconditional dropLeadingBlankLines)).flatMap Part.items =
      (parts.flatMap Part.items).dropWhile Item.isBlank := by
  cases parts with
  | nil => rfl
  | cons first rest =>
      obtain ⟨-, dropped⟩ := Part.items_dropLeading (formed first List.mem_cons_self)
      rw [List.modifyHead_cons, List.flatMap_cons, List.flatMap_cons, dropped]
      cases conditional : first.isConditional with
      | true =>
          obtain ⟨filled, front, -⟩ :=
            Part.isBlank_ends (formed first List.mem_cons_self) conditional
          have still : ∀ item ∈ (first.items ++ rest.flatMap Part.items).head?,
              item.isBlank = false := by
            obtain ⟨item, more, shape⟩ := List.exists_cons_of_ne_nil filled
            simpa [shape] using front
          rw [dropWhile_eq_self front, dropWhile_eq_self still]
      | false =>
          -- the second part is conditional and so begins with something that is not blank
          rw [dropWhile_append_of_head]
          cases rest with
          | nil => simp
          | cons second rest =>
              have other : second.isConditional = true := by
                simpa [conditional] using (List.isChain_cons_cons.1 apart).1
              obtain ⟨filled, front, -⟩ := Part.isBlank_ends
                (formed second (List.mem_cons_of_mem _ List.mem_cons_self)) other
              obtain ⟨item, more, shape⟩ := List.exists_cons_of_ne_nil filled
              simpa [shape] using front

@[simp] theorem changeLast_concat (f : Part → Part) (parts : List Part) (last : Part) :
    changeLast f (parts ++ [last]) = parts ++ [f last] := by
  induction parts with
  | nil => rfl
  | cons first rest ih =>
      rw [List.cons_append, List.cons_append, changeLast, ih]
      simp

theorem items_changeLast {parts : List Part} (formed : ∀ part ∈ parts, part.Formed)
    (apart : Apart parts) :
    (changeLast (Part.mapUnconditional dropTrailingBlankLines) parts).flatMap Part.items =
      (parts.flatMap Part.items).rdropWhile Item.isBlank := by
  cases parts using List.reverseRecOn with
  | nil => rfl
  | append_singleton front last =>
      have there : last ∈ front ++ [last] := List.mem_append_right _ (List.mem_singleton_self _)
      obtain ⟨-, dropped⟩ := Part.items_dropTrailing (formed last there)
      rw [changeLast_concat, List.flatMap_append, List.flatMap_append, List.flatMap_singleton,
        List.flatMap_singleton, dropped]
      cases conditional : last.isConditional with
      | true =>
          obtain ⟨filled, -, back⟩ := Part.isBlank_ends (formed last there) conditional
          have still : ∀ item ∈ (front.flatMap Part.items ++ last.items).getLast?,
              item.isBlank = false := by
            simpa [List.getLast?_append_of_ne_nil _ filled] using back
          rw [rdropWhile_eq_self back, rdropWhile_eq_self still]
      | false =>
          -- the part in front is conditional and so ends with something that is not blank
          rw [rdropWhile_append_of_getLast]
          cases front using List.reverseRecOn with
          | nil => simp
          | append_singleton front second =>
              have other : second.isConditional = true := by
                simpa [conditional] using
                  (List.isChain_append.1 apart).2.2 second (by simp) last rfl
              obtain ⟨filled, -, back⟩ := Part.isBlank_ends
                (formed second (by simp)) other
              rw [List.flatMap_append, List.flatMap_singleton,
                List.getLast?_append_of_ne_nil _ filled]
              exact back

/-- Parts that hold nothing may be left out. -/
theorem items_filter {keep : Part → Bool} {parts : List Part}
    (empty : ∀ part ∈ parts, keep part = false → part.items = []) :
    (parts.filter keep).flatMap Part.items = parts.flatMap Part.items := by
  induction parts with
  | nil => rfl
  | cons part rest ih =>
      have later := ih fun other mem => empty other (List.mem_cons_of_mem _ mem)
      cases kept : keep part with
      | true => simp [kept, later]
      | false => simp [kept, later, empty part List.mem_cons_self kept]

/-- **Trimming a section drops the blank items at its two ends.** -/
theorem items_trimEdges (formed : ∀ part ∈ content.parts, part.Formed)
    (apart : Apart content.parts) :
    (trimEdges content).parts.flatMap Part.items =
      ((content.parts.flatMap Part.items).dropWhile Item.isBlank).rdropWhile Item.isBlank := by
  have formed' : ∀ part ∈ content.parts.modifyHead (Part.mapUnconditional dropLeadingBlankLines),
      part.Formed := by
    intro part mem
    rcases mem_modifyHead mem with there | ⟨old, there, rfl⟩
    · exact formed part there
    · exact (Part.items_dropLeading (formed old there)).1
  have apart' : Apart (content.parts.modifyHead (Part.mapUnconditional dropLeadingBlankLines)) := by
    unfold Apart at apart ⊢
    cases parts : content.parts with
    | nil => simp
    | cons first rest =>
        rw [parts] at apart
        cases rest <;> simp_all [List.isChain_cons_cons, isConditional_mapUnconditional]
  rw [← items_modifyHead formed apart, ← items_changeLast formed' apart']
  refine items_filter fun part mem left => ?_
  obtain ⟨free, empty⟩ : part.isConditional = false ∧ part.text = "" := by simpa using left
  have partFormed : part.Formed := by
    rcases mem_changeLast mem with there | ⟨old, there, rfl⟩
    · exact formed' part there
    · exact (Part.items_dropTrailing (formed' old there)).1
  rw [Part.items_of_unconditional partFormed free, empty]
  rfl

end HotReload.Spec
