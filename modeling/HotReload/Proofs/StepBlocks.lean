import HotReload.Proofs.Expectations

/-!
# Step blocks in their frame

The markers of a step block cut its text into pieces, and each piece that is not blank becomes a
step of the label. A marker drives its sub-procedure. A text is compared with the page as if it were
the whole block: the step is the one of the entry that the label gets when the block has this
text and no markers (`step_block_framed`).

The pieces are said by their places in the text (`CutAt`). There is one way to cut a text at markers
that are in range and in order (`CutAt.unique`, `exists_cutAt`), and the cut that is made from
left to right finds it, but for empty pieces, which are blank (`filter_cutPieces`).
-/

set_option autoImplicit false

namespace HotReload.Spec

open Text (Under byteLength)

variable {α : Type} {origin : Origin} {subs : List α} {label : Label} {front back : List Part}
  {block : Part} {cs : List Char} {left : Nat} {markers : List Marker}
  {pieces : List (BlockPiece Marker)}

/-! ## Texts that are cut at markers -/

/-- A marker is in range of a text if the text can be cut at its offset, which is at one of the
ends or between two characters. -/
def Marker.InRange (cs : List Char) (marker : Marker) : Prop :=
  ∃ before, before <+: cs ∧ byteLength before = marker.offset

/-- The pieces of a text that begin at byte `left`: texts and markers in turn. -/
inductive CutAt (cs : List Char) : Nat → List Marker → List (BlockPiece Marker) → Prop
  | last {left : Nat} {piece : List Char} (under : Under cs ⟨left, byteLength cs⟩ piece) :
      CutAt cs left [] [.text piece]
  | marker {left : Nat} {marker : Marker} {piece : List Char} {rest : List Marker}
      {pieces : List (BlockPiece Marker)} (under : Under cs ⟨left, marker.offset⟩ piece)
      (behind : CutAt cs marker.offset rest pieces) :
      CutAt cs left (marker :: rest) (.text piece :: .sub marker :: pieces)

/-- There is at most one way to cut a text at some markers. -/
theorem CutAt.unique {others : List (BlockPiece Marker)} (one : CutAt cs left markers pieces)
    (other : CutAt cs left markers others) : pieces = others := by
  induction one generalizing others with
  | last under =>
      cases other with
      | last under' => rw [under.unique under']
  | marker under _ ih =>
      cases other with
      | marker under' behind' => rw [under.unique under', ih behind']

/-- A place in a text: what stands in front of it and what stands behind it. -/
theorem exists_under {before : List Char} {marker : Marker} (inRange : marker.InRange cs)
    (front : before <+: cs) (le : byteLength before ≤ marker.offset) :
    ∃ piece, Under cs ⟨byteLength before, marker.offset⟩ piece ∧ before ++ piece <+: cs ∧
      byteLength (before ++ piece) = marker.offset := by
  obtain ⟨whole, isFront, length⟩ := inRange
  obtain ⟨piece, rfl⟩ := Text.prefix_of_byteLength_le front isFront (length ▸ le)
  obtain ⟨back, rfl⟩ := isFront
  exact ⟨piece, ⟨before, back, by rw [List.append_assoc], by rw [length]⟩, ⟨back, rfl⟩, length⟩

/-- A text can be cut at markers that are in range and in order. -/
theorem exists_cutAt (before : List Char) (isFront : before <+: cs)
    (inRange : ∀ marker ∈ markers, marker.InRange cs)
    (behind : ∀ marker ∈ markers, byteLength before ≤ marker.offset)
    (ordered : markers.Pairwise fun first second => first.offset ≤ second.offset) :
    ∃ pieces, CutAt cs (byteLength before) markers pieces := by
  induction markers generalizing before with
  | nil =>
      obtain ⟨rest, rfl⟩ := isFront
      exact ⟨_, .last ⟨before, [], by simp, rfl⟩⟩
  | cons marker rest ih =>
      obtain ⟨here, later⟩ := List.forall_mem_cons.1 inRange
      obtain ⟨above, ordered⟩ := List.pairwise_cons.1 ordered
      obtain ⟨piece, under, next, length⟩ :=
        exists_under here isFront (behind marker List.mem_cons_self)
      obtain ⟨pieces, cut⟩ := ih _ next later (fun other mem => length ▸ above other mem) ordered
      exact ⟨_, .marker under (length ▸ cut)⟩

/-! ## The cut from left to right -/

/-- The piece with the sub-procedure of its marker. -/
inductive BlockPiece.Serves (subs : List α) : BlockPiece Marker → BlockPiece α → Prop
  | text (cs : List Char) : Serves subs (.text cs) (.text cs)
  | sub {marker : Marker} {handle : α} (found : subs[marker.slot]? = some handle) :
      Serves subs (.sub marker) (.sub handle)

theorem cut_append (before rest : List Char) :
    cut (byteLength before) (before ++ rest) = (before, rest) := by
  induction before with
  | nil =>
      cases rest with
      | nil => rfl
      | cons c rest =>
          have wide : ¬ c.utf8Size ≤ byteLength [] := Nat.not_le.2 c.utf8Size_pos
          rw [List.nil_append, cut, if_neg wide]
  | cons c before ih => simp [cut, ih]

section Serves

variable {others : List (BlockPiece α)}

/-- A text is left out on both sides or on neither. -/
theorem serves_text (cs : List Char)
    (behind : List.Forall₂ (BlockPiece.Serves subs) (pieces.filter BlockPiece.isStep)
      (others.filter BlockPiece.isStep)) :
    List.Forall₂ (BlockPiece.Serves subs) ((.text cs :: pieces).filter BlockPiece.isStep)
      ((.text cs :: others).filter BlockPiece.isStep) := by
  rw [List.filter_cons, List.filter_cons]
  cases blank : Text.allBlank cs with
  | true => simpa [BlockPiece.isStep, blank] using behind
  | false => simpa [BlockPiece.isStep, blank] using ⟨BlockPiece.Serves.text cs, behind⟩

theorem serves_sub {marker : Marker} {handle : α} (found : subs[marker.slot]? = some handle)
    (behind : List.Forall₂ (BlockPiece.Serves subs) (pieces.filter BlockPiece.isStep)
      (others.filter BlockPiece.isStep)) :
    List.Forall₂ (BlockPiece.Serves subs) ((.sub marker :: pieces).filter BlockPiece.isStep)
      ((.sub handle :: others).filter BlockPiece.isStep) :=
  .cons (.sub found) behind

end Serves

/-- **The cut from left to right gives the pieces of a text,** those apart that are blank. -/
theorem filter_cutPieces (before rest : List Char) (whole : before ++ rest = cs)
    (supplied : ∀ marker ∈ markers, marker.slot < subs.length)
    (cutAt : CutAt cs (byteLength before) markers pieces) :
    List.Forall₂ (BlockPiece.Serves subs) (pieces.filter BlockPiece.isStep)
      ((cutPieces (byteLength before) rest (served subs markers)).filter BlockPiece.isStep) := by
  generalize begins : byteLength before = left at cutAt ⊢
  induction cutAt generalizing before rest with
  | @last left piece under =>
      have here : Under cs ⟨left, byteLength cs⟩ rest :=
        ⟨before, [], by rw [List.append_nil, whole], by rw [begins, whole]⟩
      obtain rfl := under.unique here
      cases piece with
      | nil => exact .nil
      | cons c piece => exact serves_text _ .nil
  | @marker left marker piece markers pieces under behind ih =>
      obtain ⟨here, later⟩ := List.forall_mem_cons.1 supplied
      obtain ⟨front, back, text, place⟩ := under
      obtain ⟨starts, stops⟩ := Span.mk.inj place
      obtain rfl : before = front :=
        Text.prefix_ext cs ⟨_, whole⟩ ⟨_, text.symm⟩ (begins.trans starts)
      obtain rfl : rest = piece ++ back := List.append_cancel_left (whole.trans text)
      have next := ih (before ++ piece) back (by simpa using whole) later stops.symm
      have found : subs[marker.slot]? = some subs[marker.slot] := List.getElem?_eq_getElem here
      have first : served subs (marker :: markers) =
          (marker.offset, subs[marker.slot]) :: served subs markers := by simp [served, found]
      have length : marker.offset - left = byteLength piece := by
        rw [stops, starts, Text.byteLength_append]
        omega
      rw [first, cutPieces, length, cut_append]
      split
      · exact serves_text _ (serves_sub found next)
      · -- the marker stands where the text in front of it begins
        have none : byteLength piece = 0 := by omega
        obtain rfl := Text.byteLength_eq_zero_iff.1 none
        have same : left = marker.offset := by rw [stops, List.append_nil, starts]
        rw [same]
        exact serves_sub found next

/-! ## The frame -/

/-- A block with another text and without markers. -/
def Part.plain (block : Part) (cs : List Char) : Part :=
  { block with text := String.ofList cs, markers := [] }

/-- The step that a piece of a step block becomes, among parts in front of the block and behind it.
A marker drives its sub-procedure. A text is compared as in the only step of the label when the
block has this text alone. -/
inductive BlockPiece.Becomes (origin : Origin) (subs : List α) (front : List Part) (block : Part)
    (back : List Part) (label : Label) : BlockPiece Marker → Step α → Prop
  | sub {marker : Marker} {handle : α} (found : subs[marker.slot]? = some handle) :
      Becomes origin subs front block back label (.sub marker) (.sub handle)
  | text {cs : List Char} {markup : String} {expects : List (Label × Entry α)} {entry : Entry α}
      (compiled :
        entries origin (.ofParts (front ++ block.plain cs :: back)) subs = .ok expects)
      (listed : expects.lookup label = some entry) (only : entry.steps = [.html markup]) :
      Becomes origin subs front block back label (.text cs) (.html markup)

section Frame

variable {available : Nat}

/-- A label has no other step block in front of an admitted one or behind it. -/
theorem Admitted.no_other_block (admitted : Admitted available (front ++ block :: back))
    (isBlock : block.isStepBlock label = true) :
    (∀ other ∈ front, ¬ other.isStepBlock label = true) ∧
      ∀ other ∈ back, ¬ other.isStepBlock label = true := by
  have one := admitted.blocks label
  rw [List.countP_append, List.countP_cons_of_pos isBlock] at one
  constructor
  · exact List.countP_eq_zero.1 (by omega)
  · exact List.countP_eq_zero.1 (by omega)

theorem Part.isStepBlock_plain (block : Part) (cs : List Char) (label : Label) :
    (block.plain cs).isStepBlock label = false := by
  simp [isStepBlock, plain]

theorem Part.isHookPart_plain (block : Part) (cs : List Char) (label : Label) :
    (block.plain cs).isHookPart label = false := by
  simp [isHookPart, plain]

/-- Without its markers a block keeps the rules. -/
theorem Admitted.plain (admitted : Admitted available (front ++ block :: back)) (cs : List Char) :
    Admitted available (front ++ block.plain cs :: back) where
  inside := by
    obtain ⟨before, behind⟩ := List.forall_mem_append.1 admitted.inside
    exact List.forall_mem_append.2
      ⟨before, List.forall_mem_cons.2 ⟨fun _ => rfl, (List.forall_mem_cons.1 behind).2⟩⟩
  supplied := by
    obtain ⟨before, behind⟩ := List.forall_mem_append.1 admitted.supplied
    exact List.forall_mem_append.2
      ⟨before, List.forall_mem_cons.2
        ⟨fun _ => List.forall_mem_nil _, (List.forall_mem_cons.1 behind).2⟩⟩
  blocks label := by
    have one := admitted.blocks label
    rw [List.countP_append, List.countP_cons] at one
    rw [List.countP_append, List.countP_cons_of_neg (by simp [Part.isStepBlock_plain])]
    omega
  hooks label := by
    have two := admitted.hooks label
    rw [← List.singleton_append, hookMarkers_append, hookMarkers_append, List.length_append,
      List.length_append] at two
    rw [← List.singleton_append, hookMarkers_append, hookMarkers_append, List.length_append,
      List.length_append]
    have none : hookMarkers label [block.plain cs] = [] := by
      simp [hookMarkers, Part.isHookPart_plain]
    rw [none, List.length_nil]
    omega

/-- A step block is framed by the texts of its label in front of it and behind it. -/
theorem entrySteps_block (isBlock : block.isStepBlock label = true)
    (first : ∀ other ∈ front, ¬ other.isStepBlock label = true) :
    (Draft.gathered subs (front ++ block :: back) label).entrySteps =
      (stepPieces block.text (served subs block.markers)).map
        (Draft.framed (String.join (textsOf label front)) (String.join (textsOf label back))) := by
  obtain ⟨own, marked, -⟩ := Part.isStepBlock_iff.1 isBlock
  have lines : textsOf label (front ++ block :: back) =
      textsOf label front ++ textsOf label back := by
    rw [← List.singleton_append, textsOf_append, textsOf_append]
    simp [textsOf, Part.addsText, own, marked]
  simp [Draft.entrySteps, Draft.gathered, firstBlock_append first isBlock, lines]

/-- A block without markers has one step, with its text in the same frame. -/
theorem entrySteps_plain (cs : List Char) (own : block.condition = some label)
    (before : ∀ other ∈ front, ¬ other.isStepBlock label = true)
    (behind : ∀ other ∈ back, ¬ other.isStepBlock label = true) :
    (Draft.gathered subs (front ++ block.plain cs :: back) label).entrySteps =
      [Draft.framed (String.join (textsOf label front)) (String.join (textsOf label back))
        (.text cs)] := by
  have lines : textsOf label (front ++ block.plain cs :: back) =
      textsOf label front ++ String.ofList cs :: textsOf label back := by
    rw [← List.singleton_append, textsOf_append, textsOf_append]
    simp [textsOf, Part.addsText, Part.plain, own]
  have none : firstBlock subs label (front ++ block.plain cs :: back) = none := by
    rw [firstBlock_eq_none_iff, List.forall_mem_append, List.forall_mem_cons]
    exact ⟨before, by simp [Part.isStepBlock_plain], behind⟩
  simp [Draft.entrySteps, Draft.gathered, none, lines, Draft.framed, String.append_assoc]

end Frame

/-- **Each piece of a step block is framed like plain text.** The steps of the label are the pieces
of its step block, without the blank ones. -/
theorem step_block_framed {expects : List (Label × Entry α)}
    (isBlock : block.isStepBlock label = true)
    (inRange : ∀ marker ∈ block.markers, marker.InRange block.text.toList)
    (ordered : block.markers.Pairwise fun first second => first.offset ≤ second.offset)
    (compiled : entries origin (.ofParts (front ++ block :: back)) subs = .ok expects) :
    ∃ entry pieces, expects.lookup label = some entry ∧
      (∀ others, CutAt block.text.toList 0 block.markers others ↔ others = pieces) ∧
      List.Forall₂ (BlockPiece.Becomes origin subs front block back label)
        (pieces.filter BlockPiece.isStep) entry.steps := by
  have own := (Part.isStepBlock_iff.1 isBlock).1
  obtain ⟨admitted, rfl⟩ := admitted_of_entries compiled
  obtain ⟨before, behind⟩ := admitted.no_other_block isBlock
  have listed (part : Part) (same : part.condition = some label) :
      label ∈ labelsIn (front ++ part :: back) := mem_labelsIn.2 ⟨part, by simp, same⟩
  have supplied := admitted.supplied block (by simp) (by simp [Part.isConditional, own])
  obtain ⟨pieces, cut⟩ := exists_cutAt [] List.nil_prefix inRange (fun _ _ => Nat.zero_le _) ordered
  refine ⟨_, pieces, lookup_gatheredEntries (listed block own),
    fun others => ⟨fun other => other.unique cut, fun same => same ▸ cut⟩, ?_⟩
  show List.Forall₂ _ _ (Draft.gathered subs (front ++ block :: back) label).entrySteps
  rw [entrySteps_block isBlock before, List.forall₂_map_right_iff]
  refine (filter_cutPieces [] _ rfl supplied cut).imp fun piece made serves => ?_
  cases serves with
  | sub found => exact .sub found
  | text cs =>
      exact .text (entries_of_admitted origin (admitted.plain cs))
        (lookup_gatheredEntries (listed _ own)) (entrySteps_plain cs own before behind)

/-! ## A block between other lines of its label -/

/-- The parts in front of `framedBlock`: the frame, and a line of the same label. -/
def framedFront : List Part := [
  { condition := none, text := "<main>\n", block := none, markers := [], description := none,
    span := .zero },
  { condition := some ⟨"0"⟩, text := "<i></i>\n", block := some false, markers := [],
    description := none, span := .zero }]

/-- A step block with a marker at its beginning and two at one place. -/
def framedBlock : Part where
  condition := some ⟨"0"⟩
  text := "<p>é</p>\n \n"
  block := some true
  markers := [⟨1, 0⟩, ⟨0, 10⟩, ⟨1, 10⟩]
  description := none
  span := .zero

/-- The parts behind `framedBlock`: a line of another label and the frame. -/
def framedBack : List Part := [
  { condition := some ⟨"1"⟩, text := "<b></b>\n", block := some false, markers := [],
    description := none, span := .zero },
  { condition := none, text := "</main>\n", block := none, markers := [], description := none,
    span := .zero }]

theorem step_block_framed_between :
    ∃ expects entry pieces,
      entries ⟨.compile, none⟩ (.ofParts (framedFront ++ framedBlock :: framedBack))
        ["first", "second"] = .ok expects ∧
      expects.lookup ⟨"0"⟩ = some entry ∧
      CutAt framedBlock.text.toList 0 framedBlock.markers pieces ∧
      List.Forall₂
        (BlockPiece.Becomes ⟨.compile, none⟩ ["first", "second"] framedFront framedBlock framedBack
          ⟨"0"⟩)
        (pieces.filter BlockPiece.isStep) entry.steps ∧
      entry.steps = [.sub "second", .html "<main><i></i><p>é</p></main>", .sub "first",
        .sub "second"] := by
  have inRange : ∀ marker ∈ framedBlock.markers, marker.InRange framedBlock.text.toList := by
    have middle : Marker.InRange framedBlock.text.toList ⟨0, 10⟩ :=
      ⟨"<p>é</p>\n".toList, ⟨" \n".toList, rfl⟩, rfl⟩
    simp only [framedBlock, List.forall_mem_cons]
    exact ⟨⟨[], List.nil_prefix, rfl⟩, middle, middle, List.forall_mem_nil _⟩
  have isBlock : framedBlock.isStepBlock ⟨"0"⟩ = true := rfl
  have compiled : entries ⟨.compile, none⟩ (.ofParts (framedFront ++ framedBlock :: framedBack))
      ["first", "second"] = .ok (gatheredEntries ["first", "second"]
        (framedFront ++ framedBlock :: framedBack)) := rfl
  obtain ⟨entry, pieces, listed, cut, becomes⟩ :=
    step_block_framed isBlock inRange (by decide) compiled
  refine ⟨_, entry, pieces, compiled, listed, (cut pieces).2 rfl, becomes, ?_⟩
  obtain rfl := Option.some.inj listed
  rfl

end HotReload.Spec
