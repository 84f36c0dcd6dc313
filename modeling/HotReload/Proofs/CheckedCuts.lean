import HotReload.Proofs.MarkerPlaces

/-!
# Cutting with slices

A step block is cut into slices of its text, from one byte to another. A slice is there only if the
two bytes are in order and both are at an end of the text or between two of its characters
(`Text.slice?_eq_some_iff`). Parts of any other make can ask for slices that are not there.

`Document.compileSliced` is `Document.compile` with every piece of a step block taken by a slice,
and with a failure `panic` for a slice that is not there. On documents that have been read the two
agree, whatever is supplied and whatever failure is chosen, so no slice is ever missing
(`cuts_are_safe`).
-/

set_option autoImplicit false

namespace HotReload

/-! ## Slices -/

namespace Text

variable {cs front back piece : List Char} {bytes left right : Nat}

/-- Splits a text at a byte; none if the byte is behind its end or inside a character. -/
def splitAtByte? : (bytes : Nat) → List Char → Option (List Char × List Char)
  | 0, cs => some ([], cs)
  | _ + 1, [] => none
  | bytes + 1, c :: cs =>
    if c.utf8Size ≤ bytes + 1 then
      (splitAtByte? (bytes + 1 - c.utf8Size) cs).map fun parts => (c :: parts.1, parts.2)
    else none

/-- The characters from one byte to another, if these are in order and each is at an end of the text
or between two characters. -/
def slice? (cs : List Char) (left right : Nat) : Option (List Char) :=
  if left ≤ right then do
    let (_, behind) ← splitAtByte? left cs
    let (piece, _) ← splitAtByte? (right - left) behind
    some piece
  else none

theorem splitAtByte?_append (front back : List Char) :
    splitAtByte? (byteLength front) (front ++ back) = some (front, back) := by
  induction front with
  | nil => simp [splitAtByte?]
  | cons c front ih =>
      obtain ⟨width, size⟩ := Nat.exists_eq_succ_of_ne_zero
        (Nat.ne_of_gt c.utf8Size_pos)
      have whole : byteLength (c :: front) = width + byteLength front + 1 := by
        rw [byteLength_cons, size]
        omega
      have rest : width + byteLength front + 1 - c.utf8Size = byteLength front := by omega
      rw [whole, List.cons_append, splitAtByte?, if_pos (by omega), rest, ih]
      rfl

theorem splitAtByte?_eq_some_iff :
    splitAtByte? bytes cs = some (front, back) ↔ front ++ back = cs ∧ byteLength front = bytes := by
  constructor
  · intro found
    fun_induction splitAtByte? bytes cs generalizing front with
    | case1 cs => simp_all
    | case2 => exact nomatch found
    | case3 bytes c cs fits ih =>
        obtain ⟨⟨before, behind⟩, split, same⟩ := Option.map_eq_some_iff.1 found
        obtain ⟨rfl, rfl⟩ := Prod.mk.inj same
        obtain ⟨rfl, length⟩ := ih split
        refine ⟨rfl, ?_⟩
        rw [byteLength_cons, length]
        omega
    | case4 => exact nomatch found
  · rintro ⟨rfl, rfl⟩
    exact splitAtByte?_append front back

/-- **A slice is the piece that stands under its bytes.** -/
theorem slice?_eq_some_iff : slice? cs left right = some piece ↔ Under cs ⟨left, right⟩ piece := by
  unfold slice?
  constructor
  · intro found
    split at found
    · rename_i ordered
      obtain ⟨⟨front, behind⟩, begins, found⟩ := Option.bind_eq_some_iff.1 found
      obtain ⟨⟨piece', back⟩, ends, found⟩ := Option.bind_eq_some_iff.1 found
      obtain rfl := Option.some.inj found
      obtain ⟨rfl, starts⟩ := splitAtByte?_eq_some_iff.1 begins
      obtain ⟨rfl, length⟩ := splitAtByte?_eq_some_iff.1 ends
      refine ⟨front, back, rfl, ?_⟩
      rw [byteLength_append, starts, length, Nat.add_sub_cancel' ordered]
    · exact nomatch found
  · rintro ⟨front, back, rfl, place⟩
    obtain ⟨rfl, rfl⟩ := Span.mk.inj place
    have length : byteLength (front ++ piece) - byteLength front = byteLength piece := by simp
    rw [if_pos (by simp), splitAtByte?_append, Option.bind_eq_bind, Option.bind_some]
    dsimp only
    rw [length, splitAtByte?_append]
    rfl

end Text

namespace Spec

open Text (Under byteLength)

variable {α : Type} {origin : Origin} {subs : List α} {panic : Failure} {part : Part}
  {markers : List (Nat × α)}

/-! ## Cutting a block with slices -/

/-- Cuts a text at its markers with slices, from byte `left` on; none if a slice is not there. -/
def slicedPieces (text : List Char) : (left : Nat) → List (Nat × α) → Option (List (BlockPiece α))
  | left, [] =>
    if left < byteLength text then
      (Text.slice? text left (byteLength text)).map fun piece => [.text piece]
    else some []
  | left, (offset, handle) :: rest =>
    if left < offset then do
      let piece ← Text.slice? text left offset
      let more ← slicedPieces text offset rest
      some (.text piece :: .sub handle :: more)
    else (slicedPieces text left rest).map (.sub handle :: ·)

/-- **Where a text can be cut at its markers, all slices are there.** They are the pieces that the
cut from left to right gives. -/
theorem slicedPieces_of_cuttable {cs : List Char} (before rest : List Char)
    (whole : before ++ rest = cs) (cuttable : Text.Cuttable cs (markers.map Prod.fst))
    (behind : ∀ marker ∈ markers, byteLength before ≤ marker.1) :
    slicedPieces cs (byteLength before) markers =
      some (cutPieces (byteLength before) rest markers) := by
  induction markers generalizing before rest with
  | nil =>
      cases rest with
      | nil => simp [slicedPieces, cutPieces, ← whole]
      | cons c rest =>
          have longer : byteLength before < byteLength cs := by
            have width := c.utf8Size_pos
            rw [← whole, Text.byteLength_append, Text.byteLength_cons]
            omega
          have under : Under cs ⟨byteLength before, byteLength cs⟩ (c :: rest) :=
            ⟨before, [], by simp [whole], by rw [whole]⟩
          rw [slicedPieces, if_pos longer, Text.slice?_eq_some_iff.2 under]
          rfl
  | cons marker markers ih =>
      obtain ⟨offset, handle⟩ := marker
      obtain ⟨above, ordered⟩ := List.pairwise_cons.1 cuttable.ordered
      obtain ⟨⟨front, isFront, length⟩, later⟩ := List.forall_mem_cons.1 cuttable.boundary
      replace length : byteLength front = offset := length
      have here : byteLength before ≤ byteLength front :=
        length ▸ behind (offset, handle) List.mem_cons_self
      obtain ⟨piece, rfl⟩ := Text.prefix_of_byteLength_le ⟨_, whole⟩ isFront here
      obtain ⟨back, split⟩ := isFront
      obtain rfl : rest = piece ++ back :=
        List.append_cancel_left (whole.trans (by rw [← split, List.append_assoc]))
      have next := ih (before ++ piece) back split ⟨ordered, later⟩ fun other mem =>
        length ▸ above other.1 (List.mem_map_of_mem mem)
      rw [slicedPieces, cutPieces]
      split
      · have under : Under cs ⟨byteLength before, offset⟩ piece :=
          ⟨before, back, whole.symm, by rw [length]⟩
        have width : offset - byteLength before = byteLength piece := by
          rw [← length, Text.byteLength_append]
          omega
        rw [Text.slice?_eq_some_iff.2 under, width, cut_append, ← length, next]
        rfl
      · -- the marker stands where the text in front of it begins
        rename_i same
        have none : byteLength piece = 0 := by
          rw [← length, Text.byteLength_append] at same
          omega
        obtain rfl := Text.byteLength_eq_zero_iff.1 none
        rw [List.append_nil] at next
        rw [next]
        rfl

/-- Markers that are all served keep their offsets. -/
theorem map_fst_served {markers : List Marker}
    (supplied : ∀ marker ∈ markers, marker.slot < subs.length) :
    (served subs markers).map Prod.fst = markers.map Marker.offset := by
  induction markers with
  | nil => rfl
  | cons marker rest ih =>
      obtain ⟨here, later⟩ := List.forall_mem_cons.1 supplied
      have found := List.getElem?_eq_getElem here
      simpa [served, found] using ih later

/-! ## Compiling with slices -/

/-- Adds a part of the draft's label. A step block is cut with slices. -/
def Draft.addPartSliced (panic : Failure) (origin : Origin) (subs : List α) (part : Part)
    (draft : Draft α) : Except Failure (Draft α) := do
  let draft := { draft with description := draft.description.or part.description }
  let markers ← resolve origin subs part
  if markers.isEmpty then pure (draft.addLine part.text)
  else if part.block = some true then
    match draft.steps with
    | some _ => .error (origin.report (.secondStepBlock draft.label.name) part.span)
    | none =>
      match slicedPieces part.text.toList 0 markers with
      | some pieces =>
        pure { draft with steps := some (draft.lines.length, pieces.filter BlockPiece.isStep) }
      | none => .error panic
  else (markers.map Prod.snd).foldlM (addHook origin part.span) draft

/-- Goes through one part. A step block is cut with slices. -/
def addPartSliced (panic : Failure) (origin : Origin) (subs : List α) (drafts : List (Draft α))
    (part : Part) : Except Failure (List (Draft α)) :=
  match part.condition with
  | some label => changeDraft label (Draft.addPartSliced panic origin subs part) drafts
  | none => addPart origin subs drafts part

/-- The entries of the expectations, whose step blocks are cut with slices. -/
def entriesSliced (panic : Failure) (origin : Origin) (expectations : ConditionalText)
    (subs : List α) : Except Failure (List (Label × Entry α)) := do
  let drafts ← expectations.parts.foldlM (addPartSliced panic origin subs)
    (expectations.conditions.map fun label => { label })
  pure (drafts.map fun draft => (draft.label, draft.entry))

/-- Works out the files and the expectations of a document, whose step blocks are cut with slices.
A slice that is not there ends it with `panic`. -/
def Document.compileSliced (panic : Failure) (document : Document) (origin : Origin)
    (subs : List α) : Except Failure (Compiled α) := do
  let expects ← match document.expectations with
    | none => .ok []
    | some expectations => entriesSliced panic origin expectations subs
  pure { title := document.title, files := Table.ofList document.contents, expects }

/-- A part that can be cut at its markers is added alike. -/
theorem Draft.addPartSliced_eq (safe : part.SafeToCut) (draft : Draft α) :
    draft.addPartSliced panic origin subs part = draft.addPart origin subs part := by
  have served := resolve_served origin subs part
  unfold Draft.addPartSliced Draft.addPart
  cases resolved : resolve origin subs part with
  | error failure => rfl
  | ok markers =>
      rw [resolved] at served
      obtain ⟨supplied, rfl⟩ := served
      have cuttable := map_fst_served supplied ▸ safe.cuttable
      have pieces : slicedPieces part.text.toList 0 (Spec.served subs part.markers) =
          some (cutPieces 0 part.text.toList (Spec.served subs part.markers)) :=
        slicedPieces_of_cuttable [] _ rfl cuttable fun _ _ => Nat.zero_le _
      simp only [bind, Except.bind, pieces]
      rfl

theorem addPartSliced_eq (safe : part.SafeToCut) (drafts : List (Draft α)) :
    addPartSliced panic origin subs drafts part = addPart origin subs drafts part := by
  have same : Draft.addPartSliced panic origin subs part = Draft.addPart origin subs part :=
    funext (Draft.addPartSliced_eq safe)
  unfold addPartSliced
  cases condition : part.condition with
  | none => rfl
  | some label => rw [same, addPart, condition]

/-- **Parts that can be cut at their markers are gone through alike.** -/
theorem foldlM_addPartSliced {parts : List Part} (safe : ∀ part ∈ parts, part.SafeToCut)
    (drafts : List (Draft α)) :
    parts.foldlM (addPartSliced panic origin subs) drafts =
      parts.foldlM (addPart origin subs) drafts := by
  induction parts generalizing drafts with
  | nil => rfl
  | cons part rest ih =>
      obtain ⟨here, later⟩ := List.forall_mem_cons.1 safe
      rw [List.foldlM_cons, List.foldlM_cons, addPartSliced_eq here]
      exact bind_congr (ih later)

/-- A document whose texts are safe to cut is compiled without a slice that is not there. -/
theorem Document.compileSliced_eq {document : Document}
    (safe : ∀ content ∈ document.texts, content.SafeToCut) (panic : Failure) (origin : Origin)
    (subs : List α) :
    document.compileSliced panic origin subs = document.compile origin subs := by
  unfold compileSliced compile expects
  cases shape : document.expectations with
  | none => rfl
  | some expectations =>
      have parts := (safe expectations (by simp [texts, shape])).parts
      simp only [entriesSliced, entries, foldlM_addPartSliced parts]

/-- **What has been read is safe to cut.** Let a text be read. In each part of the document the
markers do not go backwards, none is behind the end of the part's text, and each is at an end of the
text or between two characters. Parts that belong to every update have no markers, are no blocks,
have a text that ends with a line feed, and are no neighbours. So whatever sub-procedures are
supplied, compiling the document asks for no slice that is not there: it is the same if each of them
is checked, with any failure for those that are not there. -/
theorem cuts_are_safe {source text : String} {document : Document}
    (isRead : Document.read source text = .ok document) :
    (∀ content ∈ document.texts, content.SafeToCut) ∧
      ∀ (panic : Failure) (origin : Origin) (subs : List α),
        document.compileSliced panic origin subs = document.compile origin subs :=
  ⟨safeToCut_of_read isRead, Document.compileSliced_eq (safeToCut_of_read isRead)⟩

/-- A text with characters of several bytes, and with blank lines at the ends of its sections. -/
def accentedSource : String :=
  "---- f ----\n\n  é\n::0 ü\n\n****\n<p>\n::0::\n  é$\x7b1\x7dü\n$\x7b0\x7d$\x7b1\x7d\n::\n" ++
    "</p>\n \n"

/-- The first marker of the block stands between two characters of two bytes each. -/
def accentedDocument : Document where
  files := [{
    path := "f"
    content := {
      parts := [
        .unconditional "  é\n" ⟨12, 17⟩,
        { condition := some ⟨"0"⟩, text := "ü\n", block := some false, markers := []
          description := none, span := ⟨18, 24⟩ }]
      conditions := [⟨"0"⟩] }
    span := ⟨0, 11⟩ }]
  expectations := some {
    parts := [
      .unconditional "<p>\n" ⟨31, 34⟩,
      { condition := some ⟨"0"⟩, text := "  éü\n\n", block := some true
        markers := [⟨1, 4⟩, ⟨0, 7⟩, ⟨1, 7⟩], description := none, span := ⟨35, 60⟩ },
      .unconditional "</p>\n" ⟨64, 71⟩]
    conditions := [⟨"0"⟩] }

theorem cuts_are_safe_accented :
    Document.read "input" accentedSource = .ok accentedDocument ∧
      (∀ content ∈ accentedDocument.texts, content.SafeToCut) ∧
      ∀ panic : Failure,
        accentedDocument.compileSliced panic ⟨.compile, none⟩ ["first", "second"] =
          accentedDocument.compile ⟨.compile, none⟩ ["first", "second"] := by
  have isRead : Document.read "input" accentedSource = .ok accentedDocument := by rfl
  obtain ⟨safe, same⟩ := cuts_are_safe isRead
  exact ⟨isRead, safe, fun panic => same panic _ _⟩

/-- A document that no text is read as: the marker stands inside a character. -/
def splitCharacter : Document where
  expectations := some {
    parts := [{ condition := some ⟨"0"⟩, text := "é\n", block := some true, markers := [⟨0, 1⟩]
                description := none, span := .zero }]
    conditions := [⟨"0"⟩] }

example (panic : Failure) :
    splitCharacter.compileSliced panic ⟨.compile, none⟩ ["first"] = .error panic := rfl

end Spec

end HotReload
