import HotReload.Proofs.Acceptance
import HotReload.Proofs.Places
import HotReload.Spec.Compiled

/-!
# Where failures of a spec point

A failure of a spec has a span, and its cause names something of the text: a line that is no
delimiter, a slot that is too large, or the slot of a marker that is refused. What is named stands
in the text under the span (`Cause.StandsUnder`), both for failures of reading and for those of
compiling, with one exception: a line of a block, and a title line that is text, is taken out of
the text and read again, and a slot that is too large there has its span counted from the
beginning of its line (`failures_located`, `misplaced`).

What a reader has taken up stands in the text under the spans it has noted
(`Reader.Sourced`). Each step of the reader either keeps this or fails at a place that is
known; `Ends` says both at once, and it composes as the steps do. The parts of the document
that has been read stand in the text for the same reason, and the compilation only reports
their spans (`compile_ends`).
-/

set_option autoImplicit false

namespace HotReload

open Text (Line Under Within)

/-! ## What a failure names -/

/-- What a cause names stands in a text under a span: the quoted line, the marker whose slot is
too large, or a marker with the refused slot. The other causes name nothing of the text. -/
def Cause.StandsUnder (cs : List Char) (span : Span) : Cause → Prop
  | .malformedDelimiter quoted =>
    ∃ piece, Under cs span piece ∧ String.ofList (Text.trim piece) = quoted
  | .unexpectedToken expected found =>
    expected = "a sub-procedure slot" → Under cs span (Spec.Token.marker found.toList).chars
  | .markerOutsideCondition slot | .markerInFile _ slot | .unknownSub slot _ =>
    ∃ piece digits, Under cs span piece ∧ Spec.HasMarker digits piece ∧
      Text.digitsValue digits = slot
  | _ => True

/-- Whether a slot is too large. -/
def Cause.isSlotTooLarge : Cause → Bool
  | .unexpectedToken expected _ => expected == "a sub-procedure slot"
  | _ => false

namespace Spec

/-- A failure lies within a text, and what it names stands there, `shift` bytes further back
than its span says. -/
structure Located (cs : List Char) (shift : Nat) (failure : Failure) : Prop where
  within : Within cs failure.span
  stands : failure.cause.StandsUnder cs (failure.span.moved shift)

/-- How a result ends. -/
def Ends {β : Type} (good : β → Prop) (bad : Failure → Prop) : Except Failure β → Prop
  | .ok value => good value
  | .error failure => bad failure

section Ends

variable {β γ σ : Type} {good : β → Prop} {done : γ → Prop} {bad worse : Failure → Prop}
  {first : Except Failure β} {next : β → Except Failure γ}

@[simp] theorem ends_ok {value : β} : Ends good bad (.ok value) ↔ good value := Iff.rfl

@[simp] theorem ends_error {failure : Failure} : Ends good bad (.error failure) ↔ bad failure :=
  Iff.rfl

theorem Ends.bind (ends : Ends good bad first)
    (goesOn : ∀ value, first = .ok value → good value → Ends done bad (next value)) :
    Ends done bad (first >>= next) := by
  cases first with
  | error failure => exact ends
  | ok value => exact goesOn value rfl ends

theorem Ends.mono (ends : Ends good bad first) (weaker : ∀ failure, bad failure → worse failure) :
    Ends good worse first := by
  cases first with
  | error failure => exact weaker failure ends
  | ok value => exact ends

theorem Ends.imp {better : β → Prop} (ends : Ends good bad first)
    (stronger : ∀ value, good value → better value)
    (weaker : ∀ failure, bad failure → worse failure) : Ends better worse first := by
  cases first with
  | error failure => exact weaker failure ends
  | ok value => exact stronger value ends

theorem Ends.mapM {f : β → Except Failure γ} {items : List β}
    (each : ∀ item ∈ items, Ends (fun _ => True) bad (f item)) :
    Ends (fun _ => True) bad (items.mapM f) := by
  induction items with
  | nil => trivial
  | cons item rest ih =>
      rw [List.mapM_cons]
      refine (each item List.mem_cons_self).bind fun value _ _ => ?_
      exact (ih fun other mem => each other (List.mem_cons_of_mem _ mem)).bind fun _ _ _ => trivial

theorem Ends.foldlM {step : σ → β → Except Failure σ} {items : List β}
    (each : ∀ state, ∀ item ∈ items, Ends (fun _ => True) bad (step state item)) (state : σ) :
    Ends (fun _ => True) bad (items.foldlM step state) := by
  induction items generalizing state with
  | nil => trivial
  | cons item rest ih =>
      rw [List.foldlM_cons]
      refine (each state item List.mem_cons_self).bind fun middle _ _ => ?_
      exact ih (fun state other mem => each state other (List.mem_cons_of_mem _ mem)) middle

/-- A run through a list fails at one of its elements. -/
theorem exists_of_foldlM_error {step : σ → β → Except Failure σ} {items : List β} {state : σ}
    {failure : Failure} (failed : items.foldlM step state = .error failure) :
    ∃ front item back middle, items = front ++ item :: back ∧
      front.foldlM step state = .ok middle ∧ step middle item = .error failure := by
  induction items generalizing state with
  | nil => exact nomatch failed
  | cons first rest ih =>
      rw [List.foldlM_cons] at failed
      cases stepped : step state first with
      | error other =>
          rw [stepped] at failed
          exact ⟨[], first, rest, state, rfl, rfl, stepped.trans failed⟩
      | ok middle =>
          rw [stepped] at failed
          obtain ⟨front, item, back, last, rfl, ran, fails⟩ := ih failed
          refine ⟨first :: front, item, back, last, rfl, ?_, fails⟩
          rw [List.foldlM_cons, stepped]
          exact ran

end Ends

variable {cs piece : List Char} {span : Span} {digits : List Char} {origin : Origin}

/-! ## Markers in a piece -/

theorem HasMarker.of_infix {other : List Char} (has : HasMarker digits piece)
    (inside : piece <:+: other) : HasMarker digits other :=
  ⟨has.1, has.2.1, has.2.2.trans inside⟩

theorem exists_hasMarker_of_slot {slot : Nat} (mem : .slot slot ∈ piecesIn cs) :
    ∃ digits, HasMarker digits cs ∧ Text.digitsValue digits = slot := by
  obtain ⟨token, found, same⟩ := List.mem_map.1 mem
  cases token with
  | char c => exact nomatch same
  | marker digits => exact ⟨digits, mem_scan_iff.1 found, Piece.slot.inj same⟩

theorem marker_of_mem_addLine {buffer : Buffer} {pieces : List Piece} {marker : Marker}
    (mem : marker ∈ (buffer.addLine pieces span).markers) :
    marker ∈ buffer.markers ∨ .slot marker.slot ∈ pieces := by
  replace mem : marker ∈ (pieces.foldl Buffer.add buffer).markers := mem
  induction pieces generalizing buffer with
  | nil => exact .inl mem
  | cons piece rest ih =>
      rcases ih mem with earlier | later
      · cases piece with
        | char c => exact .inl earlier
        | slot n =>
            rcases List.mem_append.1 earlier with there | here
            · exact .inl there
            · obtain rfl := List.mem_singleton.1 here
              exact .inr List.mem_cons_self
      · exact .inr (List.mem_cons_of_mem _ later)

/-! ## Slots that are too large -/

/-- A failure of a text that is counted from `start`: a slot of the text is too large. -/
def SlotFails (cs : List Char) (origin : Origin) (start : Nat) (failure : Failure) : Prop :=
  ∃ digits place, Under cs place (Token.marker digits).chars ∧
    failure = origin.report
      (.unexpectedToken "a sub-procedure slot" (String.ofList digits)) (place.moved start)

/-- A text can only be cut into pieces or have a slot that is too large. -/
theorem piecesOf_ends (start : Nat) :
    Ends (piecesIn cs = ·) (SlotFails cs origin start) (piecesOf origin start cs) := by
  suffices every : ∀ tokens front, front ++ tokens = Token.scan cs →
      Ends (tokens.map Token.piece = ·) (SlotFails cs origin start)
        (Token.pieces origin (start + Text.byteLength (front.flatMap Token.chars)) tokens) from
    every (Token.scan cs) [] rfl
  intro tokens
  induction tokens with
  | nil => exact fun _ _ => rfl
  | cons token rest ih =>
      intro front whole
      have goesOn := ih (front ++ [token]) (by simpa using whole)
      simp only [List.flatMap_append, Text.byteLength_append, List.flatMap_singleton,
        ← Nat.add_assoc] at goesOn
      cases token with
      | char c =>
          simp only [Token.chars, Text.byteLength_cons, Text.byteLength_nil, Nat.add_zero] at goesOn
          refine goesOn.bind fun pieces _ same => ?_
          exact congrArg _ same
      | marker digits =>
          by_cases fits : Text.digitsValue digits ≤ Text.maxWord
          · simp only [Token.pieces, fits, if_true]
            refine goesOn.bind fun pieces _ same => ?_
            exact congrArg _ same
          · simp only [Token.pieces, fits, if_false]
            refine ⟨digits, ⟨Text.byteLength (front.flatMap Token.chars), Text.byteLength
              (front.flatMap Token.chars ++ (Token.marker digits).chars)⟩,
              ⟨_, rest.flatMap Token.chars, ?_, rfl⟩, ?_⟩
            · rw [← flatMap_chars_scan cs, ← whole]
              simp
            · refine congrArg (origin.report _) ?_
              simp only [Span.moved, Token.byteLength, Text.byteLength_append, Span.mk.injEq]
              omega

/-- The place of a slot that is too large follows from the place of its line. -/
theorem located_of_slot {line : Line} (front : List Char) {words : List Char} {start shift : Nat}
    {failure : Failure} (under : Under cs ⟨line.start, line.stop⟩ line.chars)
    (whole : line.chars = front ++ words) (slot : SlotFails words origin start failure)
    (places : line.start + Text.byteLength front = start + shift) :
    Located cs shift failure := by
  obtain ⟨digits, place, marker, rfl⟩ := slot
  have inLine : Under line.chars
      ⟨Text.byteLength front, Text.byteLength (front ++ words)⟩ words :=
    ⟨front, [], by rw [List.append_nil, whole], rfl⟩
  have stands := under.within_piece (inLine.within_piece marker)
  have same : ((place.moved start).moved shift) =
      (place.moved (Text.byteLength front)).moved line.start := by
    simp only [Span.moved, Span.mk.injEq]
    omega
  rw [← same] at stands
  refine ⟨stands.within.of_moved, fun _ => ?_⟩
  simpa [Origin.report] using stands

/-! ## Lines that are read again -/

/-- Whether a line is taken out of the text and read again: the lines of blocks, and title lines
that are text. -/
def reread (before : List Line) (line : Line) : Bool :=
  match written? before line, Directive.ofLine line.chars with
  | some .body, _ => true
  | some .text, .title _ => true
  | _, _ => false

/-- Whether a failure of a line has its span counted from the beginning of this line. -/
def misplaced (before : List Line) (line : Line) (failure : Failure) : Bool :=
  reread before line && failure.cause.isSlotTooLarge

/-- How much further back a failure of a line should point. -/
def shift (before : List Line) (line : Line) (failure : Failure) : Nat :=
  if misplaced before line failure then line.start else 0

/-- A slot that is too large in a line that is read again. -/
theorem located_of_reread {before : List Line} {line : Line} {failure : Failure}
    (under : Under cs ⟨line.start, line.stop⟩ line.chars) (again : reread before line = true)
    (slot : SlotFails line.chars origin 0 failure) :
    Located cs (shift before line failure) failure := by
  have moved : shift before line failure = line.start := by
    obtain ⟨digits, place, -, rfl⟩ := slot
    simp [shift, misplaced, again, Origin.report, Cause.isSlotTooLarge]
  rw [moved]
  exact located_of_slot [] under rfl slot (by simp)

/-! ## What a reader has taken from the text -/

/-- Some markers stand in the piece of a text under a span. -/
def Sourced (cs : List Char) (span : Span) (markers : List Marker) : Prop :=
  ∃ piece, Under cs span piece ∧
    ∀ marker ∈ markers, ∃ digits, HasMarker digits piece ∧ Text.digitsValue digits = marker.slot

theorem Sourced.within {markers : List Marker} (sourced : Sourced cs span markers) :
    Within cs span :=
  sourced.choose_spec.1.within

theorem Sourced.of_under (under : Under cs span piece) : Sourced cs span [] :=
  ⟨piece, under, List.forall_mem_nil _⟩

/-- A buffer that takes a line gets its markers from the line. -/
theorem Sourced.addLine {buffer : Buffer} (sourced : Sourced cs buffer.span buffer.markers)
    (under : Under cs span piece) {words : List Char} (inside : words <:+: piece) :
    Sourced cs (buffer.addLine (piecesIn words) span).span
      (buffer.addLine (piecesIn words) span).markers := by
  obtain ⟨before, there, known⟩ := sourced
  obtain ⟨whole, joined, earlier, here⟩ := there.join under
  refine ⟨whole, joined, fun marker mem => ?_⟩
  rcases marker_of_mem_addLine mem with old | new
  · obtain ⟨digits, has, value⟩ := known marker old
    exact ⟨digits, has.of_infix earlier, value⟩
  · obtain ⟨digits, has, value⟩ := exists_hasMarker_of_slot new
    exact ⟨digits, has.of_infix (inside.trans here), value⟩

/-- The markers of some conditional text stand in the text it came from. -/
def ConditionalText.Sourced (cs : List Char) (content : ConditionalText) : Prop :=
  ∀ part ∈ content.parts, Spec.Sourced cs part.span part.markers

theorem ConditionalText.Sourced.push {content : ConditionalText} {part : Part}
    (sourced : content.Sourced cs) (new : Spec.Sourced cs part.span part.markers) :
    (content.push part).Sourced cs := by
  intro other mem
  rcases List.mem_append.1 mem with there | here
  · exact sourced other there
  · obtain rfl := List.mem_singleton.1 here
    exact new

theorem ConditionalText.Sourced.trimEdges {content : ConditionalText}
    (sourced : content.Sourced cs) : (trimEdges content).Sourced cs := by
  intro part mem
  obtain ⟨old, there, text, rfl⟩ := exists_of_mem_trimEdges mem
  exact sourced old there

namespace Reader

variable {reader after : Reader} {before : List Line} {line : Line}

/-- All markers that a reader has taken up stand in the text it reads. -/
structure Sourced (cs : List Char) (reader : Reader) : Prop where
  content : reader.content.Sourced cs
  expectations : ∀ content ∈ reader.expectations, content.Sourced cs
  run : ∀ run ∈ reader.run, Spec.Sourced cs run.span run.markers
  block : ∀ block ∈ reader.block, Spec.Sourced cs block.buffer.span block.buffer.markers

theorem Sourced.start : Sourced cs {} where
  content := List.forall_mem_nil _
  expectations _ mem := nomatch mem
  run _ mem := nomatch mem
  block _ mem := nomatch mem

theorem Sourced.flushRun (sourced : reader.Sourced cs) :
    Ends (Sourced cs) (Located cs 0) (reader.flushRun origin) := by
  unfold Reader.flushRun
  cases running : reader.run with
  | none => simpa using sourced
  | some run =>
      have stands := sourced.run run running
      cases markers : run.markers with
      | nil =>
          rw [markers] at stands
          simp only [markers, ends_ok]
          exact ⟨sourced.content.push stands, sourced.expectations, fun _ mem => (nomatch mem),
            sourced.block⟩
      | cons marker more =>
          obtain ⟨piece, under, known⟩ := stands
          obtain ⟨digits, has, value⟩ := known marker (markers ▸ List.mem_cons_self)
          cases reader.place <;> simp only [markers, ends_error] <;>
            exact ⟨under.within, piece, digits, under, has, value⟩

theorem Sourced.pushLabelled (sourced : reader.Sourced cs) {label : Label} {buffer : Buffer}
    (stands : Spec.Sourced cs buffer.span buffer.markers) {block : Bool}
    {description : Option String} :
    Ends (Sourced cs) (Located cs 0)
      (reader.pushLabelled origin label buffer block description) := by
  unfold Reader.pushLabelled
  dsimp only
  split
  · rename_i marker more _ markers
    obtain ⟨piece, under, known⟩ := stands
    obtain ⟨digits, has, value⟩ := known marker (markers ▸ List.mem_cons_self)
    exact ⟨under.within, piece, digits, under, has, value⟩
  · exact ⟨sourced.content.push stands, sourced.expectations, sourced.run, sourced.block⟩

theorem Sourced.finishSection (sourced : reader.Sourced cs) :
    Ends (Sourced cs) (Located cs 0) (reader.finishSection origin) := by
  unfold Reader.finishSection
  cases opened : reader.block with
  | some block =>
      refine ⟨(sourced.block block opened).within, fun same => ?_⟩
      simp at same
  | none =>
      refine sourced.flushRun.bind fun flushed _ kept => ?_
      dsimp only
      cases flushed.place with
      | preamble | file =>
          exact ⟨List.forall_mem_nil _, kept.expectations, kept.run, kept.block⟩
      | expectations =>
          refine ⟨List.forall_mem_nil _, fun content mem => ?_, kept.run, kept.block⟩
          obtain rfl := Option.some.inj mem
          exact kept.content.trimEdges

theorem Sourced.requireSection (under : Under cs ⟨line.start, line.stop⟩ line.chars) :
    Ends (fun _ => True) (Located cs 0) (reader.requireSection origin line) := by
  unfold Reader.requireSection
  cases reader.place with
  | preamble => exact ⟨under.within, fun same => absurd same (by decide)⟩
  | _ => trivial

theorem Sourced.addText (sourced : reader.Sourced cs) (under : Under cs span piece)
    {blank : Bool} :
    Ends (Sourced cs)
      (fun failure => Located cs 0 failure ∧ failure.cause.isSlotTooLarge = false)
      (reader.addText origin (piecesIn piece) blank span) := by
  unfold Reader.addText
  cases reader.place with
  | preamble =>
      cases blank with
      | true => exact sourced
      | false => exact ⟨⟨under.within, fun same => absurd same (by decide)⟩, rfl⟩
  | _ =>
      refine ⟨sourced.content, sourced.expectations, fun run mem => ?_, sourced.block⟩
      obtain rfl := Option.some.inj mem
      refine Spec.Sourced.addLine ?_ under (List.infix_refl _)
      cases running : reader.run with
      | none => exact .of_under under
      | some run => exact sourced.run run running

/-! ## One line -/

/-- A line outside blocks leaves what the reader has taken up in the text. A failure points to
what it names, unless a slot is too large in a line that is read again. -/
theorem Sourced.lineOutside (sourced : reader.Sourced cs) (isAt : reader.At before)
    (closed : reader.block = none) (under : Under cs ⟨line.start, line.stop⟩ line.chars) :
    Ends (Sourced cs) (fun failure => Located cs (shift before line failure) failure)
      (reader.lineOutside origin line) := by
  have spot := isAt.spot_outside closed
  have plain : reread before line = false →
      ∀ failure, Located cs 0 failure → Located cs (shift before line failure) failure := by
    intro once failure located
    simpa [shift, misplaced, once] using located
  unfold Reader.lineOutside
  dsimp only
  cases directive : Directive.ofLine line.chars with
  | fileOpen path =>
      have once : reread before line = false := by simp [reread, written?, spot, directive]
      refine (sourced.finishSection.mono (plain once)).bind fun finished _ kept => ?_
      exact ⟨kept.content, kept.expectations, kept.run, kept.block⟩
  | divider =>
      have once : reread before line = false := by simp [reread, written?, spot, directive]
      have malformed : Located cs 0 (Reader.malformed origin line) :=
        ⟨under.within, line.chars, under, rfl⟩
      cases reader.place with
      | expectations => exact plain once _ ⟨malformed.within, malformed.stands⟩
      | _ =>
          refine (sourced.finishSection.mono (plain once)).bind fun finished _ kept => ?_
          exact ⟨kept.content, kept.expectations, kept.run, kept.block⟩
  | blockOpen label description =>
      have once : reread before line = false := by simp [reread, written?, spot, directive]
      refine (sourced.flushRun.mono (plain once)).bind fun flushed _ kept => ?_
      refine ((Sourced.requireSection under).mono (plain once)).bind fun _ _ _ => ?_
      refine ⟨kept.content, kept.expectations, kept.run, fun block mem => ?_⟩
      obtain rfl := Option.some.inj mem
      exact .of_under under
  | blockClose =>
      have once : reread before line = false := by simp [reread, written?, spot, directive]
      exact plain once _ ⟨under.within, line.chars, under, rfl⟩
  | condition label words =>
      have once : reread before line = false := by simp [reread, written?, spot, directive]
      obtain ⟨front, whole⟩ := eq_append_of_condition directive
      refine (sourced.flushRun.mono (plain once)).bind fun flushed _ kept => ?_
      refine ((Sourced.requireSection under).mono (plain once)).bind fun _ _ _ => ?_
      refine ((piecesOf_ends _).mono fun failure slot => plain once failure ?_).bind
        fun pieces _ same => ?_
      · exact located_of_slot front under whole slot (by simp [Line.stop, whole]; omega)
      · subst same
        refine (kept.pushLabelled ?_).mono (plain once)
        split
        · exact .of_under under
        · exact Spec.Sourced.addLine (.of_under under) under ⟨front, [], by simp [whole]⟩
  | malformed =>
      have once : reread before line = false := by simp [reread, written?, spot, directive]
      exact plain once _ ⟨under.within, line.chars, under, rfl⟩
  | title words =>
      dsimp only
      split
      · exact ⟨sourced.content, sourced.expectations, sourced.run, sourced.block⟩
      · rename_i untitled
        have content : ¬BlankLines before := by
          intro blank
          have unseen := isAt.seen.2 blank
          obtain ⟨place, title⟩ := isAt.fresh unseen
          simp [unseen, place, title] at untitled
        have again : reread before line = true := by
          simp [reread, written?, spot, directive, content]
        refine ((piecesOf_ends _).mono fun _ slot => located_of_reread under again slot).bind
          fun pieces _ same => ?_
        subst same
        refine (sourced.addText under).mono fun failure both => ?_
        obtain ⟨located, other⟩ := both
        simpa [shift, misplaced, other] using located
  | text =>
      have once : reread before line = false := by simp [reread, written?, spot, directive]
      refine ((piecesOf_ends _).mono fun failure slot => plain once failure ?_).bind
        fun pieces _ same => ?_
      · exact located_of_slot [] under rfl slot (by simp)
      · subst same
        exact (sourced.addText under).mono fun failure both => plain once failure both.1

/-- A line inside a block leaves what the reader has taken up in the text. A failure points to
what it names, unless a slot of the line is too large. -/
theorem Sourced.lineInside (sourced : reader.Sourced cs) (isAt : reader.At before)
    {block : OpenBlock} (opened : reader.block = some block)
    (under : Under cs ⟨line.start, line.stop⟩ line.chars) :
    Ends (Sourced cs) (fun failure => Located cs (shift before line failure) failure)
      (reader.lineInside origin block line) := by
  have spot := isAt.spot_inside opened
  have stands := sourced.block block opened
  by_cases close : Directive.ofLine line.chars = .blockClose
  · have once : reread before line = false := by simp [reread, written?, spot, close]
    have unopened : Sourced cs { reader with block := none } :=
      ⟨sourced.content, sourced.expectations, sourced.run, by simp⟩
    simp only [Reader.lineInside, close]
    refine (unopened.pushLabelled stands).mono fun failure located => ?_
    simpa [shift, misplaced, once] using located
  · have again : reread before line = true := by simp [reread, written?, spot]
    rw [lineInside_body close]
    refine ((piecesOf_ends _).mono fun _ slot => located_of_reread under again slot).bind
      fun pieces _ same => ?_
    subst same
    refine ⟨sourced.content, sourced.expectations, sourced.run, fun other mem => ?_⟩
    obtain rfl := Option.some.inj mem
    exact stands.addLine under (List.infix_refl _)

/-- **A line leaves what a reader has taken up in the text.** -/
theorem Sourced.next (origin : Origin) (sourced : reader.Sourced cs) (isAt : reader.At before)
    (under : Under cs ⟨line.start, line.stop⟩ line.chars) :
    Ends (Sourced cs) (fun failure => Located cs (shift before line failure) failure)
      (reader.line origin line) := by
  unfold Reader.line
  cases opened : reader.block with
  | some block => exact sourced.lineInside isAt opened under
  | none =>
      refine (sourced.lineOutside isAt opened under).bind fun passed _ kept => ?_
      exact ⟨kept.content, kept.expectations, kept.run, kept.block⟩

/-- Lines leave what a reader has taken up in the text. -/
theorem Sourced.nexts {lines : List Line} (sourced : reader.Sourced cs) (isAt : reader.At before)
    (under : ∀ line ∈ lines, Under cs ⟨line.start, line.stop⟩ line.chars)
    (done : lines.foldlM (fun reader line => reader.line origin line) reader = .ok after) :
    after.Sourced cs := by
  induction lines generalizing reader before with
  | nil =>
      obtain rfl := Except.ok.inj done
      exact sourced
  | cons line lines ih =>
      rw [List.foldlM_cons] at done
      obtain ⟨middle, ran, done⟩ := exists_of_bind_ok done
      have kept := sourced.next origin isAt (under line List.mem_cons_self)
      rw [ran] at kept
      exact ih kept (isAt.next ran) (fun other mem => under other (List.mem_cons_of_mem _ mem)) done

theorem Sourced.finish (origin : Origin) (sourced : reader.Sourced cs) :
    Ends (fun document => ∀ content ∈ document.expectations, content.Sourced cs) (Located cs 0)
      (reader.finish origin) :=
  sourced.finishSection.bind fun _ _ kept => kept.expectations

end Reader

/-! ## Compiling -/

/-- How a part can fail to be compiled with some number of sub-procedures. -/
inductive Part.Fails (origin : Origin) (available : Nat) (part : Part) : Failure → Prop
  | unknown {marker : Marker} (mem : marker ∈ part.markers) (missing : available ≤ marker.slot) :
      Fails origin available part (origin.report (.unknownSub marker.slot available) part.span)
  | outside {marker : Marker} (free : part.condition = none) (mem : marker ∈ part.markers) :
      Fails origin available part (origin.report (.markerOutsideCondition marker.slot) part.span)
  | secondBlock (label : Label) :
      Fails origin available part (origin.report (.secondStepBlock label.name) part.span)
  | thirdHook (label : Label) :
      Fails origin available part ((origin.report (.tooManyHooks label.name) part.span).withHelp
        "the first marker is the before hook, the second the after hook")

section Compiling

variable {α : Type} {part : Part}

theorem resolve_ends (subs : List α) :
    Ends (fun _ => True) (part.Fails origin subs.length) (Draft.resolve origin subs part) := by
  refine Ends.mapM fun marker mem => ?_
  cases missing : subs[marker.slot]? with
  | some handle => trivial
  | none => exact .unknown mem (List.getElem?_eq_none_iff.1 missing)

theorem draftAddPart_ends (subs : List α) (draft : Draft α) :
    Ends (fun _ => True) (part.Fails origin subs.length) (draft.addPart origin subs part) := by
  unfold Draft.addPart
  refine (resolve_ends subs).bind fun markers _ _ => ?_
  split
  · trivial
  · split
    · dsimp only
      cases draft.steps with
      | some steps => exact .secondBlock draft.label
      | none => trivial
    · refine Ends.foldlM (fun draft handle _ => ?_) _
      unfold Draft.addHook
      split
      · trivial
      · split
        · trivial
        · exact .thirdHook draft.label

theorem changeDraft_ends {bad : Failure → Prop} {label : Label}
    {f : Draft α → Except Failure (Draft α)}
    (changes : ∀ draft, Ends (fun _ => True) bad (f draft)) (drafts : List (Draft α)) :
    Ends (fun _ => True) bad (changeDraft label f drafts) := by
  induction drafts with
  | nil => exact (changes _).bind fun _ _ _ => trivial
  | cons draft rest ih =>
      unfold changeDraft
      split
      · exact (changes _).bind fun _ _ _ => trivial
      · exact ih.bind fun _ _ _ => trivial

theorem addPart_ends (subs : List α) (drafts : List (Draft α)) :
    Ends (fun _ => True) (part.Fails origin subs.length) (addPart origin subs drafts part) := by
  unfold addPart
  cases free : part.condition with
  | some label => exact changeDraft_ends (draftAddPart_ends subs) drafts
  | none =>
      cases markers : part.markers with
      | nil => trivial
      | cons marker more => exact .outside free (markers ▸ List.mem_cons_self)

/-- **A compilation fails at a part of the expectations.** -/
theorem compile_ends_part (origin : Origin) (subs : List α) (document : Document) :
    Ends (fun _ => True)
      (fun failure => ∃ content ∈ document.expectations, ∃ part ∈ content.parts,
        part.Fails origin subs.length failure)
      (document.compile origin subs) := by
  have entries : Ends (fun _ => True)
      (fun failure => ∃ content ∈ document.expectations, ∃ part ∈ content.parts,
        part.Fails origin subs.length failure)
      (document.expects origin subs) := by
    unfold Document.expects
    cases expected : document.expectations with
    | none => trivial
    | some content =>
        refine (Ends.foldlM (fun drafts part mem => ?_) _).bind fun _ _ _ => trivial
        exact (addPart_ends subs drafts).mono fun failure fails => ⟨content, rfl, part, mem, fails⟩
  exact entries.bind fun _ _ _ => trivial

theorem Part.Fails.located {available : Nat} {failure : Failure}
    (fails : part.Fails origin available failure) (stands : Sourced cs part.span part.markers) :
    Located cs 0 failure := by
  obtain ⟨piece, under, known⟩ := stands
  cases fails with
  | @unknown marker mem missing =>
      obtain ⟨digits, has, value⟩ := known marker mem
      exact ⟨under.within, piece, digits, under, has, value⟩
  | @outside marker free mem =>
      obtain ⟨digits, has, value⟩ := known marker mem
      exact ⟨under.within, piece, digits, under, has, value⟩
  | secondBlock label => exact ⟨under.within, trivial⟩
  | thirdHook label => exact ⟨under.within, trivial⟩

/-- Failures of the compilation point to what they name. -/
theorem compile_ends (origin : Origin) (subs : List α) {document : Document}
    (stands : ∀ content ∈ document.expectations, content.Sourced cs) :
    Ends (fun _ => True) (Located cs 0) (document.compile origin subs) := by
  refine (compile_ends_part origin subs document).mono ?_
  rintro failure ⟨content, expected, part, mem, fails⟩
  exact fails.located (stands content expected part mem)

end Compiling

/-! ## The whole text -/

/-- The lines in front of a line can be read, and the line fails. -/
structure FailsAt (source text : String) (before : List Line) (line : Line)
    (failure : Failure) : Prop where
  splits : ∃ after, Text.lines text.toList = before ++ line :: after
  fails : ∃ reader : Reader,
    before.foldlM (fun (reader : Reader) line => reader.line ⟨.parse, some source⟩ line) {} =
      .ok reader ∧
      reader.line ⟨.parse, some source⟩ line = .error failure

theorem FailsAt.located {source text : String} {before : List Line} {line : Line}
    {failure : Failure} (fails : FailsAt source text before line failure) :
    Located text.toList (shift before line failure) failure := by
  obtain ⟨after, whole⟩ := fails.splits
  obtain ⟨reader, ran, failed⟩ := fails.fails
  have under : ∀ other ∈ before ++ [line],
      Under text.toList ⟨other.start, other.stop⟩ other.chars := by
    intro other mem
    apply Text.under_line
    rw [whole]
    exact List.mem_append.2 ((List.mem_append.1 mem).imp_right (by simp +contextual))
  have sourced := Reader.Sourced.start.nexts Reader.At.start
    (fun other mem => under other (List.mem_append_left _ mem)) ran
  have isAt := Reader.At.start.nexts ran
  have ends := sourced.next ⟨.parse, some source⟩ isAt
    (under line (List.mem_append_right _ List.mem_cons_self))
  rw [failed] at ends
  exact ends

/-- A text fails at one of its lines only. -/
theorem FailsAt.unique {source text : String} {before before' : List Line} {line line' : Line}
    {failure failure' : Failure} (one : FailsAt source text before line failure)
    (other : FailsAt source text before' line' failure') : before = before' ∧ line = line' := by
  -- lines that can all be read go no further than the line that fails
  have stops : ∀ {before before' : List Line} {line line' : Line} {failure failure' : Failure},
      FailsAt source text before line failure → FailsAt source text before' line' failure' →
        ¬ before ++ [line] <+: before' := by
    rintro before _ line line' failure failure' ⟨-, reader, ran, fails⟩ ⟨-, reader', ran', -⟩
      ⟨rest, rfl⟩
    rw [List.append_assoc, List.foldlM_append, ran] at ran'
    simp only [List.singleton_append, List.foldlM_cons, fails, bind, Except.bind] at ran'
    exact nomatch ran'
  obtain ⟨after, splits⟩ := one.splits
  obtain ⟨after', splits'⟩ := other.splits
  have same : before ++ ([line] ++ after) = before' ++ ([line'] ++ after') :=
    splits.symm.trans splits'
  rcases List.append_eq_append_iff.1 same with ⟨gap, rfl, rest⟩ | ⟨gap, rfl, rest⟩
  · cases gap with
    | nil => exact ⟨(List.append_nil _).symm, (List.cons.inj rest).1⟩
    | cons first gap =>
        obtain ⟨rfl, -⟩ := List.cons.inj rest
        exact absurd ⟨gap, by simp⟩ (stops one other)
  · cases gap with
    | nil => exact ⟨List.append_nil _, (List.cons.inj rest).1.symm⟩
    | cons first gap =>
        obtain ⟨rfl, -⟩ := List.cons.inj rest
        exact absurd ⟨gap, by simp⟩ (stops other one)

/-- A line that is read again is not the first one. -/
theorem start_pos_of_reread {cs : List Char} {before after : List Line} {line : Line}
    (splits : Text.lines cs = before ++ line :: after) (again : reread before line = true) :
    0 < line.start := by
  cases before with
  | nil =>
      cases directive : Directive.ofLine line.chars <;>
        simp [reread, written?, spotBehind, directive, BlankLines] at again
  | cons first before =>
      have later : line ∈ (Text.linesFrom 0 cs).tail := by
        rw [← Text.lines, splits]
        simp
      exact Text.start_lt_of_mem_tail later

/-- All lines of a text leave what a reader has taken up in the text. -/
theorem sourced_lines {text : String} {origin : Origin} {reader : Reader}
    (ran : (Text.lines text.toList).foldlM (fun (reader : Reader) line => reader.line origin line)
      {} = .ok reader) : reader.Sourced text.toList :=
  Reader.Sourced.start.nexts Reader.At.start (fun _ mem => Text.under_line mem) ran

/-- A text fails at one of its lines or at its end. -/
theorem failsAt_or_located {source text : String} {failure : Failure}
    (failed : Document.read source text = .error failure) :
    (∃ before line, FailsAt source text before line failure) ∨
      Located text.toList 0 failure := by
  unfold Document.read at failed
  dsimp only at failed
  cases ran : (Text.lines text.toList).foldlM
      (fun (reader : Reader) line => reader.line ⟨.parse, some source⟩ line) {} with
  | error other =>
      rw [ran] at failed
      obtain rfl := Except.error.inj failed
      obtain ⟨before, line, after, reader, splits, reads, fails⟩ := exists_of_foldlM_error ran
      exact .inl ⟨before, line, ⟨after, splits⟩, reader, reads, fails⟩
  | ok reader =>
      rw [ran] at failed
      have ends := (sourced_lines ran).finish ⟨.parse, some source⟩
      have finished : reader.finish ⟨.parse, some source⟩ = .error failure := failed
      rw [finished] at ends
      exact .inr ends

/-- **Failures of a spec point to what they name.** The span of a failure lies within the text,
and what the failure names stands under it, with one exception: when a slot is too large in a
line that is read again, the span is counted from the beginning of this line, which is not the
first one. -/
theorem failures_located (source text : String) :
    (∀ failure, Document.read source text = .error failure →
      Within text.toList failure.span ∧
      ((∀ before line, FailsAt source text before line failure →
          misplaced before line failure = false) →
        failure.cause.StandsUnder text.toList failure.span) ∧
      ∀ before line, FailsAt source text before line failure →
        misplaced before line failure = true →
          0 < line.start ∧
            failure.cause.StandsUnder text.toList (failure.span.moved line.start)) ∧
    ∀ document, Document.read source text = .ok document →
      ∀ {α : Type} (origin : Origin) (subs : List α) (failure : Failure),
        document.compile origin subs = .error failure →
          Within text.toList failure.span ∧
            failure.cause.StandsUnder text.toList failure.span := by
  constructor
  · intro failure failed
    refine ⟨?_, fun placed => ?_, fun before line fails counted => ?_⟩
    · rcases failsAt_or_located failed with ⟨before, line, fails⟩ | located
      · exact fails.located.within
      · exact located.within
    · rcases failsAt_or_located failed with ⟨before, line, fails⟩ | located
      · simpa [shift, placed before line fails] using fails.located.stands
      · exact located.stands
    · obtain ⟨after, splits⟩ := fails.splits
      have again : reread before line = true := by
        simp only [misplaced, Bool.and_eq_true] at counted
        exact counted.1
      refine ⟨start_pos_of_reread splits again, ?_⟩
      simpa [shift, counted] using fails.located.stands
  · intro document isRead α origin subs failure failed
    obtain ⟨reader, ran, finished⟩ := exists_of_bind_ok isRead
    have stands := (sourced_lines ran).finish ⟨.parse, some source⟩
    rw [finished] at stands
    have ends := compile_ends origin subs stands
    rw [failed] at ends
    exact ⟨ends.within, ends.stands⟩

/-! ## Slots in a block and in a line -/

/-- A spec whose block has a slot that is too large. -/
def slotInBlock : String := "****\n::0::\n$\x7b99999999999999999999\x7d\n::\n"

/-- The failure of `slotInBlock`. -/
def slotInBlockFailure : Failure :=
  Origin.report ⟨.parse, some "input"⟩
    (.unexpectedToken "a sub-procedure slot" "99999999999999999999") ⟨0, 23⟩

/-- The line that fails stands behind two others. -/
theorem failsAt_slotInBlock :
    FailsAt "input" slotInBlock [⟨0, "****".toList⟩, ⟨5, "::0::".toList⟩]
      ⟨11, "$\x7b99999999999999999999\x7d".toList⟩ slotInBlockFailure where
  splits := ⟨[⟨35, "::".toList⟩, ⟨38, []⟩], by decide⟩
  fails := ⟨_, rfl, rfl⟩

/-- The span of a slot in a block does not point to the slot. -/
theorem misplaced_slotInBlock :
    Document.read "input" slotInBlock = .error slotInBlockFailure ∧
      ¬slotInBlockFailure.cause.StandsUnder slotInBlock.toList slotInBlockFailure.span := by
  refine ⟨by rfl, fun stands => ?_⟩
  have marker := stands rfl
  have other : Under slotInBlock.toList ⟨0, 23⟩ "****\n::0::\n$\x7b9999999999".toList :=
    ⟨[], "9999999999\x7d\n::\n".toList, by decide, by decide⟩
  exact absurd (marker.unique other) (by decide)

/-- A spec whose only condition has a slot that is too large. -/
def slotInLine : String := "****\n::0 $\x7b99999999999999999999\x7d"

/-- The failure of `slotInLine`. -/
def slotInLineFailure : Failure :=
  Origin.report ⟨.parse, some "input"⟩
    (.unexpectedToken "a sub-procedure slot" "99999999999999999999") ⟨9, 32⟩

/-- A spec whose only condition needs eight sub-procedures. -/
def slotSeven : String := "****\n::0 $\x7b7\x7d"

/-- What `slotSeven` fails with when no sub-procedure is supplied. -/
def slotSevenFailure : Failure :=
  Origin.report ⟨.compile, some "input"⟩ (.unknownSub 7 0) ⟨5, 13⟩

/-- The slot of a line and the condition of an unknown slot stand under their spans, and the
slot of a block stands as many bytes further back as its line. -/
theorem located_slots :
    slotInLineFailure.cause.StandsUnder slotInLine.toList slotInLineFailure.span ∧
      (0 < 11 ∧ slotInBlockFailure.cause.StandsUnder slotInBlock.toList
        (slotInBlockFailure.span.moved 11)) ∧
      Within slotSeven.toList slotSevenFailure.span ∧
        slotSevenFailure.cause.StandsUnder slotSeven.toList slotSevenFailure.span := by
  refine ⟨?_, ?_, ?_⟩
  · have failsAt : FailsAt "input" slotInLine [⟨0, "****".toList⟩]
        ⟨5, "::0 $\x7b99999999999999999999\x7d".toList⟩ slotInLineFailure :=
      ⟨⟨[], by decide⟩, _, rfl, rfl⟩
    refine ((failures_located "input" slotInLine).1 slotInLineFailure (by rfl)).2.1 ?_
    intro before line fails
    obtain ⟨rfl, rfl⟩ := fails.unique failsAt
    decide
  · exact ((failures_located "input" slotInBlock).1 slotInBlockFailure (by rfl)).2.2 _ _
      failsAt_slotInBlock (by decide)
  · exact (failures_located "input" slotSeven).2 _ (by rfl) ⟨.compile, some "input"⟩
      ([] : List Unit) slotSevenFailure (by rfl)

end Spec

end HotReload
