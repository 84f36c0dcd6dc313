import HotReload.Proofs.Markers

/-!
# Which texts are specs

The reader accepts a text exactly when its lines keep the rules of the notation
(`read_ok_iff`). The rules are said without a reader: where a line stands follows from the
directives in front of it (`spotBehind`), and `Fits` says what a line may be at its place.

The reader refuses a marker late. It goes into the pending run or into the open block and is
found when these end, so one step of the reader is compared with the rules together with what
is pending: a step succeeds and leaves nothing to be refused later exactly when nothing was
pending before and the line fits (`exists_line_iff`). Reading on never makes up for a pending
marker, because every section ends at the latest with the text.
-/

set_option autoImplicit false

namespace HotReload.Spec

open Text (Line)

/-! ## The notation -/

/-- The part of a spec in which a line stands. -/
inductive Region
  /-- Before the first file block or divider. -/
  | preamble
  | file
  | expectations
deriving DecidableEq, Repr

/-- Where a line stands. -/
structure Spot where
  region : Region := .preamble
  /-- Whether a condition block is open. -/
  inside : Bool := false
deriving DecidableEq, Repr

/-- Where the next line stands. Inside a block only its end counts. -/
def Spot.behind (spot : Spot) (line : Line) : Spot :=
  match spot.inside, Directive.ofLine line.chars with
  | true, .blockClose => { spot with inside := false }
  | false, .fileOpen _ => { spot with region := .file }
  | false, .divider => { spot with region := .expectations }
  | false, .blockOpen _ _ => { spot with inside := true }
  | _, _ => spot

/-- Where the line behind some lines stands. -/
def spotBehind (before : List Line) : Spot :=
  before.foldl Spot.behind {}

/-- Lines without content. -/
def BlankLines (lines : List Line) : Prop :=
  ∀ line ∈ lines, Text.allBlank line.chars = true

instance (lines : List Line) : Decidable (BlankLines lines) :=
  inferInstanceAs (Decidable (∀ line ∈ lines, Text.allBlank line.chars = true))

/-- How a line brings text into its section. -/
inductive Written
  | text
  /-- The text of one label, on its line. -/
  | condition
  /-- A line of a condition block. -/
  | body
deriving DecidableEq, Repr

/-- How a line brings text into its section, if it does. The first line with content is the
title of the document when it is a title line; any other title line is text. -/
def written? (before : List Line) (line : Line) : Option Written :=
  match (spotBehind before).inside, Directive.ofLine line.chars with
  | true, .blockClose => none
  | true, _ => some .body
  | false, .condition _ _ => some .condition
  | false, .text => some .text
  | false, .title _ => if BlankLines before then none else some .text
  | false, _ => none

/-- What a line may be behind other lines. -/
@[mk_iff]
structure Fits (before : List Line) (line : Line) : Prop where
  /-- A block is closed only when it is open. -/
  closing : (spotBehind before).inside = false → Directive.ofLine line.chars ≠ .blockClose
  delimiter : (spotBehind before).inside = false → Directive.ofLine line.chars ≠ .malformed
  /-- In front of the first section there are blank lines and at most a title. -/
  preamble : (spotBehind before).region = .preamble →
    (∃ path, Directive.ofLine line.chars = .fileOpen path) ∨
      Directive.ofLine line.chars = .divider ∨ Text.allBlank line.chars = true ∨
      (BlankLines before ∧ ∃ words, Directive.ofLine line.chars = .title words)
  /-- The expectations hold no divider. -/
  divider : (spotBehind before).inside = false → (spotBehind before).region = .expectations →
    Directive.ofLine line.chars ≠ .divider
  /-- Markers stand in conditions and blocks of the expectations only. -/
  markers : ∀ written, written? before line = some written →
    (spotBehind before).region = .file ∨
      (spotBehind before).region = .expectations ∧ written = .text → Unmarked line.chars
  slots : ∀ written, written? before line = some written → SlotsFit line.chars

/-- The rules of the notation. -/
structure InNotation (lines : List Line) : Prop where
  /-- Every block that is opened is closed. -/
  closed : (spotBehind lines).inside = false
  fits : ∀ before line after, lines = before ++ line :: after → Fits before line

variable {before : List Line} {line : Line} {cs : List Char}

@[simp] theorem spotBehind_append :
    spotBehind (before ++ [line]) = (spotBehind before).behind line := by
  rw [spotBehind, List.foldl_append]
  rfl

/-- Inside a block only its end moves on. -/
theorem Spot.behind_body {region : Region} (body : Directive.ofLine line.chars ≠ .blockClose) :
    Spot.behind ⟨region, true⟩ line = ⟨region, true⟩ := by
  cases directive : Directive.ofLine line.chars <;> simp_all [Spot.behind]

@[simp] theorem blankLines_append :
    BlankLines (before ++ [line]) ↔ BlankLines before ∧ Text.allBlank line.chars = true := by
  simp [BlankLines, or_imp, forall_and]

/-- A blank line is text. -/
theorem ofLine_of_allBlank (blank : Text.allBlank cs = true) : Directive.ofLine cs = .text := by
  have every : ∀ c ∈ cs.dropWhile isSpace, Text.isBlank c = true := fun c mem =>
    List.all_eq_true.1 blank c ((List.dropWhile_sublist _).mem mem)
  rw [Directive.ofLine]
  cases shape : cs.dropWhile isSpace with
  | nil => rfl
  | cons c rest =>
      have isBlank : Text.isBlank c = true := every c (shape ▸ List.mem_cons_self)
      have unmarked : ∀ mark, Text.isBlank mark = false → mark ≠ c := by
        rintro _ other rfl
        exact Bool.false_ne_true (other.symm.trans isBlank)
      have dash := unmarked '-' (by decide)
      have star := unmarked '*' (by decide)
      have colon := unmarked ':' (by decide)
      have hash := unmarked '#' (by decide)
      simp [Directive.ofBody, Directive.fileOpen?, Directive.isDivider, Directive.blockOpen?,
        Directive.isBlockClose, Directive.condition?, Directive.labelled?,
        Directive.isDelimiterLike, Directive.title?, Directive.behind?, dash, star, colon, hash]

theorem allBlank_eq_false (shaped : Directive.ofLine cs ≠ .text) : Text.allBlank cs = false :=
  Bool.eq_false_iff.2 (mt ofLine_of_allBlank shaped)

/-! ## What a reader has pending -/

/-- The region of a section. -/
def Section.region : Section → Region
  | .preamble => .preamble
  | .file _ _ => .file
  | .expectations => .expectations

theorem Section.region_eq_preamble_iff {place : Section} :
    place.region = .preamble ↔ place = .preamble := by
  cases place <;> simp [Section.region]

namespace Reader

/-- The present run holds no marker. -/
def RunClean (reader : Reader) : Prop :=
  ∀ run ∈ reader.run, run.markers = []

/-- Nothing is pending that will be refused. -/
@[mk_iff]
structure Clean (reader : Reader) : Prop where
  run : reader.RunClean
  block : reader.place.region = .file → ∀ block ∈ reader.block, block.buffer.markers = []

/-- The reader without its run, which has become a part. -/
def flushed (reader : Reader) : Reader :=
  { reader with
    run := none
    content := match reader.run with
      | none => reader.content
      | some run => reader.content.push (Part.unconditional (String.ofList run.text) run.span) }

variable {reader after : Reader} {origin : Origin}

theorem flushRun_eq_ok_iff :
    reader.flushRun origin = .ok after ↔ reader.RunClean ∧ reader.flushed = after := by
  obtain ⟨title, files, expectations, place, content, run, block, seenContent⟩ := reader
  cases run with
  | none => simp [flushRun, RunClean, flushed]
  | some run =>
      cases markers : run.markers with
      | nil => simp [flushRun, RunClean, flushed, markers]
      | cons marker more => cases place <;> simp [flushRun, RunClean, markers]

/-- The reader behind its section, which has been recorded. -/
def finished (reader : Reader) : Reader :=
  let content := trimEdges reader.flushed.content
  { reader.flushed with
    place := .preamble
    content := {}
    files := match reader.place with
      | .file path span => reader.files ++ [⟨path, content, span⟩]
      | _ => reader.files
    expectations := match reader.place with
      | .expectations => some content
      | _ => reader.expectations }

theorem finishSection_eq_ok_iff :
    reader.finishSection origin = .ok after ↔
      reader.block = none ∧ reader.RunClean ∧ reader.finished = after := by
  cases opened : reader.block with
  | some block => simp [finishSection, opened]
  | none =>
      cases place : reader.place <;>
        simp [finishSection, opened, place, bind_eq_ok_iff, flushRun_eq_ok_iff, finished, pure,
          Except.pure, flushed, and_assoc]

theorem requireSection_eq_ok_iff {line : Line} {done : Unit} :
    reader.requireSection origin line = .ok done ↔ reader.place.region ≠ .preamble := by
  cases place : reader.place <;> simp [requireSection, place, Section.region]

theorem pushLabelled_eq_ok_iff {label : Label} {buffer : Buffer} {block : Bool}
    {description : Option String} :
    reader.pushLabelled origin label buffer block description = .ok after ↔
      (reader.place.region = .file → buffer.markers = []) ∧
        { reader with
          content := reader.content.push
            { condition := some label, text := String.ofList buffer.text, block := some block,
              markers := buffer.markers, description, span := buffer.span } } = after := by
  cases place : reader.place <;> cases markers : buffer.markers <;>
    simp [pushLabelled, place, markers, Section.region]

/-! ## Where a reader is -/

/-- A reader is behind some lines. -/
structure At (reader : Reader) (before : List Line) : Prop where
  spot : spotBehind before = ⟨reader.place.region, reader.block.isSome⟩
  outside : reader.place = .preamble → reader.block = none
  seen : reader.seenContent = false ↔ BlankLines before
  fresh : reader.seenContent = false → reader.place = .preamble ∧ reader.title = none

theorem At.start : At {} [] where
  spot := rfl
  outside _ := rfl
  seen := by simp [BlankLines]
  fresh _ := ⟨rfl, rfl⟩

theorem At.spot_outside (isAt : reader.At before) (closed : reader.block = none) :
    spotBehind before = ⟨reader.place.region, false⟩ := by
  rw [isAt.spot, closed]
  rfl

theorem At.spot_inside {block : OpenBlock} (isAt : reader.At before)
    (opened : reader.block = some block) : spotBehind before = ⟨reader.place.region, true⟩ := by
  rw [isAt.spot, opened]
  rfl

theorem At.closed_iff (isAt : reader.At before) :
    (spotBehind before).inside = false ↔ reader.block = none := by
  rw [isAt.spot]
  simp

/-- A block only opens in a section. -/
theorem At.placed {block : OpenBlock} (isAt : reader.At before)
    (opened : reader.block = some block) : reader.place ≠ .preamble := fun preamble =>
  nomatch opened.symm.trans (isAt.outside preamble)

/-! ## One line -/

theorem clean_iff_runClean (closed : reader.block = none) : reader.Clean ↔ reader.RunClean := by
  simp [clean_iff, closed]

/-- A run is as clean as its buffer, and a run that has not begun is clean. -/
theorem markers_run_iff {span : Span} :
    (reader.run.getD { span }).markers = [] ↔ reader.RunClean := by
  cases run : reader.run <;> simp [RunClean, run]

/-- Text is added when its slots fit, and leaves nothing pending when it holds no marker. In the
preamble it has to be blank instead. -/
theorem exists_addText_iff {start : Nat} {span : Span} {blank : Bool}
    (closed : reader.block = none) :
    (∃ after, (do
        let pieces ← piecesOf origin start cs
        reader.addText origin pieces blank span) = .ok after ∧ after.Clean) ↔
      reader.RunClean ∧ SlotsFit cs ∧
        (reader.place.region = .preamble → blank = true) ∧
        (reader.place.region ≠ .preamble → Unmarked cs) := by
  have added : (∃ after, reader.addText origin (piecesIn cs) blank span = .ok after ∧
      after.Clean) ↔ reader.RunClean ∧
        (reader.place.region = .preamble → blank = true) ∧
        (reader.place.region ≠ .preamble → Unmarked cs) := by
    by_cases place : reader.place = .preamble
    · cases blank <;> simp [addText, place, Section.region, clean_iff_runClean closed]
    · have kept : (∃ after, reader.addText origin (piecesIn cs) blank span = .ok after ∧
          after.Clean) ↔
            ((reader.run.getD { span }).addLine (piecesIn cs) span).markers = [] := by
        cases shape : reader.place <;>
          simp_all [addText, clean_iff, RunClean]
      rw [kept, markers_addLine_piecesIn_iff, markers_run_iff]
      simp [Section.region_eq_preamble_iff, place]
  simp only [bind_eq_ok_iff, piecesOf_eq_ok_iff]
  grind

/-- The buffer of a condition holds no marker when its text holds none. -/
theorem markers_condition_iff {span : Span} :
    (if piecesIn cs = [] then { span } else
      ({ span } : Buffer).addLine (piecesIn cs) span).markers = [] ↔ Unmarked cs := by
  split
  · rename_i empty
    simp [← forall_notMem_piecesIn_iff, empty]
  · simp [markers_addLine_piecesIn_iff]

/-- **Outside a block a reader takes the lines that fit.** -/
theorem exists_lineOutside_iff (origin : Origin) (isAt : reader.At before)
    (closed : reader.block = none) :
    (∃ after, reader.lineOutside origin line = .ok after ∧ after.Clean) ↔
      reader.RunClean ∧ Fits before line := by
  -- Each directive is compared by itself. A marker in the pending run is found by every line that
  -- ends the run, and a line of text adds its own.
  simp only [fits_iff, written?, isAt.spot_outside closed]
  cases directive : Directive.ofLine line.chars with
  | fileOpen path =>
      simp only [lineOutside, directive, bind_eq_ok_iff, finishSection_eq_ok_iff, pure,
        Except.pure, Except.ok.injEq]
      simp [clean_iff, RunClean, finished, flushed, closed]
  | divider =>
      cases place : reader.place <;>
        simp only [lineOutside, directive, place, bind_eq_ok_iff, finishSection_eq_ok_iff, pure,
          Except.pure, Except.ok.injEq] <;>
        simp [clean_iff, RunClean, finished, flushed, closed, Section.region]
  | blockOpen label description =>
      have content : Text.allBlank line.chars = false :=
        allBlank_eq_false (by simp [directive])
      simp only [lineOutside, directive, bind_eq_ok_iff, flushRun_eq_ok_iff,
        requireSection_eq_ok_iff, pure, Except.pure, Except.ok.injEq]
      simp [clean_iff, RunClean, flushed, content]
  | blockClose => simp [lineOutside, directive]
  | condition label words =>
      have content : Text.allBlank line.chars = false :=
        allBlank_eq_false (by simp [directive])
      simp only [lineOutside, directive, bind_eq_ok_iff, flushRun_eq_ok_iff,
        requireSection_eq_ok_iff, piecesOf_eq_ok_iff, pushLabelled_eq_ok_iff]
      simp [clean_iff, RunClean, flushed, content, closed, markers_condition_iff,
        unmarked_condition_iff directive, slotsFit_condition_iff directive]
      grind
  | malformed => simp [lineOutside, directive]
  | title words =>
      have content : Text.allBlank line.chars = false :=
        allBlank_eq_false (by simp [directive])
      -- The title of the document is not scanned, any other title line is text.
      by_cases blank : BlankLines before
      · have unseen := isAt.seen.2 blank
        obtain ⟨place, untitled⟩ := isAt.fresh unseen
        simp [lineOutside, directive, blank, unseen, place, untitled, pure, Except.pure,
          clean_iff, RunClean, closed]
      · have seen : reader.seenContent = true := by simpa [blank] using isAt.seen
        simp only [lineOutside, directive, seen]
        simp [exists_addText_iff closed, content, blank]
        cases place : reader.place.region <;> simp <;> tauto
  | text =>
      simp only [lineOutside, directive, exists_addText_iff closed]
      cases place : reader.place.region <;> simp <;> tauto

/-- A line of a block that does not end it is plain text, whatever it looks like. -/
theorem lineInside_body {block : OpenBlock}
    (body : Directive.ofLine line.chars ≠ .blockClose) :
    reader.lineInside origin block line = (do
      let pieces ← piecesOf origin 0 line.chars
      let buffer := block.buffer.addLine pieces ⟨line.start, line.stop⟩
      pure { reader with block := some { block with buffer } }) := by
  unfold lineInside
  split
  · contradiction
  · rfl

/-- **Inside a block a reader takes the lines that fit.** -/
theorem exists_lineInside_iff {block : OpenBlock} (origin : Origin) (isAt : reader.At before)
    (opened : reader.block = some block) :
    (∃ after, reader.lineInside origin block line = .ok after ∧ after.Clean) ↔
      reader.Clean ∧ Fits before line := by
  have spot := isAt.spot_inside opened
  have placed : reader.place.region ≠ .preamble :=
    mt Section.region_eq_preamble_iff.1 (isAt.placed opened)
  by_cases close : Directive.ofLine line.chars = .blockClose
  · have fits : Fits before line := by
      simp [fits_iff, written?, spot, close, placed]
    simp [lineInside, close, pushLabelled_eq_ok_iff, clean_iff, RunClean, opened, fits, and_comm]
  · have written : written? before line = some .body := by
      simp only [written?, spot]
    have fits : Fits before line ↔
        (reader.place.region = .file → Unmarked line.chars) ∧ SlotsFit line.chars := by
      simp [fits_iff, written, spot, placed]
    rw [lineInside_body close, fits]
    simp only [bind_eq_ok_iff, piecesOf_eq_ok_iff, pure, Except.pure, Except.ok.injEq]
    simp [clean_iff, RunClean, opened, markers_addLine_piecesIn_iff]
    grind

/-- **A reader takes a line and keeps clean exactly when it was clean and the line fits.** -/
theorem exists_line_iff (origin : Origin) (isAt : reader.At before) :
    (∃ after, reader.line origin line = .ok after ∧ after.Clean) ↔
      reader.Clean ∧ Fits before line := by
  unfold Reader.line
  cases opened : reader.block with
  | some block => exact exists_lineInside_iff origin isAt opened
  | none =>
      rw [clean_iff_runClean opened, ← exists_lineOutside_iff origin isAt opened]
      simp [bind_eq_ok_iff, pure, Except.pure, clean_iff, RunClean]

/-! ## Behind a line -/

theorem addText_ok {pieces : List Piece} {blank : Bool} {span : Span}
    (done : reader.addText origin pieces blank span = .ok after) :
    ∃ run, after = { reader with run } := by
  unfold addText at done
  split at done
  · obtain ⟨-, same⟩ := ite_eq_iff.1 done |>.resolve_right (by simp)
    obtain rfl := Except.ok.inj same
    exact ⟨reader.run, rfl⟩
  · obtain rfl := Except.ok.inj done
    exact ⟨_, rfl⟩

/-- Where a line outside blocks leaves a reader. -/
structure Passed (reader after : Reader) (line : Line) : Prop where
  spot : Spot.behind ⟨reader.place.region, false⟩ line =
    ⟨after.place.region, after.block.isSome⟩
  outside : after.place = .preamble → after.block = none
  seen : after.seenContent = reader.seenContent
  title : Directive.ofLine line.chars = .text → after.title = reader.title

theorem passed_of_lineOutside (closed : reader.block = none)
    (done : reader.lineOutside origin line = .ok after) : reader.Passed after line := by
  unfold lineOutside at done
  cases directive : Directive.ofLine line.chars with
  | fileOpen path =>
      simp only [directive, bind_eq_ok_iff, finishSection_eq_ok_iff, pure, Except.pure,
        Except.ok.injEq] at done
      obtain ⟨_, ⟨-, -, rfl⟩, rfl⟩ := done
      constructor <;> simp [Spot.behind, directive, Section.region, finished, flushed, closed]
  | divider =>
      simp only [directive] at done
      split at done
      · contradiction
      · simp only [bind_eq_ok_iff, finishSection_eq_ok_iff, pure, Except.pure,
          Except.ok.injEq] at done
        obtain ⟨_, ⟨-, -, rfl⟩, rfl⟩ := done
        constructor <;> simp [Spot.behind, directive, Section.region, finished, flushed, closed]
  | blockOpen label description =>
      simp only [directive, bind_eq_ok_iff, flushRun_eq_ok_iff, requireSection_eq_ok_iff, pure,
        Except.pure, Except.ok.injEq] at done
      obtain ⟨_, ⟨-, rfl⟩, -, placed, rfl⟩ := done
      have placed : reader.flushed.place ≠ .preamble :=
        mt Section.region_eq_preamble_iff.2 placed
      constructor <;> simp [Spot.behind, directive, placed] <;> rfl
  | blockClose => simp [directive] at done
  | condition label words =>
      simp only [directive, bind_eq_ok_iff, flushRun_eq_ok_iff, pushLabelled_eq_ok_iff] at done
      obtain ⟨_, ⟨-, rfl⟩, -, -, -, -, -, rfl⟩ := done
      constructor <;> simp [Spot.behind, directive, flushed, closed]
  | malformed => simp [directive] at done
  | title words =>
      simp only [directive] at done
      split at done
      · obtain rfl := Except.ok.inj done
        constructor <;> simp [Spot.behind, directive, closed]
      · obtain ⟨_, -, done⟩ := exists_of_bind_ok done
        obtain ⟨run, rfl⟩ := addText_ok done
        constructor <;> simp [Spot.behind, directive, closed]
  | text =>
      simp only [directive] at done
      obtain ⟨_, -, done⟩ := exists_of_bind_ok done
      obtain ⟨run, rfl⟩ := addText_ok done
      constructor <;> simp [Spot.behind, directive, closed]

/-- Behind a line, a reader is behind this line. -/
theorem At.next (isAt : reader.At before) (done : reader.line origin line = .ok after) :
    after.At (before ++ [line]) := by
  unfold Reader.line at done
  cases opened : reader.block with
  | some block =>
      simp only [opened] at done
      have spot := isAt.spot_inside opened
      have placed := isAt.placed opened
      have seen : reader.seenContent ≠ false := fun unseen => placed (isAt.fresh unseen).1
      have content : ¬ BlankLines before := mt isAt.seen.2 seen
      by_cases close : Directive.ofLine line.chars = .blockClose
      · simp only [lineInside, close, pushLabelled_eq_ok_iff] at done
        obtain ⟨-, rfl⟩ := done
        constructor <;> simp [spot, Spot.behind, close, content, seen]
      · rw [lineInside_body close] at done
        obtain ⟨_, -, done⟩ := exists_of_bind_ok done
        obtain rfl := Except.ok.inj done
        constructor <;> simp [spot, Spot.behind_body close, content, seen, placed]
  | none =>
      simp only [opened] at done
      obtain ⟨passed, ran, done⟩ := exists_of_bind_ok done
      obtain rfl := Except.ok.inj done
      have step := passed_of_lineOutside opened ran
      have spot := isAt.spot_outside opened
      refine ⟨?_, step.outside, ?_, ?_⟩
      · rw [spotBehind_append, spot, step.spot]
      · simp [step.seen, isAt.seen]
      · intro unseen
        obtain ⟨unseen, blank⟩ : reader.seenContent = false ∧ Text.allBlank line.chars = true := by
          simpa [step.seen] using unseen
        have text := ofLine_of_allBlank blank
        obtain ⟨place, untitled⟩ := isAt.fresh unseen
        have moved := step.spot
        simp only [Spot.behind, text, place, Section.region, Spot.mk.injEq] at moved
        exact ⟨Section.region_eq_preamble_iff.1 moved.1.symm, (step.title text).trans untitled⟩

/-! ## All lines -/

/-- What holds at every place of a list holds of its first element and at every later place. -/
theorem forall_split_cons_iff {holds : List Line → Line → Prop} {lines : List Line} :
    (∀ front other back, line :: lines = front ++ other :: back → holds front other) ↔
      holds [] line ∧
        ∀ front other back, lines = front ++ other :: back → holds (line :: front) other := by
  constructor
  · intro every
    exact ⟨every [] line lines rfl, fun front other back split =>
      every (line :: front) other back (by rw [split, List.cons_append])⟩
  · rintro ⟨first, later⟩ front other back split
    cases front with
    | nil =>
        obtain ⟨rfl, -⟩ := List.cons.inj split
        exact first
    | cons _ front =>
        obtain ⟨rfl, rest⟩ := List.cons.inj split
        exact later front other back rest

/-- Behind some lines, a reader is behind these lines. -/
theorem At.nexts {lines : List Line} (isAt : reader.At before)
    (done : lines.foldlM (fun reader line => reader.line origin line) reader = .ok after) :
    after.At (before ++ lines) := by
  induction lines generalizing reader before with
  | nil =>
      obtain rfl := Except.ok.inj done
      simpa using isAt
  | cons line lines ih =>
      rw [List.foldlM_cons] at done
      obtain ⟨middle, ran, done⟩ := exists_of_bind_ok done
      simpa using ih (isAt.next ran) done

/-- **A reader takes lines and keeps clean exactly when it was clean and every line fits.** -/
theorem exists_lines_iff (origin : Origin) (lines : List Line) (isAt : reader.At before) :
    (∃ after, lines.foldlM (fun reader line => reader.line origin line) reader = .ok after ∧
        after.Clean) ↔
      reader.Clean ∧ ∀ front line back, lines = front ++ line :: back →
        Fits (before ++ front) line := by
  -- Along the lines from the front: the induction hypothesis is used at the reader behind the
  -- first line, which is behind one line more.
  induction lines generalizing reader before with
  | nil => simp [pure, Except.pure]
  | cons line lines ih =>
      have later {middle : Reader} (ran : reader.line origin line = .ok middle) :=
        ih (isAt.next ran)
      simp only [List.append_assoc, List.singleton_append] at later
      rw [forall_split_cons_iff, List.append_nil, ← and_assoc,
        ← exists_line_iff origin isAt]
      simp only [List.foldlM_cons, bind_eq_ok_iff]
      constructor
      · rintro ⟨after, ⟨middle, ran, done⟩, whole⟩
        obtain ⟨clean, fits⟩ := (later ran).1 ⟨after, done, whole⟩
        exact ⟨⟨middle, ran, clean⟩, fits⟩
      · rintro ⟨⟨middle, ran, clean⟩, fits⟩
        obtain ⟨after, done, whole⟩ := (later ran).2 ⟨clean, fits⟩
        exact ⟨after, ⟨middle, ran, done⟩, whole⟩

/-- A reader ends with a document exactly when nothing is pending and no block is open. -/
theorem exists_finish_iff :
    (∃ document, reader.finish origin = .ok document) ↔ reader.block = none ∧ reader.Clean := by
  simp only [finish, bind_eq_ok_iff, finishSection_eq_ok_iff, pure, Except.pure,
    Except.ok.injEq]
  constructor
  · rintro ⟨_, _, ⟨closed, clean, -⟩, -⟩
    exact ⟨closed, (clean_iff_runClean closed).2 clean⟩
  · rintro ⟨closed, clean⟩
    exact ⟨_, _, ⟨closed, clean.run, rfl⟩, rfl⟩

end Reader

/-! ## The whole text -/

/-- **A text is read exactly when its lines keep the rules of the notation.** -/
theorem read_ok_iff (source text : String) :
    (∃ document, Document.read source text = .ok document) ↔
      InNotation (Text.lines text.toList) := by
  have start : Reader.Clean {} := ⟨fun _ mem => (nomatch mem), fun _ _ mem => (nomatch mem)⟩
  have taken := Reader.exists_lines_iff ⟨.parse, some source⟩ (Text.lines text.toList)
    Reader.At.start
  simp only [List.nil_append, start, true_and] at taken
  simp only [Document.read, bind_eq_ok_iff]
  constructor
  · rintro ⟨document, reader, ran, finished⟩
    obtain ⟨closed, clean⟩ := Reader.exists_finish_iff.1 ⟨document, finished⟩
    exact ⟨(Reader.At.start.nexts ran).closed_iff.2 closed, taken.1 ⟨reader, ran, clean⟩⟩
  · rintro ⟨closed, fits⟩
    obtain ⟨reader, ran, clean⟩ := taken.2 fits
    have unopened := (Reader.At.start.nexts ran).closed_iff.1 closed
    obtain ⟨document, finished⟩ := Reader.exists_finish_iff.2 ⟨unopened, clean⟩
    exact ⟨document, reader, ran, finished⟩

end HotReload.Spec
