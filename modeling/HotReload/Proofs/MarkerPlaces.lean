import HotReload.Proofs.BlankEdges
import HotReload.Proofs.StepBlocks

/-!
# Where the markers of a part stand

A part keeps its text without its markers, and for each marker the byte offset at which it stood.
The text can be cut at these offsets from left to right: they do not decrease, and each is at one of
the ends of the text or between two of its characters (`Text.Cuttable`). A buffer takes the offset
of a marker from the end of its text so far, and its text only grows, whatever lines it takes
(`Buffer.Cuttable.addLine`).

Trimming a section shortens texts, but only those of parts that belong to every update, and these
have no markers. It takes parts out as well, but only at the two ends of the section, so that two
unconditional parts do not become neighbours (`ConditionalText.SafeToCut.trimEdges`). Both hold of
every document that can be read (`safeToCut_of_read`).
-/

set_option autoImplicit false

namespace HotReload

/-! ## Offsets at which a text can be cut -/

namespace Text

variable {cs : List Char} {offset : Nat} {offsets : List Nat}

/-- An offset at one of the ends of a text or between two of its characters. So a marker is in range
of a text if its offset is such a place. -/
def Boundary (cs : List Char) (offset : Nat) : Prop :=
  ∃ before, before <+: cs ∧ byteLength before = offset

theorem boundary_byteLength (cs : List Char) : Boundary cs (byteLength cs) :=
  ⟨cs, List.prefix_rfl, rfl⟩

theorem Boundary.append (boundary : Boundary cs offset) (more : List Char) :
    Boundary (cs ++ more) offset := by
  obtain ⟨before, front, length⟩ := boundary
  exact ⟨before, front.trans (List.prefix_append _ _), length⟩

/-- A text has no boundary behind its end. -/
theorem Boundary.le (boundary : Boundary cs offset) : offset ≤ byteLength cs := by
  obtain ⟨before, ⟨behind, rfl⟩, rfl⟩ := boundary
  rw [byteLength_append]
  exact Nat.le_add_right _ _

/-- Offsets at which a text can be cut from left to right. -/
structure Cuttable (cs : List Char) (offsets : List Nat) : Prop where
  ordered : offsets.Pairwise (· ≤ ·)
  boundary : ∀ offset ∈ offsets, Boundary cs offset

theorem Cuttable.nil (cs : List Char) : Cuttable cs [] :=
  ⟨.nil, List.forall_mem_nil _⟩

/-- A text that grows can be cut where it could be cut before. -/
theorem Cuttable.append (cuttable : Cuttable cs offsets) (more : List Char) :
    Cuttable (cs ++ more) offsets :=
  ⟨cuttable.ordered, fun offset mem => (cuttable.boundary offset mem).append more⟩

/-- A text can be cut at its end as well. -/
theorem Cuttable.atEnd (cuttable : Cuttable cs offsets) :
    Cuttable cs (offsets ++ [byteLength cs]) where
  ordered := by
    refine List.pairwise_append.2 ⟨cuttable.ordered, List.pairwise_singleton _ _, ?_⟩
    intro offset mem last isLast
    rw [List.mem_singleton.1 isLast]
    exact (cuttable.boundary offset mem).le
  boundary offset mem := by
    rcases List.mem_append.1 mem with earlier | last
    · exact cuttable.boundary offset earlier
    · rw [List.mem_singleton.1 last]
      exact boundary_byteLength cs

end Text

namespace Spec

open Text (Line)

variable {cs : List Char} {span : Span}

/-! ## Buffers -/

namespace Buffer

variable {buffer : Buffer}

/-- The text of a buffer can be cut at its markers. -/
def Cuttable (buffer : Buffer) : Prop :=
  Text.Cuttable buffer.text (buffer.markers.map Marker.offset)

theorem Cuttable.empty (span : Span) : Cuttable { span } :=
  Text.Cuttable.nil []

theorem Cuttable.add (cuttable : buffer.Cuttable) (piece : Piece) :
    (buffer.add piece).Cuttable := by
  cases piece with
  | char c => exact Text.Cuttable.append cuttable [c]
  | slot n =>
      rw [Cuttable, Buffer.add, List.map_append]
      exact Text.Cuttable.atEnd cuttable

/-- **A buffer can be cut at its markers, whatever lines it takes.** -/
theorem Cuttable.addLine (cuttable : buffer.Cuttable) (pieces : List Piece) (span : Span) :
    (buffer.addLine pieces span).Cuttable := by
  have filled : (pieces.foldl Buffer.add buffer).Cuttable := by
    induction pieces generalizing buffer with
    | nil => exact cuttable
    | cons piece rest ih => exact ih (cuttable.add piece)
  exact Text.Cuttable.append filled ['\n']

theorem getLast?_addLine (buffer : Buffer) (pieces : List Piece) (span : Span) :
    (buffer.addLine pieces span).text.getLast? = some '\n' := by
  simp [addLine]

end Buffer

theorem Reader.cuttable_conditionBuffer (span : Span) (text : List Char) :
    (Reader.conditionBuffer span text).Cuttable := by
  unfold Reader.conditionBuffer
  split
  · exact .empty span
  · exact (Buffer.Cuttable.empty span).addLine _ _

/-! ## Parts -/

/-- A part whose text can be cut at its markers. If it belongs to every update, it has no markers
and its lines are whole. -/
structure Part.SafeToCut (part : Part) : Prop where
  ordered : (part.markers.map Marker.offset).Pairwise (· ≤ ·)
  within : ∀ marker ∈ part.markers, marker.offset ≤ Text.byteLength part.text.toList
  inRange : ∀ marker ∈ part.markers, marker.InRange part.text.toList
  unmarked : part.isConditional = false → part.markers = []
  unblocked : part.isConditional = false → part.block = none
  ended : part.isConditional = false → ∀ c ∈ part.text.toList.getLast?, c = '\n'

/-- Parts that are safe to cut, of which those that belong to every update have a text and are no
neighbours. -/
structure ConditionalText.SafeToCut (content : ConditionalText) : Prop where
  parts : ∀ part ∈ content.parts, part.SafeToCut
  filled : ∀ part ∈ content.parts, part.isConditional = false → part.text ≠ ""
  apart : Apart content.parts

theorem Part.SafeToCut.cuttable {part : Part} (safe : part.SafeToCut) :
    Text.Cuttable part.text.toList (part.markers.map Marker.offset) :=
  ⟨safe.ordered, List.forall_mem_map.2 safe.inRange⟩

theorem Buffer.Cuttable.labelled {buffer : Buffer} (cuttable : buffer.Cuttable) (label : Label)
    (block : Bool) (description : Option String) :
    (buffer.labelled label block description).SafeToCut where
  ordered := cuttable.ordered
  within marker mem := by
    rw [Buffer.labelled, String.toList_ofList]
    exact (cuttable.boundary _ (List.mem_map_of_mem mem)).le
  inRange marker mem := by
    rw [Buffer.labelled, String.toList_ofList]
    exact cuttable.boundary _ (List.mem_map_of_mem mem)
  unmarked := nofun
  unblocked := nofun
  ended := nofun

theorem Part.safeToCut_unconditional (ended : ∀ c ∈ cs.getLast?, c = '\n') (span : Span) :
    (Part.unconditional (String.ofList cs) span).SafeToCut where
  ordered := .nil
  within := List.forall_mem_nil _
  inRange := List.forall_mem_nil _
  unmarked _ := rfl
  unblocked _ := rfl
  ended _ := by simpa [Part.unconditional] using ended

/-- An unconditional part that gives up some of its lines is still safe to cut. -/
theorem Part.SafeToCut.mapUnconditional {part : Part} (safe : part.SafeToCut)
    {f : List Char → List Char}
    (keeps : ∀ cs, (∀ c ∈ cs.getLast?, c = '\n') → ∀ c ∈ (f cs).getLast?, c = '\n') :
    (part.mapUnconditional f).SafeToCut := by
  cases conditional : part.isConditional with
  | true => rwa [Part.mapUnconditional_of_conditional conditional]
  | false =>
      have none := safe.unmarked conditional
      have changed : part.mapUnconditional f =
          { part with text := String.ofList (f part.text.toList) } := by
        simp [Part.mapUnconditional, conditional]
      rw [changed]
      refine ⟨?_, ?_, ?_, safe.unmarked, safe.unblocked, fun _ => ?_⟩
      · simp [none]
      · simp [none]
      · simp [none]
      · rw [String.toList_ofList]
        exact keeps _ (safe.ended conditional)

/-! ## Trimming a section -/

/-- A text whose last line is whole has whole lines only. -/
theorem endedLine_of_mem_wholeLines (ended : ∀ c ∈ cs.getLast?, c = '\n') :
    ∀ line ∈ wholeLines cs, EndedLine line := by
  have behind {c : Char} {cs : List Char} (ended : ∀ d ∈ (c :: cs).getLast?, d = '\n') :
      ∀ d ∈ cs.getLast?, d = '\n' := by
    intro d last
    apply ended
    rw [List.getLast?_cons, Option.mem_def.1 last]
    rfl
  fun_induction wholeLines cs with
  | case1 => exact List.forall_mem_nil _
  | case2 cs ih =>
      exact List.forall_mem_cons.2 ⟨⟨[], List.not_mem_nil, rfl⟩, ih (behind ended)⟩
  | case3 c cs other none ih =>
      -- the text has one character, and that would have to be a line feed
      have empty : cs = [] := by
        rw [← flatten_wholeLines cs, none]
        rfl
      exact absurd (ended c (by rw [empty]; rfl)) other
  | case4 c cs other line more whole ih =>
      rw [whole] at ih
      obtain ⟨⟨front, free, rfl⟩, rest⟩ := List.forall_mem_cons.1 (ih (behind ended))
      exact List.forall_mem_cons.2 ⟨⟨c :: front, by simp [free, Ne.symm other], rfl⟩, rest⟩

/-- Without its last lines a text still ends with a whole line. -/
theorem ended_dropTrailingBlankLines (ended : ∀ c ∈ cs.getLast?, c = '\n') :
    ∀ c ∈ (dropTrailingBlankLines cs).getLast?, c = '\n' := by
  have kept : ∀ line ∈ ((wholeLines cs).reverse.dropWhile Text.allBlank).reverse,
      EndedLine line := fun line mem =>
    endedLine_of_mem_wholeLines ended line
      ((List.rdropWhile_prefix Text.allBlank (wholeLines cs)).mem mem)
  unfold dropTrailingBlankLines
  cases shape : ((wholeLines cs).reverse.dropWhile Text.allBlank).reverse
    using List.reverseRecOn with
  | nil => simp
  | append_singleton front last =>
      obtain ⟨line, -, rfl⟩ := kept last (by simp [shape])
      simp

/-- Filtering takes elements out at the ends only when it keeps all others. -/
theorem filter_infix {β : Type} {keep : β → Bool} {first last : β} {middle : List β}
    (kept : ∀ item ∈ middle, keep item = true) :
    (first :: (middle ++ [last])).filter keep <:+: first :: (middle ++ [last]) := by
  rw [List.filter_cons, List.filter_append, List.filter_eq_self.2 kept, List.filter_singleton,
    Bool.cond_eq_ite]
  split <;> split
  · exact List.infix_rfl
  · exact ⟨[], [last], by simp⟩
  · exact ⟨[first], [], by simp⟩
  · exact ⟨[first], [last], by simp⟩

section Neighbours

variable {parts others : List Part} {content : ConditionalText}

/-- Whether neighbours are unconditional does not depend on their texts. -/
theorem Apart.of_map_isConditional (apart : Apart parts)
    (same : others.map Part.isConditional = parts.map Part.isConditional) : Apart others := by
  have flags {parts : List Part} : Apart parts ↔
      (parts.map Part.isConditional).IsChain fun first second => first = true ∨ second = true :=
    (List.isChain_map (R := fun first second => first = true ∨ second = true)
      Part.isConditional).symm
  rwa [flags, same, ← flags]

theorem map_isConditional_modifyHead (f : List Char → List Char) (parts : List Part) :
    (parts.modifyHead (Part.mapUnconditional f)).map Part.isConditional =
      parts.map Part.isConditional := by
  cases parts <;> simp [isConditional_mapUnconditional]

theorem map_isConditional_changeLast (f : List Char → List Char) (parts : List Part) :
    (changeLast (Part.mapUnconditional f) parts).map Part.isConditional =
      parts.map Part.isConditional := by
  cases parts using List.reverseRecOn with
  | nil => rfl
  | append_singleton front last => simp [isConditional_mapUnconditional]

/-- The parts of a section that is trimmed, before those without a text are taken out. -/
def trimmedParts (parts : List Part) : List Part :=
  changeLast (Part.mapUnconditional dropTrailingBlankLines)
    (parts.modifyHead (Part.mapUnconditional dropLeadingBlankLines))

/-- Only the first and the last part can lose their texts and be taken out. -/
theorem parts_trimEdges_infix
    (filled : ∀ part ∈ content.parts, part.isConditional = false → part.text ≠ "") :
    (trimEdges content).parts <:+: trimmedParts content.parts := by
  show (trimmedParts content.parts).filter _ <:+: _
  unfold trimmedParts
  cases shape : content.parts with
  | nil => exact List.infix_rfl
  | cons first rest =>
      cases rest using List.reverseRecOn with
      | nil =>
          simp only [List.modifyHead_cons, changeLast]
          rw [List.filter_singleton, Bool.cond_eq_ite]
          split
          · exact List.infix_rfl
          · exact List.nil_infix
      | append_singleton middle last =>
          rw [List.modifyHead_cons, ← List.cons_append, changeLast_concat]
          refine filter_infix fun part mem => ?_
          have text := filled part (by simp [shape, mem])
          cases conditional : part.isConditional with
          | true => rfl
          | false => simpa using text conditional

end Neighbours

namespace ConditionalText

variable {content : ConditionalText}

theorem SafeToCut.empty : SafeToCut {} :=
  ⟨List.forall_mem_nil _, List.forall_mem_nil _, .nil⟩

/-- A conditional part may be added behind any part. -/
theorem SafeToCut.pushLabelled (safe : content.SafeToCut) {buffer : Buffer}
    (cuttable : buffer.Cuttable) (label : Label) (block : Bool) (description : Option String) :
    (content.push (buffer.labelled label block description)).SafeToCut where
  parts := List.forall_mem_append.2
    ⟨safe.parts, List.forall_mem_singleton.2 (cuttable.labelled label block description)⟩
  filled := List.forall_mem_append.2 ⟨safe.filled, List.forall_mem_singleton.2 nofun⟩
  apart := by
    refine List.isChain_append.2 ⟨safe.apart, List.isChain_singleton _, fun _ _ part mem => ?_⟩
    obtain rfl := Option.some.inj mem
    exact .inr rfl

/-- A run of whole lines may be added behind a conditional part. -/
theorem SafeToCut.pushRun (safe : content.SafeToCut)
    (settled : ∀ last ∈ content.parts.getLast?, last.isConditional = true)
    (ended : cs.getLast? = some '\n') (span : Span) :
    (content.push (.unconditional (String.ofList cs) span)).SafeToCut where
  parts := by
    refine List.forall_mem_append.2 ⟨safe.parts, List.forall_mem_singleton.2 ?_⟩
    exact Part.safeToCut_unconditional (fun c last => by simpa [ended, eq_comm] using last) span
  filled := by
    refine List.forall_mem_append.2 ⟨safe.filled, List.forall_mem_singleton.2 fun _ => ?_⟩
    intro none
    rw [Part.unconditional, String.ofList_eq_empty_iff] at none
    rw [none, List.getLast?_nil] at ended
    exact absurd ended.symm (Option.some_ne_none _)
  apart := List.isChain_append.2
    ⟨safe.apart, List.isChain_singleton _, fun last mem _ _ => .inl (settled last mem)⟩

/-- **Trimming keeps a section safe to cut.** -/
theorem SafeToCut.trimEdges (safe : content.SafeToCut) : (trimEdges content).SafeToCut where
  parts part mem := by
    have mem : part ∈ trimmedParts content.parts := (List.mem_filter.1 mem).1
    have front : ∀ part ∈ content.parts.modifyHead (Part.mapUnconditional dropLeadingBlankLines),
        part.SafeToCut := by
      intro part mem
      rcases mem_modifyHead mem with there | ⟨old, there, rfl⟩
      · exact safe.parts part there
      · exact (safe.parts old there).mapUnconditional fun _ => ended_dropLeadingBlankLines
    rcases mem_changeLast mem with there | ⟨old, there, rfl⟩
    · exact front part there
    · exact (front old there).mapUnconditional fun _ => ended_dropTrailingBlankLines
  filled part mem free := by
    simpa [free] using (List.mem_filter.1 mem).2
  apart := by
    have flags : (trimmedParts content.parts).map Part.isConditional =
        content.parts.map Part.isConditional := by
      rw [trimmedParts, map_isConditional_changeLast, map_isConditional_modifyHead]
    have within := parts_trimEdges_infix safe.filled
    exact List.IsChain.infix (safe.apart.of_map_isConditional flags) within

end ConditionalText

/-! ## Readers -/

namespace Reader

variable {reader after : Reader} {origin : Origin} {line : Line}

/-- What has been read is safe to cut, and so is what is still to become a part. -/
structure SafeToCut (reader : Reader) : Prop where
  files : ∀ file ∈ reader.files, file.content.SafeToCut
  expectations : ∀ content ∈ reader.expectations, content.SafeToCut
  content : reader.content.SafeToCut
  run : ∀ run ∈ reader.run, run.text.getLast? = some '\n'
  block : ∀ block ∈ reader.block, block.buffer.Cuttable ∧ reader.run = none
  settled : reader.Settled

theorem SafeToCut.start : SafeToCut {} where
  files := List.forall_mem_nil _
  expectations := nofun
  content := .empty
  run := nofun
  block := nofun
  settled := nofun

/-- A run becomes a part that is no neighbour of another one. -/
theorem SafeToCut.flushed (safe : reader.SafeToCut) : reader.flushed.content.SafeToCut := by
  unfold Reader.flushed
  cases run : reader.run with
  | none => exact safe.content
  | some buffer =>
      have closed : reader.block = none := by
        cases opened : reader.block with
        | none => rfl
        | some block => exact nomatch run.symm.trans (safe.block block opened).2
      exact safe.content.pushRun (safe.settled closed) (safe.run buffer run) buffer.span

/-- A section that ends is trimmed and recorded. -/
theorem SafeToCut.finished (safe : reader.SafeToCut) (closed : reader.block = none)
    (place : Section) : SafeToCut { reader.finished with place } where
  files := by
    have recorded := safe.flushed.trimEdges
    unfold Reader.finished
    cases reader.place with
    | file path span =>
        exact List.forall_mem_append.2 ⟨safe.files, List.forall_mem_singleton.2 recorded⟩
    | _ => exact safe.files
  expectations := by
    have recorded := safe.flushed.trimEdges
    unfold Reader.finished
    cases reader.place with
    | expectations =>
        intro content mem
        exact Option.some.inj mem ▸ recorded
    | _ => exact safe.expectations
  content := .empty
  run := nofun
  block block mem := nomatch closed.symm.trans mem
  settled := nofun

theorem SafeToCut.addText (safe : reader.SafeToCut) (closed : reader.block = none)
    {pieces : List Piece} {blank : Bool} {span : Span}
    (done : reader.addText origin pieces blank span = .ok after) : after.SafeToCut := by
  unfold Reader.addText at done
  split at done
  · obtain ⟨-, same⟩ := ite_eq_iff.1 done |>.resolve_right (by simp)
    exact Except.ok.inj same ▸ safe
  · obtain rfl := Except.ok.inj done
    refine ⟨safe.files, safe.expectations, safe.content, ?_, ?_, safe.settled⟩
    · intro run mem
      obtain rfl := Option.some.inj mem
      exact Buffer.getLast?_addLine _ _ _
    · exact fun block mem => nomatch closed.symm.trans mem

/-- **A line outside blocks leaves what has been read safe to cut.** -/
theorem SafeToCut.lineOutside (safe : reader.SafeToCut) (closed : reader.block = none)
    (done : reader.lineOutside origin line = .ok after) : after.SafeToCut := by
  unfold Reader.lineOutside at done
  cases directive : Directive.ofLine line.chars with
  | fileOpen path =>
      simp only [directive, bind_eq_ok_iff, finishSection_eq_ok_iff, pure, Except.pure,
        Except.ok.injEq] at done
      obtain ⟨_, ⟨-, -, rfl⟩, rfl⟩ := done
      exact safe.finished closed _
  | divider =>
      simp only [directive] at done
      split at done
      · exact nomatch done
      · simp only [bind_eq_ok_iff, finishSection_eq_ok_iff, pure, Except.pure,
          Except.ok.injEq] at done
        obtain ⟨_, ⟨-, -, rfl⟩, rfl⟩ := done
        exact safe.finished closed _
  | blockOpen label description =>
      simp only [directive, bind_eq_ok_iff, flushRun_eq_ok_iff, pure, Except.pure,
        Except.ok.injEq] at done
      obtain ⟨_, ⟨-, rfl⟩, -, -, rfl⟩ := done
      refine ⟨safe.files, safe.expectations, safe.flushed, nofun, ?_, nofun⟩
      intro block mem
      obtain rfl := Option.some.inj mem
      exact ⟨.empty _, rfl⟩
  | blockClose => simp [directive] at done
  | condition label words =>
      simp only [directive, bind_eq_ok_iff, flushRun_eq_ok_iff, piecesOf_eq_ok_iff,
        pushLabelled_eq_ok_iff] at done
      obtain ⟨_, ⟨-, rfl⟩, -, -, _, ⟨-, rfl⟩, -, rfl⟩ := done
      have cuttable := cuttable_conditionBuffer ⟨line.start, line.stop⟩ words
      exact ⟨safe.files, safe.expectations, safe.flushed.pushLabelled cuttable _ _ _, nofun,
        fun _ mem => (nomatch closed.symm.trans mem), settled_of_push rfl⟩
  | malformed => simp [directive] at done
  | title words =>
      simp only [directive] at done
      split at done
      · obtain rfl := Except.ok.inj done
        exact ⟨safe.files, safe.expectations, safe.content, safe.run, safe.block, safe.settled⟩
      · obtain ⟨_, -, done⟩ := exists_of_bind_ok done
        exact safe.addText closed done
  | text =>
      simp only [directive] at done
      obtain ⟨_, -, done⟩ := exists_of_bind_ok done
      exact safe.addText closed done

/-- **A line of a block leaves what has been read safe to cut.** -/
theorem SafeToCut.lineInside {block : OpenBlock} (safe : reader.SafeToCut)
    (opened : reader.block = some block)
    (done : reader.lineInside origin block line = .ok after) : after.SafeToCut := by
  obtain ⟨cuttable, ended⟩ := safe.block block opened
  by_cases close : Directive.ofLine line.chars = .blockClose
  · simp only [Reader.lineInside, close, pushLabelled_eq_ok_iff] at done
    obtain ⟨-, rfl⟩ := done
    refine ⟨safe.files, safe.expectations, safe.content.pushLabelled cuttable _ _ _, safe.run, ?_,
      settled_of_push rfl⟩
    exact fun other mem => absurd mem (Option.not_mem_none other)
  · rw [lineInside_body close] at done
    obtain ⟨pieces, -, done⟩ := exists_of_bind_ok done
    obtain rfl := Except.ok.inj done
    refine ⟨safe.files, safe.expectations, safe.content, safe.run, ?_, ?_⟩
    · intro other mem
      obtain rfl := Option.some.inj mem
      exact ⟨cuttable.addLine _ _, ended⟩
    · exact fun closed => absurd closed (Option.some_ne_none _)

theorem SafeToCut.next (safe : reader.SafeToCut) (done : reader.line origin line = .ok after) :
    after.SafeToCut := by
  unfold Reader.line at done
  cases opened : reader.block with
  | some block =>
      simp only [opened] at done
      exact safe.lineInside opened done
  | none =>
      simp only [opened] at done
      obtain ⟨outside, ran, done⟩ := exists_of_bind_ok done
      obtain rfl := Except.ok.inj done
      obtain ⟨files, expectations, content, run, block, settled⟩ := safe.lineOutside opened ran
      exact ⟨files, expectations, content, run, block, settled⟩

end Reader

/-! ## Documents -/

/-- The conditional texts of a document: the contents of its files, and its expectations. -/
def Document.texts (document : Document) : List ConditionalText :=
  document.files.map FileBlock.content ++ document.expectations.toList

/-- **Every text that can be read is safe to cut.** -/
theorem safeToCut_of_read {source text : String} {document : Document}
    (isRead : Document.read source text = .ok document) :
    ∀ content ∈ document.texts, content.SafeToCut := by
  obtain ⟨reader, lines, finished⟩ := exists_of_bind_ok isRead
  have safe : reader.SafeToCut :=
    foldlM_keeps (fun _ _ _ safe done => safe.next done) .start lines
  obtain ⟨ended, ends, done⟩ := exists_of_bind_ok finished
  obtain ⟨closed, -, rfl⟩ := Reader.finishSection_eq_ok_iff.1 ends
  obtain rfl := Except.ok.inj done
  have recorded := safe.finished closed .preamble
  rw [Document.texts, List.forall_mem_append, List.forall_mem_map]
  refine ⟨recorded.files, fun content mem => recorded.expectations content ?_⟩
  exact Option.mem_toList.1 mem

end Spec

end HotReload
