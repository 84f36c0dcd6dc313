import HotReload.Spec.Reader
import Mathlib.Data.List.Nodup

/-!
# What a spec that has been read records

A reader builds conditional text by adding parts at its end and by trimming the edges of a
section, and it admits markers only in parts of a label (`built_of_read`). Text that is built in
this way records the labels of its parts, each once, since trimming takes out parts that belong to
no label. So the expectations of every spec that can be read record all their labels
(`recorded_of_read`), and their unconditional parts have no markers.
-/

set_option autoImplicit false

namespace HotReload.Spec

open Text (Line)

variable {ε β γ σ : Type}

/-! ## Results that succeed -/

/-- A sequence succeeds when it does so step by step. -/
theorem bind_eq_ok_iff {first : Except ε β} {next : β → Except ε γ} {answer : γ} :
    first >>= next = .ok answer ↔ ∃ value, first = .ok value ∧ next value = .ok answer := by
  cases first with
  | error failure => exact ⟨(nomatch ·), fun ⟨_, failed, _⟩ => nomatch failed⟩
  | ok value =>
      exact ⟨fun done => ⟨value, rfl, done⟩,
        fun ⟨_, same, done⟩ => Except.ok.inj same ▸ done⟩

theorem exists_of_bind_ok {first : Except ε β} {next : β → Except ε γ} {answer : γ}
    (done : first >>= next = .ok answer) :
    ∃ value, first = .ok value ∧ next value = .ok answer :=
  bind_eq_ok_iff.1 done

/-- What every step keeps, a run through a list keeps. -/
theorem foldlM_keeps {step : σ → β → Except ε σ} {Holds : σ → Prop}
    (keeps : ∀ state item after, Holds state → step state item = .ok after → Holds after)
    {items : List β} {state after : σ} (holds : Holds state)
    (done : items.foldlM step state = .ok after) : Holds after := by
  induction items generalizing state with
  | nil =>
      obtain rfl := Except.ok.inj done
      exact holds
  | cons item rest ih =>
      rw [List.foldlM_cons] at done
      obtain ⟨middle, made, done⟩ := exists_of_bind_ok done
      exact ih (keeps state item middle holds made) done

/-! ## Recorded labels -/

/-- One more item is kept if it is new. -/
theorem eraseDups_concat [DecidableEq β] (items : List β) (item : β) :
    (items ++ [item]).eraseDups =
      if item ∈ items then items.eraseDups else items.eraseDups ++ [item] := by
  rw [List.eraseDups_append]
  by_cases old : item ∈ items
  · have none : [item].removeAll items = [] := by simpa [List.removeAll] using old
    rw [none, if_pos old, List.eraseDups_nil, List.append_nil]
  · have kept : [item].removeAll items = [item] := by simpa [List.removeAll] using old
    rw [kept, if_neg old]
    rfl

/-- The labels of the parts are recorded, each once. -/
structure ConditionalText.Recorded (content : ConditionalText) : Prop where
  apart : content.conditions.Nodup
  mentioned : ∀ part ∈ content.parts, ∀ label, part.condition = some label →
    label ∈ content.conditions

namespace ConditionalText

theorem Recorded.empty : Recorded {} :=
  ⟨List.nodup_nil, List.forall_mem_nil _⟩

theorem mention_eq (conditions : List Label) (label : Label) :
    mention conditions (some label) =
      if label ∈ conditions then conditions else conditions ++ [label] := rfl

theorem subset_mention (conditions : List Label) (condition : Option Label) :
    conditions ⊆ mention conditions condition := by
  cases condition with
  | none => exact List.Subset.refl _
  | some label =>
      rw [mention_eq]
      split
      · exact List.Subset.refl _
      · exact List.subset_append_left _ _

theorem mem_mention (conditions : List Label) (label : Label) :
    label ∈ mention conditions (some label) := by
  rw [mention_eq]
  split
  · assumption
  · exact List.mem_append_right _ (List.mem_singleton_self _)

theorem nodup_mention {conditions : List Label} (apart : conditions.Nodup)
    (condition : Option Label) : (mention conditions condition).Nodup := by
  cases condition with
  | none => exact apart
  | some label =>
      rw [mention_eq]
      split
      · exact apart
      · rename_i fresh
        exact List.Nodup.append apart (List.nodup_singleton _)
          (List.disjoint_singleton.2 fresh)

/-- A part that is added is recorded. -/
theorem Recorded.push {content : ConditionalText} (recorded : content.Recorded) (part : Part) :
    (content.push part).Recorded where
  apart := nodup_mention recorded.apart _
  mentioned other mem label condition := by
    rcases List.mem_append.1 mem with earlier | last
    · exact subset_mention _ _ (recorded.mentioned other earlier label condition)
    · obtain rfl := List.mem_singleton.1 last
      rw [ConditionalText.push, condition]
      exact mem_mention _ _

end ConditionalText

theorem Part.condition_mapUnconditional (f : List Char → List Char) (part : Part) :
    (part.mapUnconditional f).condition = part.condition := by
  rw [mapUnconditional]
  split <;> rfl

theorem mem_modifyHead {f : Part → Part} {parts : List Part} {part : Part}
    (mem : part ∈ parts.modifyHead f) : part ∈ parts ∨ ∃ old ∈ parts, part = f old := by
  cases parts with
  | nil => exact .inl mem
  | cons first rest =>
      rcases List.mem_cons.1 mem with rfl | later
      · exact .inr ⟨first, List.mem_cons_self, rfl⟩
      · exact .inl (List.mem_cons_of_mem _ later)

theorem mem_changeLast {f : Part → Part} {parts : List Part} {part : Part}
    (mem : part ∈ changeLast f parts) : part ∈ parts ∨ ∃ old ∈ parts, part = f old := by
  fun_induction changeLast f parts with
  | case1 => exact .inl mem
  | case2 only => exact .inr ⟨only, List.mem_cons_self, List.mem_singleton.1 mem⟩
  | case3 first rest _ ih =>
      rcases List.mem_cons.1 mem with rfl | later
      · exact .inl List.mem_cons_self
      · rcases ih later with there | ⟨old, there, rfl⟩
        · exact .inl (List.mem_cons_of_mem _ there)
        · exact .inr ⟨old, List.mem_cons_of_mem _ there, rfl⟩

theorem Part.exists_mapUnconditional (f : List Char → List Char) (part : Part) :
    ∃ text, part.mapUnconditional f = { part with text } := by
  rw [mapUnconditional]
  split <;> exact ⟨_, rfl⟩

/-- Trimming a section only changes texts and takes parts out. -/
theorem exists_of_mem_trimEdges {content : ConditionalText} {part : Part}
    (mem : part ∈ (trimEdges content).parts) :
    ∃ old ∈ content.parts, ∃ text, part = { old with text } := by
  rcases mem_changeLast (List.mem_filter.1 mem).1 with there | ⟨last, there, rfl⟩
  · rcases mem_modifyHead there with same | ⟨first, same, rfl⟩
    · exact ⟨part, same, part.text, rfl⟩
    · exact ⟨first, same, first.exists_mapUnconditional _⟩
  · obtain ⟨text, changed⟩ := last.exists_mapUnconditional dropTrailingBlankLines
    rcases mem_modifyHead there with same | ⟨first, same, rfl⟩
    · exact ⟨last, same, text, changed⟩
    · obtain ⟨earlier, same'⟩ := first.exists_mapUnconditional dropLeadingBlankLines
      exact ⟨first, same, text, by rw [changed, same']⟩

/-- Trimming a section keeps what is recorded. -/
theorem ConditionalText.Recorded.trimEdges {content : ConditionalText}
    (recorded : content.Recorded) : (trimEdges content).Recorded where
  apart := recorded.apart
  mentioned part mem label condition := by
    obtain ⟨old, there, text, rfl⟩ := exists_of_mem_trimEdges mem
    exact recorded.mentioned old there label condition

/-! ## How a reader builds text -/

namespace ConditionalText

/-- Conditional text as a reader builds it: part by part, with trimmed edges, and with markers in
parts of a label only. -/
inductive Built : ConditionalText → Prop
  | empty : Built {}
  | push {content : ConditionalText} {part : Part} (built : Built content)
      (unmarked : part.condition = none → part.markers = []) : Built (content.push part)
  | trim {content : ConditionalText} (built : Built content) : Built (trimEdges content)

variable {content : ConditionalText}

theorem Built.recorded (built : content.Built) : content.Recorded := by
  induction built with
  | empty => exact .empty
  | push _ _ ih => exact ih.push _
  | trim _ ih => exact ih.trimEdges

/-- Parts that belong to every update have no markers. -/
theorem Built.unmarked (built : content.Built) :
    ∀ part ∈ content.parts, part.condition = none → part.markers = [] := by
  induction built with
  | empty => exact List.forall_mem_nil _
  | push _ unmarked ih =>
      intro part mem
      rcases List.mem_append.1 mem with earlier | last
      · exact ih part earlier
      · obtain rfl := List.mem_singleton.1 last
        exact unmarked
  | trim _ ih =>
      intro part mem
      obtain ⟨old, there, text, rfl⟩ := exists_of_mem_trimEdges mem
      exact ih old there

end ConditionalText

namespace Reader

/-- What has been read is built so, in the present section and behind the divider. -/
def Built (reader : Reader) : Prop :=
  reader.content.Built ∧ ∀ expectations ∈ reader.expectations, expectations.Built

variable {reader after : Reader} {origin : Origin}

theorem Built.pushLabelled (built : reader.Built) {label : Label} {buffer : Buffer}
    {block : Bool} {description : Option String}
    (done : reader.pushLabelled origin label buffer block description = .ok after) :
    after.Built := by
  unfold Reader.pushLabelled at done
  dsimp only at done
  split at done
  · exact nomatch done
  · obtain rfl := Except.ok.inj done
    exact ⟨built.1.push nofun, built.2⟩

theorem Built.flushRun (built : reader.Built)
    (done : reader.flushRun origin = .ok after) : after.Built := by
  unfold Reader.flushRun at done
  split at done
  · obtain rfl := Except.ok.inj done
    exact built
  · split at done
    · exact nomatch done
    · exact nomatch done
    · obtain rfl := Except.ok.inj done
      exact ⟨built.1.push fun _ => rfl, built.2⟩

theorem Built.finishSection (built : reader.Built)
    (done : reader.finishSection origin = .ok after) : after.Built := by
  unfold Reader.finishSection at done
  split at done
  · exact nomatch done
  · obtain ⟨flushed, ran, done⟩ := exists_of_bind_ok done
    have whole := built.flushRun ran
    dsimp only at done
    split at done
    · obtain rfl := Except.ok.inj done
      exact ⟨.empty, whole.2⟩
    · obtain rfl := Except.ok.inj done
      exact ⟨.empty, whole.2⟩
    · obtain rfl := Except.ok.inj done
      refine ⟨.empty, fun expectations mem => ?_⟩
      obtain rfl := Option.mem_some_iff.1 mem
      exact whole.1.trim

theorem Built.addText (built : reader.Built) {pieces : List Piece} {blank : Bool}
    {span : Span} (done : reader.addText origin pieces blank span = .ok after) :
    after.Built := by
  unfold Reader.addText at done
  split at done
  · split at done
    · obtain rfl := Except.ok.inj done
      exact built
    · exact nomatch done
  · obtain rfl := Except.ok.inj done
    exact built

theorem Built.lineInside (built : reader.Built) {block : OpenBlock} {line : Line}
    (done : reader.lineInside origin block line = .ok after) : after.Built := by
  unfold Reader.lineInside at done
  split at done
  · have closed : Built { reader with block := none } := built
    exact closed.pushLabelled done
  · obtain ⟨pieces, -, done⟩ := exists_of_bind_ok done
    obtain rfl := Except.ok.inj done
    exact built

theorem Built.lineOutside (built : reader.Built) {line : Line}
    (done : reader.lineOutside origin line = .ok after) : after.Built := by
  unfold Reader.lineOutside at done
  dsimp only at done
  split at done
  · obtain ⟨finished, ended, done⟩ := exists_of_bind_ok done
    have whole := built.finishSection ended
    obtain rfl := Except.ok.inj done
    exact whole
  · split at done
    · exact nomatch done
    · obtain ⟨finished, ended, done⟩ := exists_of_bind_ok done
      have whole := built.finishSection ended
      obtain rfl := Except.ok.inj done
      exact whole
  · obtain ⟨flushed, ran, done⟩ := exists_of_bind_ok done
    obtain ⟨_, -, done⟩ := exists_of_bind_ok done
    have whole := built.flushRun ran
    obtain rfl := Except.ok.inj done
    exact whole
  · exact nomatch done
  · obtain ⟨flushed, ran, done⟩ := exists_of_bind_ok done
    obtain ⟨_, -, done⟩ := exists_of_bind_ok done
    obtain ⟨pieces, -, done⟩ := exists_of_bind_ok done
    exact (built.flushRun ran).pushLabelled done
  · exact nomatch done
  · split at done
    · obtain rfl := Except.ok.inj done
      exact built
    · obtain ⟨pieces, -, done⟩ := exists_of_bind_ok done
      exact built.addText done
  · obtain ⟨pieces, -, done⟩ := exists_of_bind_ok done
    exact built.addText done

theorem Built.line (built : reader.Built) {line : Line}
    (done : reader.line origin line = .ok after) : after.Built := by
  unfold Reader.line at done
  split at done
  · exact built.lineInside done
  · obtain ⟨outside, ran, done⟩ := exists_of_bind_ok done
    have whole := built.lineOutside ran
    obtain rfl := Except.ok.inj done
    exact whole

end Reader

/-- **The expectations of a spec that can be read are built by a reader.** -/
theorem built_of_read {source text : String} {document : Document}
    (isRead : Document.read source text = .ok document) :
    ∀ expectations ∈ document.expectations, expectations.Built := by
  obtain ⟨reader, lines, finished⟩ := exists_of_bind_ok isRead
  have start : Reader.Built {} := ⟨.empty, fun _ mem => nomatch mem⟩
  have whole : reader.Built :=
    foldlM_keeps (fun _ _ _ built done => built.line done) start lines
  obtain ⟨ended, ran, done⟩ := exists_of_bind_ok finished
  obtain rfl := Except.ok.inj done
  exact (whole.finishSection ran).2

/-- The expectations of a spec that can be read record all their labels. -/
theorem recorded_of_read {source text : String} {document : Document}
    (isRead : Document.read source text = .ok document) :
    ∀ expectations ∈ document.expectations, expectations.Recorded :=
  fun expectations mem => (built_of_read isRead expectations mem).recorded

/-- A spec that can be read as a test can be read. -/
theorem read_of_readTest {source text : String} {document : Document}
    (isRead : Document.readTest source text = .ok document) :
    Document.read source text = .ok document := by
  obtain ⟨other, read, titled⟩ := exists_of_bind_ok isRead
  dsimp only at titled
  split at titled
  · obtain rfl := Except.ok.inj titled
    exact read
  · exact nomatch titled

end HotReload.Spec
