import HotReload.Proofs.KeptLines

/-!
# Expectations behind a second divider

A document has one place for its expectations, and a section of expectations that ends takes
this place from the one before it. The reader only refuses a divider inside the expectations,
so a file block in between hides the first divider. Which expectations are lost follows from
the sections: two neighbouring sections are never both expectations, so behind the first of them
there is nothing or a file block. Nothing is lost exactly when behind such a file block there is
neither a divider nor a condition (`nothing_lost_iff`).
-/

set_option autoImplicit false

namespace HotReload.Spec

open Text (Line)

variable {lines front back own : List Line} {line : Line} {opened : Option Label}

/-! ## Lines outside blocks -/

/-- The lines outside blocks. The line that opens a block is outside, the line that closes it
inside. -/
def outsideFrom (opened : Option Label) : List Line → List Line
  | [] => []
  | line :: rest =>
    if opened.isSome then outsideFrom (openedAfter opened line) rest
    else line :: outsideFrom (openedAfter opened line) rest

/-- The lines of a text outside blocks. -/
def outside (lines : List Line) : List Line :=
  outsideFrom none lines

/-- The condition that begins on a line outside blocks, with whether it is a block. -/
def conditionOf? (line : Line) : Option (Label × Bool) :=
  match Directive.ofLine line.chars with
  | .blockOpen label _ => some (⟨String.ofList label⟩, true)
  | .condition label _ => some (⟨String.ofList label⟩, false)
  | _ => none

/-- The lines outside blocks from the first divider on. -/
def behindDivider (lines : List Line) : List Line :=
  (outside lines).dropWhile fun line => !isDivider line

/-- A part of the expectations is the condition that begins on a line. -/
def Expects (document : Document) (line : Line) (label : Label) (block : Bool) : Prop :=
  ∃ expectations ∈ document.expectations, ∃ part ∈ expectations.parts,
    part.condition = some label ∧ part.block = some block ∧ part.span.start = line.start

/-- No expectation is lost to a second divider. -/
structure NothingLost (lines : List Line) (document : Document) : Prop where
  /-- At most one line outside blocks is a divider. -/
  single : (outside lines).countP isDivider ≤ 1
  /-- Every condition behind the divider is a part of the expectations. -/
  kept : ∀ line ∈ behindDivider lines, ∀ label block, conditionOf? line = some (label, block) →
    Expects document line label block

theorem outsideFrom_append (opened : Option Label) (front back : List Line) :
    outsideFrom opened (front ++ back) =
      outsideFrom opened front ++ outsideFrom (front.foldl openedAfter opened) back := by
  induction front generalizing opened with
  | nil => rfl
  | cons line front ih =>
      rw [List.cons_append, outsideFrom, outsideFrom, ih]
      split <;> rfl

theorem outside_concat :
    outside (lines ++ [line]) =
      outside lines ++ if (openedBehind lines).isSome then [] else [line] := by
  rw [outside, outsideFrom_append]
  simp only [outsideFrom]
  rfl

theorem outsideFrom_sublist (opened : Option Label) (lines : List Line) :
    (outsideFrom opened lines).Sublist lines := by
  induction lines generalizing opened with
  | nil => exact List.Sublist.refl _
  | cons line lines ih =>
      rw [outsideFrom]
      split
      · exact (ih _).cons line
      · exact (ih _).cons_cons line

/-- The conditions that lines bring begin on their lines outside blocks. -/
theorem opens_mem_items_iff {start : Nat} {label : Label} {block : Bool} :
    .opens start label block ∈ items opened lines ↔
      ∃ line ∈ outsideFrom opened lines, line.start = start ∧
        conditionOf? line = some (label, block) := by
  induction lines generalizing opened with
  | nil => simp [items, outsideFrom]
  | cons line lines ih =>
      rw [items, List.mem_append, ih, outsideFrom]
      cases opened with
      | some inside =>
          have none : .opens start label block ∉ lineItems (some inside) line := by
            unfold lineItems
            cases Directive.ofLine line.chars <;> simp
          simp [none]
      | none =>
          have here : .opens start label block ∈ lineItems none line ↔
              line.start = start ∧ conditionOf? line = some (label, block) := by
            unfold lineItems conditionOf?
            cases Directive.ofLine line.chars with
            | condition words text => cases text <;> simp [eq_comm]
            | _ => simp [eq_comm]
          simp [here]

/-! ## Section by section -/

/-- The lines of a section outside blocks. -/
def SourceSection.outside (source : SourceSection) : List Line :=
  source.opening :: Spec.outside source.lines

/-- How the sections of a text lie in it. -/
structure Laid (lines : List Line) : Prop where
  whole : ∃ front, outside lines = front ++ (sections lines).flatMap SourceSection.outside ∧
    ∀ line ∈ front, (isFileOpen line || isDivider line) = false
  marked : ∀ source ∈ sections lines,
    (isFileOpen source.opening || isDivider source.opening) = true ∧
      ∀ line ∈ outside source.lines, (isFileOpen line || isDivider line) = false
  first : (layout lines).present = none → (layout lines).past = []
  present : ∀ source ∈ (layout lines).present, openedBehind source.lines = openedBehind lines ∧
    (source.isExpectations = true → (spotBehind lines).region = .expectations)

theorem inside_spotBehind (lines : List Line) :
    (spotBehind lines).inside = (openedBehind lines).isSome := by
  induction lines using List.reverseRecOn with
  | nil => rfl
  | append_singleton lines line ih =>
      rw [spotBehind_append, openedBehind_append]
      unfold Spot.behind openedAfter
      cases opened : openedBehind lines <;> rw [opened] at ih <;>
        cases Directive.ofLine line.chars <;> simp_all

theorem region_behind_of_stays {spot : Spot} (stays : opensSection spot line = false) :
    (spot.behind line).region = spot.region := by
  unfold Spot.behind
  cases inside : spot.inside <;> cases directive : Directive.ofLine line.chars <;>
    simp_all [opensSection, isFileOpen, isDivider]

/-- A line that stays in its section opens none. -/
theorem plain_of_stays (stays : opensSection (spotBehind lines) line = false) :
    ∀ other ∈ (if (openedBehind lines).isSome then [] else [line]),
      (isFileOpen other || isDivider other) = false := by
  intro other mem
  rw [opensSection, inside_spotBehind] at stays
  cases opened : (openedBehind lines).isSome <;> simp_all

theorem Laid.opens (laid : Laid lines) (begins : opensSection (spotBehind lines) line = true) :
    Laid (lines ++ [line]) := by
  obtain ⟨front, whole, plain⟩ := laid.whole
  rw [opensSection, Bool.and_eq_true, Bool.not_eq_true'] at begins
  obtain ⟨free, marked⟩ := begins
  have begins : opensSection (spotBehind lines) line = true := by
    simpa [opensSection, free] using marked
  have closed : openedBehind lines = none := by
    simpa [inside_spotBehind] using free
  have all : sections (lines ++ [line]) = sections lines ++ [{ opening := line }] := by
    rw [sections, layout_of_opens begins]
    rfl
  constructor
  · refine ⟨front, ?_, plain⟩
    rw [outside_concat, whole, all, List.flatMap_append, closed, List.append_assoc]
    rfl
  · intro source mem
    rw [all] at mem
    rcases List.mem_append.1 mem with earlier | last
    · exact laid.marked source earlier
    · obtain rfl := List.mem_singleton.1 last
      exact ⟨marked, by simp [outside, outsideFrom]⟩
  · rw [layout_of_opens begins]
    intro none
    simp at none
  · rw [layout_of_opens begins]
    intro source mem
    obtain rfl := Option.some.inj mem
    rw [openedBehind_append, closed]
    unfold SourceSection.isExpectations
    rw [spotBehind_append]
    cases directive : Directive.ofLine line.chars <;>
      simp_all [isFileOpen, isDivider, openedBehind, openedAfter, Spot.behind]

theorem Laid.stays (laid : Laid lines) (stays : opensSection (spotBehind lines) line = false) :
    Laid (lines ++ [line]) := by
  obtain ⟨front, whole, plain⟩ := laid.whole
  have unmarked := plain_of_stays stays
  cases shape : (layout lines).present with
  | none =>
      -- in the preamble there are no sections
      have none := laid.first shape
      have all : sections (lines ++ [line]) = [] := by
        rw [sections, layout_of_stays stays, none, shape]
        rfl
      have before : sections lines = [] := by rw [sections, none, shape]; rfl
      constructor
      · refine ⟨front ++ if (openedBehind lines).isSome then [] else [line], ?_, ?_⟩
        · rw [outside_concat, whole, before, all]
          simp
        · intro other mem
          rcases List.mem_append.1 mem with earlier | last
          · exact plain other earlier
          · exact unmarked other last
      · simp [all]
      · intro _
        rw [layout_of_stays stays]
        exact none
      · rw [layout_of_stays stays, shape]
        simp
  | some source =>
      obtain ⟨same, region⟩ := laid.present source shape
      have before : sections lines = (layout lines).past ++ [source] := by
        rw [sections, shape]
        rfl
      have all : sections (lines ++ [line]) =
          (layout lines).past ++ [{ source with lines := source.lines ++ [line] }] := by
        rw [sections, layout_of_stays stays, shape]
        rfl
      constructor
      · refine ⟨front, ?_, plain⟩
        rw [outside_concat, whole, before, all, List.flatMap_append, List.flatMap_append,
          List.flatMap_singleton, List.flatMap_singleton, SourceSection.outside,
          SourceSection.outside, outside_concat, same]
        simp
      · intro other mem
        rw [all] at mem
        rcases List.mem_append.1 mem with earlier | last
        · exact laid.marked other (before ▸ List.mem_append_left _ earlier)
        · obtain rfl := List.mem_singleton.1 last
          obtain ⟨marked, inner⟩ := laid.marked source
            (before ▸ List.mem_append_right _ (List.mem_singleton_self _))
          refine ⟨marked, fun other mem => ?_⟩
          rw [outside_concat, same] at mem
          rcases List.mem_append.1 mem with earlier | last
          · exact inner other earlier
          · exact unmarked other last
      · rw [layout_of_stays stays, shape]
        intro none
        simp at none
      · rw [layout_of_stays stays, shape]
        intro other mem
        obtain rfl := Option.some.inj mem
        rw [spotBehind_append, region_behind_of_stays stays, openedBehind_append,
          openedBehind_append, same]
        exact ⟨rfl, region⟩

/-- **A text is laid out in its sections.** -/
theorem laid (lines : List Line) : Laid lines := by
  induction lines using List.reverseRecOn with
  | nil => exact ⟨⟨[], rfl, by simp⟩, by simp [sections, layout], fun _ => rfl, by simp [layout]⟩
  | append_singleton lines line ih =>
      cases begins : opensSection (spotBehind lines) line with
      | true => exact ih.opens begins
      | false => exact ih.stays begins

/-- The present section is the last one. -/
theorem Laid.present_of_getLast? (laid : Laid lines) {source : SourceSection}
    (last : source ∈ (sections lines).getLast?) : source ∈ (layout lines).present := by
  unfold sections at last
  cases shape : (layout lines).present with
  | none => simp [shape, laid.first shape] at last
  | some other => simpa [shape] using last

/-- **Two neighbouring sections are not both expectations**, since in the expectations no divider
fits. -/
theorem sections_apart {lines : List Line}
    (fits : ∀ front line back, lines = front ++ line :: back → Fits front line) :
    (sections lines).IsChain fun first second =>
      first.isExpectations = true → second.isExpectations = false := by
  induction lines using List.reverseRecOn with
  | nil => simp [sections, layout]
  | append_singleton lines line ih =>
      have before := ih fun front other back split =>
        fits front other (back ++ [line]) (by rw [split]; simp)
      cases begins : opensSection (spotBehind lines) line with
      | true =>
          rw [sections, layout_of_opens begins]
          refine List.isChain_append.2 ⟨before, List.isChain_singleton _, ?_⟩
          intro source last next mem
          obtain rfl := Option.some.inj mem
          intro expectations
          have free : (spotBehind lines).inside = false := by
            rw [opensSection, Bool.and_eq_true, Bool.not_eq_true'] at begins
            exact begins.1
          have region := ((laid lines).present source
            ((laid lines).present_of_getLast? last)).2 expectations
          simpa [SourceSection.isExpectations, isDivider] using
            (fits lines line [] rfl).divider free region
      | false =>
          rw [sections, layout_of_stays begins]
          unfold sections at before
          cases shape : (layout lines).present with
          | none => simpa [shape] using before
          | some source =>
              rw [shape] at before
              obtain ⟨past, -, apart⟩ := List.isChain_append.1 before
              refine List.isChain_append.2 ⟨past, List.isChain_singleton _, ?_⟩
              intro other last next mem
              obtain rfl := Option.some.inj mem
              exact apart other last source rfl

/-! ## Conditions of a section -/

theorem opens_notMem_of_blank {start : Nat} {label : Label} {block : Bool}
    (blank : blankLine line = true) : .opens start label block ∉ lineItems opened line := by
  cases opened <;> simp [lineItems, ofLine_of_allBlank blank]

/-- Dropping blank lines drops no condition. -/
theorem opens_mem_trimBlank_iff {start : Nat} {label : Label} {block : Bool} :
    .opens start label block ∈ items none (trimBlank lines) ↔
      .opens start label block ∈ items none lines := by
  have behind (lines : List Line) : .opens start label block ∈
      items none (lines.rdropWhile blankLine) ↔ .opens start label block ∈ items none lines := by
    induction lines using List.reverseRecOn with
    | nil => rfl
    | append_singleton lines line ih =>
        cases blank : blankLine line with
        | true =>
            rw [List.rdropWhile_concat_pos _ _ _ blank, ih, items_concat, List.mem_append,
              or_iff_left (opens_notMem_of_blank blank)]
        | false => rw [List.rdropWhile_concat_neg _ _ _ (by simp [blank])]
  have inFront (lines : List Line) : .opens start label block ∈
      items none (lines.dropWhile blankLine) ↔ .opens start label block ∈ items none lines := by
    induction lines with
    | nil => rfl
    | cons line lines ih =>
        cases blank : blankLine line with
        | true =>
            rw [List.dropWhile_cons_of_pos blank, ih, items, List.mem_append,
              openedAfter_of_blank blank, or_iff_right (opens_notMem_of_blank blank)]
        | false => rw [List.dropWhile_cons_of_neg (by simp [blank])]
  rw [trimBlank, behind, inFront]

theorem Part.opens_mem_items_iff {part : Part} {start : Nat} {label : Label} {block : Bool} :
    .opens start label block ∈ part.items ↔
      part.condition = some label ∧ part.block = some block ∧ part.span.start = start := by
  unfold Part.items
  cases part.condition <;> cases part.block <;> simp
  constructor
  · rintro ⟨rfl, rfl, rfl⟩
    exact ⟨rfl, rfl, rfl⟩
  · rintro ⟨rfl, rfl, rfl⟩
    exact ⟨rfl, rfl, rfl⟩

/-- The conditions among the parts are those that begin outside the blocks of the section. -/
theorem ConditionalText.Keeps.exists_part_iff {content : ConditionalText}
    (keeps : content.Keeps own) {start : Nat} {label : Label} {block : Bool} :
    (∃ part ∈ content.parts,
        part.condition = some label ∧ part.block = some block ∧ part.span.start = start) ↔
      ∃ line ∈ outside own, line.start = start ∧ conditionOf? line = some (label, block) := by
  rw [outside, ← opens_mem_items_iff, ← opens_mem_trimBlank_iff, ← keeps.items, List.mem_flatMap]
  simp only [Part.opens_mem_items_iff]

/-- A condition is a part of the expectations when a line of their section begins it. -/
theorem ConditionalText.Keeps.expects_iff {content : ConditionalText} (keeps : content.Keeps own)
    {document : Document} (recorded : document.expectations = some content) {label : Label}
    {block : Bool} :
    Expects document line label block ↔
      ∃ other ∈ outside own,
        other.start = line.start ∧ conditionOf? other = some (label, block) := by
  rw [← keeps.exists_part_iff, Expects, recorded]
  simp

/-! ## What is lost -/

/-- The lines of a text that has been read fit. -/
theorem fits_of_read {source text : String} {document : Document}
    (isRead : Document.read source text = .ok document) :
    ∀ front line back, Text.lines text.toList = front ++ line :: back → Fits front line := by
  obtain ⟨reader, ran, finished⟩ := exists_of_bind_ok isRead
  obtain ⟨-, clean⟩ := Reader.exists_finish_iff.1 ⟨document, finished⟩
  have taken := Reader.exists_lines_iff ⟨.parse, some source⟩ (Text.lines text.toList)
    Reader.At.start
  simpa using (taken.1 ⟨reader, ran, clean⟩).2

/-- Behind a file block that stands behind a divider there is neither a divider nor a
condition. -/
def Undisturbed (lines : List Line) : Prop :=
  ∀ line ∈ (behindDivider lines).dropWhile fun line => !isFileOpen line,
    isDivider line = false ∧ conditionOf? line = none

theorem countP_behindDivider (lines : List Line) :
    (outside lines).countP isDivider = (behindDivider lines).countP isDivider := by
  have front : ((outside lines).takeWhile fun line => !isDivider line).countP isDivider = 0 := by
    rw [List.countP_eq_zero]
    intro line mem
    simpa using List.mem_takeWhile_imp mem
  have whole := List.takeWhile_append_dropWhile (p := fun line => !isDivider line)
    (l := outside lines)
  rw [← whole, List.countP_append, front, Nat.zero_add]
  rfl

/-- Inside a section no line opens another one. -/
theorem Laid.inner (laid : Laid lines) {source : SourceSection} (among : source ∈ sections lines) :
    ∀ line ∈ outside source.lines, isFileOpen line = false ∧ isDivider line = false :=
  fun line mem => Bool.or_eq_false_iff.1 ((laid.marked source among).2 line mem)

theorem Laid.isDivider_of_file (laid : Laid lines) {source : SourceSection}
    (among : source ∈ sections lines) (file : source.isExpectations = false) :
    ∀ line ∈ source.outside, isDivider line = false := by
  intro line mem
  rcases List.mem_cons.1 mem with rfl | mem
  · exact file
  · exact (laid.inner among line mem).2

/-- The first expectations of a text and the sections behind them. -/
structure FirstExpectations (lines : List Line) (first : SourceSection)
    (back : List SourceSection) : Prop where
  split : ∃ front, sections lines = front ++ first :: back ∧
    ∀ source ∈ front, source.isExpectations = false
  isExpectations : first.isExpectations = true

theorem exists_firstExpectations (lines : List Line) :
    (∀ source ∈ sections lines, source.isExpectations = false) ∨
      ∃ first back, FirstExpectations lines first back := by
  cases found : (sections lines).find? SourceSection.isExpectations with
  | none => exact .inl fun source mem => by simpa using List.find?_eq_none.1 found source mem
  | some first =>
      obtain ⟨expectations, front, back, split, files⟩ := List.find?_eq_some_iff_append.1 found
      exact .inr ⟨first, back, ⟨front, split, by simpa using files⟩, expectations⟩

theorem FirstExpectations.mem {first : SourceSection} {back : List SourceSection}
    (begins : FirstExpectations lines first back) : first ∈ sections lines := by
  obtain ⟨front, split, -⟩ := begins.split
  rw [split]
  simp

theorem FirstExpectations.divider {first : SourceSection} {back : List SourceSection}
    (begins : FirstExpectations lines first back) :
    Directive.ofLine first.opening.chars = .divider := by
  simpa [SourceSection.isExpectations, isDivider] using begins.isExpectations

/-- Without expectations there is no divider. -/
theorem Laid.behindDivider_eq_nil (laid : Laid lines)
    (files : ∀ source ∈ sections lines, source.isExpectations = false) :
    behindDivider lines = [] := by
  obtain ⟨preamble, whole, plain⟩ := laid.whole
  rw [behindDivider, List.dropWhile_eq_nil_iff, whole]
  intro line mem
  rcases List.mem_append.1 mem with there | there
  · simp [(Bool.or_eq_false_iff.1 (plain line there)).2]
  · obtain ⟨source, among, there⟩ := List.mem_flatMap.1 there
    simp [laid.isDivider_of_file among (files source among) line there]

section First

variable {first : SourceSection} {back : List SourceSection} (laid : Laid lines)
  (begins : FirstExpectations lines first back)
include laid begins

/-- The first divider opens the first expectations. -/
theorem Laid.behindDivider_eq :
    behindDivider lines = first.outside ++ back.flatMap SourceSection.outside := by
  obtain ⟨front, split, files⟩ := begins.split
  obtain ⟨preamble, whole, plain⟩ := laid.whole
  have skipped : ∀ line ∈ preamble ++ front.flatMap SourceSection.outside,
      (!isDivider line) = true := by
    intro line mem
    rcases List.mem_append.1 mem with there | there
    · simp [(Bool.or_eq_false_iff.1 (plain line there)).2]
    · obtain ⟨source, among, there⟩ := List.mem_flatMap.1 there
      have listed : source ∈ sections lines := split ▸ List.mem_append_left _ among
      simp [laid.isDivider_of_file listed (files source among) line there]
  have divider : isDivider first.opening = true := begins.isExpectations
  rw [behindDivider, whole, split, List.flatMap_append, ← List.append_assoc,
    List.dropWhile_append_of_pos skipped, List.flatMap_cons]
  simp [SourceSection.outside, divider]

/-- The other dividers stand behind the first expectations. -/
theorem Laid.countP_isDivider :
    (outside lines).countP isDivider =
      (back.flatMap SourceSection.outside).countP isDivider + 1 := by
  have divider : isDivider first.opening = true := begins.isExpectations
  have inner : (outside first.lines).countP isDivider = 0 := by
    rw [List.countP_eq_zero]
    intro line mem
    simp [(laid.inner begins.mem line mem).2]
  rw [countP_behindDivider, laid.behindDivider_eq begins, List.countP_append,
    SourceSection.outside, List.countP_cons_of_pos divider, inner]
  omega

/-- Behind the first expectations stands a file block, if anything. -/
theorem Laid.behindFile_eq
    (apart : (sections lines).IsChain fun first second =>
      first.isExpectations = true → second.isExpectations = false) :
    (behindDivider lines).dropWhile (fun line => !isFileOpen line) =
      back.flatMap SourceSection.outside := by
  have skipped : ∀ line ∈ first.outside, (!isFileOpen line) = true := by
    intro line mem
    rcases List.mem_cons.1 mem with rfl | mem
    · simp [isFileOpen, begins.divider]
    · simp [(laid.inner begins.mem line mem).1]
  rw [laid.behindDivider_eq begins, List.dropWhile_append_of_pos skipped]
  obtain ⟨front, split, -⟩ := begins.split
  cases back with
  | nil => rfl
  | cons next back =>
      rw [split] at apart
      have other : isDivider next.opening = false :=
        (List.isChain_cons_cons.1 (List.isChain_append.1 apart).2.1).1 begins.isExpectations
      have opens := (laid.marked next (split ▸ by simp)).1
      rw [other, Bool.or_false] at opens
      simp [SourceSection.outside, opens]

/-- At most one line is a divider when there is none behind the first expectations. -/
theorem Laid.single_iff :
    (outside lines).countP isDivider ≤ 1 ↔
      ∀ line ∈ back.flatMap SourceSection.outside, isDivider line = false := by
  rw [laid.countP_isDivider begins, Nat.add_one_le_iff, Nat.lt_one_iff,
    List.countP_eq_zero]
  simp only [Bool.not_eq_true]

/-- The lines behind the first expectations begin behind its lines. -/
theorem Laid.start_lt
    (ordered : lines.Pairwise fun first second => first.start < second.start) {other : Line}
    (here : line ∈ outside first.lines) (there : other ∈ back.flatMap SourceSection.outside) :
    line.start < other.start := by
  have behind : (behindDivider lines).Pairwise fun first second => first.start < second.start :=
    (ordered.sublist (outsideFrom_sublist none lines)).sublist (List.dropWhile_sublist _)
  rw [laid.behindDivider_eq begins] at behind
  exact (List.pairwise_append.1 behind).2.2 line (List.mem_cons_of_mem _ here) other there

end First

/-- Without a second divider the expectations are those behind the first one. -/
theorem KeptSections.keeps_first {files : List FileBlock} {expectations : Option ConditionalText}
    (kept : KeptSections files expectations (sections lines)) {first : SourceSection}
    {back : List SourceSection} (begins : FirstExpectations lines first back)
    (single : ∀ line ∈ back.flatMap SourceSection.outside, isDivider line = false) :
    ∃ content ∈ expectations, content.Keeps first.lines := by
  obtain ⟨front, split, others⟩ := begins.split
  have last : ((sections lines).filter SourceSection.isExpectations).getLast? = some first := by
    have noneBehind : back.filter SourceSection.isExpectations = [] := by
      rw [List.filter_eq_nil_iff]
      intro source mem
      have free := single source.opening (List.mem_flatMap.2 ⟨source, mem, List.mem_cons_self⟩)
      simpa [SourceSection.isExpectations] using free
    have noneInFront : front.filter SourceSection.isExpectations = [] := by
      rw [List.filter_eq_nil_iff]
      intro source mem
      simpa using others source mem
    simp [split, noneBehind, noneInFront, begins.isExpectations]
  have recorded := kept.expectations
  rw [last] at recorded
  cases recorded with
  | some keeps => exact ⟨_, rfl, keeps⟩

/-- **Nothing is lost exactly when a file block behind a divider has neither a divider nor a
condition behind it.** -/
theorem nothing_lost_iff {source text : String} {document : Document}
    (isRead : Document.read source text = .ok document) :
    NothingLost (Text.lines text.toList) document ↔ Undisturbed (Text.lines text.toList) := by
  have laid := laid (Text.lines text.toList)
  have kept : KeptSections document.files document.expectations
      (sections (Text.lines text.toList)) := by
    obtain ⟨reader, stands, closed, clean, files, expectations⟩ := exists_stands_of_read isRead
    rw [files, expectations]
    exact stands.finished closed clean
  rcases exists_firstExpectations (Text.lines text.toList) with files | ⟨first, back, begins⟩
  · have none := laid.behindDivider_eq_nil files
    constructor
    · intro _ line mem
      rw [none] at mem
      exact absurd mem List.not_mem_nil
    · intro _
      exact ⟨by rw [countP_behindDivider, none]; exact Nat.zero_le 1, by simp [none]⟩
  · have behind := laid.behindDivider_eq begins
    have later := laid.behindFile_eq begins (sections_apart (fits_of_read isRead))
    constructor
    · -- a second divider would be counted, and a condition would have to be in the first section
      intro nothing
      have single := (laid.single_iff begins).1 nothing.single
      obtain ⟨content, recorded, keeps⟩ := kept.keeps_first begins single
      intro line mem
      rw [later] at mem
      refine ⟨single line mem, ?_⟩
      cases condition : conditionOf? line with
      | none => rfl
      | some found =>
          have expected := nothing.kept line (behind ▸ List.mem_append_right _ mem) _ _ condition
          obtain ⟨earlier, here, start, -⟩ := (keeps.expects_iff recorded).1 expected
          have := laid.start_lt begins (Text.pairwise_start_linesFrom 0 text.toList) here mem
          omega
    · intro undisturbed
      rw [Undisturbed, later] at undisturbed
      have single := fun line mem => (undisturbed line mem).1
      obtain ⟨content, recorded, keeps⟩ := kept.keeps_first begins single
      refine ⟨(laid.single_iff begins).2 single, fun line mem label block condition => ?_⟩
      rw [behind] at mem
      rcases List.mem_append.1 mem with here | there
      · rcases List.mem_cons.1 here with rfl | here
        · simp [conditionOf?, begins.divider] at condition
        · exact (keeps.expects_iff recorded).2 ⟨line, here, rfl, condition⟩
      · rw [(undisturbed line there).2] at condition
        simp at condition

/-- A text with a divider, and with another one in a block. -/
def plainSource : String := "---- f ----\n****\nx\n::0:: d\n****\n::\n"

/-- The second divider is text of the block. -/
def plainDocument : Document where
  files := [⟨"f", {}, ⟨0, 11⟩⟩]
  expectations := some {
    parts := [
      .unconditional "x\n" ⟨17, 18⟩,
      { condition := some ⟨"0"⟩, text := "****\n", block := some true, markers := [],
        description := some "d", span := ⟨19, 31⟩ }]
    conditions := [⟨"0"⟩] }

theorem nothing_lost_plainSource :
    Document.read "input" plainSource = .ok plainDocument ∧
      NothingLost (Text.lines plainSource.toList) plainDocument := by
  have isRead : Document.read "input" plainSource = .ok plainDocument := by rfl
  have undisturbed : Undisturbed (Text.lines plainSource.toList) := by
    unfold Undisturbed
    decide
  exact ⟨isRead, (nothing_lost_iff isRead).2 undisturbed⟩

/-- A text whose second divider stands behind a file block. -/
def lostSource : String := "****\n::0 a\n---- f ----\n****\n::1 b\n"

/-- It is accepted without the condition behind its first divider. -/
def lostDocument : Document where
  files := [⟨"f", {}, ⟨11, 22⟩⟩]
  expectations := some {
    parts := [
      { condition := some ⟨"1"⟩, text := "b\n", block := some false, markers := [],
        description := none, span := ⟨28, 33⟩ }]
    conditions := [⟨"1"⟩] }

theorem lost_to_second_divider :
    Document.read "input" lostSource = .ok lostDocument ∧
      ¬ NothingLost (Text.lines lostSource.toList) lostDocument ∧
      ∃ line ∈ behindDivider (Text.lines lostSource.toList),
        conditionOf? line = some (⟨"0"⟩, false) ∧ ¬ Expects lostDocument line ⟨"0"⟩ false := by
  refine ⟨by rfl, fun nothing => ?_, ⟨5, "::0 a".toList⟩, by decide, by decide, ?_⟩
  · have two : (outside (Text.lines lostSource.toList)).countP isDivider = 2 := by decide
    have single := nothing.single
    omega
  · rintro ⟨expectations, recorded, part, mem, condition, -⟩
    obtain rfl := Option.some.inj recorded
    obtain rfl := List.mem_singleton.1 mem
    exact absurd condition (by decide)

end HotReload.Spec
