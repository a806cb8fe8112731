import TemplateNav.Proofs.Lines.Offsets
import TemplateNav.Proofs.Navigation.Agreement
import TemplateNav.Session.Answer

/-!
# Answers in the numbers of a client

Every range in an answer covers a part of the document.  If the document has
fewer lines and columns than a client can count, the client therefore reads each
range as it was found, and the answer says exactly what navigation found.
-/

namespace TemplateNav

open Position (origin)

namespace Lines

/-- A client can count the lines and columns of the text. -/
structure FitsClient (text : Text) : Prop where
  lines : count text < UInt32.size
  columns : ∀ line ∈ raw text, Text.utf16Length line < UInt32.size

theorem FitsClient.toPosition_ofPosition {text cut : Text} (fits : FitsClient text)
    (inText : cut <+: text) :
    (ClientPosition.ofPosition (origin.after cut)).toPosition = origin.after cut := by
  obtain ⟨line, found, bound⟩ := exists_raw_of_isPrefix inText origin
  have column := fits.columns line (List.mem_of_getElem? found)
  have number := (List.getElem?_eq_some_iff.1 found).1
  apply ClientPosition.toPosition_ofPosition
  · rw [Position.line_after]
    simpa [origin] using Nat.lt_trans number fits.lines
  · apply Nat.lt_of_le_of_lt bound
    simpa [origin] using column

end Lines

/-- The range that a client means. -/
def ClientRange.toRange (range : ClientRange) : Range :=
  ⟨range.start.toPosition, range.stop.toPosition⟩

/-- A client reads the range of a part of the document as it is. -/
theorem Range.Covers.toRange_ofRange {range : Range} {text before part after : Text}
    (covers : range.Covers text before part after) (fits : Lines.FitsClient text) :
    (ClientRange.ofRange range).toRange = range := by
  have start : range.start = origin.after before := by
    rw [covers.start_eq, covers.split, List.append_assoc, Lines.positionOf_append]
  have stop : range.stop = origin.after (before ++ part) := by
    rw [covers.stop_eq, covers.split, Lines.positionOf_append]
  have startCut : before <+: text := ⟨part ++ after, by rw [covers.split, List.append_assoc]⟩
  have stopCut : before ++ part <+: text := ⟨after, covers.split.symm⟩
  rw [ClientRange.ofRange, ClientRange.toRange, start, stop, fits.toPosition_ofPosition startCut,
    fits.toPosition_ofPosition stopCut, ← start, ← stop]

/-- What navigation finds for a query, in the numbers of the document. -/
inductive Finding where
  | definition (range : Range)
  | hover (description : Hover)
  | highlights (marks : List Highlight)

namespace Finding

/-- The ranges of a finding. -/
def ranges : Finding → List Range
  | definition range => [range]
  | hover description => [description.range]
  | highlights marks => marks.map Highlight.range

/-- A finding as a client is told of it. -/
def told (uri : Uri) : Finding → Answer
  | definition range => .definition uri (.ofRange range)
  | hover description => .hover (.ofRange description.range) description.contents
  | highlights marks => .highlights (marks.map fun mark => (.ofRange mark.range, mark.kind))

end Finding

/-- The finding that a client reads from an answer. -/
def Answer.finding : Answer → Finding
  | definition _ range => .definition range.toRange
  | hover range contents => .hover ⟨range.toRange, contents⟩
  | highlights marks => .highlights (marks.map fun mark => ⟨mark.1.toRange, mark.2⟩)

theorem Finding.finding_told {finding : Finding} (uri : Uri)
    (exact : ∀ range ∈ finding.ranges, (ClientRange.ofRange range).toRange = range) :
    (finding.told uri).finding = finding := by
  cases finding with
  | definition range => simpa [told, Answer.finding, ranges] using exact
  | hover description =>
    have same : (ClientRange.ofRange description.range).toRange = description.range := by
      simpa [ranges] using exact
    simp [told, Answer.finding, same]
  | highlights marks =>
    simp only [told, Answer.finding, List.map_map, Finding.highlights.injEq]
    rw [List.map_congr_left (g := id)]
    · exact List.map_id marks
    · intro mark member
      have same := exact mark.range (List.mem_map_of_mem member)
      simp [same]

namespace Highlight

theorem mem_of_mem_positions {symbol : Symbol} {position : Position}
    (member : position ∈ positions symbol) :
    position ∈ symbol.references ∨ position = symbol.position := by
  unfold positions at member
  split at member
  · exact .inl member
  · simpa using member

/-- Every marked place of a symbol is a place where its name stands. -/
theorem covers_of_mem_ofSymbol {text : Text} {symbol : Symbol} {mark : Highlight}
    (reads : ∀ position ∈ positions symbol, Lines.ReadsAt text position symbol.name)
    (valid : Identifier.isValid symbol.name = true) (member : mark ∈ ofSymbol symbol) :
    ∃ before after, mark.range.Covers text before symbol.name after := by
  obtain ⟨start, listed, rfl⟩ := List.mem_map.1 member
  have place := reads start (List.mem_mergeSort.1 listed)
  exact place.exists_covers (Identifier.not_mem_of_isValid valid)

end Highlight

namespace Analysis

/-- What navigation finds for a query; nothing where the cursor points at no symbol. -/
def finding? (analysis : Analysis) (text : Text) (query : Query) : Option Finding :=
  let position := query.position.toPosition
  match query.kind with
  | .definition => (analysis.definition? text position).map .definition
  | .hover => (analysis.hover? text position).map .hover
  | .highlight =>
    match analysis.highlights text position with
    | [] => none
    | marks => some (.highlights marks)

theorem answer?_eq_map_told (analysis : Analysis) (text : Text) (query : Query) :
    analysis.answer? text query = (analysis.finding? text query).map (Finding.told query.uri) := by
  simp only [answer?, finding?]
  cases query.kind with
  | definition => simp [Finding.told, Function.comp_def]
  | hover => simp [Finding.told, Function.comp_def]
  | highlight =>
    simp only
    cases analysis.highlights text query.position.toPosition with
    | nil => rfl
    | cons mark rest => rfl

/-- The name of a symbol at a cursor stands at each of its marked places. -/
theorem covers_of_mem_highlights {text : Text} {position : Position} {mark : Highlight}
    (member : mark ∈ (ofText text).highlights text position) :
    ∃ before part after, mark.range.Covers text before part after := by
  unfold highlights at member
  split at member
  · cases member
  · next symbol range found =>
    obtain ⟨_, _, _, _, _, _, first, _⟩ := symbolAt?_eq_some found
    obtain ⟨original, recognized, _, _, grown⟩ := first?_ofText first
    have declared := Symbol.declaredIn_of_mem_recognize recognized
    have name : symbol.name = original.name := by rw [grown.same]
    have declaration : symbol.position = original.position := by rw [grown.same]
    have reads : ∀ place ∈ Highlight.positions symbol, Lines.ReadsAt text place symbol.name := by
      intro place listed
      rw [name]
      rcases Highlight.mem_of_mem_positions listed with reference | rfl
      · rcases grown.used place reference with own | recorded
        · rw [declared.references_eq, List.mem_singleton] at own
          exact own ▸ declared.reads
        · exact SymbolIndex.readsAt_of_mem_usages recorded
      · exact declaration ▸ declared.reads
    obtain ⟨before, after, covers⟩ :=
      Highlight.covers_of_mem_ofSymbol reads (name ▸ declared.valid) member
    exact ⟨before, _, after, covers⟩

theorem covers_of_mem_ranges {text : Text} {query : Query} {finding : Finding} {range : Range}
    (found : (ofText text).finding? text query = some finding) (member : range ∈ finding.ranges) :
    ∃ before part after, range.Covers text before part after := by
  simp only [finding?] at found
  split at found
  · obtain ⟨definition, defined, rfl⟩ := Option.map_eq_some_iff.1 found
    obtain rfl : range = definition := by simpa [Finding.ranges] using member
    simp only [definition?, Option.bind_eq_bind, Option.bind_eq_some_iff] at defined
    obtain ⟨⟨symbol, word⟩, pointed, same⟩ := defined
    obtain rfl := Option.some.inj same
    obtain ⟨_, _, _, resolved⟩ := resolution_of_symbolAt? pointed
    obtain ⟨left, right, covers⟩ := resolved.declared
    exact ⟨left, _, right, covers⟩
  · obtain ⟨description, described, rfl⟩ := Option.map_eq_some_iff.1 found
    obtain rfl : range = description.range := by simpa [Finding.ranges] using member
    simp only [hover?, Option.bind_eq_bind, Option.bind_eq_some_iff] at described
    obtain ⟨⟨symbol, word⟩, pointed, same⟩ := described
    obtain rfl := Option.some.inj same
    obtain ⟨before, _, after, resolved⟩ := resolution_of_symbolAt? pointed
    exact ⟨before, _, after, resolved.described⟩
  · split at found
    · cases found
    · obtain rfl := Option.some.inj found
      obtain ⟨mark, marked, rfl⟩ := List.mem_map.1 member
      exact covers_of_mem_highlights marked

/-- A client whose numbers reach to the ends of the document reads from the answer exactly what was
found. -/
theorem map_finding_answer? {text : Text} (fits : Lines.FitsClient text) (query : Query) :
    ((ofText text).answer? text query).map Answer.finding = (ofText text).finding? text query := by
  rw [answer?_eq_map_told]
  cases found : (ofText text).finding? text query with
  | none => rfl
  | some finding =>
    have exact : ∀ range ∈ finding.ranges, (ClientRange.ofRange range).toRange = range := by
      intro range member
      obtain ⟨before, part, after, covers⟩ := covers_of_mem_ranges found member
      exact covers.toRange_ofRange fits
    simp [Finding.finding_told query.uri exact]

end Analysis

end TemplateNav
