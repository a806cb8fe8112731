import TemplateNav.Navigation.Highlight
import TemplateNav.Navigation.Hover
import TemplateNav.Proofs.Symbol.FirstDeclaration
import TemplateNav.Proofs.Symbol.Placement

/-!
# The three answers about a cursor agree

Definition, hover text and highlights all come from the symbol a cursor points
at, so they are given together.  The word that is described is a whole run of
identifier characters within one fragment, the definition is a place where that
word stands, the earliest at which it is declared, and the one highlight that
writes marks the same place.
-/

namespace TemplateNav

open Position (origin)

/-- `range` is the place of `part` in `text`, between `before` and `after`. -/
structure Range.Covers (range : Range) (text before part after : Text) : Prop where
  split : text = before ++ part ++ after
  start_eq : range.start = Lines.positionOf text (Text.utf8Length before)
  stop_eq : range.stop = Lines.positionOf text (Text.utf8Length (before ++ part))

theorem Range.covers_ofLength {before part after : Text} (single : '\n' ∉ part) :
    (Range.ofLength (origin.after before) (Text.utf16Length part)).Covers
      (before ++ part ++ after) before part after where
  split := rfl
  start_eq := by
    rw [List.append_assoc, Lines.positionOf_append]
    rfl
  stop_eq := by
    rw [Lines.positionOf_append, Position.after_append, Position.after_eq_advancedBy single]
    rfl

theorem Lines.ReadsAt.exists_covers {text part : Text} {position : Position}
    (reads : Lines.ReadsAt text position part) (single : '\n' ∉ part) :
    ∃ before after,
      (Range.ofLength position (Text.utf16Length part)).Covers text before part after := by
  obtain ⟨before, after, rfl, rfl⟩ := reads
  rw [List.append_assoc, Lines.positionOf_append, ← List.append_assoc]
  exact ⟨before, after, Range.covers_ofLength single⟩

namespace Word

/-- `word` is a whole run of identifier characters between `before` and `after`. -/
structure IsRun (before word after : Text) : Prop where
  nonempty : word ≠ []
  parts : ∀ c ∈ word, Identifier.isPart c = true
  left : ∀ c ∈ before.getLast?, Identifier.isPart c = false
  right : ∀ c ∈ after.head?, Identifier.isPart c = false

/-- A run that meets a part of the text with no identifier characters around it lies within that
part. -/
theorem IsRun.within {text before content after lead word rest : Text} {cut : Nat}
    (run : IsRun lead word rest) (split : text = before ++ content ++ after)
    (runSplit : text = lead ++ word ++ rest)
    (leftEdge : ∀ c ∈ before.getLast?, Identifier.isPart c = false)
    (rightEdge : ∀ c ∈ after.head?, Identifier.isPart c = false)
    (inRun : lead.length ≤ cut ∧ cut ≤ (lead ++ word).length)
    (inPart : before.length ≤ cut ∧ cut ≤ (before ++ content).length) :
    before.length ≤ lead.length ∧ (lead ++ word).length ≤ (before ++ content).length := by
  have whole := split.symm.trans runSplit
  constructor
  · apply Nat.le_of_not_lt
    intro shorter
    -- The last character before the part would belong to the run.
    have leadInText : lead <+: text := ⟨word ++ rest, by rw [runSplit, List.append_assoc]⟩
    obtain ⟨passed, rfl⟩ : lead <+: before :=
      List.prefix_of_prefix_length_le leadInText
        ⟨content ++ after, by rw [split, List.append_assoc]⟩ (Nat.le_of_lt shorter)
    have passedInRun : passed <+: word ++ rest := ⟨content ++ after, by simpa using whole⟩
    obtain ⟨later, rfl⟩ : passed <+: word := by
      apply List.prefix_of_prefix_length_le passedInRun (List.prefix_append _ _)
      simp only [List.length_append] at inRun inPart
      omega
    have nonempty : passed ≠ [] := by
      rintro rfl
      simp at shorter
    obtain ⟨c, last⟩ : ∃ c, passed.getLast? = some c :=
      ⟨_, List.getLast?_eq_some_getLast nonempty⟩
    have outside := leftEdge c (by rw [List.getLast?_append, last]; rfl)
    have inside := run.parts c (List.mem_append_left _ (List.mem_of_getLast? last))
    exact absurd inside (by simp [outside])
  · apply Nat.le_of_not_lt
    intro longer
    -- The first character behind the part would belong to the run.
    obtain ⟨passed, same⟩ : before ++ content <+: lead ++ word :=
      List.prefix_of_prefix_length_le ⟨after, split.symm⟩ ⟨rest, runSplit.symm⟩
        (Nat.le_of_lt longer)
    have nonempty : passed ≠ [] := by
      rintro rfl
      rw [List.append_nil] at same
      rw [same] at longer
      exact Nat.lt_irrefl _ longer
    obtain ⟨c, beyond, rfl⟩ := List.exists_cons_of_ne_nil nonempty
    have follows : after = c :: beyond ++ rest := by
      rwa [← same, List.append_assoc (before ++ content), List.append_cancel_left_eq] at whole
    have outside := rightEdge c (by simp [follows])
    have member : c ∈ word := by
      rcases List.append_eq_append_iff.1 same with ⟨front, rfl, rest_eq⟩ | ⟨front, _, word_eq⟩
      · simp only [List.length_append] at inRun inPart
        obtain rfl : front = [] := List.length_eq_zero_iff.1 (by omega)
        rw [List.nil_append] at rest_eq
        exact rest_eq ▸ List.mem_cons_self
      · exact word_eq ▸ List.mem_append_right _ List.mem_cons_self
    exact absurd (run.parts c member) (by simp [outside])

/-- The run around a cut is split by it, and no identifier character stands next to the run. -/
theorem exists_append_around (before after : Text) :
    ∃ left right, before = (around before after).1 ++ left ∧
      after = right ++ (around before after).2.2 ∧ (around before after).2.1 = left ++ right ∧
      (∀ c ∈ left ++ right, Identifier.isPart c = true) ∧
      (∀ c ∈ (around before after).1.getLast?, Identifier.isPart c = false) ∧
      ∀ c ∈ (around before after).2.2.head?, Identifier.isPart c = false := by
  refine ⟨(before.reverse.takeWhile Identifier.isPart).reverse, after.takeWhile Identifier.isPart,
    ?_, ?_, rfl, ?_, ?_, ?_⟩
  · rw [around, ← List.reverse_append, List.takeWhile_append_dropWhile, List.reverse_reverse]
  · exact List.takeWhile_append_dropWhile.symm
  · intro c member
    rcases List.mem_append.1 member with left | right
    · exact List.all_eq_true.1 List.all_takeWhile c (List.mem_reverse.1 left)
    · exact List.all_eq_true.1 List.all_takeWhile c right
  · intro c last
    have first := List.head?_dropWhile_not Identifier.isPart before.reverse
    rw [around, List.getLast?_reverse, Option.mem_def] at last
    rw [last] at first
    simpa using first
  · intro c member
    have first := List.head?_dropWhile_not Identifier.isPart after
    rw [around, Option.mem_def] at member
    rw [member] at first
    simpa using first

/-- The word at a cursor is a run around the cut at which the cursor stands in its line. -/
theorem exists_isRun_of_at? {text : Text} {position : Position} {word : Word}
    (found : at? text position = some word) :
    ∃ front line back, Lines.LineAt text position.line front line back ∧
      ∃ lead rest, word.range.Covers text lead word.text rest ∧ IsRun lead word.text rest ∧
        lead.length ≤ (front ++ (Text.splitAtUnit position.character line).1).length ∧
        (front ++ (Text.splitAtUnit position.character line).1).length ≤
          (lead ++ word.text).length := by
  simp only [at?, Option.bind_eq_bind, Option.bind_eq_some_iff] at found
  obtain ⟨line, stored, found⟩ := found
  obtain ⟨front, back, here⟩ := Lines.exists_lineAt_of_text? stored
  have pieces := Text.splitAtUnit_append position.character line
  refine ⟨front, line, back, here, ?_⟩
  generalize (Text.splitAtUnit position.character line) = cut at found pieces
  obtain ⟨before, after⟩ := cut
  obtain ⟨left, right, before_eq, after_eq, run_eq, parts, leftEdge, rightEdge⟩ :=
    exists_append_around before after
  generalize around before after = split at found before_eq after_eq run_eq leftEdge rightEdge
  obtain ⟨outside, run, behind⟩ := split
  simp only at before_eq after_eq run_eq leftEdge rightEdge pieces found ⊢
  subst before_eq after_eq run_eq pieces
  split at found
  · cases found
  · next nonempty =>
    obtain rfl := Option.some.inj found
    have reshaped :
        outside ++ left ++ (right ++ behind) = outside ++ (left ++ right ++ behind) := by
      simp
    rw [reshaped] at here
    have single : '\n' ∉ left ++ right := fun newline =>
      absurd (parts _ newline) (by decide)
    refine ⟨front ++ outside, behind ++ back, ?_, ⟨by simpa using nonempty, parts, ?_, ?_⟩,
      by simp, by simp⟩
    · have whole : text = front ++ outside ++ (left ++ right) ++ (behind ++ back) := by
        rw [here.split]
        simp
      rw [← here.origin_after_append, whole]
      exact Range.covers_ofLength single
    · exact Text.EndsApart.append here.endsApart_before leftEdge
    · exact Text.StartsApart.append rightEdge here.startsApart_after

end Word

namespace Highlight

/-- The only place that writes a symbol is its declaration, if no reference is listed twice. -/
theorem filter_write_ofSymbol {symbol : Symbol} (declared : symbol.position ∈ symbol.references)
    (distinct : symbol.references.Nodup) :
    (ofSymbol symbol).filter (fun mark => mark.kind = .write) = [⟨symbol.range, .write⟩] := by
  have sorted : (positions symbol).mergeSort (fun first second => decide (first ≤ second)) |>.Perm
      symbol.references := by
    rw [positions, if_pos (List.contains_iff_mem.2 declared)]
    exact List.mergeSort_perm _ _
  have once : ((positions symbol).mergeSort fun first second => decide (first ≤ second)).filter
      (· == symbol.position) = [symbol.position] := by
    rw [List.filter_beq, sorted.count_eq, distinct.count, if_pos declared, List.replicate_one]
  have kinds : (fun mark : Highlight => decide (mark.kind = .write)) ∘ (fun start : Position =>
      (⟨Range.ofLength start (Text.utf16Length symbol.name),
        if start = symbol.position then .write else .read⟩ : Highlight)) =
      (· == symbol.position) := by
    funext start
    by_cases same : start = symbol.position
    · simp [same]
    · simp [same]
  rw [ofSymbol, List.filter_map, kinds, once, List.map_singleton, if_pos rfl]
  rfl

theorem ofSymbol_ne_nil (symbol : Symbol) : ofSymbol symbol ≠ [] := by
  have listed : positions symbol ≠ [] := by
    unfold positions
    split
    · next member =>
      intro empty
      rw [empty] at member
      cases member
    · simp
  intro empty
  rw [ofSymbol, List.map_eq_nil_iff, ← List.length_eq_zero_iff, List.length_mergeSort,
    List.length_eq_zero_iff] at empty
  exact listed empty

end Highlight

namespace Analysis

/-- What the answers about a cursor say about the document `text`: the word under the cursor is
`word`, between `before` and `after`. -/
structure Resolution (text : Text) (definition : Range) (hover : Hover) (marks : List Highlight)
    (before word after : Text) : Prop where
  described : hover.range.Covers text before word after
  run : Word.IsRun before word after
  inFragment : ∃ fragment ∈ Fragment.extract text, fragment.offset ≤ Text.utf8Length before ∧
    Text.utf8Length (before ++ word) ≤ fragment.offset + Text.utf8Length fragment.content
  valid : Identifier.isValid word = true
  declared : ∃ left right, definition.Covers text left word right
  recognized : ∃ symbol ∈ Symbol.recognize (Fragment.extract text),
    symbol.name = word ∧ symbol.position = definition.start
  earliest : ∀ symbol ∈ Symbol.recognize (Fragment.extract text),
    symbol.name = word → definition.start ≤ symbol.position
  written : marks.filter (fun mark => mark.kind = .write) = [⟨definition, .write⟩]

theorem symbolAt?_eq_some {analysis : Analysis} {text : Text} {position : Position}
    {symbol : Symbol} {range : Range}
    (found : analysis.symbolAt? text position = some (symbol, range)) :
    ∃ fragment ∈ analysis.fragments, fragment.contains position = true ∧
      ∃ word, Word.at? text position = some word ∧ Identifier.isValid word.text = true ∧
        analysis.index.first? word.text = some symbol ∧ word.range = range := by
  simp only [symbolAt?, Option.bind_eq_bind, Option.bind_eq_some_iff] at found
  obtain ⟨fragment, touched, word, read, found⟩ := found
  split at found
  · cases found
  · next valid =>
    obtain ⟨first, named, same⟩ := Option.bind_eq_some_iff.1 found
    obtain ⟨rfl, rfl⟩ := Prod.mk.inj (Option.some.inj same)
    unfold Fragment.at? at touched
    have inside := List.find?_some touched
    exact ⟨fragment, List.mem_of_find?_eq_some touched, inside, word, read, by simpa using valid,
      named, rfl⟩

/-- The symbol a cursor points at is the earliest of its name, with usages added. -/
theorem first?_ofText {text name : Text} {symbol : Symbol}
    (found : (ofText text).index.first? name = some symbol) :
    ∃ original ∈ Symbol.recognize (Fragment.extract text), original.name = name ∧
      (∀ other ∈ Symbol.recognize (Fragment.extract text), other.name = name →
        original.position ≤ other.position) ∧
      SymbolIndex.Extends (SymbolIndex.usages (Fragment.extract text)) original symbol := by
  obtain ⟨original, first, grown⟩ := SymbolIndex.exists_extends_of_trackReferences found
  obtain ⟨member, named, earliest⟩ := SymbolIndex.first?_build first
  exact ⟨original, member, named, earliest, grown⟩

theorem resolution_of_symbolAt? {text : Text} {position : Position} {symbol : Symbol}
    {range : Range} (found : (ofText text).symbolAt? text position = some (symbol, range)) :
    ∃ before word after, Resolution text symbol.range ⟨range, Hover.describe symbol⟩
      (Highlight.ofSymbol symbol) before word after := by
  obtain ⟨fragment, extracted, touched, word, read, valid, first, rfl⟩ := symbolAt?_eq_some found
  obtain ⟨original, member, named, earliest, grown⟩ := first?_ofText first
  have declared := Symbol.declaredIn_of_mem_recognize member
  have place : symbol.position = original.position := by rw [grown.same]
  have name : symbol.name = word.text := by rw [grown.same]; exact named
  obtain ⟨front, line, back, here, lead, rest, covers, run, afterLead, beforeRest⟩ :=
    Word.exists_isRun_of_at? read
  obtain ⟨outside, beyond, placed⟩ := Fragment.exists_placedIn_of_mem_extract extracted
  obtain ⟨fromStart, toStop⟩ := run.within placed.split covers.split placed.isPart_last_before
    placed.isPart_head_after ⟨afterLead, beforeRest⟩ (placed.cut_within touched here)
  refine ⟨lead, word.text, rest, covers, run, ⟨fragment, extracted, ?_, ?_⟩, valid, ?_,
    ⟨original, member, named, place.symm⟩, ?_, ?_⟩
  · have leadInText : lead <+: text :=
      ⟨word.text ++ rest, by rw [covers.split, List.append_assoc]⟩
    obtain ⟨between, rfl⟩ : outside <+: lead :=
      List.prefix_of_prefix_length_le
        ⟨fragment.content ++ beyond, by rw [placed.split, List.append_assoc]⟩ leadInText fromStart
    rw [placed.offset_eq, Text.utf8Length_append]
    exact Nat.le_add_right _ _
  · have runInText : lead ++ word.text <+: text := ⟨rest, covers.split.symm⟩
    obtain ⟨between, same⟩ : lead ++ word.text <+: outside ++ fragment.content :=
      List.prefix_of_prefix_length_le runInText ⟨beyond, placed.split.symm⟩ toStop
    rw [placed.offset_eq, ← Text.utf8Length_append, ← same, Text.utf8Length_append _ between]
    exact Nat.le_add_right _ _
  · rw [Symbol.range, place, name, ← named]
    exact declared.reads.exists_covers (Identifier.not_mem_of_isValid declared.valid)
  · intro other recognized sameName
    rw [Symbol.range, Range.ofLength, place]
    exact earliest other recognized sameName
  · apply Highlight.filter_write_ofSymbol
    · rw [place]
      exact grown.kept _ (by simp [declared.references_eq])
    · exact grown.nodup (by simp [declared.references_eq])

/-- The three answers about a cursor are given together, and then describe one word within a
fragment, its earliest declaration, and that declaration as the only place that writes. -/
theorem navigation_agrees (text : Text) (position : Position) :
    (((ofText text).definition? text position).isSome ↔
      ((ofText text).hover? text position).isSome) ∧
    (((ofText text).hover? text position).isSome ↔
      (ofText text).highlights text position ≠ []) ∧
    ∀ definition hover, (ofText text).definition? text position = some definition →
      (ofText text).hover? text position = some hover →
      ∃ before word after, Resolution text definition hover
        ((ofText text).highlights text position) before word after := by
  unfold definition? hover? highlights
  cases found : (ofText text).symbolAt? text position with
  | none => simp
  | some pointed =>
    obtain ⟨symbol, range⟩ := pointed
    refine ⟨by simp, by simp [Highlight.ofSymbol_ne_nil], ?_⟩
    intro definition hover defined hovered
    obtain rfl : symbol.range = definition := by simpa using defined
    obtain rfl : (⟨range, Hover.describe symbol⟩ : Hover) = hover := by simpa using hovered
    exact resolution_of_symbolAt? found

/-- A cursor far behind the end of a line, in a fragment of two lines, with a character of two code
units before the tag. -/
theorem navigation_agrees_behind_line_end :
    let text := ['😀', '<', '%', 'a', '=', '>', 'a', '\r', '\n', ';', '%', '>']
    let definition : Range := ⟨⟨0, 4⟩, ⟨0, 5⟩⟩
    let hover : Hover := ⟨⟨⟨0, 7⟩, ⟨0, 8⟩⟩,
      "**a** (parameter)\n\nDeclared on line 1\n\nDeclaration: parameter\n\nScope: function"⟩
    (ofText text).definition? text ⟨0, 99⟩ = some definition ∧
      (ofText text).hover? text ⟨0, 99⟩ = some hover ∧
      ∃ before word after, Resolution text definition hover
        ((ofText text).highlights text ⟨0, 99⟩) before word after := by
  intro text definition hover
  have defined : (ofText text).definition? text ⟨0, 99⟩ = some definition := by decide +kernel
  have hovered : (ofText text).hover? text ⟨0, 99⟩ = some hover := by decide +kernel
  exact ⟨defined, hovered, (navigation_agrees text ⟨0, 99⟩).2.2 definition hover defined hovered⟩

end Analysis

end TemplateNav
