import TemplateNav.Proofs.Navigation.Places

/-!
# Highlights are complete and exact

The first symbol of a name collects the positions of all usages of the name,
behind its own declaration and each once, however many overlapping fragments show
a usage.  The later symbols of the name collect nothing.  The marked places of a
cursor are the collected positions in reading order; at each of them the name
stands as a whole word, so no two of them overlap or touch.
-/

namespace TemplateNav

open Position (origin)

/-- A whole word ends before any other whole word that starts behind its start. -/
theorem Fragment.WordAt.stop_lt {text word other before after left right : Text}
    {position later : Position} (found : WordAt text position word before after)
    (valid : Identifier.isValid word = true) (second : WordAt text later other left right)
    (order : position < later) : position.advancedBy (Text.utf16Length word) < later := by
  intro reached
  rw [found.stop_eq valid, second.position_eq] at reached
  have firstCut : before <+: text := ⟨word ++ after, by rw [found.split, List.append_assoc]⟩
  have secondCut : left <+: text := ⟨other ++ right, by rw [second.split, List.append_assoc]⟩
  have notBehind :=
    Position.length_le_of_after_le origin secondCut ⟨after, found.split.symm⟩ reached
  have notBefore : before.length ≤ left.length := by
    apply Position.length_le_of_after_le origin firstCut secondCut
    rw [← found.position_eq, ← second.position_eq]
    exact Position.le_of_lt order
  obtain ⟨inside, rfl⟩ := List.prefix_of_prefix_length_le firstCut secondCut notBefore
  obtain ⟨beyond, rfl⟩ : inside <+: word := by
    have start : before ++ inside <+: before ++ word :=
      List.prefix_of_prefix_length_le secondCut ⟨after, found.split.symm⟩ notBehind
    exact (List.prefix_append_right_inj before).1 start
  -- The second word would start within the first one, behind one of its characters.
  have nonempty : inside ≠ [] := by
    rintro rfl
    rw [List.append_nil] at second
    exact order (.inr (by rw [found.position_eq, second.position_eq]; simp))
  have last := List.getLast?_eq_some_getLast nonempty
  have apart := second.endsApart.right _ last
  rw [Identifier.isPart_of_isValid valid _ (List.mem_append_left _ (List.getLast_mem nonempty))]
    at apart
  cases apart

namespace SymbolIndex

/-- A name is used at a position: a usage of it on a content line of a fragment stands there. -/
def IsUsedAt (fragments : List Fragment) (name : Text) (position : Position) : Prop :=
  ∃ fragment ∈ fragments, ∃ index line, (index, line) ∈ fragment.lines ∧
    ∃ occurrence ∈ Occurrence.ofLine line, occurrence.name = name ∧
      fragment.positionInLine index line occurrence.column = position

theorem mem_usages_iff {fragments : List Fragment} {name : Text} {position : Position} :
    (name, position) ∈ usages fragments ↔ IsUsedAt fragments name position := by
  simp [usages, IsUsedAt]

end SymbolIndex

namespace Highlight

/-- The mark at a position where a symbol is used. -/
def markOf (symbol : Symbol) (start : Position) : Highlight :=
  ⟨Range.ofLength start (Text.utf16Length symbol.name),
    if start = symbol.position then .write else .read⟩

/-- `marks` are the places of a symbol in reading order, one for each of its references and apart
from each other. -/
structure MarksOf (symbol : Symbol) (marks : List Highlight) : Prop where
  exists_starts : ∃ starts : List Position, marks = starts.map (markOf symbol) ∧
    (∀ position, position ∈ starts ↔ position ∈ symbol.references) ∧ starts.Pairwise (· < ·)
  apart : marks.Pairwise fun first second => first.range.stop < second.range.start

/-- The marked places of a symbol are its references, if its declaration is among these and none is
listed twice. -/
theorem marksOf_ofSymbol {symbol : Symbol} (declared : symbol.position ∈ symbol.references)
    (distinct : symbol.references.Nodup)
    (apart : ∀ first ∈ symbol.references, ∀ second ∈ symbol.references, first < second →
      first.advancedBy (Text.utf16Length symbol.name) < second) :
    MarksOf symbol (ofSymbol symbol) := by
  let starts := symbol.references.mergeSort fun first second => decide (first ≤ second)
  have listed : positions symbol = symbol.references :=
    if_pos (List.contains_iff_mem.2 declared)
  have marks : ofSymbol symbol = starts.map (markOf symbol) := by
    rw [ofSymbol, listed]
    rfl
  have sorted : starts.Pairwise fun first second => decide (first ≤ second) = true :=
    List.pairwise_mergeSort (by simpa using fun _ _ _ => Position.le_trans)
      (by simpa using Position.le_total) _
  have increasing : starts.Pairwise (· < ·) :=
    (sorted.and ((List.mergeSort_perm _ _).nodup_iff.2 distinct)).imp fun order =>
      Position.lt_of_le_of_ne (of_decide_eq_true order.1) order.2
  refine ⟨⟨starts, marks, fun _ => List.mem_mergeSort, increasing⟩, ?_⟩
  rw [marks, List.pairwise_map]
  refine increasing.imp_of_mem ?_
  intro first second firstListed secondListed order
  exact apart first (List.mem_mergeSort.1 firstListed) second (List.mem_mergeSort.1 secondListed)
    order

end Highlight

namespace Analysis

/-- A cursor leads to the first symbol of a name. -/
theorem first?_of_symbolAt? {analysis : Analysis} {text : Text} {cursor : Position}
    {symbol : Symbol} {range : Range}
    (found : analysis.symbolAt? text cursor = some (symbol, range)) :
    analysis.index.first? symbol.name = some symbol := by
  obtain ⟨_, _, _, word, _, _, first, _⟩ := symbolAt?_eq_some found
  unfold SymbolIndex.first? at first ⊢
  have named := List.find?_some first
  rw [beq_iff_eq.1 named]
  exact first

/-- A bucket is an extended symbol and later ones, all of which were recognized. -/
theorem exists_bucket_ofText {text name : Text} {first : Symbol} {later : List Symbol}
    (bucket : (ofText text).index.bucket name = first :: later) :
    (∃ original, Symbol.DeclaredIn text original ∧
      SymbolIndex.Extends (SymbolIndex.usages (Fragment.extract text)) original first) ∧
    ∀ symbol ∈ later, Symbol.DeclaredIn text symbol := by
  obtain ⟨original, split, grown⟩ := SymbolIndex.exists_extends_of_bucket bucket
  have declared : ∀ symbol ∈ original :: later, Symbol.DeclaredIn text symbol := by
    intro symbol member
    rw [← split] at member
    exact Symbol.declaredIn_of_mem_recognize (List.mem_mergeSort.1 (List.mem_filter.1 member).1)
  exact ⟨⟨original, declared original List.mem_cons_self, grown⟩,
    fun symbol member => declared symbol (List.mem_cons_of_mem _ member)⟩

/-- The first symbol of a name has its declaration and all usages of the name as references, each
once and the declaration first; the later symbols have their declarations only; and every cursor
that leads to the name marks the references of the first symbol. -/
theorem highlights_complete {text name : Text}
    (declared : (ofText text).index.bucket name ≠ []) :
    ∃ first later, (ofText text).index.bucket name = first :: later ∧ first.name = name ∧
      first.references.Nodup ∧ first.references.head? = some first.position ∧
      (∀ position, position ∈ first.references ↔
        position = first.position ∨ SymbolIndex.IsUsedAt (Fragment.extract text) name position) ∧
      (∀ symbol ∈ later, symbol.references = [symbol.position]) ∧
      ∀ cursor symbol range, (ofText text).symbolAt? text cursor = some (symbol, range) →
        symbol.name = name →
        Highlight.MarksOf first ((ofText text).highlights text cursor) := by
  obtain ⟨first, later, bucket⟩ := List.exists_cons_of_ne_nil declared
  obtain ⟨⟨original, origin, grown⟩, others⟩ := exists_bucket_ofText bucket
  have named := SymbolIndex.name_of_bucket bucket
  have name_eq : original.name = name := by rw [← named, grown.same]
  have position_eq : original.position = first.position := by rw [grown.same]
  have own : original.references = [first.position] := by rw [origin.references_eq, position_eq]
  have distinct := grown.nodup (by simp [own])
  have begins : first.references.head? = some first.position := by
    obtain ⟨more, split⟩ := grown.begins
    rw [← split, own]
    rfl
  refine ⟨first, later, bucket, named, distinct, begins, ?_, fun symbol member =>
    (others symbol member).references_eq, ?_⟩
  · intro position
    rw [grown.mem_iff, own, List.mem_singleton, name_eq, SymbolIndex.mem_usages_iff]
  · intro cursor symbol range pointed same
    have leads : (ofText text).index.first? name = some symbol := same ▸ first?_of_symbolAt? pointed
    rw [← SymbolIndex.head?_bucket, bucket, List.head?_cons] at leads
    obtain rfl := Option.some.inj leads
    have marks : (ofText text).highlights text cursor = Highlight.ofSymbol first := by
      rw [highlights, pointed]
    rw [marks]
    refine Highlight.marksOf_ofSymbol (List.mem_of_mem_head? begins) distinct ?_
    intro start listed other listedToo order
    have head : ((ofText text).index.bucket name).head? = some first := by
      rw [bucket, List.head?_cons]
    obtain ⟨valid, _, _, _, word⟩ := (IsPlaceOf.reference head listed).exists_wordAt
    obtain ⟨_, _, _, _, otherWord⟩ := (IsPlaceOf.reference head listedToo).exists_wordAt
    rw [named]
    exact word.stop_lt valid otherWord order

/-- A declaration and a usage that two overlapping fragments show, and a cursor right behind the
usage. -/
theorem highlights_complete_of_overlap :
    let text : Text := ['<', '%', '=', 'b', '<', '%', 'a', '=', '>', 'a', '%', '>']
    let symbol : Symbol := ⟨['a'], .parameter, .parameter, some .function, ⟨0, 6⟩,
      [⟨0, 6⟩, ⟨0, 9⟩], none⟩
    (ofText text).index.bucket ['a'] = [symbol] ∧
      (∀ position, position ∈ symbol.references ↔ position = symbol.position ∨
        SymbolIndex.IsUsedAt (Fragment.extract text) ['a'] position) ∧
      (ofText text).symbolAt? text ⟨0, 10⟩ = some (symbol, ⟨⟨0, 9⟩, ⟨0, 10⟩⟩) ∧
      Highlight.MarksOf symbol ((ofText text).highlights text ⟨0, 10⟩) := by
  intro text symbol
  have fragments : Fragment.extract text =
      [⟨['b', '<', '%', 'a', '=', '>', 'a'], ⟨0, 3⟩, ⟨0, 10⟩, .output, 3⟩,
        ⟨['a', '=', '>', 'a'], ⟨0, 6⟩, ⟨0, 10⟩, .scriptlet, 6⟩] :=
    List.mergeSort_of_pairwise (by decide +kernel)
  have bucket : (ofText text).index.bucket ['a'] = [symbol] := by
    simp only [ofText, fragments]
    decide +kernel
  have pointed : (ofText text).symbolAt? text ⟨0, 10⟩ = some (symbol, ⟨⟨0, 9⟩, ⟨0, 10⟩⟩) := by
    simp only [ofText, fragments]
    decide +kernel
  have declared : (ofText text).index.bucket ['a'] ≠ [] := by simp [bucket]
  obtain ⟨first, later, split, _, _, _, listed, _, marked⟩ := highlights_complete declared
  obtain ⟨rfl, rfl⟩ := List.cons.inj (bucket.symm.trans split)
  exact ⟨bucket, listed, pointed, marked _ _ _ pointed rfl⟩

end Analysis

end TemplateNav
