import TemplateNav.Proofs.Navigation.ClientNumbers
import TemplateNav.Proofs.Symbol.Location

/-!
# All places of a name lead to one declaration

Wherever a name is declared or its usage is recorded, the recorder has counted
bytes along a content line, and a cursor is read back by counting code units along
a line of the document.  Both find the same whole word, from its first column to
the one behind its last, so every such cursor is answered alike: with the first
declaration of the name and all of its marked places.
-/

namespace TemplateNav

open Position (origin)

namespace Identifier

theorem unitsOf_of_isPart {c : Char} (part : isPart c = true) : Text.unitsOf c = 1 := by
  have bounds := toNat_of_isPart part
  rw [Text.unitsOf, if_pos (by omega)]

theorem utf16Length_of_isPart {word : Text} (parts : ∀ c ∈ word, isPart c = true) :
    Text.utf16Length word = word.length := by
  induction word with
  | nil => rfl
  | cons c rest ih =>
    obtain ⟨first, others⟩ := List.forall_mem_cons.1 parts
    rw [Text.utf16Length_cons, unitsOf_of_isPart first, ih others, List.length_cons, Nat.add_comm]

end Identifier

namespace Word

/-- The run around a cut of a whole word is that word. -/
theorem around_append {outside left right behind : Text}
    (parts : ∀ c ∈ left ++ right, Identifier.isPart c = true) (ends : outside.EndsApart)
    (starts : behind.StartsApart) :
    around (outside ++ left) (right ++ behind) = (outside, left ++ right, behind) := by
  have leftParts : ∀ c ∈ left.reverse, Identifier.isPart c = true :=
    fun c member => parts c (List.mem_append_left _ (List.mem_reverse.1 member))
  have rightParts : ∀ c ∈ right, Identifier.isPart c = true :=
    fun c member => parts c (List.mem_append_right _ member)
  have reversed : Text.StartsApart outside.reverse := by
    intro c head
    rw [List.head?_reverse] at head
    exact ends c head
  rw [around, List.reverse_append, Identifier.dropWhile_append leftParts reversed,
    Identifier.takeWhile_append leftParts reversed, Identifier.takeWhile_append rightParts starts,
    Identifier.dropWhile_append rightParts starts, List.reverse_reverse, List.reverse_reverse]

/-- A cursor within a whole word of a line reads that word. -/
theorem at?_of_line {text outside left right behind : Text} {index : Nat}
    (read : Lines.text? text index = some (outside ++ left ++ (right ++ behind)))
    (nonempty : left ++ right ≠ []) (parts : ∀ c ∈ left ++ right, Identifier.isPart c = true)
    (ends : outside.EndsApart) (starts : behind.StartsApart) :
    at? text ⟨index, Text.utf16Length (outside ++ left)⟩ =
      some ⟨Range.ofLength ⟨index, Text.utf16Length outside⟩ (Text.utf16Length (left ++ right)),
        left ++ right⟩ := by
  have run := around_append parts ends starts
  have filled : (left ++ right).isEmpty = false := List.isEmpty_eq_false_iff.2 nonempty
  rw [at?, read, Option.bind_eq_bind, Option.bind_some, Text.splitAtUnit_utf16Length]
  simp only [run, filled]
  rfl

end Word

namespace Fragment

namespace WordAt

variable {text word before after : Text} {position cursor : Position}

/-- A cursor on a word stands at a cut of it. -/
theorem exists_cut (found : WordAt text position word before after)
    (valid : Identifier.isValid word = true)
    (touched : (Range.ofLength position (Text.utf16Length word)).contains cursor = true) :
    ∃ left right, word = left ++ right ∧ cursor = origin.after (before ++ left) := by
  have parts := Identifier.isPart_of_isValid valid
  simp only [Range.contains, Range.ofLength, Position.advancedBy, Bool.and_eq_true,
    decide_eq_true_eq, Position.le_def, Identifier.utf16Length_of_isPart parts] at touched
  have split := List.take_append_drop (cursor.character - position.character) word
  generalize taken : word.take (cursor.character - position.character) = left at split
  have size : left.length = cursor.character - position.character := by
    rw [← taken, List.length_take]
    omega
  have leftParts : ∀ c ∈ left, Identifier.isPart c = true :=
    fun c member => parts c (split ▸ List.mem_append_left _ member)
  have single : '\n' ∉ left := fun newline => absurd (leftParts _ newline) (by decide)
  refine ⟨left, _, split.symm, ?_⟩
  rw [Position.after_append, ← found.position_eq, Position.after_eq_advancedBy single,
    Identifier.utf16Length_of_isPart leftParts, size, Position.advancedBy]
  cases cursor
  simp only [Position.mk.injEq] at touched ⊢
  omega

/-- The word stands on one line of the document. -/
theorem exists_line (found : WordAt text position word before after)
    (valid : Identifier.isValid word = true) :
    ∃ front outside behind back, before = front ++ outside ∧ after = behind ++ back ∧
      Lines.text? text position.line = some (outside ++ (word ++ behind)) ∧
      Lines.LineAt text position.line front (outside ++ (word ++ behind)) back := by
  obtain ⟨front, outside, line, back, before_eq, follows, read, here⟩ :=
    (Lines.cutsLine_before valid before after).exists_lineAt
  rw [← List.append_assoc, ← found.split, ← found.position_eq] at read here
  refine ⟨front, outside, ?_⟩
  rcases List.append_eq_append_iff.1 follows with ⟨behind, rfl, after_eq⟩ | ⟨passed, rfl, back_eq⟩
  · exact ⟨behind, back, before_eq, after_eq, read, here⟩
  · -- No identifier character ends a line.
    cases passed with
    | nil => exact ⟨[], back, before_eq, by simpa using back_eq.symm, by simpa using read,
        by simpa using here⟩
    | cons c passed =>
      have part := Identifier.isPart_of_isValid valid c (by simp)
      rcases here.eq_of_head?_after c (by simp [back_eq]) with rfl | rfl
      · exact absurd part (by decide)
      · exact absurd part (by decide)

theorem at?_eq (found : WordAt text position word before after)
    (valid : Identifier.isValid word = true)
    (touched : (Range.ofLength position (Text.utf16Length word)).contains cursor = true) :
    Word.at? text cursor = some ⟨Range.ofLength position (Text.utf16Length word), word⟩ := by
  obtain ⟨left, right, split, cursor_eq⟩ := found.exists_cut valid touched
  obtain ⟨front, outside, behind, back, rfl, rfl, read, here⟩ := found.exists_line valid
  have start : position = ⟨position.line, Text.utf16Length outside⟩ := by
    rw [← here.origin_after_append]
    exact found.position_eq
  have whole : outside ++ (word ++ behind) = outside ++ left ++ (right ++ behind) := by
    rw [split]
    simp
  rw [whole] at read here
  have reached : cursor = ⟨position.line, Text.utf16Length (outside ++ left)⟩ := by
    rw [cursor_eq, List.append_assoc, here.origin_after_append]
  have pointed := Word.at?_of_line read (split ▸ Identifier.ne_nil_of_isValid valid)
    (split ▸ Identifier.isPart_of_isValid valid) found.endsApart.right found.startsApart.left
  rwa [← reached, ← start, ← split] at pointed

theorem exists_contains (found : WordAt text position word before after)
    (valid : Identifier.isValid word = true)
    (touched : (Range.ofLength position (Text.utf16Length word)).contains cursor = true) :
    ∃ fragment ∈ extract text, fragment.contains cursor = true := by
  obtain ⟨left, right, rfl, rfl⟩ := found.exists_cut valid touched
  obtain ⟨fragment, extracted, outside, beyond, place, ⟨between, rfl⟩, ⟨rest, content⟩⟩ :=
    found.inFragment
  refine ⟨fragment, extracted, contains_iff_le.2 ⟨?_, ?_⟩⟩
  · rw [place.start_eq, List.append_assoc, Position.after_append]
    exact Position.le_after _ _
  · rw [place.stop_eq, ← content, ← List.append_assoc, List.append_assoc _ right,
      Position.after_append _ (outside ++ between ++ left)]
    exact Position.le_after _ _

/-- A cursor on a word points at the first symbol of that name. -/
theorem symbolAt?_eq (found : WordAt text position word before after)
    (valid : Identifier.isValid word = true) {symbol : Symbol}
    (first : (Analysis.ofText text).index.first? word = some symbol)
    (touched : (Range.ofLength position (Text.utf16Length word)).contains cursor = true) :
    (Analysis.ofText text).symbolAt? text cursor =
      some (symbol, Range.ofLength position (Text.utf16Length word)) := by
  obtain ⟨fragment, extracted, inside⟩ := found.exists_contains valid touched
  have present : (Fragment.at? (Analysis.ofText text).fragments cursor).isSome = true :=
    List.find?_isSome.2 ⟨fragment, extracted, inside⟩
  obtain ⟨touching, pointed⟩ := Option.isSome_iff_exists.1 present
  rw [Analysis.symbolAt?, pointed, Option.bind_eq_bind, Option.bind_some,
    found.at?_eq valid touched, Option.bind_eq_bind, Option.bind_some]
  simp [valid, first]

end WordAt

end Fragment

namespace SymbolIndex

theorem first?_isSome_iff (index : SymbolIndex) (name : Text) :
    (index.first? name).isSome = true ↔ name ∈ index.symbols.map Symbol.name := by
  simp [first?]

end SymbolIndex

namespace Analysis

/-- A name that is declared leads to a symbol. -/
theorem exists_first?_ofText {text : Text} {symbol : Symbol}
    (member : symbol ∈ Symbol.recognize (Fragment.extract text)) :
    ∃ first, (ofText text).index.first? symbol.name = some first := by
  apply Option.isSome_iff_exists.1
  rw [SymbolIndex.first?_isSome_iff]
  have tracked := SymbolIndex.map_trackReferences Symbol.name (fun _ _ => rfl)
    (SymbolIndex.build (Symbol.recognize (Fragment.extract text))) (Fragment.extract text)
  have listed : symbol.name ∈
      (SymbolIndex.build (Symbol.recognize (Fragment.extract text))).symbols.map Symbol.name :=
    List.mem_map_of_mem (List.mem_mergeSort.2 member)
  rw [← tracked] at listed
  exact listed

/-- A place of a name: one where a symbol of that name is declared, or a reference that the first
symbol of that name has collected. -/
inductive IsPlaceOf (text name : Text) (start : Position) : Prop where
  | declaration {symbol : Symbol} (member : symbol ∈ Symbol.recognize (Fragment.extract text))
      (named : symbol.name = name) (declared : symbol.position = start)
  | reference {first : Symbol} (found : ((ofText text).index.bucket name).head? = some first)
      (listed : start ∈ first.references)

/-- At each place of a name the name stands as a whole word, and it leads to a symbol. -/
theorem IsPlaceOf.exists_wordAt {text name : Text} {start : Position}
    (place : IsPlaceOf text name start) :
    Identifier.isValid name = true ∧
      (∃ first, (ofText text).index.first? name = some first) ∧
      ∃ before after, Fragment.WordAt text start name before after := by
  cases place with
  | declaration member named declared =>
    subst named declared
    have symbol := Symbol.declaredIn_of_mem_recognize member
    exact ⟨symbol.valid, exists_first?_ofText member, symbol.found⟩
  | @reference first found listed =>
    rw [SymbolIndex.head?_bucket] at found
    obtain ⟨original, member, rfl, _, grown⟩ := first?_ofText found
    have symbol := Symbol.declaredIn_of_mem_recognize member
    refine ⟨symbol.valid, ⟨first, found⟩, ?_⟩
    rcases grown.used start listed with own | recorded
    · rw [symbol.references_eq, List.mem_singleton] at own
      exact own ▸ symbol.found
    · exact SymbolIndex.exists_wordAt_of_mem_usages recorded

theorem IsPlaceOf.exists_symbolAt? {text name : Text} {start : Position}
    (place : IsPlaceOf text name start) :
    ∃ first, (ofText text).index.first? name = some first ∧
      ∀ cursor, (Range.ofLength start (Text.utf16Length name)).contains cursor = true →
        (ofText text).symbolAt? text cursor =
          some (first, Range.ofLength start (Text.utf16Length name)) := by
  obtain ⟨valid, ⟨first, found⟩, before, after, word⟩ := place.exists_wordAt
  exact ⟨first, found, fun cursor touched => word.symbolAt?_eq valid found touched⟩

/-- Every marked place is a place of the name at the cursor. -/
theorem exists_isPlaceOf_of_mem_highlights {text : Text} {position : Position} {mark : Highlight}
    (member : mark ∈ (ofText text).highlights text position) :
    ∃ first, (ofText text).index.first? first.name = some first ∧
      (ofText text).highlights text position = Highlight.ofSymbol first ∧
      ∃ start, IsPlaceOf text first.name start ∧
        mark.range = Range.ofLength start (Text.utf16Length first.name) := by
  unfold highlights at member ⊢
  split at member
  · cases member
  · next symbol range pointed =>
    obtain ⟨_, _, _, word, _, _, found, _⟩ := symbolAt?_eq_some pointed
    obtain ⟨original, recognized, named, _, grown⟩ := first?_ofText found
    have name : symbol.name = word.text := by rw [grown.same]; exact named
    have declaration : symbol.position = original.position := by rw [grown.same]
    obtain ⟨start, sorted, rfl⟩ := List.mem_map.1 member
    rw [← name] at found named
    refine ⟨symbol, found, rfl, start, ?_, rfl⟩
    rcases Highlight.mem_of_mem_positions (List.mem_mergeSort.1 sorted) with reference | rfl
    · exact .reference (by rw [SymbolIndex.head?_bucket, found]) reference
    · exact .declaration recognized named declaration.symm

/-- Every cursor on a place of a name, ends included, leads to the first declaration of the name, is
described by that place, and marks the same places as any other; so the marks of a cursor are the
marks of each of them. -/
theorem places_of_name_answer_alike (text : Text) :
    (∀ name start, IsPlaceOf text name start →
      ∃ first, ((ofText text).index.bucket name).head? = some first ∧
        ∀ cursor, (Range.ofLength start (Text.utf16Length name)).contains cursor = true →
          (ofText text).definition? text cursor = some first.range ∧
          ((ofText text).hover? text cursor).map Hover.range =
            some (Range.ofLength start (Text.utf16Length name)) ∧
          (ofText text).highlights text cursor = Highlight.ofSymbol first) ∧
    ∀ position, ∀ mark ∈ (ofText text).highlights text position,
      ∀ cursor, mark.range.contains cursor = true →
        (ofText text).highlights text cursor = (ofText text).highlights text position := by
  constructor
  · intro name start place
    obtain ⟨first, found, pointed⟩ := place.exists_symbolAt?
    refine ⟨first, by rw [SymbolIndex.head?_bucket, found], ?_⟩
    intro cursor touched
    simp [definition?, hover?, highlights, pointed cursor touched]
  · intro position mark member cursor touched
    obtain ⟨first, found, marks, start, place, range⟩ := exists_isPlaceOf_of_mem_highlights member
    obtain ⟨same, foundAgain, pointed⟩ := place.exists_symbolAt?
    obtain rfl : first = same := Option.some.inj (found.symm.trans foundAgain)
    rw [marks, highlights, pointed cursor (range ▸ touched)]

/-- A cursor right behind a usage, at the end of its fragment. -/
theorem places_of_name_answer_alike_behind_usage :
    let text : Text := ['😀', '<', '%', 'a', '=', '>', 'a', '%', '>']
    let symbol : Symbol := ⟨['a'], .parameter, .parameter, some .function, ⟨0, 4⟩,
      [⟨0, 4⟩, ⟨0, 7⟩], none⟩
    (ofText text).definition? text ⟨0, 8⟩ = some ⟨⟨0, 4⟩, ⟨0, 5⟩⟩ ∧
      ((ofText text).hover? text ⟨0, 8⟩).map Hover.range = some ⟨⟨0, 7⟩, ⟨0, 8⟩⟩ ∧
      (ofText text).highlights text ⟨0, 8⟩ = Highlight.ofSymbol symbol := by
  intro text symbol
  have head : ((ofText text).index.bucket ['a']).head? = some symbol := by decide +kernel
  obtain ⟨first, found, alike⟩ :=
    (places_of_name_answer_alike text).1 ['a'] ⟨0, 7⟩ (.reference head (by decide))
  obtain rfl : symbol = first := Option.some.inj (head.symm.trans found)
  exact alike ⟨0, 8⟩ (by decide)

end Analysis

end TemplateNav
