import TemplateNav.Proofs.Lines.Offsets
import TemplateNav.Proofs.Symbol.Placement

/-!
# Every recognized symbol is where it says it is

The range of a symbol's declaration, turned into byte offsets, is the place of its
name in the document: a whole word within a fragment.  A position holds one whole
word only, so symbols that several rules or overlapping fragments report there
have one name, and of these only the first is kept.
-/

namespace TemplateNav

open Position (origin)

theorem Position.eq_of_after_eq {text first second : Text} (firstCut : first <+: text)
    (secondCut : second <+: text) (same : origin.after first = origin.after second) :
    first = second := by
  have reflexive : ∀ position : Position, position ≤ position :=
    fun position => .inr ⟨rfl, Nat.le_refl _⟩
  have shorter := length_le_of_after_le origin firstCut secondCut (same ▸ reflexive _)
  have longer := length_le_of_after_le origin secondCut firstCut (same ▸ reflexive _)
  exact (List.prefix_of_prefix_length_le firstCut secondCut shorter).eq_of_length_le longer

namespace Lines

/-- A line end stands neither across the start of a name nor across its end. -/
theorem cutsLine_before {word : Text} (valid : Identifier.isValid word = true)
    (before after : Text) : CutsLine before (word ++ after) := by
  intro _
  obtain ⟨c, rest, rfl⟩ := List.exists_cons_of_ne_nil (Identifier.ne_nil_of_isValid valid)
  refine ⟨c, rfl, ?_⟩
  rintro rfl
  exact Identifier.not_mem_of_isValid valid List.mem_cons_self

theorem cutsLine_behind {word : Text} (valid : Identifier.isValid word = true)
    (before after : Text) : CutsLine (before ++ word) after := by
  intro last
  have nonempty := Identifier.ne_nil_of_isValid valid
  rw [List.getLast?_append, List.getLast?_eq_some_getLast nonempty, Option.some_or,
    ← List.getLast?_eq_some_getLast nonempty] at last
  exact absurd (Identifier.isPart_of_isValid valid _ (List.mem_of_getLast? last)) (by decide)

end Lines

namespace Fragment.WordAt

variable {text word before after : Text} {position : Position}

theorem stop_eq (found : WordAt text position word before after)
    (valid : Identifier.isValid word = true) :
    position.advancedBy (Text.utf16Length word) = origin.after (before ++ word) := by
  rw [Position.after_append, ← found.position_eq,
    Position.after_eq_advancedBy (Identifier.not_mem_of_isValid valid)]

theorem offsetOf?_start (found : WordAt text position word before after)
    (valid : Identifier.isValid word = true) :
    Lines.offsetOf? text position = some (Text.utf8Length before) := by
  rw [found.split, found.position_eq, List.append_assoc]
  exact (Lines.cutsLine_before valid before after).offsetOf?_eq

theorem offsetOf?_stop (found : WordAt text position word before after)
    (valid : Identifier.isValid word = true) :
    Lines.offsetOf? text (position.advancedBy (Text.utf16Length word)) =
      some (Text.utf8Length (before ++ word)) := by
  rw [found.stop_eq valid, found.split]
  exact (Lines.cutsLine_behind valid before after).offsetOf?_eq

/-- The bytes of the word lie within those of a fragment. -/
theorem exists_spans (found : WordAt text position word before after) :
    ∃ fragment ∈ extract text, fragment.offset ≤ Text.utf8Length before ∧
      Text.utf8Length (before ++ word) ≤ fragment.offset + Text.utf8Length fragment.content := by
  obtain ⟨fragment, extracted, outside, beyond, place, ⟨between, rfl⟩, ⟨rest, content⟩⟩ :=
    found.inFragment
  refine ⟨fragment, extracted, ?_, ?_⟩
  · rw [place.offset_eq, Text.utf8Length_append]
    exact Nat.le_add_right _ _
  · rw [place.offset_eq, ← Text.utf8Length_append, ← content, Text.utf8Length_append _ rest]
    exact Nat.le_add_right _ _

/-- A position holds one whole word only. -/
theorem eq_of_same_position {other left right : Text}
    (found : WordAt text position word before after) (valid : Identifier.isValid word = true)
    (second : WordAt text position other left right)
    (otherValid : Identifier.isValid other = true) : word = other := by
  have sameBefore : before = left := by
    have firstCut : before <+: text := ⟨word ++ after, by rw [found.split, List.append_assoc]⟩
    have secondCut : left <+: text := ⟨other ++ right, by rw [second.split, List.append_assoc]⟩
    apply Position.eq_of_after_eq firstCut secondCut
    rw [← found.position_eq, second.position_eq]
  have sameRest : word ++ after = other ++ right := by
    have twice := found.split.symm.trans second.split
    rwa [sameBefore, List.append_assoc, List.append_assoc, List.append_cancel_left_eq] at twice
  have first := Identifier.takeWhile_append (Identifier.isPart_of_isValid valid) found.startsApart
  rw [← first, sameRest]
  exact Identifier.takeWhile_append (Identifier.isPart_of_isValid otherValid) second.startsApart

end Fragment.WordAt

namespace Symbol

theorem pairwise_foldl_insertNew {symbols found : List Symbol}
    (distinct : found.Pairwise fun first second => sameDeclaration second first = false) :
    (symbols.foldl insertNew found).Pairwise
      fun first second => sameDeclaration second first = false := by
  induction symbols generalizing found with
  | nil => exact distinct
  | cons symbol rest ih =>
    apply ih
    unfold insertNew
    split
    · exact distinct
    · next fresh =>
      refine List.pairwise_append.2 ⟨distinct, List.pairwise_singleton _ _, ?_⟩
      intro earlier member last same
      rw [List.mem_singleton.1 same]
      simpa using fun declared => fresh (List.any_eq_true.2 ⟨earlier, member, declared⟩)

/-- `symbol` is declared in a document between `before` and `after`: its range covers the bytes of
its name there, which no identifier character touches and which lie within a fragment. -/
structure LocatedIn (text : Text) (symbol : Symbol) (before after : Text) : Prop where
  valid : Identifier.isValid symbol.name = true
  split : text = before ++ symbol.name ++ after
  start_offset : Lines.offsetOf? text symbol.range.start = some (Text.utf8Length before)
  stop_offset : Lines.offsetOf? text symbol.range.stop =
    some (Text.utf8Length (before ++ symbol.name))
  left : ∀ c ∈ before.getLast?, Identifier.isPart c = false
  right : ∀ c ∈ after.head?, Identifier.isPart c = false
  inFragment : ∃ fragment ∈ Fragment.extract text, fragment.offset ≤ Text.utf8Length before ∧
    Text.utf8Length (before ++ symbol.name) ≤
      fragment.offset + Text.utf8Length fragment.content

theorem DeclaredIn.exists_locatedIn {text : Text} {symbol : Symbol}
    (declared : symbol.DeclaredIn text) : ∃ before after, symbol.LocatedIn text before after := by
  obtain ⟨before, after, found⟩ := declared.found
  exact ⟨before, after, declared.valid, found.split, found.offsetOf?_start declared.valid,
    found.offsetOf?_stop declared.valid, found.endsApart, found.startsApart, found.exists_spans⟩

/-- Every symbol of a document is located where it says, and no two of them in one place. -/
theorem recognized_symbols_located (text : Text) :
    (∀ symbol ∈ recognize (Fragment.extract text),
      ∃ before after, symbol.LocatedIn text before after) ∧
    (recognize (Fragment.extract text)).Pairwise
      fun first second => first.position ≠ second.position := by
  refine ⟨fun symbol member => (declaredIn_of_mem_recognize member).exists_locatedIn, ?_⟩
  have distinct : (recognize (Fragment.extract text)).Pairwise
      fun first second => sameDeclaration second first = false :=
    pairwise_foldl_insertNew List.Pairwise.nil
  refine distinct.imp_of_mem ?_
  intro first second firstMember secondMember different samePosition
  have firstDeclared := declaredIn_of_mem_recognize firstMember
  have secondDeclared := declaredIn_of_mem_recognize secondMember
  obtain ⟨_, _, firstFound⟩ := firstDeclared.found
  obtain ⟨_, _, secondFound⟩ := secondDeclared.found
  rw [samePosition] at firstFound
  have sameName := firstFound.eq_of_same_position firstDeclared.valid secondFound
    secondDeclared.valid
  simp [sameDeclaration, sameName, samePosition] at different

/-- Two parameters behind a character of four bytes, the second one on a line of its own. -/
theorem recognized_symbols_located_on_two_lines :
    let text : Text := ['😀', '<', '%', 'a', '=', '>', '\r', '\n', 'b', '=', '>', 'a', '%', '>']
    (recognize (Fragment.extract text)).map (fun symbol => (symbol.name, symbol.position)) =
      [(['a'], ⟨0, 4⟩), (['b'], ⟨1, 0⟩)] ∧
    ∃ symbol ∈ recognize (Fragment.extract text), symbol.position = ⟨1, 0⟩ ∧
      ∃ before after, symbol.LocatedIn text before after := by
  intro text
  have found : (recognize (Fragment.extract text)).map
      (fun symbol => (symbol.name, symbol.position)) = [(['a'], ⟨0, 4⟩), (['b'], ⟨1, 0⟩)] := by
    decide +kernel
  obtain ⟨symbol, member, same⟩ :=
    List.mem_map.1 (found ▸ List.mem_cons_of_mem _ List.mem_cons_self)
  exact ⟨found, symbol, member, congrArg Prod.snd same,
    (recognized_symbols_located text).1 symbol member⟩

end Symbol

end TemplateNav
