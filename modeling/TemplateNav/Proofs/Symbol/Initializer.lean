import TemplateNav.Proofs.Lines.Shift
import TemplateNav.Proofs.Symbol.ArrowList
import TemplateNav.Proofs.Symbol.Location
import TemplateNav.Proofs.Symbol.PlainHead

/-!
# The value of a symbol is its initializer

Only the rule for initialized declarations reports a value, and it reads it off the text
behind the name: an equals sign and what follows up to the next comma or semicolon.  The
rule for bare declarations reports a name only if no equals sign follows.  A name can stand
in several fragments, but fragments that share it end together, so the content line reads
the same behind the name in each of them, and the symbol that is kept tells what it reads.
-/

namespace TemplateNav

open Position (origin)

theorem Text.IsToken.trim_eq {text : Text} (isToken : text.IsToken) : trim text = text := by
  have trimmed := (trim_append (List.forall_mem_nil _) isToken []).2
  rwa [List.nil_append, trimEnd, List.append_nil] at trimmed

namespace Lines

/-- The first line of a text. -/
def first (text : Text) : Text :=
  withoutReturn (text.takeWhile (· != '\n'))

theorem first_append {line rest : Text} (single : '\n' ∉ line)
    (ending : ∀ c ∈ rest.head?, c = '\n') : first (line ++ rest) = withoutReturn line := by
  have inside : ∀ c ∈ line, (c != '\n') = true :=
    fun c member => bne_iff_ne.2 fun newline => single (newline ▸ member)
  rw [first, List.takeWhile_append_of_pos inside]
  cases rest with
  | nil => simp
  | cons c rest => simp [ending c rfl]

end Lines

namespace Fragment

variable {text word : Text} {fragment other : Fragment}

/-- `fragment` stands between `outside` and `beyond`, and `word` in it behind `cut`. -/
structure Holds (text : Text) (fragment : Fragment) (outside beyond cut word : Text) : Prop where
  extracted : fragment ∈ extract text
  place : fragment.PlacedIn text outside beyond
  starts : outside <+: cut
  stops : cut ++ word <+: outside ++ fragment.content

/-- The same text follows all fragments that hold a word of a document. -/
theorem Holds.beyond_eq {outside beyond front behind cut : Text} (filled : word ≠ [])
    (one : Holds text fragment outside beyond cut word)
    (second : Holds text other front behind cut word) : beyond = behind := by
  have positive := Text.utf8Length_pos filled
  have starts := Text.utf8Length_le_of_isPrefix one.starts
  have stops := Text.utf8Length_le_of_isPrefix one.stops
  have otherStarts := Text.utf8Length_le_of_isPrefix second.starts
  have otherStops := Text.utf8Length_le_of_isPrefix second.stops
  have offset := one.place.offset_eq
  have otherOffset := second.place.offset_eq
  have size : Text.utf8Length (outside ++ fragment.content) =
      Text.utf8Length (front ++ other.content) := by
    simp only [Text.utf8Length_append] at *
    -- Both hold the word, so neither ends before the other starts.
    rcases eq_or_leads one.extracted second.extracted with rfl | ⟨_, ends⟩ | ⟨_, ends⟩
    · omega
    · omega
    · omega
  have same : outside ++ fragment.content ++ beyond = front ++ other.content ++ behind :=
    one.place.split.symm.trans second.place.split
  rw [Text.eq_of_utf8Length_eq same size] at same
  exact List.append_cancel_left same

/-- A word of a content line stands in the document behind a cut that its position names, and what
the line reads from there on is the first line of what the fragment reads from there on. -/
theorem exists_holds_of_mem_lines {index : Nat} {before after : Text}
    (extracted : fragment ∈ extract text) (filled : word ≠ [])
    (numbered : (index, before ++ (word ++ after)) ∈ fragment.lines) :
    ∃ outside beyond cut rest, Holds text fragment outside beyond cut word ∧
      text = cut ++ (word ++ rest) ++ beyond ∧
      fragment.positionInLine index (before ++ (word ++ after)) (Text.utf8Length before) =
        origin.after cut ∧
      word ++ after = Lines.first (word ++ rest) := by
  obtain ⟨outside, beyond, place⟩ := exists_placedIn_of_mem_extract extracted
  simp only [lines, List.mem_map, Prod.exists, Prod.mk.injEq] at numbered
  obtain ⟨line, index, listed, rfl, same⟩ := numbered
  rw [List.mem_zipIdx_iff_getElem?, List.getElem?_map] at listed
  obtain ⟨stored, found, rfl⟩ := Option.map_eq_some_iff.1 listed
  obtain ⟨lead, rest, content, single, ending, _, moves⟩ := Lines.exists_split_of_raw found
  obtain ⟨mark, stored_eq, marked⟩ := Lines.exists_append_withoutReturn stored
  obtain rfl : stored = before ++ (word ++ (after ++ mark)) := by
    rw [stored_eq, same]
    simp
  have unbroken : '\n' ∉ before ++ (word ++ after) :=
    fun newline => single (stored_eq ▸ same ▸ List.mem_append_left mark newline)
  have here : Lines.LineAt fragment.content index lead (before ++ (word ++ after)) (mark ++ rest) :=
    ⟨by simp [content], unbroken, ⟨mark, rest, rfl, marked, ending⟩, moves⟩
  have behind : '\n' ∉ word ++ (after ++ mark) :=
    fun newline => single (List.mem_append_right before newline)
  refine ⟨outside, beyond, outside ++ lead ++ before, after ++ mark ++ rest,
    ⟨extracted, place, ⟨lead ++ before, by simp⟩, ⟨after ++ mark ++ rest, by simp [content]⟩⟩,
    by simp [place.split, content], place.positionInLine_eq here, ?_⟩
  -- The word stands between `before` and a carriage return at the end, so only what follows is cut.
  rw [Lines.withoutReturn_append before (by simp [filled])] at same
  rw [← List.append_assoc, Lines.first_append behind ending]
  exact (List.append_cancel_left same).symm

/-- `word` stands at a position on a content line, between `before` and `after`. -/
def OnLine (text : Text) (position : Position) (word before after : Text) : Prop :=
  ∃ fragment ∈ extract text, ∃ index, (index, before ++ (word ++ after)) ∈ fragment.lines ∧
    position = fragment.positionInLine index (before ++ (word ++ after)) (Text.utf8Length before)

theorem OnLine.newline_not_mem {position : Position} {before after : Text}
    (stands : OnLine text position word before after) : '\n' ∉ after := by
  obtain ⟨fragment, _, index, numbered, _⟩ := stands
  obtain ⟨_, _, here⟩ := exists_lineAt_of_mem_lines numbered
  intro newline
  exact here.single (by simp [newline])

/-- All content lines on which a word stands at one position read the same behind it. -/
theorem OnLine.after_eq {position : Position} {before after left right : Text}
    (one : OnLine text position word before after) (filled : word ≠ [])
    (second : OnLine text position word left right) : after = right := by
  obtain ⟨fragment, extracted, index, numbered, position_eq⟩ := one
  obtain ⟨other, otherExtracted, otherIndex, otherNumbered, otherPosition_eq⟩ := second
  obtain ⟨outside, beyond, cut, rest, held, split, reached, line⟩ :=
    exists_holds_of_mem_lines extracted filled numbered
  obtain ⟨front, behind, otherCut, otherRest, otherHeld, otherSplit, otherReached, otherLine⟩ :=
    exists_holds_of_mem_lines otherExtracted filled otherNumbered
  have inText : cut <+: text := ⟨word ++ rest ++ beyond, by rw [split, List.append_assoc cut]⟩
  have otherInText : otherCut <+: text :=
    ⟨word ++ otherRest ++ behind, by rw [otherSplit, List.append_assoc otherCut]⟩
  have cuts : cut = otherCut := by
    apply Position.eq_of_after_eq inText otherInText
    rw [← reached, ← position_eq, otherPosition_eq, otherReached]
  subst cuts
  have same := split.symm.trans otherSplit
  rw [held.beyond_eq filled otherHeld, List.append_cancel_right_eq, List.append_cancel_left_eq]
    at same
  rw [same, ← otherLine] at line
  exact List.append_cancel_left line

end Fragment

namespace Rule

/-- Behind a name stand an equals sign and `value`, with white space around both, and then a comma,
a semicolon or the end of the line. -/
def InitializedBy (value after : Text) : Prop :=
  ∃ space gap tail rest, after = space ++ '=' :: (gap ++ value ++ tail ++ rest) ∧
    (∀ c ∈ space ++ gap ++ tail, Text.isBlank c = true) ∧ ∀ c ∈ rest.head?, c = ',' ∨ c = ';'

theorem initializedBy_valueText {space : Text} (padded : ∀ c ∈ space, Text.isBlank c = true)
    (initializer : Text) :
    InitializedBy (Text.trim (valueText initializer)) (space ++ '=' :: initializer) := by
  obtain ⟨gap, tail, value, leads, trails, _⟩ := Text.exists_append_trim (valueText initializer)
  refine ⟨space, gap, tail, initializer.dropWhile fun c => !endsValue c, ?_, ?_, ?_⟩
  · rw [← value, valueText, List.takeWhile_append_dropWhile]
  · simp only [List.mem_append]
    rintro c ((member | member) | member)
    · exact padded c member
    · exact leads c member
    · exact trails c member
  · intro c first
    have ends := List.head?_dropWhile_not (fun c => !endsValue c) initializer
    rw [Option.mem_def.1 first] at ends
    simpa [endsValue, or_iff_not_imp_left] using ends

theorem InitializedBy.mem {value after : Text} (initialized : InitializedBy value after) {c : Char}
    (member : c ∈ value) : c ∈ after := by
  obtain ⟨_, _, _, _, rfl, _⟩ := initialized
  simp [member]

/-- What a declaration says of its value is what the line reads behind its name: an initializer, or
no equals sign if it is a plain declaration without one. -/
structure ReadsValue (declaration : Declaration) (after : Text) : Prop where
  initialized : ∀ value ∈ declaration.value, declaration.declaration = .declared ∧
    declaration.kind ≠ .parameter ∧ value ≠ [] ∧ Text.trim value = value ∧
    (∀ c ∈ value, endsValue c = false) ∧ InitializedBy value after
  bare : declaration.value = none → declaration.declaration = .declared →
    Text.startsWith '=' (Text.trimStart after) = false

variable {line left : Text} {declaration : Declaration}

theorem symbolKind_ne_parameter (keyword : Keyword) : keyword.symbolKind ≠ .parameter := by
  cases keyword <;> decide

theorem readsValue_of_initialized? {text : Text} {width : Nat}
    (found : initialized? left.reverse text = some (some declaration, width)) :
    ∃ before after, left ++ text = before ++ (declaration.name ++ after) ∧
      declaration.column = Text.utf8Length before ∧ ReadsValue declaration after := by
  obtain ⟨keyword, gap, name, space, initializer, rfl, head⟩ := exists_head_of_initialized? found
  rw [head.initialized?_eq, Option.some.injEq, Prod.mk.injEq] at found
  obtain ⟨accepted, _⟩ := found
  split at accepted
  · cases accepted
  · next plain =>
    obtain rfl := Option.some.inj accepted
    simp only [Bool.or_eq_true, List.isEmpty_iff, not_or] at plain
    refine ⟨left ++ (keyword.spelling ++ gap), space ++ '=' :: initializer, by simp, rfl, ?_, ?_⟩
    · rintro value ⟨⟩
      refine ⟨rfl, symbolKind_ne_parameter keyword, plain.1.2, ?_, ?_,
        initializedBy_valueText head.padded initializer⟩
      · exact (Text.isToken_trim_of_ne_nil plain.1.2).trim_eq
      · intro c member
        obtain ⟨leading, trailing, value, _⟩ := Text.exists_append_trim (valueText initializer)
        have inside : c ∈ valueText initializer := by
          rw [value]
          simp [member]
        exact endsValue_of_mem_valueText inside
    · intro none
      cases none

theorem readsValue_of_bare? {text : Text} {width : Nat}
    (found : bare? left.reverse text = some (some declaration, width)) :
    ∃ before after, left ++ text = before ++ (declaration.name ++ after) ∧
      declaration.column = Text.utf8Length before ∧ ReadsValue declaration after := by
  obtain ⟨keyword, gap, name, rest, rfl, head, _⟩ := readsHeads_bare? _ _ _ _ found
  rw [head.bare?_eq, Option.some.injEq, Prod.mk.injEq] at found
  obtain ⟨accepted, _⟩ := found
  split at accepted
  · cases accepted
  · next plain =>
    obtain rfl := Option.some.inj accepted
    simp only [Bool.or_eq_true, not_or, Bool.not_eq_true] at plain
    exact ⟨left ++ (keyword.spelling ++ gap), rest, by simp, rfl, by simp, fun _ _ => plain.1⟩

/-- A declaration of another kind than the plain ones, which has no value. -/
def IsUnvalued (declaration : Declaration) : Prop :=
  declaration.value = none ∧ declaration.declaration ≠ .declared

theorem isUnvalued_ofParameter (binding : Binding) : IsUnvalued (.ofParameter binding) :=
  ⟨rfl, by simp [Declaration.ofParameter]⟩

theorem isUnvalued_of_destructuring? {before text : Text} {declarations : List Declaration}
    {width : Nat} (found : destructuring? before text = some (declarations, width)) :
    ∀ declaration ∈ declarations, IsUnvalued declaration := by
  simp only [destructuring?, Option.bind_eq_bind, Option.bind_eq_some_iff] at found
  obtain ⟨_, _, _, _, found⟩ := found
  intro declaration member
  split at found
  · obtain ⟨rfl, _⟩ : [] = declarations ∧ _ = width := by simpa using found
    cases member
  · split at found
    · obtain ⟨rfl, _⟩ : _ = declarations ∧ _ = width := by simpa using found
      obtain ⟨binding, _, rfl⟩ := List.mem_map.1 member
      exact ⟨rfl, by simp⟩
    · obtain ⟨rfl, _⟩ : [] = declarations ∧ _ = width := by simpa using found
      cases member

theorem isUnvalued_of_function? {before text : Text} {declarations : List Declaration}
    {width : Nat} (found : function? before text = some (declarations, width)) :
    ∀ declaration ∈ declarations, IsUnvalued declaration := by
  simp only [function?, Option.bind_eq_bind] at found
  split at found
  · cases found
  · obtain ⟨_, _, found⟩ := Option.bind_eq_some_iff.1 found
    split at found
    · cases found
    · split at found
      · cases found
      · intro declaration member
        split at found
        · obtain ⟨rfl, _⟩ : [] = declarations ∧ _ = width := by simpa using found
          cases member
        · obtain ⟨rfl, _⟩ : _ = declarations ∧ _ = width := by simpa using found
          obtain ⟨binding, _, rfl⟩ := List.mem_map.1 member
          exact isUnvalued_ofParameter binding

theorem isUnvalued_of_singleArrow? {before text : Text} {width : Nat}
    (found : singleArrow? before text = some (some declaration, width)) :
    IsUnvalued declaration := by
  simp only [singleArrow?, Option.bind_eq_bind, Option.bind_eq_some_iff] at found
  obtain ⟨_, _, _, _, found⟩ := found
  split at found
  · cases found
  · obtain ⟨rfl, _⟩ : _ = declaration ∧ _ = width := by simpa using found
    exact isUnvalued_ofParameter _

/-- A declaration without a value that is no plain one stands on its line as any other does. -/
theorem IsUnvalued.exists_readsValue {rule : Rule} (unvalued : IsUnvalued declaration)
    (member : declaration ∈ rule.apply line) :
    ∃ before after, line = before ++ (declaration.name ++ after) ∧
      declaration.column = Text.utf8Length before ∧ ReadsValue declaration after := by
  obtain ⟨⟨before, after, split, column, _⟩, _⟩ := placedOn_of_mem_apply member
  refine ⟨before, after, by rw [split, List.append_assoc], column.symm, ?_, ?_⟩
  · intro value valued
    rw [unvalued.1] at valued
    cases valued
  · exact fun _ declared => absurd declared unvalued.2

/-- Every declaration that a rule finds reads its value off the line behind its name. -/
theorem exists_readsValue_of_mem_apply {rule : Rule} (member : declaration ∈ rule.apply line) :
    ∃ before after, line = before ++ (declaration.name ++ after) ∧
      declaration.column = Text.utf8Length before ∧ ReadsValue declaration after := by
  cases rule with
  | initializedDeclaration =>
    obtain ⟨item, scanned, rfl⟩ := List.mem_filterMap.1 member
    obtain ⟨left, right, width, rfl, found⟩ := Text.exists_recognized_of_mem_scan scanned
    rw [← left.reverse_reverse] at found
    exact readsValue_of_initialized? found
  | bareDeclaration =>
    obtain ⟨item, scanned, rfl⟩ := List.mem_filterMap.1 member
    obtain ⟨left, right, width, rfl, found⟩ := Text.exists_recognized_of_mem_scan scanned
    rw [← left.reverse_reverse] at found
    exact readsValue_of_bare? found
  | destructuringDeclaration =>
    obtain ⟨items, scanned, inside⟩ := List.mem_flatten.1 member
    obtain ⟨_, _, _, _, found⟩ := Text.exists_recognized_of_mem_scan scanned
    exact (isUnvalued_of_destructuring? found declaration inside).exists_readsValue member
  | functionParameters =>
    obtain ⟨items, scanned, inside⟩ := List.mem_flatten.1 member
    obtain ⟨_, _, _, _, found⟩ := Text.exists_recognized_of_mem_scan scanned
    exact (isUnvalued_of_function? found declaration inside).exists_readsValue member
  | arrowParameters =>
    obtain ⟨_, _, _, _, listed⟩ := mem_apply_arrowParameters_iff.1 member
    obtain ⟨binding, _, rfl⟩ := List.mem_map.1 listed
    exact (isUnvalued_ofParameter binding).exists_readsValue member
  | singleArrowParameter =>
    obtain ⟨item, scanned, same⟩ := List.mem_filterMap.1 member
    obtain rfl : item = some declaration := same
    obtain ⟨_, _, _, _, found⟩ := Text.exists_recognized_of_mem_scan scanned
    exact (isUnvalued_of_singleArrow? found).exists_readsValue member

end Rule

namespace Symbol

open Fragment (OnLine)

theorem exists_onLine_of_mem_recognize {text : Text} {symbol : Symbol}
    (member : symbol ∈ recognize (Fragment.extract text)) :
    ∃ declaration before after, symbol = declaration.toSymbol symbol.position ∧
      OnLine text symbol.position symbol.name before after ∧
      Rule.ReadsValue declaration after := by
  rcases mem_of_mem_foldl_insertNew member with none | some
  · cases none
  · obtain ⟨fragment, extracted, inFragment⟩ := List.mem_flatMap.1 some
    obtain ⟨⟨index, line⟩, numbered, inLine⟩ := List.mem_flatMap.1 inFragment
    simp only at inLine
    split at inLine
    · cases inLine
    · obtain ⟨rule, _, byRule⟩ := List.mem_flatMap.1 inLine
      obtain ⟨declaration, applied, rfl⟩ := List.mem_map.1 byRule
      obtain ⟨before, after, rfl, column, reads⟩ := Rule.exists_readsValue_of_mem_apply applied
      refine ⟨declaration, before, after, rfl, ⟨fragment, extracted, index, numbered, ?_⟩, reads⟩
      rw [← column]
      rfl

/-- **The value of a symbol is its initializer.** Every symbol of a document stands on a content
line.  If it has a value, it is a declared name and the value is trimmed, not empty and free of
separators and line feeds, and every content line on which the symbol stands reads behind its name
an equals sign, the value and a separator or the end, but for white space.  If it is declared
without a value, no equals sign follows it there.  Parameters and destructured names have none. -/
theorem values_are_initializers (text : Text) :
    ∀ symbol ∈ recognize (Fragment.extract text),
      (∃ before after, OnLine text symbol.position symbol.name before after) ∧
      (∀ value, symbol.value = some value → symbol.declaration = .declared ∧ value ≠ [] ∧
        Text.trim value = value ∧ ∀ c ∈ value, c ≠ ',' ∧ c ≠ ';' ∧ c ≠ '\n') ∧
      (symbol.kind = .parameter ∨ symbol.declaration = .parameter ∨
        symbol.declaration = .destructured → symbol.value = none) ∧
      ∀ before after, OnLine text symbol.position symbol.name before after →
        (∀ value, symbol.value = some value → Rule.InitializedBy value after) ∧
        (symbol.value = none → symbol.declaration = .declared →
          Text.startsWith '=' (Text.trimStart after) = false) := by
  intro symbol member
  obtain ⟨declaration, before, after, same, stands, reads⟩ := exists_onLine_of_mem_recognize member
  have value_eq : symbol.value = declaration.value := congrArg Symbol.value same
  have kind_eq : symbol.kind = declaration.kind := congrArg Symbol.kind same
  have declaration_eq : symbol.declaration = declaration.declaration :=
    congrArg Symbol.declaration same
  have filled := Identifier.ne_nil_of_isValid (declaredIn_of_mem_recognize member).valid
  rw [value_eq, kind_eq, declaration_eq]
  refine ⟨⟨before, after, stands⟩, ?_, ?_, ?_⟩
  · intro value valued
    obtain ⟨declared, _, nonempty, trimmed, plain, initialized⟩ := reads.initialized value valued
    refine ⟨declared, nonempty, trimmed, fun c inside => ?_⟩
    have joined := plain c inside
    simp only [Rule.endsValue, Bool.or_eq_false_iff, beq_eq_false_iff_ne] at joined
    refine ⟨joined.1, joined.2, ?_⟩
    rintro rfl
    exact stands.newline_not_mem (initialized.mem inside)
  · intro other
    cases valued : declaration.value with
    | none => rfl
    | some value =>
      obtain ⟨declared, kind, _⟩ := reads.initialized value valued
      rw [declared] at other
      simp [kind] at other
  · intro left right second
    obtain rfl := stands.after_eq filled second
    exact ⟨fun value valued => (reads.initialized value valued).2.2.2.2.2, reads.bare⟩

/-- A tag within a tag shows its code twice: both content lines read the value of `x` behind it, and
no equals sign behind `y`. -/
theorem values_are_initializers_in_nested_tags :
    let rest : Text := ['=', ' ', '1', ';', 'l', 'e', 't', ' ', 'y']
    let inner : Text := ['l', 'e', 't', ' ']
    let outer : Text := 'b' :: '<' :: '%' :: inner
    let text : Text := '<' :: '%' :: '=' :: (outer ++ 'x' :: (rest ++ ['%', '>']))
    let x : Symbol := ⟨['x'], .mutable, .declared, some .block, ⟨0, 10⟩, [⟨0, 10⟩], some ['1']⟩
    let y : Symbol := ⟨['y'], .mutable, .declared, some .block, ⟨0, 19⟩, [⟨0, 19⟩], none⟩
    recognize (Fragment.extract text) = [x, y] ∧
      OnLine text x.position x.name outer rest ∧ OnLine text x.position x.name inner rest ∧
      Rule.InitializedBy ['1'] rest ∧
      OnLine text y.position y.name (inner ++ 'x' :: rest.dropLast) [] ∧
      Text.startsWith '=' (Text.trimStart []) = false := by
  intro rest inner outer text x y
  let whole : Fragment := ⟨outer ++ 'x' :: rest, ⟨0, 3⟩, ⟨0, 20⟩, .output, 3⟩
  let nested : Fragment := ⟨inner ++ 'x' :: rest, ⟨0, 6⟩, ⟨0, 20⟩, .scriptlet, 6⟩
  have fragments : Fragment.extract text = [whole, nested] :=
    List.mergeSort_of_pairwise (by decide +kernel)
  have found : recognize (Fragment.extract text) = [x, y] := by
    rw [fragments]
    decide +kernel
  have onOuter : OnLine text x.position x.name outer rest :=
    ⟨whole, by simp [fragments], 0, by decide +kernel, by decide +kernel⟩
  have onInner : OnLine text x.position x.name inner rest :=
    ⟨nested, by simp [fragments], 0, by decide +kernel, by decide +kernel⟩
  have last : OnLine text y.position y.name (inner ++ 'x' :: rest.dropLast) [] :=
    ⟨nested, by simp [fragments], 0, by decide +kernel, by decide +kernel⟩
  have valued := values_are_initializers text x (by simp [found])
  have unvalued := values_are_initializers text y (by simp [found])
  exact ⟨found, onOuter, onInner, (valued.2.2.2 outer rest onOuter).1 ['1'] rfl, last,
    (unvalued.2.2.2 _ _ last).2 rfl rfl⟩

end Symbol

end TemplateNav
