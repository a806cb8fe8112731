import TemplateNav.Proofs.Symbol.Placement
import TemplateNav.Proofs.Template.Nesting

/-!
# The heads of plain declarations

A plain declaration begins with a head: a keyword at the start of a word, white space and
a whole word with the shape of a name.  Where a head stands, both recognizers of plain
declarations read it, and what they answer can be computed from its parts: the name and
its column, and a width that ends with the name or with the initializer.  Where no head
stands they find nothing, and no two heads have their names in one place.
-/

namespace TemplateNav

namespace Identifier

/-- A text has the shape of a name, reserved or not. -/
def HasShape (word : Text) : Prop :=
  ∃ first rest, word = first :: rest ∧ isStart first = true ∧ ∀ c ∈ rest, isPart c = true

theorem HasShape.isPart {word : Text} (shape : HasShape word) : ∀ c ∈ word, isPart c = true := by
  obtain ⟨first, rest, rfl, start, parts⟩ := shape
  exact List.forall_mem_cons.2 ⟨isPart_of_isStart start, parts⟩

theorem HasShape.startsSolid {word : Text} (shape : HasShape word) : word.StartsSolid := by
  obtain ⟨first, rest, rfl, start, _⟩ := shape
  refine ⟨first, rest, rfl, ?_⟩
  by_contra blank
  have other := isPart_eq_false_of_isBlank (Bool.not_eq_false _ ▸ blank)
  rw [isPart_of_isStart start] at other
  cases other

theorem hasShape_of_isValid {word : Text} (valid : isValid word = true) : HasShape word := by
  cases word with
  | nil => cases valid
  | cons first rest =>
    simp only [isValid, Bool.and_eq_true] at valid
    exact ⟨first, rest, rfl, valid.1.1, List.all_eq_true.1 valid.1.2⟩

theorem read?_append {word after : Text} (shape : HasShape word) (apart : after.StartsApart) :
    read? (word ++ after) = some (word, after) := by
  obtain ⟨first, rest, rfl, start, parts⟩ := shape
  rw [List.cons_append, read?, if_pos start, takeWhile_append parts apart,
    dropWhile_append parts apart]

theorem hasShape_of_read? {text word rest : Text} (found : read? text = some (word, rest)) :
    HasShape word := by
  unfold read? at found
  split at found
  · cases found
  · next first others =>
    split at found
    · next start =>
      obtain ⟨rfl, _⟩ : _ = word ∧ _ = rest := by simpa using found
      exact ⟨first, _, rfl, start, List.all_eq_true.1 List.all_takeWhile⟩
    · cases found

end Identifier

namespace Rule

open Identifier (HasShape)

/-- A declaring keyword, white space and a whole word with the shape of a name stand between `left`
and `rest`. -/
structure PlainHead (left : Text) (keyword : Keyword) (gap name rest : Text) : Prop where
  boundary : Text.atWordStart left.reverse = true
  spaced : gap ≠ []
  blank : ∀ c ∈ gap, Text.isBlank c = true
  shaped : HasShape name
  ends : rest.StartsApart

theorem hasShape_spelling (keyword : Keyword) : HasShape keyword.spelling := by
  cases keyword with
  | constKeyword => exact ⟨_, _, rfl, by decide, List.all_eq_true.1 (by decide)⟩
  | letKeyword => exact ⟨_, _, rfl, by decide, List.all_eq_true.1 (by decide)⟩
  | varKeyword => exact ⟨_, _, rfl, by decide, List.all_eq_true.1 (by decide)⟩

theorem keyword?_append {before : Text} (boundary : Text.atWordStart before = true)
    (keyword : Keyword) (rest : Text) :
    keyword? before (keyword.spelling ++ rest) = some (keyword, rest) := by
  have read : spelling? before (keyword.spelling ++ rest) = some (keyword.spelling, rest) := by
    rw [spelling?, if_pos boundary]
    cases keyword with
    | constKeyword => simp [Keyword.all, Keyword.spelling, Text.dropLead?]
    | letKeyword => simp [Keyword.all, Keyword.spelling, Text.dropLead?]
    | varKeyword => simp [Keyword.all, Keyword.spelling, Text.dropLead?]
  simp only [keyword?, read, Option.bind_eq_bind, Option.bind_some, Keyword.parse?_spelling]
  rfl

variable {left gap name rest : Text} {keyword : Keyword}

theorem PlainHead.head?_eq (head : PlainHead left keyword gap name rest) :
    head? left.reverse (keyword.spelling ++ (gap ++ (name ++ rest))) =
      some ⟨keyword, name, Text.utf8Length (left ++ (keyword.spelling ++ gap)), rest⟩ := by
  have named : Text.trimStart (gap ++ (name ++ rest)) = name ++ rest := by
    rw [Text.trimStart_append head.blank,
      Text.trimStart_of_solid (head.shaped.startsSolid.append rest)]
  have longer : (name ++ rest).length ≠ (gap ++ (name ++ rest)).length := by
    have filled := List.length_pos_iff.2 head.spaced
    simp only [List.length_append]
    omega
  have column : Text.utf8Length left.reverse +
      (Text.utf8Length (keyword.spelling ++ (gap ++ (name ++ rest))) -
        Text.utf8Length (name ++ rest)) = Text.utf8Length (left ++ (keyword.spelling ++ gap)) := by
    simp only [Text.utf8Length_append, Text.utf8Length_reverse]
    omega
  rw [head?, keyword?_append head.boundary]
  simp only [Option.bind_eq_bind, Option.bind_some, named, if_neg longer,
    Identifier.read?_append head.shaped head.ends, column]
  rfl

/-- Where a head is read, it stands. -/
theorem exists_plainHead_of_head? {text : Text} {head : Head}
    (found : head? left.reverse text = some head) :
    ∃ gap, text = head.keyword.spelling ++ (gap ++ (head.name ++ head.rest)) ∧
      PlainHead left head.keyword gap head.name head.rest := by
  simp only [head?, Option.bind_eq_bind, Option.bind_eq_some_iff] at found
  obtain ⟨⟨keyword, rest⟩, declared, found⟩ := found
  split at found
  · cases found
  · next spaced =>
    obtain ⟨⟨name, behind⟩, read, same⟩ := Option.bind_eq_some_iff.1 found
    obtain rfl := Option.some.inj same
    obtain ⟨rfl, boundary⟩ := eq_append_of_keyword? declared
    obtain ⟨split, starts⟩ := Identifier.eq_append_of_read? read
    have pieces : rest.takeWhile Text.isBlank ++ Text.trimStart rest = rest :=
      List.takeWhile_append_dropWhile
    refine ⟨rest.takeWhile Text.isBlank, ?_, boundary, ?_, ?_, Identifier.hasShape_of_read? read,
      starts⟩
    · rw [← split, pieces]
    · intro none
      rw [none, List.nil_append] at pieces
      exact spaced (congrArg List.length pieces)
    · exact List.all_eq_true.1 List.all_takeWhile

theorem PlainHead.bare?_eq (head : PlainHead left keyword gap name rest) :
    bare? left.reverse (keyword.spelling ++ (gap ++ (name ++ rest))) =
      some (if Text.startsWith '=' (Text.trimStart rest) || !Identifier.isValid name then none
          else some ⟨name, Text.utf8Length (left ++ (keyword.spelling ++ gap)), keyword.symbolKind,
            .declared, keyword.scope, none⟩,
        (keyword.spelling ++ (gap ++ name)).length) := by
  have width : (keyword.spelling ++ (gap ++ (name ++ rest))).length - rest.length =
      (keyword.spelling ++ (gap ++ name)).length := by
    simp only [List.length_append]
    omega
  rw [bare?, head.head?_eq]
  simp only [Option.bind_eq_bind, Option.bind_some, width]
  split
  · rfl
  · rfl

/-- A head, white space and an equals sign stand between `left` and `initializer`. -/
structure InitializedHead (left : Text) (keyword : Keyword) (gap name space initializer : Text) :
    Prop extends PlainHead left keyword gap name (space ++ '=' :: initializer) where
  padded : ∀ c ∈ space, Text.isBlank c = true

theorem InitializedHead.of_trimStart (head : PlainHead left keyword gap name rest)
    {initializer : Text} (equals : Text.trimStart rest = '=' :: initializer) :
    ∃ space, rest = space ++ '=' :: initializer ∧
      InitializedHead left keyword gap name space initializer := by
  have pieces : rest.takeWhile Text.isBlank ++ '=' :: initializer = rest := by
    rw [← equals]
    exact List.takeWhile_append_dropWhile
  refine ⟨_, pieces.symm, ?_, List.all_eq_true.1 List.all_takeWhile⟩
  rw [pieces]
  exact head

theorem InitializedHead.trimStart_eq {space initializer : Text}
    (head : InitializedHead left keyword gap name space initializer) :
    Text.trimStart (space ++ '=' :: initializer) = '=' :: initializer := by
  rw [Text.trimStart_append head.padded, Text.trimStart_of_solid ⟨_, _, rfl, by decide⟩]

/-- What belongs to an initializer: everything before the next comma or semicolon. -/
def valueText (initializer : Text) : Text :=
  initializer.takeWhile fun c => !endsValue c

theorem valueText_append {value : Text} (inside : ∀ c ∈ value, endsValue c = false) (rest : Text) :
    valueText (value ++ rest) = value ++ valueText rest :=
  List.takeWhile_append_of_pos (by simpa using inside)

theorem endsValue_of_mem_valueText {initializer : Text} {c : Char}
    (member : c ∈ valueText initializer) : endsValue c = false := by
  simpa using List.all_eq_true.1 List.all_takeWhile c member

theorem isOtherOperator_valueText (initializer : Text) :
    isOtherOperator (valueText initializer) = isOtherOperator initializer := by
  cases initializer with
  | nil => rfl
  | cons c more =>
    by_cases ends : endsValue c = true
    · have other : isOtherOperator (c :: more) = false := by
        simp only [endsValue, Bool.or_eq_true, beq_iff_eq] at ends
        rcases ends with rfl | rfl <;> rfl
      rw [valueText, List.takeWhile_cons_of_neg (by simp [ends]), other]
      rfl
    · rw [valueText, List.takeWhile_cons_of_pos (by simpa using ends)]
      rfl

theorem InitializedHead.initialized?_eq {space initializer : Text}
    (head : InitializedHead left keyword gap name space initializer) :
    initialized? left.reverse
        (keyword.spelling ++ (gap ++ (name ++ (space ++ '=' :: initializer)))) =
      some (if isOtherOperator initializer || (Text.trim (valueText initializer)).isEmpty ||
          !Identifier.isValid name then none
          else some ⟨name, Text.utf8Length (left ++ (keyword.spelling ++ gap)), keyword.symbolKind,
            .declared, keyword.scope, some (Text.trim (valueText initializer))⟩,
        (keyword.spelling ++ (gap ++ (name ++ (space ++ '=' ::
          valueText initializer)))).length) := by
  have behind : Text.dropLead? ['='] ('=' :: initializer) = some initializer := by
    simp [Text.dropLead?]
  have shorter : (valueText initializer).length ≤ initializer.length :=
    (List.takeWhile_sublist _).length_le
  have width : (keyword.spelling ++ (gap ++ (name ++ (space ++ '=' :: initializer)))).length -
      (initializer.length - (valueText initializer).length) =
        (keyword.spelling ++ (gap ++ (name ++ (space ++ '=' ::
          valueText initializer)))).length := by
    simp only [List.length_append, List.length_cons]
    omega
  rw [initialized?, head.head?_eq]
  simp only [Option.bind_eq_bind, Option.bind_some, head.trimStart_eq, behind]
  rw [← valueText, width, isOtherOperator_valueText]
  split
  · rfl
  · rfl

/-- What follows an equals sign does not matter for the head before it. -/
theorem InitializedHead.with_initializer {space initializer : Text}
    (head : InitializedHead left keyword gap name space initializer) (other : Text) :
    InitializedHead left keyword gap name space other :=
  { head with
    ends := (Text.startsApart_of_blank head.padded).append
      (Text.startsApart_cons other (by decide)) }

theorem exists_head_of_initialized? {text : Text} {item : Option Declaration} {width : Nat}
    (found : initialized? left.reverse text = some (item, width)) :
    ∃ keyword gap name space initializer,
      text = keyword.spelling ++ (gap ++ (name ++ (space ++ '=' :: initializer))) ∧
      InitializedHead left keyword gap name space initializer := by
  simp only [initialized?, Option.bind_eq_bind, Option.bind_eq_some_iff] at found
  obtain ⟨head, read, initializer, equals, _⟩ := found
  obtain ⟨gap, split, stands⟩ := exists_plainHead_of_head? read
  obtain ⟨space, rest, initialized⟩ :=
    InitializedHead.of_trimStart stands (Text.eq_append_of_dropLead? equals)
  rw [rest] at split
  exact ⟨head.keyword, gap, head.name, space, initializer, split, initialized⟩

/-- A recognizer finds heads only, and declares their names in their places if it declares
anything. -/
def ReadsHeads (recognize : Text → Text → Option (Option Declaration × Nat)) : Prop :=
  ∀ left text item width, recognize left.reverse text = some (item, width) →
    ∃ keyword gap name rest, text = keyword.spelling ++ (gap ++ (name ++ rest)) ∧
      PlainHead left keyword gap name rest ∧ ∀ declaration ∈ item, declaration.name = name ∧
        declaration.column = Text.utf8Length (left ++ (keyword.spelling ++ gap))

theorem readsHeads_bare? : ReadsHeads bare? := by
  intro left text item width found
  have read := found
  simp only [bare?, Option.bind_eq_bind, Option.bind_eq_some_iff] at read
  obtain ⟨head, read, _⟩ := read
  obtain ⟨gap, rfl, stands⟩ := exists_plainHead_of_head? read
  rw [stands.bare?_eq, Option.some.injEq, Prod.mk.injEq] at found
  refine ⟨_, gap, _, _, rfl, stands, ?_⟩
  rw [← found.1]
  split
  · simp
  · simp

theorem readsHeads_initialized? : ReadsHeads initialized? := by
  intro left text item width found
  obtain ⟨keyword, gap, name, space, initializer, rfl, stands⟩ := exists_head_of_initialized? found
  rw [stands.initialized?_eq, Option.some.injEq, Prod.mk.injEq] at found
  refine ⟨keyword, gap, name, _, rfl, stands.toPlainHead, ?_⟩
  rw [← found.1]
  split
  · simp
  · simp

theorem endsSolid_spelling (keyword : Keyword) : keyword.spelling.EndsSolid := by
  cases keyword with
  | constKeyword => exact ⟨['c', 'o', 'n', 's'], 't', rfl, by decide⟩
  | letKeyword => exact ⟨['l', 'e'], 't', rfl, by decide⟩
  | varKeyword => exact ⟨['v', 'a'], 'r', rfl, by decide⟩

/-- No keyword ends another. -/
theorem eq_of_append_spelling {one other : Text} {first second : Keyword}
    (same : one ++ first.spelling = other ++ second.spelling) : one = other := by
  have ending := congrArg List.reverse same
  simp only [List.reverse_append] at ending
  have kind : first = second := by
    cases first <;> cases second <;> simp [Keyword.spelling] at ending <;> rfl
  rw [kind] at same
  exact List.append_cancel_right same

/-- Heads whose names begin in one place are the same head. -/
theorem PlainHead.left_eq {other space word tail : Text} {first : Keyword}
    (head : PlainHead left keyword gap name rest) (earlier : PlainHead other first space word tail)
    (same : other ++ (first.spelling ++ space) = left ++ (keyword.spelling ++ gap)) :
    other = left := by
  rw [← List.append_assoc, ← List.append_assoc] at same
  exact eq_of_append_spelling (Text.eq_of_append_blank ((endsSolid_spelling first).append other)
    ((endsSolid_spelling keyword).append left) earlier.blank head.blank same)

end Rule

end TemplateNav
