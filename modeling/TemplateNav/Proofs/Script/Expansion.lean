import TemplateNav.Proofs.Script.BindingOrder
import TemplateNav.Proofs.Script.ByteScan
import TemplateNav.Proofs.Script.Segments

/-!
# Expansion by byte indexes

An expansion need not take a text apart character by character.  It can look for brackets,
commas, colons and equals signs among the bytes and cut the text at the indexes where it finds
them.  An index could lie inside of a character, where a text cannot be cut, but the scans stop
at characters of one byte only.  So every cut succeeds, on any text, and the expansion is the same.
-/

namespace TemplateNav

open Text (byteChars)

namespace Bracket

/-- The byte index of the bracket that closes the one at the start of a text. -/
def closeIndex? (text : Text) : Option Nat :=
  (group? (byteChars text)).map fun (inside, _) => inside.length + 1

/-- The byte index of the first top-level colon. -/
def colonIndex? (text : Text) : Option Nat :=
  (atColon? Nesting.top (byteChars text)).map fun (before, _) => before.length

/-- The byte index of the first top-level equals sign that stands for an assignment. -/
def equalsIndex? (text : Text) : Option Nat :=
  (atEquals? Nesting.top (byteChars text)).map fun (before, _) => before.length

/-- The byte indexes between which pieces stand that are one byte apart. -/
def spansFrom (start : Nat) : List Text → List (Nat × Nat)
  | [] => []
  | piece :: rest => (start, start + piece.length) :: spansFrom (start + piece.length + 1) rest

/-- The segments of a list, cut out between the byte indexes of its top-level commas. -/
def slicedSegments? (offset : Nat) (text : Text) : Option (List (Nat × Text)) :=
  (spansFrom 0 (segmentsFrom Nesting.top (byteChars text))).mapM fun (start, stop) =>
    (text.slice? start stop).map fun segment => (offset + start, segment)

variable (text : Text)

theorem closeIndex?_eq :
    closeIndex? text = (group? text).map fun (inside, _) => Text.utf8Length inside + 1 := by
  rw [closeIndex?, group?_byteChars]
  exact map_length_cutInBytes (· + 1) _

theorem colonIndex?_eq :
    colonIndex? text =
      (atColon? Nesting.top text).map fun (before, _) => Text.utf8Length before := by
  rw [colonIndex?, atColon?_byteChars]
  exact map_length_cutInBytes id _

theorem equalsIndex?_eq :
    equalsIndex? text =
      (atEquals? Nesting.top text).map fun (before, _) => Text.utf8Length before := by
  rw [equalsIndex?, atEquals?_byteChars]
  exact map_length_cutInBytes id _

/-- The quote behind an escaped character of two bytes ends its literal. -/
example : equalsIndex? ['\'', '\\', 'é', '\'', '='] = some 5 := by decide +kernel

/-- Segments at the end of a text, each behind a comma, are cut out of it. -/
theorem mapM_slice?_spansFrom (offset : Nat) (before : Text) {text : Text} {segments : List Text}
    (split : text = before ++ segments.flatMap (',' :: ·)) :
    ((spansFrom (Text.utf8Length before + 1) (segments.map byteChars)).mapM fun (start, stop) =>
        (text.slice? start stop).map fun segment => (offset + start, segment)) =
      some (withOffsets (offset + Text.utf8Length before + 1) segments) := by
  induction segments generalizing before with
  | nil => rfl
  | cons segment rest ih =>
    have comma : Text.utf8Length (before ++ [',']) = Text.utf8Length before + 1 := by simp; rfl
    have cut := Text.slice?_of_split (before ++ [',']) segment (rest.flatMap (',' :: ·))
      (by simpa using split)
    have later := ih (before ++ [','] ++ segment) (by simpa using split)
    rw [Text.utf8Length_append, comma, ← Nat.add_assoc, ← Nat.add_assoc] at later
    rw [comma] at cut
    simp only [List.map_cons, spansFrom, List.mapM_cons, Text.length_byteChars, cut, later]
    rfl

theorem slicedSegments?_eq (offset : Nat) :
    slicedSegments? offset text = some (withOffsets offset (segmentsFrom Nesting.top text)) := by
  obtain ⟨segment, later, segments⟩ :=
    List.exists_cons_of_ne_nil (segmentsFrom_ne_nil Nesting.top text)
  have split := intercalate_segmentsFrom Nesting.top text
  rw [segments, intercalate_cons] at split
  have cut := Text.slice?_of_split [] segment (later.flatMap (',' :: ·)) split.symm
  rw [Text.utf8Length_nil, Nat.zero_add] at cut
  rw [slicedSegments?, segmentsFrom_byteChars, segments]
  simp only [List.map_cons, spansFrom, List.mapM_cons, Text.length_byteChars, Nat.zero_add, cut,
    mapM_slice?_spansFrom offset segment split.symm]
  rfl

section Groups

variable {text inside after : Text}

theorem closeIndex?_of_group? (found : group? text = some (inside, after)) :
    closeIndex? text = some (Text.utf8Length inside + 1) := by
  rw [closeIndex?_eq, found]
  rfl

theorem slice?_of_group? (found : group? text = some (inside, after)) :
    text.slice? 1 (Text.utf8Length inside + 1) = some inside := by
  obtain ⟨before, behind, split, size, _⟩ := standsApart_of_group? found
  exact Text.slice?_eq_some_iff.2 ⟨before, behind, split, size, Nat.add_comm ..⟩

/-- A group is read from the text that it is cut out of and from the group alone. -/
theorem exists_append_group?_of_group? (found : group? text = some (inside, after)) :
    ∃ group, text = group ++ after ∧ Text.utf8Length group = Text.utf8Length inside + 2 ∧
      group.head? = text.head? ∧ group? group = some (inside, []) := by
  cases text with
  | nil => cases found
  | cons c rest =>
    cases opens : closer? c with
    | none => simp [group?, opens] at found
    | some closer =>
      obtain ⟨rfl, balanced⟩ := (group?_eq_some_iff opens).1 found
      obtain ⟨narrow, closes⟩ := utf8Size_of_closer? opens
      refine ⟨c :: (inside ++ [closer]), by simp, ?_, rfl, group?_append opens balanced []⟩
      simp only [Text.utf8Length_cons, Text.utf8Length_append, Text.utf8Length_nil, narrow, closes]
      omega

end Groups

end Bracket

namespace Binding

/-- How a pattern reads that has to end with the bracket that closes its first one. -/
def slicedPatternShape? (pattern : Text) : Option Shape :=
  match pattern.head?.bind Context.ofOpener?, Bracket.closeIndex? pattern with
  | some context, some close =>
    if close + 1 = Text.utf8Length pattern then (pattern.slice? 1 close).map (Shape.nested context)
    else some .unreadable
  | _, _ => some .unreadable

/-- How a target without a key reads: a nested pattern is cut out first. -/
def slicedUnkeyedShape? (text : Text) : Option Shape :=
  match text.head?.bind Context.ofOpener? with
  | some _ =>
    match Bracket.closeIndex? text with
    | some close => (text.slice? 0 (close + 1)).bind slicedPatternShape?
    | none => some .unreadable
  | none =>
    match Bracket.equalsIndex? text with
    | some equals => (text.slice? 0 equals).map fun before => .word (Text.trimEnd before)
    | none => some (.word text)

/-- How a target with a computed key reads. -/
def slicedComputedShape? (text : Text) : Option Shape :=
  match Bracket.closeIndex? text with
  | some close => (text.slice? (close + 1) (Text.utf8Length text)).map fun after =>
    ((Text.dropLead? [':'] (Text.trimStart after)).map Shape.keyed).getD .unreadable
  | none => some .unreadable

/-- The byte index of the colon behind a plain key. -/
def keyColon? (text : Text) : Option Nat :=
  match Bracket.colonIndex? text, Bracket.equalsIndex? text with
  | none, _ => none
  | some colon, none => some colon
  | some colon, some equals => if colon < equals then some colon else none

/-- How a target reads. -/
def slicedShape? (context : Context) (text : Text) : Option Shape :=
  match context with
  | .list => slicedUnkeyedShape? text
  | .object =>
    if Text.startsWith '[' text then slicedComputedShape? text
    else if Text.startsWith '{' text then slicedUnkeyedShape? text
    else
      match keyColon? text with
      | some colon => (text.slice? (colon + 1) (Text.utf8Length text)).map Shape.keyed
      | none => slicedUnkeyedShape? text

theorem slicedPatternShape?_of_group? {pattern inside after : Text} {context : Context}
    (opens : pattern.head?.bind Context.ofOpener? = some context)
    (found : Bracket.group? pattern = some (inside, after)) :
    slicedPatternShape? pattern =
      some (if after = [] then .nested context inside else .unreadable) := by
  obtain ⟨group, split, size, _⟩ := Bracket.exists_append_group?_of_group? found
  have whole : Text.utf8Length inside + 1 + 1 = Text.utf8Length pattern ↔ after = [] := by
    rw [split, Text.utf8Length_append, size]
    cases after with
    | nil => simp
    | cons c rest =>
      have positive := c.utf8Size_pos
      simp only [Text.utf8Length_cons, reduceCtorEq, iff_false]
      omega
  rw [slicedPatternShape?, opens, Bracket.closeIndex?_of_group? found]
  simp only [whole, Bracket.slice?_of_group? found]
  split <;> rfl

theorem slicedUnkeyedShape?_eq (text : Text) :
    slicedUnkeyedShape? text = some (unkeyedShape text) := by
  unfold slicedUnkeyedShape? unkeyedShape
  cases opens : text.head?.bind Context.ofOpener? with
  | some inner =>
    cases found : Bracket.group? text with
    | none => simp [Bracket.closeIndex?_eq, found]
    | some parts =>
      obtain ⟨inside, after⟩ := parts
      obtain ⟨group, split, size, head, alone⟩ := Bracket.exists_append_group?_of_group? found
      have cut := Text.slice?_of_split [] group after split
      rw [Text.utf8Length_nil, Nat.zero_add, size] at cut
      simp only [Bracket.closeIndex?_of_group? found, cut, Option.bind_some]
      exact slicedPatternShape?_of_group? (head ▸ opens) alone
  | none =>
    cases found : Bracket.atEquals? Bracket.Nesting.top text with
    | none => simp [Bracket.equalsIndex?_eq, found]
    | some parts =>
      obtain ⟨before, after⟩ := parts
      have cut := Text.slice?_of_split [] before ('=' :: after)
        (Bracket.eq_append_of_atEquals? found)
      rw [Text.utf8Length_nil, Nat.zero_add] at cut
      simp [Bracket.equalsIndex?_eq, found, cut]

theorem slicedComputedShape?_eq (text : Text) :
    slicedComputedShape? text =
      some (((behindComputedKey? text).map Shape.keyed).getD .unreadable) := by
  unfold slicedComputedShape? behindComputedKey?
  cases found : Bracket.group? text with
  | none => simp [Bracket.closeIndex?_eq, found]
  | some parts =>
    obtain ⟨inside, after⟩ := parts
    obtain ⟨group, split, size, _⟩ := Bracket.exists_append_group?_of_group? found
    have whole : text = group ++ after ++ [] := by rw [split, List.append_nil]
    have cut := Text.slice?_of_split group after [] whole
    rw [← Text.utf8Length_append, ← split, size] at cut
    simp [Bracket.closeIndex?_of_group? found, cut]

/-- The colon behind a plain key stands before the element that the key belongs to. -/
theorem keyColon?_eq (text : Text) :
    (keyColon? text = none ∧ behindKey? text = none) ∨
      ∃ key element, text = key ++ ':' :: element ∧ keyColon? text = some (Text.utf8Length key) ∧
        behindKey? text = some element := by
  unfold keyColon? behindKey?
  rw [Bracket.colonIndex?_eq, Bracket.equalsIndex?_eq]
  cases colon : Bracket.atColon? Bracket.Nesting.top text with
  | none => exact .inl ⟨rfl, rfl⟩
  | some parts =>
    obtain ⟨key, element⟩ := parts
    have split := Bracket.eq_append_of_atColon? colon
    cases Bracket.atEquals? Bracket.Nesting.top text with
    | none => exact .inr ⟨key, element, split, rfl, rfl⟩
    | some parts =>
      by_cases first : Text.utf8Length key < Text.utf8Length parts.1
      · exact .inr ⟨key, element, split, if_pos first, if_pos first⟩
      · exact .inl ⟨if_neg first, if_neg first⟩

theorem slicedShape?_eq (context : Context) (text : Text) :
    slicedShape? context text = some (shape context text) := by
  unfold slicedShape? shape
  cases context with
  | list => exact slicedUnkeyedShape?_eq text
  | object =>
    simp only
    split
    · exact slicedComputedShape?_eq text
    · split
      · exact slicedUnkeyedShape?_eq text
      · rcases keyColon?_eq text with ⟨noColon, noKey⟩ | ⟨key, element, split, colon, behind⟩
        · rw [noColon, noKey]
          exact slicedUnkeyedShape?_eq text
        · rw [colon, behind]
          simp only [Text.slice?_behind split rfl]
          rfl

/-- The names that one element binds, found by byte indexes; `none` if one of them is inside of a
character. -/
def slicedElement? (context : Context) (offset : Nat) (element : Text) : Option (List Binding) :=
  match _read : slicedShape? context (target element) with
  | none => none
  | some (.keyed inner) =>
    slicedElement? .list
      (offset + targetOffset element + (Text.utf8Length (target element) - Text.utf8Length inner))
      inner
  | some (.nested inner inside) =>
    match _cut : Bracket.slicedSegments? (offset + targetOffset element + 1) inside with
    | none => none
    | some segments =>
      (segments.attach.mapM fun (item : { item // item ∈ segments }) =>
        slicedElement? inner item.val.1 item.val.2).map List.flatten
  | some (.word name) =>
    some (if Identifier.isValid name then [⟨name, offset + targetOffset element⟩] else [])
  | some .unreadable => some []
termination_by element.length
decreasing_by
  · rw [slicedShape?_eq, Option.some.injEq] at _read
    have shorter := length_lt_of_keyed _read
    have smaller := length_target_le element
    omega
  · rw [slicedShape?_eq, Option.some.injEq] at _read
    rw [Bracket.slicedSegments?_eq, Option.some.injEq] at _cut
    have shorter := length_lt_of_nested _read
    have smaller := length_target_le element
    obtain ⟨item, listed⟩ := item
    rw [← _cut] at listed
    have segment := Bracket.length_le_of_mem_segmentsFrom (Bracket.mem_of_mem_withOffsets listed)
    simp only
    omega

/-- The names that a list binds, found by byte indexes. -/
def slicedList? (context : Context) (offset : Nat) (list : Text) : Option (List Binding) := do
  let segments ← Bracket.slicedSegments? offset list
  (segments.mapM fun item => slicedElement? context item.1 item.2).map List.flatten

/-- The names that a pattern binds, found by byte indexes. -/
def slicedPattern? (offset : Nat) (pattern : Text) : Option (List Binding) := do
  match ← slicedPatternShape? pattern with
  | .nested context inside => slicedList? context (offset + 1) inside
  | _ => some []

section Equations

variable {context : Context} {offset : Nat} {element : Text}

theorem slicedElement?_of_keyed {inner : Text}
    (read : shape context (target element) = .keyed inner) :
    slicedElement? context offset element = slicedElement? .list (offset + targetOffset element +
      (Text.utf8Length (target element) - Text.utf8Length inner)) inner := by
  rw [slicedElement?]
  split <;> rename_i other <;> rw [slicedShape?_eq, read] at other <;> cases other
  rfl

theorem slicedElement?_of_nested {inner : Context} {inside : Text}
    (read : shape context (target element) = .nested inner inside) :
    slicedElement? context offset element =
      slicedList? inner (offset + targetOffset element + 1) inside := by
  rw [slicedElement?]
  split <;> rename_i other <;> rw [slicedShape?_eq, read] at other <;> cases other
  rw [slicedList?]
  split <;> rename_i cut
  · rw [cut]
    rfl
  · next segments =>
    rw [cut, List.mapM_subtype (g := fun item => slicedElement? inner item.1 item.2)
      fun _ _ => rfl, List.unattach_attach]
    rfl

theorem slicedElement?_of_word {name : Text}
    (read : shape context (target element) = .word name) :
    slicedElement? context offset element =
      some (if Identifier.isValid name then [⟨name, offset + targetOffset element⟩] else []) := by
  rw [slicedElement?]
  split <;> rename_i other <;> rw [slicedShape?_eq, read] at other <;> cases other
  rfl

theorem slicedElement?_of_unreadable (read : shape context (target element) = .unreadable) :
    slicedElement? context offset element = some [] := by
  rw [slicedElement?]
  split <;> rename_i other <;> rw [slicedShape?_eq, read] at other <;> cases other

end Equations

theorem slicedList?_eq_of_elements {context : Context} {offset : Nat} {list : Text}
    (elements : ∀ start segment,
      (start, segment) ∈ Bracket.withOffsets offset (Bracket.segmentsFrom .top list) →
        slicedElement? context start segment = some (ofElement context start segment)) :
    slicedList? context offset list = some (ofList context offset list) := by
  have gathered : ∀ items ⊆ Bracket.withOffsets offset (Bracket.segmentsFrom .top list),
      (items.mapM fun item => slicedElement? context item.1 item.2) =
        some (items.map fun item => ofElement context item.1 item.2) := by
    intro items listed
    induction items with
    | nil => rfl
    | cons item items ih =>
      obtain ⟨first, others⟩ := List.cons_subset.1 listed
      rw [List.mapM_cons, elements item.1 item.2 first, ih others]
      rfl
  rw [slicedList?, Bracket.slicedSegments?_eq, Option.bind_eq_bind, Option.bind_some,
    gathered _ (List.Subset.refl _), Option.map_some, ofList, List.flatMap_def]

theorem slicedElement?_eq (context : Context) (offset : Nat) (element : Text) :
    slicedElement? context offset element = some (ofElement context offset element) := by
  induction context, offset, element using ofElement.induct with
  | case1 context offset element inner read ih =>
    rw [slicedElement?_of_keyed read, ofElement_of_keyed read]
    exact ih
  | case2 context offset element inner inside read ih =>
    rw [slicedElement?_of_nested read, ofElement_of_nested read]
    exact slicedList?_eq_of_elements ih
  | case3 context offset element name read valid =>
    rw [slicedElement?_of_word read, ofElement_of_word read]
  | case4 context offset element name read invalid =>
    rw [slicedElement?_of_word read, ofElement_of_word read]
  | case5 context offset element read =>
    rw [slicedElement?_of_unreadable read, ofElement_of_unreadable read]

theorem slicedList?_eq (context : Context) (offset : Nat) (list : Text) :
    slicedList? context offset list = some (ofList context offset list) :=
  slicedList?_eq_of_elements fun start segment _ => slicedElement?_eq context start segment

theorem slicedPattern?_eq (offset : Nat) (pattern : Text) :
    slicedPattern? offset pattern = some (ofPattern offset pattern) := by
  unfold slicedPattern? ofPattern
  cases opens : pattern.head?.bind Context.ofOpener? with
  | none => simp [slicedPatternShape?, opens]
  | some context =>
    cases found : Bracket.group? pattern with
    | none => simp [slicedPatternShape?, opens, Bracket.closeIndex?_eq, found]
    | some parts =>
      obtain ⟨inside, after⟩ := parts
      rw [slicedPatternShape?_of_group? opens found]
      cases after with
      | nil => exact slicedList?_eq context (offset + 1) inside
      | cons c rest => rfl

/-- **Bindings are found where the text can be cut.** An expansion of any text, malformed or not,
cuts it at character boundaries only, and gets valid names that stand in the text as whole words, in
the order in which they stand there. -/
theorem expansion_well_placed (context : Context) (offset : Nat) (text : Text) :
    (slicedElement? context offset text = some (ofElement context offset text) ∧
      WellPlaced text offset (ofElement context offset text)) ∧
    (slicedList? context offset text = some (ofList context offset text) ∧
      WellPlaced text offset (ofList context offset text)) ∧
    (slicedPattern? offset text = some (ofPattern offset text) ∧
      WellPlaced text offset (ofPattern offset text)) :=
  ⟨⟨slicedElement?_eq context offset text, wellPlaced_ofElement context offset text⟩,
    ⟨slicedList?_eq context offset text, wellPlaced_ofList context offset text⟩,
    slicedPattern?_eq offset text, wellPlaced_ofPattern offset text⟩

/-- A default with an escaped character of two bytes and a comma, a name behind white space, and a
bracket that nothing closes. -/
theorem expansion_well_placed_behind_escape :
    let list : Text := ['a', '=', '"', '\\', 'é', ',', '"', ',', ' ', 'b', ',', '[', 'é']
    slicedList? .object 7 list = some [⟨['a'], 7⟩, ⟨['b'], 17⟩] ∧
      WellPlaced list 7 [⟨['a'], 7⟩, ⟨['b'], 17⟩] := by
  intro list
  have split : Bracket.withOffsets 7 (Bracket.segmentsFrom .top list) =
      [(7, ['a', '=', '"', '\\', 'é', ',', '"']), (16, [' ', 'b']), (19, ['[', 'é'])] := by
    decide +kernel
  have found : ofList .object 7 list = [⟨['a'], 7⟩, ⟨['b'], 17⟩] := by
    rw [ofList, split, List.flatMap_cons, List.flatMap_cons, List.flatMap_singleton]
    simp only
    rw [ofElement_of_word (by decide +kernel : shape .object (target _) = .word ['a']),
      ofElement_of_word (by decide +kernel : shape .object (target _) = .word ['b']),
      ofElement_of_unreadable (by decide +kernel)]
    decide +kernel
  obtain ⟨sliced, placed⟩ := (expansion_well_placed .object 7 list).2.1
  rw [found] at sliced placed
  exact ⟨sliced, placed⟩

end Binding

end TemplateNav
