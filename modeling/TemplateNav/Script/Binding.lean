import TemplateNav.Script.Bracket
import TemplateNav.Script.Identifier
import TemplateNav.Text.Blank

/-!
# Bindings of patterns and parameter lists

A binding list names variables: directly, by nested object and array patterns,
behind the key of an object pattern's entry, or behind the dots of a rest
element.  Keys, defaults and computed key expressions bind nothing, and an
element that cannot be read binds nothing either.
-/

namespace TemplateNav

/-- A bound name and the byte offset it stands at. -/
structure Binding where
  name : Text
  offset : Nat
  deriving DecidableEq

namespace Binding

/-- What kind of list an element stands in. -/
inductive Context where
  /-- An object pattern, whose elements may have keys. -/
  | object
  /-- An array pattern or a parameter list. -/
  | list
  deriving DecidableEq

/-- The context inside an opening bracket of a pattern. -/
def Context.ofOpener? (c : Char) : Option Context :=
  if c = '{' then some .object
  else if c = '[' then some .list
  else none

/-- The target of an element: without surrounding white space and without the dots of a rest
element. -/
def target (element : Text) : Text :=
  match Text.dropLead? ['.', '.', '.'] (Text.trim element) with
  | none => Text.trim element
  | some rest => Text.trimStart rest

/-- The number of bytes before an element's target. -/
def targetOffset (element : Text) : Nat :=
  Text.utf8Length element - Text.utf8Length (Text.trimStart element) +
    (Text.utf8Length (Text.trim element) - Text.utf8Length (target element))

/-- How an element of a binding list reads, the white space and dots around its target aside. -/
inductive Shape where
  /-- An element of its own behind a key. -/
  | keyed (element : Text)
  /-- A nested pattern with the text between its brackets. -/
  | nested (context : Context) (inside : Text)
  /-- A single word, to be checked for being a name. -/
  | word (name : Text)
  /-- Nothing that binds. -/
  | unreadable
  deriving DecidableEq

/-- What stands behind a computed key `[expression]:`. -/
def behindComputedKey? (text : Text) : Option Text := do
  let (_, after) ← Bracket.group? text
  Text.dropLead? [':'] (Text.trimStart after)

/-- What stands behind a plain key: behind the first top-level colon, if no assignment stands before
that colon. -/
def behindKey? (text : Text) : Option Text :=
  match Bracket.atColon? Bracket.Nesting.top text, Bracket.atEquals? Bracket.Nesting.top text with
  | none, _ => none
  | some (_, element), none => some element
  | some (key, element), some (before, _) =>
    if Text.utf8Length key < Text.utf8Length before then some element else none

/-- Reads a target that has no key: a nested pattern, or a word up to its default. -/
def unkeyedShape (text : Text) : Shape :=
  match text.head?.bind Context.ofOpener? with
  | some inner =>
    match Bracket.group? text with
    | some (inside, _) => .nested inner inside
    | none => .unreadable
  | none =>
    match Bracket.atEquals? Bracket.Nesting.top text with
    | some (before, _) => .word (Text.trimEnd before)
    | none => .word text

/-- Reads a target; in an object pattern a key comes first. -/
def shape (context : Context) (text : Text) : Shape :=
  match context with
  | .list => unkeyedShape text
  | .object =>
    if Text.startsWith '[' text then
      ((behindComputedKey? text).map Shape.keyed).getD .unreadable
    else if Text.startsWith '{' text then
      unkeyedShape text
    else
      ((behindKey? text).map Shape.keyed).getD (unkeyedShape text)

theorem length_target_le (element : Text) : (target element).length ≤ element.length := by
  have trimmed := Text.length_trim_le element
  unfold target
  split
  · exact trimmed
  · next rest found =>
    have split := congrArg List.length (Text.eq_append_of_dropLead? found)
    have shorter := Text.length_trimStart_le rest
    simp only [List.length_append] at split
    omega

theorem length_lt_of_behindComputedKey? {text element : Text}
    (found : behindComputedKey? text = some element) : element.length < text.length := by
  simp only [behindComputedKey?, Option.bind_eq_bind, Option.bind_eq_some_iff] at found
  obtain ⟨⟨inside, after⟩, group, rest⟩ := found
  have grouped := Bracket.length_of_group? group
  have split := congrArg List.length (Text.eq_append_of_dropLead? rest)
  have shorter := Text.length_trimStart_le after
  simp only [List.length_append, List.length_cons, List.length_nil] at split
  omega

theorem length_lt_of_behindKey? {text element : Text}
    (found : behindKey? text = some element) : element.length < text.length := by
  unfold behindKey? at found
  split at found
  · cases found
  · next key behind colon _ =>
    have cut := Bracket.length_of_atColon? colon
    cases found
    omega
  · next key behind before after colon _ =>
    have cut := Bracket.length_of_atColon? colon
    split at found
    · cases found
      omega
    · cases found

theorem unkeyedShape_ne_keyed (text element : Text) : unkeyedShape text ≠ .keyed element := by
  unfold unkeyedShape
  split
  · split <;> simp
  · split <;> simp

theorem length_lt_of_unkeyedShape {text inside : Text} {inner : Context}
    (read : unkeyedShape text = .nested inner inside) : inside.length < text.length := by
  unfold unkeyedShape at read
  split at read
  · split at read
    · next found =>
      have grouped := Bracket.length_of_group? found
      simp only [Shape.nested.injEq] at read
      obtain ⟨_, rfl⟩ := read
      omega
    · cases read
  · split at read <;> cases read

theorem length_lt_of_keyed {context : Context} {text element : Text}
    (read : shape context text = .keyed element) : element.length < text.length := by
  unfold shape at read
  split at read
  · exact absurd read (unkeyedShape_ne_keyed text element)
  · split at read
    · cases found : behindComputedKey? text with
      | none => simp [found] at read
      | some behind =>
        simp only [found, Option.map_some, Option.getD_some, Shape.keyed.injEq] at read
        exact read ▸ length_lt_of_behindComputedKey? found
    · split at read
      · exact absurd read (unkeyedShape_ne_keyed text element)
      · cases found : behindKey? text with
        | none =>
          simp only [found, Option.map_none, Option.getD_none] at read
          exact absurd read (unkeyedShape_ne_keyed text element)
        | some behind =>
          simp only [found, Option.map_some, Option.getD_some, Shape.keyed.injEq] at read
          exact read ▸ length_lt_of_behindKey? found

theorem length_lt_of_nested {context inner : Context} {text inside : Text}
    (read : shape context text = .nested inner inside) : inside.length < text.length := by
  unfold shape at read
  split at read
  · exact length_lt_of_unkeyedShape read
  · split at read
    · cases found : behindComputedKey? text <;> simp [found] at read
    · split at read
      · exact length_lt_of_unkeyedShape read
      · cases found : behindKey? text with
        | none =>
          simp only [found, Option.map_none, Option.getD_none] at read
          exact length_lt_of_unkeyedShape read
        | some behind => simp [found] at read

/-- The names that one element of a binding list binds, at offsets counted from `offset`. -/
def ofElement (context : Context) (offset : Nat) (element : Text) : List Binding :=
  match _read : shape context (target element) with
  | .keyed inner =>
    ofElement .list
      (offset + targetOffset element + (Text.utf8Length (target element) - Text.utf8Length inner))
      inner
  | .nested inner inside =>
    (Bracket.withOffsets (offset + targetOffset element + 1)
      (Bracket.segmentsFrom Bracket.Nesting.top inside)).attach.flatMap
        fun ⟨(start, segment), _⟩ => ofElement inner start segment
  | .word name => if Identifier.isValid name then [⟨name, offset + targetOffset element⟩] else []
  | .unreadable => []
termination_by element.length
decreasing_by
  · have shorter := length_lt_of_keyed _read
    have smaller := length_target_le element
    omega
  · next member =>
    have shorter := length_lt_of_nested _read
    have smaller := length_target_le element
    have segment := Bracket.length_le_of_mem_segmentsFrom (Bracket.mem_of_mem_withOffsets member)
    simp only at segment
    omega

/-- The names that a comma-separated binding list binds. -/
def ofList (context : Context) (offset : Nat) (list : Text) : List Binding :=
  (Bracket.withOffsets offset (Bracket.segmentsFrom Bracket.Nesting.top list)).flatMap
    fun (start, segment) => ofElement context start segment

/-- The names that an object or array pattern binds; the pattern has to end with the bracket that
closes its first one. -/
def ofPattern (offset : Nat) (pattern : Text) : List Binding :=
  match pattern.head?.bind Context.ofOpener?, Bracket.group? pattern with
  | some context, some (inside, []) => ofList context (offset + 1) inside
  | _, _ => []

end Binding

end TemplateNav
