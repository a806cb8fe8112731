import TemplateNav.Proofs.Script.BindingSyntax

/-!
# Binding lists are read back

The readers of elements, lists and patterns find in a written binding list the
bound names where they occur, and nothing else.  Each token keeps its reader on
the way: white space is trimmed off, the first top-level colon or equals sign is
the one of the key or the default, and the brackets of a nested pattern enclose
the list that is read next.
-/

namespace TemplateNav

open TemplateNav.Bracket (Balanced)

namespace Binding

open BindingSyntax

/-- No dots of a rest element start the text. -/
def Undotted (text : Text) : Prop :=
  ∀ rest, Text.dropLead? ['.', '.', '.'] (text ++ rest) = none

theorem undotted_cons {c : Char} (noDot : c ≠ '.') (rest : Text) : Undotted (c :: rest) := by
  intro more
  simp [Text.dropLead?, Ne.symm noDot]

theorem ofList_of_balanced (context : Context) (offset : Nat) {segment : Text}
    (balanced : Balanced (· ≠ ',') segment) :
    ofList context offset segment = ofElement context offset segment := by
  rw [ofList, Bracket.segmentsFrom_of_balanced balanced]
  simp [Bracket.withOffsets]

theorem ofList_comma (context : Context) (offset : Nat) {segment : Text}
    (balanced : Balanced (· ≠ ',') segment) (rest : Text) :
    ofList context offset (segment ++ ',' :: rest) = ofElement context offset segment ++
      ofList context (offset + Text.utf8Length segment + 1) rest := by
  rw [ofList, Bracket.segmentsFrom_comma rest balanced, Bracket.withOffsets, List.flatMap_cons]
  rfl

/-- The colon of a key stands before the equals signs of what it is the key of. -/
theorem behindKey?_colon {key : Text} (noColon : Balanced (· ≠ ':') key)
    (noEquals : Balanced (· ≠ '=') key) (rest : Text) :
    behindKey? (key ++ ':' :: rest) = some rest := by
  have passed := noEquals.concat ⟨rfl, rfl, rfl⟩ (by decide : ':' ≠ '=')
  have equals := Bracket.atEquals?_append rest passed
  rw [← List.append_cons] at equals
  unfold behindKey?
  rw [Bracket.atColon?_colon rest noColon, equals]
  cases Bracket.atEquals? Bracket.Nesting.top rest with
  | none => rfl
  | some cut =>
    have colonSize : Text.utf8Length [':'] = 1 := rfl
    obtain ⟨before, value⟩ := cut
    rw [Bracket.prepend_some]
    simp only [Text.utf8Length_append]
    rw [if_pos (by omega)]

/-- The colons of a default stand behind its equals sign. -/
theorem behindKey?_equals {before value : Text} (noColon : Balanced (· ≠ ':') before)
    (noEquals : Balanced (· ≠ '=') before) (assigned : ∀ c ∈ value.head?, c ≠ '=' ∧ c ≠ '>') :
    behindKey? (before ++ '=' :: value) = none := by
  have passed := noColon.concat ⟨rfl, rfl, rfl⟩ (by decide : '=' ≠ ':')
  have colon := Bracket.atColon?_append value passed
  rw [← List.append_cons] at colon
  unfold behindKey?
  rw [colon, Bracket.atEquals?_equals value noEquals assigned]
  cases Bracket.atColon? Bracket.Nesting.top value with
  | none => rfl
  | some cut =>
    obtain ⟨key, behind⟩ := cut
    rw [Bracket.prepend_some]
    simp only [Text.utf8Length_append]
    rw [if_neg (by omega)]

theorem shape_object_cons {c : Char} (rest : Text) (noSquare : c ≠ '[') (noCurly : c ≠ '{') :
    shape .object (c :: rest) =
      ((behindKey? (c :: rest)).map Shape.keyed).getD (unkeyedShape (c :: rest)) := by
  simp [shape, Text.startsWith, noSquare, noCurly]

/-- What stands before the target of an element without a key. -/
inductive Opening : Text → Prop where
  | bare (gap : Gap) : Opening gap.text
  | rest (gap behind : Gap) : Opening (gap.text ++ (['.', '.', '.'] ++ behind.text))

/-- A target is found between what stands before it and the white space behind it. -/
theorem Opening.target_append {lead token : Text} (opening : Opening lead)
    (isToken : token.IsToken) (undotted : Undotted token) (tail : Text) :
    target (lead ++ (token ++ tail)) = token ++ Text.trimEnd tail ∧
      targetOffset (lead ++ (token ++ tail)) = Text.utf8Length lead := by
  cases opening with
  | bare gap =>
    obtain ⟨start, trimmed⟩ := Text.trim_append gap.blank isToken tail
    have found : target (gap.text ++ (token ++ tail)) = token ++ Text.trimEnd tail := by
      rw [target, trimmed, undotted]
    refine ⟨found, ?_⟩
    rw [targetOffset, found, trimmed, start, Text.utf8Length_append]
    omega
  | rest gap behind =>
    have dotted : Text.IsToken (['.', '.', '.'] ++ behind.text ++ token) :=
      ⟨⟨'.', _, rfl, rfl⟩, isToken.ends.append _⟩
    obtain ⟨start, trimmed⟩ := Text.trim_append gap.blank dotted tail
    have whole : gap.text ++ (['.', '.', '.'] ++ behind.text) ++ (token ++ tail) =
        gap.text ++ (['.', '.', '.'] ++ behind.text ++ token ++ tail) := by
      simp
    have dropped : Text.dropLead? ['.', '.', '.']
        (['.', '.', '.'] ++ behind.text ++ token ++ Text.trimEnd tail) =
          some (behind.text ++ (token ++ Text.trimEnd tail)) := by
      simp [Text.dropLead?]
    have found : target (gap.text ++ (['.', '.', '.'] ++ behind.text) ++ (token ++ tail)) =
        token ++ Text.trimEnd tail := by
      rw [whole, target, trimmed, dropped]
      simp only
      rw [Text.trimStart_append behind.blank, Text.trimStart_of_solid (isToken.starts.append _)]
    refine ⟨found, ?_⟩
    rw [targetOffset, found, whole, trimmed, start]
    simp only [Text.utf8Length_append]
    omega

/-- What stands behind a target, white space at the end aside. -/
inductive Ending : Text → Prop where
  | bare : Ending []
  | default (gap : Gap) {value : Text} (assigned : ∀ c ∈ value.head?, c ≠ '=' ∧ c ≠ '>') :
      Ending (gap.text ++ '=' :: value)

end Binding

namespace BindingSyntax

open Binding

theorem Tail.ending (tail : Tail) : Ending (Text.trimEnd tail.text) := by
  unfold Tail.text
  split
  · rw [Text.trimEnd_of_blank tail.gap.blank]
    exact .bare
  · next value _ =>
    have ends : Text.EndsSolid (tail.gap.text ++ ['=']) := ⟨tail.gap.text, '=', rfl, rfl⟩
    rw [List.append_cons, Text.trimEnd_append ends, ← List.append_cons]
    exact .default tail.gap fun c head => value.assigned c (Text.head?_of_head?_trimEnd head)

theorem Name.exists_cons (name : Name) :
    ∃ c rest, name.word = c :: rest ∧ ∀ d, Identifier.isPart d = false → c ≠ d := by
  obtain ⟨c, rest, word⟩ := List.exists_cons_of_ne_nil (Identifier.ne_nil_of_isValid name.valid)
  refine ⟨c, rest, word, ?_⟩
  rintro d other rfl
  have part := Identifier.isPart_of_isValid name.valid c (by simp [word])
  cases part.symm.trans other

theorem Name.isToken (name : Name) : name.word.IsToken := by
  refine .of_forall (Identifier.ne_nil_of_isValid name.valid) fun c member => ?_
  have part := Identifier.isPart_of_isValid name.valid c member
  refine Bool.eq_false_iff.2 fun blank => ?_
  cases part.symm.trans (Identifier.isPart_eq_false_of_isBlank blank)

theorem Target.isToken {form : Form} (target : Target form) : (render target.pieces).IsToken := by
  cases target with
  | name name =>
    rw [Target.render_name]
    exact name.isToken
  | pattern context elements =>
    rw [Target.render_pattern]
    cases context with
    | object => exact ⟨⟨'{', _, rfl, rfl⟩, ⟨_, '}', (List.cons_append ..).symm, rfl⟩⟩
    | list => exact ⟨⟨'[', _, rfl, rfl⟩, ⟨_, ']', (List.cons_append ..).symm, rfl⟩⟩

theorem Target.undotted {form : Form} (target : Target form) :
    Undotted (render target.pieces) := by
  cases target with
  | name name =>
    obtain ⟨c, rest, word, apart⟩ := name.exists_cons
    rw [Target.render_name, word]
    exact undotted_cons (apart '.' rfl) rest
  | pattern context elements =>
    rw [Target.render_pattern]
    cases context with
    | object => exact undotted_cons (by decide) _
    | list => exact undotted_cons (by decide) _

theorem Key.isToken (key : Key) : key.text.IsToken := by
  cases key with
  | plain key =>
    refine .of_forall (by simp [Key.text, PlainKey.text]) fun c member => ?_
    have part := PlainKey.isKeyPart_of_mem member
    simp only [isKeyPart, Bool.and_eq_true, Bool.not_eq_true'] at part
    exact part.1
  | quoted quote body isQuote _ =>
    have solid := Bracket.of_isQuote (Text.isBlank · = false) isQuote (by decide)
    exact ⟨⟨quote, _, rfl, solid⟩, ⟨quote :: body, quote, rfl, solid⟩⟩
  | computed expression => exact ⟨⟨'[', _, rfl, rfl⟩, ⟨'[' :: expression.text, ']', rfl, rfl⟩⟩

/-- A key that is not computed starts with no bracket. -/
theorem Key.exists_cons (key : Key) (simple : ∀ expression, key ≠ .computed expression) :
    ∃ c rest, key.text = c :: rest ∧ c ≠ '[' ∧ c ≠ '{' := by
  cases key with
  | plain key =>
    obtain ⟨c, rest, text⟩ : ∃ c rest, key.text = c :: rest :=
      List.exists_cons_of_ne_nil (by simp [PlainKey.text])
    have part := PlainKey.isKeyPart_of_mem (text ▸ List.mem_cons_self)
    refine ⟨c, rest, text, ?_, ?_⟩
    · rintro rfl
      cases part
    · rintro rfl
      cases part
  | quoted quote body isQuote _ =>
    exact ⟨quote, _, rfl, Bracket.of_isQuote (fun c => c ≠ '[' ∧ c ≠ '{') isQuote (by decide)⟩
  | computed expression => exact absurd rfl (simple expression)

theorem Key.undotted (key : Key) : Undotted key.text := by
  cases key with
  | plain key =>
    intro rest
    have noPoint := key.noPoint.symm
    by_cases point : key.point = true
    · simp [Key.text, PlainKey.text, point, Text.dropLead?, noPoint]
    · simp [Key.text, PlainKey.text, point, Text.dropLead?, noPoint]
  | quoted quote body isQuote _ =>
    refine undotted_cons ?_ _
    rintro rfl
    cases isQuote
  | computed expression => exact undotted_cons (by decide) _

theorem unkeyedShape_name (name : Name) {tail : Text} (ending : Ending tail) :
    unkeyedShape (name.word ++ tail) = .word name.word := by
  obtain ⟨c, rest, word, apart⟩ := name.exists_cons
  have head : (name.word ++ tail).head?.bind Context.ofOpener? = none := by
    rw [word, List.cons_append, List.head?_cons, Option.bind_some, Context.ofOpener?,
      if_neg (apart '{' rfl), if_neg (apart '[' rfl)]
  unfold unkeyedShape
  rw [head]
  simp only
  cases ending with
  | bare => rw [List.append_nil, Bracket.atEquals?_of_balanced (name.balanced rfl)]
  | default gap assigned =>
    rw [← List.append_assoc, Bracket.atEquals?_equals _
      ((name.balanced rfl).append (gap.balanced rfl)) assigned]
    simp only
    rw [Text.trimEnd_append name.isToken.ends, Text.trimEnd_of_blank gap.blank, List.append_nil]

theorem behindKey?_name (name : Name) {tail : Text} (ending : Ending tail) :
    behindKey? (name.word ++ tail) = none := by
  cases ending with
  | bare => rw [List.append_nil, behindKey?, Bracket.atColon?_of_balanced (name.balanced rfl)]
  | default gap assigned =>
    rw [← List.append_assoc]
    exact behindKey?_equals ((name.balanced rfl).append (gap.balanced rfl))
      ((name.balanced rfl).append (gap.balanced rfl)) assigned

theorem shape_name (context : Context) (name : Name) {tail : Text} (ending : Ending tail) :
    shape context (name.word ++ tail) = .word name.word := by
  cases context with
  | list => exact unkeyedShape_name name ending
  | object =>
    have unkeyed := behindKey?_name name ending
    have word := unkeyedShape_name name ending
    obtain ⟨c, rest, split, apart⟩ := name.exists_cons
    rw [split, List.cons_append] at unkeyed word ⊢
    rw [shape_object_cons _ (apart '[' rfl) (apart '{' rfl), unkeyed, word]
    rfl

theorem shape_pattern (context : Context) (elements : Elements context) (tail : Text) :
    shape .list (render (Target.pattern context elements).pieces ++ tail) =
      .nested context (render elements.pieces) := by
  have group := Bracket.group?_append context.closer?_opener elements.balanced tail
  rw [Target.render_pattern, List.cons_append, List.append_assoc, List.singleton_append, shape,
    unkeyedShape, List.head?_cons, Option.bind_some, context.ofOpener?_opener]
  simp only
  rw [group]

theorem behindComputedKey?_key (expression : Expression) (gap : Gap) (rest : Text) :
    behindComputedKey? ((Key.computed expression).text ++ gap.text ++ ':' :: rest) = some rest := by
  have group : Bracket.group? ('[' :: (expression.text ++ ']' :: (gap.text ++ ':' :: rest))) =
      some (expression.text, gap.text ++ ':' :: rest) :=
    Bracket.group?_append rfl (expression.balanced.mono fun _ _ => trivial) _
  rw [behindComputedKey?, Key.text, List.append_assoc, List.cons_append, List.append_assoc,
    List.singleton_append, group]
  simp only [Option.bind_eq_bind, Option.bind_some]
  rw [Text.trimStart_append gap.blank, Text.trimStart_of_solid ⟨':', rest, rfl, rfl⟩]
  rfl

theorem shape_keyed (key : Key) (gap : Gap) (rest : Text) :
    shape .object (key.text ++ gap.text ++ ':' :: rest) = .keyed rest := by
  by_cases computed : ∃ expression, key = .computed expression
  · obtain ⟨expression, rfl⟩ := computed
    have opens : Text.startsWith '[' ((Key.computed expression).text ++ gap.text ++ ':' :: rest) =
        true := rfl
    rw [shape, if_pos opens, behindComputedKey?_key]
    rfl
  · have behind := behindKey?_colon ((key.balanced rfl).append (gap.balanced rfl))
      ((key.balanced rfl).append (gap.balanced rfl)) rest
    obtain ⟨c, others, text, noSquare, noCurly⟩ := key.exists_cons (not_exists.1 computed)
    rw [text, List.cons_append, List.cons_append] at behind ⊢
    rw [shape_object_cons _ noSquare noCurly, behind]
    rfl

theorem ofElement_gap (context : Context) (offset : Nat) (gap : Gap) :
    ofElement context offset gap.text = [] := by
  have trimmed : Text.trim gap.text = [] := by
    have start := Text.trimStart_append gap.blank []
    rw [List.append_nil] at start
    rw [Text.trim, start]
    rfl
  have found : target gap.text = [] := by
    rw [target, trimmed]
    rfl
  have read : shape context (target gap.text) = .word [] := by
    rw [found]
    cases context with
    | object => rfl
    | list => rfl
  rw [ofElement_of_word read]
  rfl

theorem ofElement_keyed (offset : Nat) (gap : Gap) (key : Key) (before : Gap) (rest : Text) :
    ofElement .object offset (gap.text ++ (key.text ++ before.text ++ ':' :: rest)) =
      ofElement .list
        (offset + Text.utf8Length (gap.text ++ (key.text ++ before.text ++ [':'])))
        (Text.trimEnd rest) := by
  have isToken : Text.IsToken (key.text ++ before.text ++ [':']) :=
    ⟨(key.isToken.starts.append _).append _, ⟨_, ':', rfl, rfl⟩⟩
  have undotted : Undotted (key.text ++ before.text ++ [':']) := by
    intro more
    rw [List.append_assoc, List.append_assoc, key.undotted]
  obtain ⟨found, size⟩ := (Opening.bare gap).target_append isToken undotted rest
  rw [← List.append_cons] at found size
  have read := shape_keyed key before (Text.trimEnd rest)
  rw [List.append_cons] at read
  rw [← found] at read
  rw [ofElement_of_keyed read, size, found]
  congr 1
  simp only [Text.utf8Length_append]
  omega

-- By induction on the syntax: a target in an element, an element in a list, a list in a target.
-- An element behind a key is read once more, as an element of a list that has already lost the
-- white space at its end; so a target is taken with any opening before it and any ending behind.
mutual

theorem Target.ofElement_eq {form : Form} (target : Target form) {context : Context}
    (fits : context = .object → form = .name) (offset : Nat) {lead tail : Text}
    (opening : Opening lead) (ending : Ending (Text.trimEnd tail)) :
    ofElement context offset (lead ++ (render target.pieces ++ tail)) =
      occurrences (offset + Text.utf8Length lead) target.pieces := by
  obtain ⟨found, size⟩ := opening.target_append target.isToken target.undotted tail
  match target with
  | .name name =>
    rw [Target.render_name] at found size ⊢
    have read := shape_name context name ending
    rw [← found] at read
    rw [ofElement_of_word read, if_pos name.valid, size, Target.pieces, occurrences_bound,
      occurrences_nil]
  | .pattern inner elements =>
    cases context with
    | object => cases fits rfl
    | list =>
      have read := shape_pattern inner elements (Text.trimEnd tail)
      rw [← found] at read
      rw [ofElement_of_nested read, size, elements.ofList_eq, Target.occurrences_pattern]

theorem Element.ofElement_eq {context : Context} (element : Element context) (offset : Nat) :
    ofElement context offset (render element.pieces) = occurrences offset element.pieces := by
  match element with
  | .hole gap =>
    rw [Element.pieces, render_plain, render_nil, List.append_nil, ofElement_gap]
    rfl
  | @Element.binding _ form gap front target tail =>
    rw [Element.render_binding, Element.occurrences_binding]
    cases front with
    | bare fits =>
      rw [Front.text, List.append_nil]
      exact target.ofElement_eq fits offset (.bare gap) tail.ending
    | rest fits behind => exact target.ofElement_eq fits offset (.rest gap behind) tail.ending
    | keyed inObject key before after =>
      have written : gap.text ++ (key.text ++ before.text ++ ':' :: after.text) ++
          (render target.pieces ++ tail.text) = gap.text ++ (key.text ++ before.text ++ ':' ::
            (after.text ++ render target.pieces ++ tail.text)) := by
        simp
      have size : Text.utf8Length (gap.text ++ (key.text ++ before.text ++ ':' :: after.text)) =
          Text.utf8Length (gap.text ++ (key.text ++ before.text ++ [':'])) +
            Text.utf8Length after.text := by
        rw [List.append_cons, ← List.append_assoc, Text.utf8Length_append]
      have unkeyed : Context.list = .object → form = .name := nofun
      have ending := tail.ending
      rw [← Text.trimEnd_trimEnd] at ending
      rw [Front.text, written, inObject, ofElement_keyed,
        Text.trimEnd_append (target.isToken.ends.append after.text), List.append_assoc after.text,
        target.ofElement_eq unkeyed _ (.bare after) ending, size, Nat.add_assoc]

theorem Elements.ofList_eq {context : Context} (elements : Elements context) (offset : Nat) :
    ofList context offset (render elements.pieces) = occurrences offset elements.pieces := by
  match elements with
  | .last element =>
    rw [Elements.pieces, ofList_of_balanced context offset element.balanced, element.ofElement_eq]
  | .cons element others =>
    rw [Elements.render_cons, ofList_comma context offset element.balanced, element.ofElement_eq,
      others.ofList_eq, Elements.occurrences_cons]

end

/-- A written list or pattern is read as its bound names in the order in which they occur, each at
the byte offset it occurs at; keys, defaults and computed key expressions bind nothing. -/
theorem bindings_read_back (offset : Nat) :
    (∀ context, ∀ list : Elements context,
      ofList context offset (render list.pieces) = occurrences offset list.pieces) ∧
    ∀ pattern : Target .pattern,
      ofPattern offset (render pattern.pieces) = occurrences offset pattern.pieces := by
  refine ⟨fun context list => list.ofList_eq offset, ?_⟩
  intro pattern
  cases pattern with
  | pattern context elements =>
    have group := Bracket.group?_append context.closer?_opener elements.balanced []
    rw [Target.render_pattern, ofPattern, List.head?_cons, Option.bind_some,
      context.ofOpener?_opener, group]
    simp only
    rw [elements.ofList_eq, Target.occurrences_pattern]

/-- The only name of `{'a' :b=c, }` is `b`, and `...d` behind it in a list is a second one. -/
theorem bindings_read_back_behind_quoted_key :
    let tight : Gap := ⟨[], List.forall_mem_nil _⟩
    let space : Gap := ⟨[' '], List.all_eq_true.1 rfl⟩
    let key : Key := .quoted '\'' ['a'] rfl (.plain (by decide) (by decide) .nil)
    let value : Default := ⟨⟨['c'], .other ⟨rfl, rfl, rfl⟩ (by decide) .nil⟩, by simp⟩
    let element : Element .object :=
      .binding tight (.keyed rfl key space tight) (.name ⟨['b'], by decide⟩) ⟨tight, some value⟩
    let pattern : Target .pattern := .pattern .object (.cons element (.last (.hole space)))
    let list : Elements .list := .cons (.binding tight (.bare (by simp)) pattern ⟨tight, none⟩)
      (.last (.binding space (.rest (by simp) tight) (.name ⟨['d'], by decide⟩) ⟨tight, none⟩))
    let written : Text := ['{', '\'', 'a', '\'', ' ', ':', 'b', '=', 'c', ',', ' ', '}']
    render pattern.pieces = written ∧ ofPattern 0 written = [⟨['b'], 6⟩] ∧
      render list.pieces = written ++ [',', ' ', '.', '.', '.', 'd'] ∧
      ofList .list 10 (written ++ [',', ' ', '.', '.', '.', 'd']) =
        [⟨['b'], 16⟩, ⟨['d'], 27⟩] := by
  intro tight space key value element pattern list written
  have patternText : render pattern.pieces = written := by decide
  have listText : render list.pieces = written ++ [',', ' ', '.', '.', '.', 'd'] := by decide
  have patternRead := (bindings_read_back 0).2 pattern
  have listRead := (bindings_read_back 10).1 .list list
  rw [patternText] at patternRead
  rw [listText] at listRead
  exact ⟨patternText, patternRead.trans (by decide), listText, listRead.trans (by decide)⟩

end BindingSyntax

end TemplateNav
