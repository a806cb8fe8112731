import TemplateNav.Proofs.Script.Placement
import TemplateNav.Proofs.Template.Placement
import TemplateNav.Symbol.Index
import TemplateNav.Symbol.Recognize

/-!
# Symbols as parts of a document

Each of the six rules reports a name at the byte column where the name stands on
its line as a whole word.  With the place of the line in the document, every
recognized symbol is declared where its name can be read, and every recorded usage
stands where the name is used.
-/

namespace TemplateNav

open Text (StandsApart)

/-- A declaration names a valid word that stands apart on `line` at its column. -/
def Declaration.PlacedOn (line : Text) (declaration : Declaration) : Prop :=
  line.StandsApart declaration.column declaration.name ∧
    Identifier.isValid declaration.name = true

namespace Rule

theorem isSuffix_of_keyword? {before text rest : Text} {keyword : Keyword}
    (found : keyword? before text = some (keyword, rest)) : rest <:+ text :=
  ⟨keyword.spelling, (eq_append_of_keyword? found).1.symm⟩

theorem standsApart_of_head? {left right : Text} {head : Head}
    (found : head? left right = some head) :
    StandsApart (left.reverse ++ right) head.column head.name := by
  simp only [head?, Option.bind_eq_bind, Option.bind_eq_some_iff] at found
  obtain ⟨⟨keyword, rest⟩, declared, found⟩ := found
  split at found
  · cases found
  · next spaced =>
    obtain ⟨⟨name, behind⟩, read, same⟩ := Option.bind_eq_some_iff.1 found
    obtain rfl := Option.some.inj same
    obtain ⟨spelling, rfl⟩ := isSuffix_of_keyword? declared
    have pieces : rest.takeWhile Text.isBlank ++ Text.trimStart rest = rest :=
      List.takeWhile_append_dropWhile
    have size := congrArg Text.utf8Length pieces
    rw [Text.utf8Length_append] at size
    have gap : rest.takeWhile Text.isBlank ≠ [] := by
      intro none
      rw [none, List.nil_append] at pieces
      exact spaced (congrArg List.length pieces)
    -- White space was read last, because some of it has to follow the keyword.
    have ends : Text.EndsApart (left.reverse ++ spelling ++ rest.takeWhile Text.isBlank) := by
      intro c last
      rw [List.getLast?_append, List.getLast?_eq_some_getLast gap, Option.some_or,
        ← List.getLast?_eq_some_getLast gap] at last
      exact Text.endsApart_of_blank (List.all_eq_true.1 List.all_takeWhile) c last
    have word : StandsApart (left.reverse ++ (spelling ++ rest)) (Text.utf8Length left +
        (Text.utf8Length (spelling ++ rest) - Text.utf8Length (Text.trimStart rest)))
        (Text.trimStart rest) := by
      refine ⟨_, [], by simp [pieces], ?_, ends, Text.startsApart_nil⟩
      simp only [Text.utf8Length_append, Text.utf8Length_reverse]
      omega
    obtain ⟨split, starts⟩ := Identifier.eq_append_of_read? read
    have named : StandsApart (Text.trimStart rest) 0 name := split ▸ .of_append starts
    exact word.trans named

theorem placedOn_of_initialized? {left right : Text} {declaration : Declaration} {width : Nat}
    (found : initialized? left right = some (some declaration, width)) :
    declaration.PlacedOn (left.reverse ++ right) := by
  simp only [initialized?, Option.bind_eq_bind, Option.bind_eq_some_iff] at found
  obtain ⟨head, read, initializer, _, found⟩ := found
  split at found
  · cases found
  · next accepted =>
    obtain ⟨rfl, _⟩ : _ = declaration ∧ _ = width := by simpa using found
    simp only [Bool.or_eq_true, Bool.not_eq_true', not_or, Bool.not_eq_false] at accepted
    exact ⟨standsApart_of_head? read, accepted.2⟩

theorem placedOn_of_bare? {left right : Text} {declaration : Declaration} {width : Nat}
    (found : bare? left right = some (some declaration, width)) :
    declaration.PlacedOn (left.reverse ++ right) := by
  simp only [bare?, Option.bind_eq_bind, Option.bind_eq_some_iff] at found
  obtain ⟨head, read, found⟩ := found
  split at found
  · cases found
  · next accepted =>
    obtain ⟨rfl, _⟩ : _ = declaration ∧ _ = width := by simpa using found
    simp only [Bool.or_eq_true, Bool.not_eq_true', not_or, Bool.not_eq_false] at accepted
    exact ⟨standsApart_of_head? read, accepted.2⟩

/-- The names of a bracketed list stand behind its opening bracket. -/
theorem placedOn_of_mem_ofList {left right list inside after : Text} {context : Binding.Context}
    {binding : Binding} {declaration : Declaration} (listed : list <:+ right)
    (group : Bracket.group? list = some (inside, after))
    (member : binding ∈ Binding.ofList context (Text.utf8Length left +
      (Text.utf8Length right - Text.utf8Length list) + 1) inside)
    (name : declaration.name = binding.name) (column : declaration.column = binding.offset) :
    declaration.PlacedOn (left.reverse ++ right) := by
  obtain ⟨offset, same, stands, valid⟩ := Binding.foundIn_of_mem_ofList member
  obtain ⟨opening, closing, rfl, ⟨size, opens⟩, _, closes⟩ := Bracket.exists_append_of_group? group
  obtain ⟨read, rfl⟩ := listed
  have place : StandsApart (left.reverse ++ (read ++ opening :: (inside ++ closing :: after)))
      (Text.utf8Length left + (Text.utf8Length (read ++ opening :: (inside ++ closing :: after)) -
        Text.utf8Length (opening :: (inside ++ closing :: after))) + 1) inside :=
    ⟨left.reverse ++ read ++ [opening], closing :: after, by simp, by simp [size, Nat.add_assoc],
      Text.endsApart_concat _ opens, Text.startsApart_cons after closes⟩
  rw [Declaration.PlacedOn, name, column, same]
  exact ⟨place.trans stands, valid⟩

theorem placedOn_of_destructuring? {left right : Text} {declarations : List Declaration}
    {width : Nat} (found : destructuring? left right = some (declarations, width)) :
    ∀ declaration ∈ declarations, declaration.PlacedOn (left.reverse ++ right) := by
  simp only [destructuring?, Option.bind_eq_bind, Option.bind_eq_some_iff] at found
  obtain ⟨⟨keyword, rest⟩, declared, context, _, found⟩ := found
  have listed := (Text.trimStart_isSuffix rest).trans (isSuffix_of_keyword? declared)
  intro declaration member
  split at found
  · obtain ⟨rfl, _⟩ : [] = declarations ∧ _ = width := by simpa using found
    cases member
  · next inside after group =>
    split at found
    · obtain ⟨rfl, _⟩ : _ = declarations ∧ _ = width := by simpa using found
      obtain ⟨binding, bound, rfl⟩ := List.mem_map.1 member
      exact placedOn_of_mem_ofList listed group bound rfl rfl
    · obtain ⟨rfl, _⟩ : [] = declarations ∧ _ = width := by simpa using found
      cases member

theorem dropOptional_isSuffix (c : Char) (text : Text) : dropOptional c text <:+ text := by
  unfold dropOptional
  cases found : Text.dropLead? [c] text with
  | none => exact List.suffix_rfl
  | some rest => exact Text.isSuffix_of_dropLead? found

/-- What follows the word `function`, a star and a name is still to be read. -/
theorem parameterList_isSuffix (rest : Text) :
    let named := Text.trimStart (dropOptional '*' (Text.trimStart rest))
    Text.trimStart (((Identifier.read? named).map Prod.snd).getD named) <:+ rest := by
  intro named
  have ending : named <:+ rest :=
    (Text.trimStart_isSuffix _).trans
      ((dropOptional_isSuffix _ _).trans (Text.trimStart_isSuffix _))
  refine (Text.trimStart_isSuffix _).trans (List.IsSuffix.trans ?_ ending)
  cases read : Identifier.read? named with
  | none => exact List.suffix_rfl
  | some found =>
    obtain ⟨name, behind⟩ := found
    exact ⟨name, (Identifier.eq_append_of_read? read).1.symm⟩

theorem placedOn_of_function? {left right : Text} {declarations : List Declaration}
    {width : Nat} (found : function? left right = some (declarations, width)) :
    ∀ declaration ∈ declarations, declaration.PlacedOn (left.reverse ++ right) := by
  simp only [function?, Option.bind_eq_bind] at found
  split at found
  · cases found
  · obtain ⟨rest, dropped, found⟩ := Option.bind_eq_some_iff.1 found
    have listed := (parameterList_isSuffix rest).trans (Text.isSuffix_of_dropLead? dropped)
    split at found
    · cases found
    · split at found
      · cases found
      · intro declaration member
        split at found
        · obtain ⟨rfl, _⟩ : [] = declarations ∧ _ = width := by simpa using found
          cases member
        · next inside after group =>
          obtain ⟨rfl, _⟩ : _ = declarations ∧ _ = width := by simpa using found
          obtain ⟨binding, bound, rfl⟩ := List.mem_map.1 member
          exact placedOn_of_mem_ofList listed group bound rfl rfl

theorem placedOn_of_arrow? {left right : Text} {declarations : List Declaration}
    {width : Nat} (found : arrow? left right = some (declarations, width)) :
    ∀ declaration ∈ declarations, declaration.PlacedOn (left.reverse ++ right) := by
  simp only [arrow?, Option.bind_eq_bind, Option.bind_eq_some_iff] at found
  obtain ⟨rest, closed, behind, _, found⟩ := found
  intro declaration member
  split at found
  · obtain ⟨rfl, _⟩ : [] = declarations ∧ _ = width := by simpa using found
    cases member
  · next inside outside group =>
    obtain ⟨rfl, _⟩ : _ = declarations ∧ _ = width := by simpa using found
    obtain ⟨binding, bound, rfl⟩ := List.mem_map.1 member
    obtain ⟨closing, opening, split, _, size, opens⟩ := Bracket.exists_append_of_groupBefore? group
    obtain ⟨_, rfl⟩ : ')' = closing ∧ left = inside ++ opening :: outside := by simpa using split
    obtain ⟨offset, same, stands, valid⟩ := Binding.foundIn_of_mem_ofList bound
    obtain rfl : right = [')'] ++ rest := Text.eq_append_of_dropLead? closed
    -- Read forwards, the inside of the group stands behind what is outside and the bracket.
    have list : StandsApart ((inside ++ opening :: outside).reverse ++ ([')'] ++ rest))
        (Text.utf8Length outside + 1) inside.reverse :=
      ⟨outside.reverse ++ [opening], ')' :: rest, by simp, by simp [size],
        Text.endsApart_concat _ opens, Text.startsApart_cons rest rfl⟩
    refine ⟨?_, valid⟩
    rw [Declaration.ofParameter, same]
    exact list.trans stands

theorem placedOn_of_singleArrow? {left right : Text} {declaration : Declaration} {width : Nat}
    (found : singleArrow? left right = some (some declaration, width)) :
    declaration.PlacedOn (left.reverse ++ right) := by
  simp only [singleArrow?, Option.bind_eq_bind, Option.bind_eq_some_iff] at found
  obtain ⟨⟨name, rest⟩, read, behind, _, found⟩ := found
  split at found
  · cases found
  · next accepted =>
    obtain ⟨rfl, _⟩ : _ = declaration ∧ _ = width := by simpa using found
    simp only [Bool.or_eq_true, Bool.not_eq_true', not_or, Bool.not_eq_false] at accepted
    obtain ⟨rfl, starts⟩ := Identifier.eq_append_of_read? read
    have ends : Text.EndsApart left.reverse := by
      intro c last
      rw [List.getLast?_reverse, Option.mem_def] at last
      rw [last, Option.any_some, Bool.or_eq_true, not_or] at accepted
      simpa using accepted.1.2
    have word : StandsApart (left.reverse ++ (name ++ rest)) (Text.utf8Length left) name :=
      ⟨left.reverse, rest, by simp, by simp, ends, starts⟩
    exact ⟨word, accepted.2⟩

/-- Every declaration that a rule finds on a line stands there. -/
theorem placedOn_of_mem_apply {rule : Rule} {line : Text} {declaration : Declaration}
    (member : declaration ∈ rule.apply line) : declaration.PlacedOn line := by
  cases rule with
  | initializedDeclaration =>
    obtain ⟨item, scanned, rfl⟩ := List.mem_filterMap.1 member
    obtain ⟨left, right, width, rfl, found⟩ := Text.exists_recognized_of_mem_scan scanned
    exact placedOn_of_initialized? found
  | bareDeclaration =>
    obtain ⟨item, scanned, rfl⟩ := List.mem_filterMap.1 member
    obtain ⟨left, right, width, rfl, found⟩ := Text.exists_recognized_of_mem_scan scanned
    exact placedOn_of_bare? found
  | destructuringDeclaration =>
    obtain ⟨items, scanned, inside⟩ := List.mem_flatten.1 member
    obtain ⟨left, right, width, rfl, found⟩ := Text.exists_recognized_of_mem_scan scanned
    exact placedOn_of_destructuring? found declaration inside
  | functionParameters =>
    obtain ⟨items, scanned, inside⟩ := List.mem_flatten.1 member
    obtain ⟨left, right, width, rfl, found⟩ := Text.exists_recognized_of_mem_scan scanned
    exact placedOn_of_function? found declaration inside
  | arrowParameters =>
    obtain ⟨items, scanned, inside⟩ := List.mem_flatten.1 member
    obtain ⟨left, right, width, rfl, found⟩ := Text.exists_recognized_of_mem_scan scanned
    exact placedOn_of_arrow? found declaration inside
  | singleArrowParameter =>
    obtain ⟨item, scanned, rfl⟩ := List.mem_filterMap.1 member
    obtain ⟨left, right, width, rfl, found⟩ := Text.exists_recognized_of_mem_scan scanned
    exact placedOn_of_singleArrow? found

end Rule

namespace Symbol

theorem mem_of_mem_foldl_insertNew {symbols found : List Symbol} {symbol : Symbol}
    (member : symbol ∈ symbols.foldl insertNew found) : symbol ∈ found ∨ symbol ∈ symbols := by
  induction symbols generalizing found with
  | nil => exact .inl member
  | cons first rest ih =>
    rcases ih member with inserted | later
    · unfold insertNew at inserted
      split at inserted
      · exact .inl inserted
      · rcases List.mem_append.1 inserted with earlier | last
        · exact .inl earlier
        · exact .inr (List.mem_cons.2 (.inl (List.mem_singleton.1 last)))
    · exact .inr (List.mem_cons_of_mem first later)

/-- A freshly recognized symbol declares a valid name where that name stands in the document, and
its declaration is its only reference. -/
structure DeclaredIn (text : Text) (symbol : Symbol) : Prop where
  found : ∃ before after, Fragment.WordAt text symbol.position symbol.name before after
  valid : Identifier.isValid symbol.name = true
  references_eq : symbol.references = [symbol.position]

theorem DeclaredIn.reads {text : Text} {symbol : Symbol} (declared : symbol.DeclaredIn text) :
    Lines.ReadsAt text symbol.position symbol.name := by
  obtain ⟨_, _, word⟩ := declared.found
  exact word.readsAt

theorem declaredIn_of_mem_recognize {text : Text} {symbol : Symbol}
    (member : symbol ∈ recognize (Fragment.extract text)) : symbol.DeclaredIn text := by
  rcases mem_of_mem_foldl_insertNew member with none | some
  · cases none
  · obtain ⟨fragment, extracted, inFragment⟩ := List.mem_flatMap.1 some
    obtain ⟨⟨index, line⟩, numbered, inLine⟩ := List.mem_flatMap.1 inFragment
    simp only at inLine
    split at inLine
    · cases inLine
    · obtain ⟨rule, _, byRule⟩ := List.mem_flatMap.1 inLine
      obtain ⟨declaration, applied, rfl⟩ := List.mem_map.1 byRule
      obtain ⟨stands, valid⟩ := Rule.placedOn_of_mem_apply applied
      exact ⟨Fragment.exists_wordAt_positionInLine extracted numbered stands, valid, rfl⟩

end Symbol

namespace SymbolIndex

/-- Every recorded usage of a name stands where the name is used. -/
theorem exists_wordAt_of_mem_usages {text name : Text} {position : Position}
    (member : (name, position) ∈ usages (Fragment.extract text)) :
    ∃ before after, Fragment.WordAt text position name before after := by
  obtain ⟨fragment, extracted, inFragment⟩ := List.mem_flatMap.1 member
  obtain ⟨⟨index, line⟩, numbered, inLine⟩ := List.mem_flatMap.1 inFragment
  obtain ⟨occurrence, listed, same⟩ := List.mem_map.1 inLine
  obtain ⟨rfl, rfl⟩ := Prod.mk.inj same
  exact Fragment.exists_wordAt_positionInLine extracted numbered
    (Occurrence.standsApart_of_mem_ofLine listed)

theorem readsAt_of_mem_usages {text name : Text} {position : Position}
    (member : (name, position) ∈ usages (Fragment.extract text)) :
    Lines.ReadsAt text position name := by
  obtain ⟨_, _, word⟩ := exists_wordAt_of_mem_usages member
  exact word.readsAt

end SymbolIndex

end TemplateNav
