import TemplateNav.Proofs.Lines.Boundaries
import TemplateNav.Proofs.Script.Matching
import TemplateNav.Proofs.Symbol.Placement
import TemplateNav.Proofs.Text.Overlap

/-!
# Which list an arrow takes its parameters from

The rule for arrow parameters finds the start of an arrow's list by reading backwards from
its closing parenthesis, and string literals are not seen from behind.  So the list that it
takes is the one whose brackets pair off with those in literals counted in, and this is the
arrow's own only if the list is balanced with its literals passed over.  A bracket in a
literal can make the rule read on into the call that the arrow stands in; without quotes the
two lists are the same.
-/

namespace TemplateNav

namespace Rule

/-- A list in parentheses, white space and an arrow stand in `line` behind `left`. -/
def ArrowList (line left inside : Text) : Prop :=
  ∃ space rest, line = left ++ '(' :: (inside ++ ')' :: (space ++ '=' :: '>' :: rest)) ∧
    ∀ c ∈ space, Text.isBlank c = true

/-- What is declared by the parameters of a list behind `left` and its opening parenthesis. -/
def listedParameters (left inside : Text) : List Declaration :=
  (Binding.ofList .list (Text.utf8Length left + 1) inside).map Declaration.ofParameter

variable {line left inside : Text} {declaration : Declaration}

theorem closer?_parenthesis : Bracket.closer? '(' = some ')' := rfl

theorem utf8Length_append_parenthesis (left inside : Text) :
    Text.utf8Length (left ++ '(' :: inside) =
      Text.utf8Length left + 1 + Text.utf8Length inside := by
  rw [Text.utf8Length_append, Text.utf8Length_cons, Nat.add_assoc]
  rfl

theorem arrow?_append {space : Text} (blank : ∀ c ∈ space, Text.isBlank c = true)
    (before rest : Text) :
    ∃ items, arrow? before (')' :: (space ++ '=' :: '>' :: rest)) = some (items, space.length + 3) ∧
      ∀ declaration, declaration ∈ items ↔ ∃ inside outside,
        Bracket.groupBefore? (')' :: before) = some (inside, outside) ∧
        declaration ∈ listedParameters outside.reverse inside.reverse := by
  have behind : behindArrow? (space ++ '=' :: '>' :: rest) = some rest := by
    rw [behindArrow?, Text.trimStart_append blank, Text.trimStart_of_solid ⟨_, _, rfl, by decide⟩]
    exact Text.dropLead?_self ['=', '>'] rest
  have closed : Text.dropLead? [')'] (')' :: (space ++ '=' :: '>' :: rest)) =
      some (space ++ '=' :: '>' :: rest) :=
    Text.dropLead?_self [')'] _
  have width : (')' :: (space ++ '=' :: '>' :: rest)).length - rest.length = space.length + 3 := by
    simp only [List.length_cons, List.length_append]
    omega
  simp only [arrow?, closed, behind, width, Option.bind_eq_bind, Option.bind_some]
  cases Bracket.groupBefore? (')' :: before) with
  | none => exact ⟨[], rfl, by simp⟩
  | some group =>
    obtain ⟨inside, outside⟩ := group
    exact ⟨_, rfl, by simp [listedParameters]⟩

theorem exists_append_of_arrow? {before text : Text} {items : List Declaration} {width : Nat}
    (found : arrow? before text = some (items, width)) :
    ∃ space rest, text = ')' :: (space ++ '=' :: '>' :: rest) ∧
      ∀ c ∈ space, Text.isBlank c = true := by
  simp only [arrow?, Option.bind_eq_bind, Option.bind_eq_some_iff] at found
  obtain ⟨rest, closed, behind, arrow, _⟩ := found
  refine ⟨rest.takeWhile Text.isBlank, behind, ?_, List.all_eq_true.1 List.all_takeWhile⟩
  have follows : Text.trimStart rest = '=' :: '>' :: behind := Text.eq_append_of_dropLead? arrow
  rw [Text.eq_append_of_dropLead? closed, ← follows]
  simp [Text.trimStart]

/-- No arrow covers a closing parenthesis further on, so every arrow is found. -/
theorem pending_arrow?_eq_zero (left rest : Text) :
    Text.pending arrow? left (')' :: rest) = 0 := by
  by_contra owed
  obtain ⟨outer, inner, items, width, rfl, filled, _, found, covers⟩ :=
    Text.pending_pos_iff.1 (Nat.pos_of_ne_zero owed)
  obtain ⟨space, behind, same, blank⟩ := exists_append_of_arrow? found
  obtain ⟨others, read, _⟩ := arrow?_append blank outer.reverse behind
  rw [same, read, Option.some.injEq, Prod.mk.injEq] at found
  obtain ⟨c, inner, rfl⟩ := List.exists_cons_of_ne_nil filled
  have tail : inner ++ ')' :: rest = (space ++ ['=', '>']) ++ behind := by
    simpa using (List.cons.inj same).2
  have within : inner ++ [')'] <+: space ++ ['=', '>'] := by
    apply List.prefix_of_prefix_length_le ⟨rest, by rw [← tail]; simp⟩ ⟨behind, rfl⟩
    simp only [List.length_append, List.length_cons, List.length_nil] at covers ⊢
    omega
  rcases List.mem_append.1 (within.subset (List.mem_append_right inner List.mem_cons_self)) with
    gap | arrow
  · exact absurd (blank _ gap) (by decide)
  · simp at arrow

/-- The rule declares the parameters of all lists before arrows whose brackets pair off. -/
theorem mem_apply_arrowParameters_iff :
    declaration ∈ arrowParameters.apply line ↔ ∃ left inside, ArrowList line left inside ∧
      Bracket.Paired inside ∧ declaration ∈ listedParameters left inside := by
  constructor
  · intro member
    obtain ⟨items, scanned, listed⟩ := List.mem_flatten.1 member
    obtain ⟨before, text, width, rfl, found⟩ := Text.exists_recognized_of_mem_scan scanned
    obtain ⟨space, rest, rfl, blank⟩ := exists_append_of_arrow? found
    obtain ⟨declared, read, declares⟩ := arrow?_append blank before rest
    rw [read, Option.some.injEq, Prod.mk.injEq] at found
    rw [← found.1, declares] at listed
    obtain ⟨inside, outside, group, listed⟩ := listed
    obtain ⟨rfl, paired⟩ := (Bracket.groupBefore?_eq_some_iff closer?_parenthesis).1 group
    exact ⟨outside.reverse, inside.reverse, ⟨space, rest, by simp, blank⟩, paired, listed⟩
  · rintro ⟨left, inside, ⟨space, rest, rfl, blank⟩, paired, listed⟩
    obtain ⟨items, read, declares⟩ := arrow?_append blank (left ++ '(' :: inside).reverse rest
    have group : Bracket.groupBefore? (')' :: (left ++ '(' :: inside).reverse) =
        some (inside.reverse, left.reverse) :=
      (Bracket.groupBefore?_eq_some_iff closer?_parenthesis).2 ⟨by simp, by simpa using paired⟩
    have scanned := Text.mem_scan_of_pending_eq_zero (by simp) read (pending_arrow?_eq_zero _ _)
    rw [List.append_assoc, List.cons_append] at scanned
    exact List.mem_flatten.2 ⟨items, scanned, (declares declaration).2
      ⟨_, _, group, by simpa using listed⟩⟩

/-- The parameters of a list stand between its parentheses. -/
theorem column_of_mem_listedParameters (listed : declaration ∈ listedParameters left inside) :
    Text.utf8Length left < declaration.column ∧
      declaration.column < Text.utf8Length left + 1 + Text.utf8Length inside := by
  obtain ⟨binding, bound, rfl⟩ := List.mem_map.1 listed
  obtain ⟨column, offset, ⟨before, after, rfl, rfl, _⟩, valid⟩ :=
    Binding.foundIn_of_mem_ofList bound
  have positive := Text.utf8Length_pos (Identifier.ne_nil_of_isValid valid)
  simp only [Declaration.ofParameter, offset, Text.utf8Length_append]
  omega

/-- A byte column lies within parentheses that match when literals are passed over, the closing one
before white space and an arrow. -/
def InArrowParentheses (line : Text) (column : Nat) : Prop :=
  ∃ opening closing, Bracket.matchingClose? line opening = some closing ∧
    opening < column ∧ column < closing ∧
    (∃ left tail, line = left ++ '(' :: tail ∧ Text.utf8Length left = opening) ∧
    ∃ front space rest, line = front ++ ')' :: (space ++ '=' :: '>' :: rest) ∧
      Text.utf8Length front = closing ∧ ∀ c ∈ space, Text.isBlank c = true

/-- These are the parentheses of the balanced lists before arrows. -/
theorem inArrowParentheses_iff {column : Nat} :
    InArrowParentheses line column ↔ ∃ left inside, ArrowList line left inside ∧
      Bracket.Balanced (fun _ => True) inside ∧ Text.utf8Length left < column ∧
      column < Text.utf8Length left + 1 + Text.utf8Length inside := by
  constructor
  · rintro ⟨_, _, closes, before, behind, ⟨left, tail, opened, rfl⟩, front, space, rest, closed,
      rfl, blank⟩
    rw [opened, Bracket.matchingClose?_append_iff closer?_parenthesis] at closes
    obtain ⟨inside, beyond, rfl, balanced, index⟩ := closes
    have same : front ++ ')' :: (space ++ '=' :: '>' :: rest) =
        (left ++ '(' :: inside) ++ ')' :: beyond := by
      rw [← closed, opened, List.append_assoc, List.cons_append]
    have sizes : Text.utf8Length front = Text.utf8Length (left ++ '(' :: inside) := by
      rw [index, utf8Length_append_parenthesis]
    rw [Text.eq_of_utf8Length_eq same sizes] at same
    refine ⟨left, inside, ⟨space, rest, ?_, blank⟩, balanced, before, index ▸ behind⟩
    rw [opened, (List.cons.inj (List.append_cancel_left same)).2]
  · rintro ⟨left, inside, ⟨space, rest, split, blank⟩, balanced, before, behind⟩
    exact ⟨_, _, (Bracket.matchingClose?_eq_some_iff closer?_parenthesis split).2 balanced, before,
      behind, ⟨left, _, split, rfl⟩, left ++ '(' :: inside, space, rest, by simp [split],
      utf8Length_append_parenthesis left inside, blank⟩

/-- **An arrow takes its parameters from the list that pairs off.** The rule for arrow parameters
declares exactly the parameters of the lists before arrows whose brackets pair off.  They lie within
parentheses of an arrow that match with literals passed over exactly if some list before an arrow
around them is balanced, as their own list is if it pairs off and holds no quote. -/
theorem arrow_parameters_of_paired_lists (line : Text) (declaration : Declaration) :
    (declaration ∈ arrowParameters.apply line ↔ ∃ left inside, ArrowList line left inside ∧
      Bracket.Paired inside ∧ declaration ∈ listedParameters left inside) ∧
    (InArrowParentheses line declaration.column ↔ ∃ left inside, ArrowList line left inside ∧
      Bracket.Balanced (fun _ => True) inside ∧ Text.utf8Length left < declaration.column ∧
      declaration.column < Text.utf8Length left + 1 + Text.utf8Length inside) ∧
    ∀ left inside, ArrowList line left inside → declaration ∈ listedParameters left inside →
      let opening := Text.utf8Length left
      let closing := opening + 1 + Text.utf8Length inside
      opening < declaration.column ∧ declaration.column < closing ∧
      (Bracket.matchingOpen? line closing = some opening ↔ Bracket.Paired inside) ∧
      (Bracket.matchingClose? line opening = some closing ↔
        Bracket.Balanced (fun _ => True) inside) ∧
      ((∀ c ∈ inside, Bracket.isQuote c = false) → Bracket.Paired inside →
        InArrowParentheses line declaration.column) := by
  refine ⟨mem_apply_arrowParameters_iff, inArrowParentheses_iff, ?_⟩
  intro left inside list listed opening closing
  obtain ⟨before, behind⟩ := column_of_mem_listedParameters listed
  obtain ⟨space, rest, split, blank⟩ := list
  refine ⟨before, behind, Bracket.matchingOpen?_eq_some_iff closer?_parenthesis split,
    Bracket.matchingClose?_eq_some_iff closer?_parenthesis split, ?_⟩
  intro unquoted paired
  exact inArrowParentheses_iff.2 ⟨left, inside, ⟨space, rest, split, blank⟩,
    (Bracket.balanced_iff_paired unquoted).2 paired, before, behind⟩

/-- In `f(x,(")")=>1)` the parenthesis in the literal pairs off with the one of the arrow, and `x`
is taken from the call; in `f(x,(y)=>1)` it is not. -/
theorem arrow_parameters_of_paired_lists_in_call :
    let quoted : Text := ['f', '(', 'x', ',', '(', '"', ')', '"', ')', '=', '>', '1', ')']
    let inside : Text := ['x', ',', '(', '"', ')', '"']
    let plain : Text := ['f', '(', 'x', ',', '(', 'y', ')', '=', '>', '1', ')']
    let taken : Declaration := ⟨['x'], 2, .parameter, .parameter, .function, none⟩
    let own : Declaration := ⟨['y'], 5, .parameter, .parameter, .function, none⟩
    ArrowList quoted ['f'] inside ∧ taken ∈ arrowParameters.apply quoted ∧
      Bracket.Paired inside ∧ ¬ Bracket.Balanced (fun _ => True) inside ∧
      ¬ InArrowParentheses quoted taken.column ∧
      own ∈ arrowParameters.apply plain ∧ InArrowParentheses plain own.column := by
  intro quoted inside plain taken own
  have list : ArrowList quoted ['f'] inside := ⟨[], ['1', ')'], rfl, by simp⟩
  have ownList : ArrowList plain ['f', '(', 'x', ','] ['y'] := ⟨[], ['1', ')'], rfl, by simp⟩
  obtain ⟨reported, _, ofList⟩ := arrow_parameters_of_paired_lists quoted taken
  obtain ⟨_, _, opens, closes, _⟩ := ofList ['f'] inside list (by decide +kernel)
  obtain ⟨ownReported, _, ownOfList⟩ := arrow_parameters_of_paired_lists plain own
  have ownListed : own ∈ listedParameters ['f', '(', 'x', ','] ['y'] := by decide +kernel
  have ownPaired : Bracket.Paired ['y'] := .other rfl rfl .nil
  have paired := opens.1 (by decide +kernel)
  refine ⟨list, reported.2 ⟨_, _, list, paired, by decide +kernel⟩, paired, ?_, ?_,
    ownReported.2 ⟨_, _, ownList, ownPaired, ownListed⟩,
    (ownOfList _ _ ownList ownListed).2.2.2.2 (by simp [Bracket.isQuote]) ownPaired⟩
  · intro balanced
    exact absurd (closes.2 balanced) (by decide +kernel)
  · -- Only the parenthesis of the call stands before `x`, and no arrow follows its partner.
    rintro ⟨_, _, closing, before, _, ⟨left, tail, opened, rfl⟩, front, space, rest, arrow, rfl, _⟩
    have first : left = ['f'] := by
      obtain _ | ⟨c, _ | ⟨d, more⟩⟩ := left
      · simp [quoted] at opened
      · simp only [quoted, List.cons_append, List.cons.injEq] at opened
        rw [← opened.1]
      · have one := c.utf8Size_pos
        have two := d.utf8Size_pos
        simp only [taken, Text.utf8Length_cons] at before
        omega
    have partner : Bracket.matchingClose? quoted (Text.utf8Length ['f']) = some 12 := by
      decide +kernel
    rw [first, partner, Option.some.injEq] at closing
    have size := congrArg Text.utf8Length arrow
    have total : Text.utf8Length quoted = 13 := by decide
    have bracket := Char.utf8Size_pos ')'
    have follows : 0 < Text.utf8Length (space ++ '=' :: '>' :: rest) :=
      Text.utf8Length_pos (by simp)
    rw [total, Text.utf8Length_append, Text.utf8Length_cons, ← closing] at size
    omega

end Rule

end TemplateNav
