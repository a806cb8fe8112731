import TemplateNav.Proofs.Script.Grammar

/-!
# Which brackets match

Two readers look for the partner of a bracket.  The one that reads forwards passes over
string literals, so it finds the bracket behind balanced text.  The one that reads
backwards sees no literals and asks only that the brackets in between pair off.  Without
quotes in between the two ask for the same.
-/

namespace TemplateNav

namespace Bracket

/-- Text whose brackets pair off when string literals are not seen. -/
inductive Paired : Text → Prop where
  | nil : Paired []
  | other {c : Char} {rest : Text} (opensNot : closer? c = none) (closesNot : opener? c = none)
      (paired : Paired rest) : Paired (c :: rest)
  | group {opener closer : Char} {inside rest : Text} (opens : closer? opener = some closer)
      (nested : Paired inside) (paired : Paired rest) :
      Paired (opener :: (inside ++ closer :: rest))

theorem Paired.append {text rest : Text} (paired : Paired text) (others : Paired rest) :
    Paired (text ++ rest) := by
  induction paired with
  | nil => exact others
  | other opensNot closesNot _ ih => exact .other opensNot closesNot ih
  | group opens nested _ _ ih =>
    rw [List.cons_append, List.append_assoc, List.cons_append]
    exact .group opens nested ih

/-- Where no quote stands, brackets that pair off are balanced. -/
theorem balanced_iff_paired {text : Text} (unquoted : ∀ c ∈ text, isQuote c = false) :
    Balanced (fun _ => True) text ↔ Paired text := by
  constructor
  · intro balanced
    generalize all : (fun _ : Char => True) = isFree at balanced
    induction balanced with
    | nil => exact .nil
    | other isOther _ _ ih =>
      exact .other isOther.opensNot isOther.closesNot (ih (List.forall_mem_cons.1 unquoted).2 all)
    | literal quote _ _ _ =>
      have plain := (List.forall_mem_cons.1 unquoted).1
      rw [quote] at plain
      cases plain
    | group opens _ _ ihInside ih =>
      obtain ⟨inside, behind⟩ := List.forall_mem_append.1 (List.forall_mem_cons.1 unquoted).2
      exact .group opens (ihInside inside rfl) (ih (List.forall_mem_cons.1 behind).2 all)
  · intro paired
    induction paired with
    | nil => exact .nil
    | other opensNot closesNot _ ih =>
      obtain ⟨plain, others⟩ := List.forall_mem_cons.1 unquoted
      exact .other ⟨opensNot, closesNot, plain⟩ trivial (ih others)
    | group opens _ _ ihInside ih =>
      obtain ⟨inside, behind⟩ := List.forall_mem_append.1 (List.forall_mem_cons.1 unquoted).2
      exact .group opens (ihInside inside) (ih (List.forall_mem_cons.1 behind).2)

theorem prepend_prepend (first second : Text) (cut : Option (Text × Text)) :
    prepend first (prepend second cut) = prepend (first ++ second) cut := by
  cases cut with
  | none => rfl
  | some parts => simp [prepend]

theorem exists_of_prepend {lead : Text} {cut : Option (Text × Text)} {parts : Text × Text}
    (found : prepend lead cut = some parts) : ∃ behind, cut = some behind := by
  obtain ⟨behind, same, _⟩ := Option.map_eq_some_iff.1 found
  exact ⟨behind, same⟩

section Forwards

variable {expected : Char} {outer : List Char} {text : Text} {parts : Text × Text}

theorem untilClosed?_append (balanced : Balanced (fun _ => True) text) (expected : Char)
    (outer : List Char) (rest : Text) :
    untilClosed? ⟨expected :: outer, .code⟩ (text ++ rest) =
      prepend text (untilClosed? ⟨expected :: outer, .code⟩ rest) := by
  rw [← foldr_prepend]
  exact closing.scan_append balanced (expected, outer) (fun _ free => free) rest

theorem untilClosed?_opener {c closer : Char} (opens : closer? c = some closer) :
    untilClosed? ⟨expected :: outer, .code⟩ (c :: text) =
      prepend [c] (untilClosed? ⟨closer :: expected :: outer, .code⟩ text) :=
  closing.scan_opener (expected, outer) text opens

theorem untilClosed?_quote {c : Char} (quote : isQuote c = true) :
    untilClosed? ⟨expected :: outer, .code⟩ (c :: text) =
      prepend [c] (untilClosed? ⟨expected :: outer, .literal c⟩ text) := by
  obtain ⟨opensNot, closesNot⟩ := of_isQuote
    (fun c => closer? c = none ∧ opener? c = none) quote (by decide)
  have entered := closing.scan_code (expected, outer) text opensNot closesNot (.inl quote)
  rwa [Mode.next, if_pos quote] at entered

theorem untilClosed?_literal {mode : Mode} (inLiteral : mode ≠ .code) (c : Char) :
    untilClosed? ⟨expected :: outer, mode⟩ (c :: text) =
      prepend [c] (untilClosed? ⟨expected :: outer, mode.next c⟩ text) :=
  closing.scan_literal (expected, outer) c text inLiteral

/-- A scan that gets out of a literal has read it to its end; behind a backslash, one character
more. -/
theorem exists_literalBody_of_untilClosed? {quote : Char} :
    (untilClosed? ⟨expected :: outer, .literal quote⟩ text = some parts →
      ∃ body rest, text = body ++ quote :: rest ∧ LiteralBody quote body) ∧
    (untilClosed? ⟨expected :: outer, .escape quote⟩ text = some parts →
      ∃ c body rest, text = c :: (body ++ quote :: rest) ∧ LiteralBody quote body) := by
  induction text generalizing parts with
  | nil => simp [untilClosed?]
  | cons c text ih =>
    constructor
    · intro found
      rw [untilClosed?_literal (by simp), Mode.next] at found
      split at found
      · next backslash =>
        obtain ⟨_, escaped⟩ := exists_of_prepend found
        obtain ⟨d, body, rest, rfl, complete⟩ := ih.2 escaped
        exact ⟨'\\' :: d :: body, rest, by simp [backslash], .escape d complete⟩
      · next noEscape =>
        split at found
        · next ends => exact ⟨[], text, by rw [ends]; rfl, .nil⟩
        · next noQuote =>
          obtain ⟨_, inLiteral⟩ := exists_of_prepend found
          obtain ⟨body, rest, rfl, complete⟩ := ih.1 inLiteral
          exact ⟨c :: body, rest, rfl, .plain noEscape noQuote complete⟩
    · intro found
      rw [untilClosed?_literal (by simp), Mode.next] at found
      obtain ⟨_, inLiteral⟩ := exists_of_prepend found
      obtain ⟨body, rest, rfl, complete⟩ := ih.1 inLiteral
      exact ⟨c, body, rest, rfl, complete⟩

/-- Where a scan finds the bracket it awaits, balanced text stands before it. -/
theorem exists_balanced_of_untilClosed?
    (found : untilClosed? ⟨expected :: outer, .code⟩ text = some parts) :
    ∃ inside rest, text = inside ++ expected :: rest ∧ Balanced (fun _ => True) inside := by
  induction size : text.length using Nat.strongRecOn generalizing expected outer text parts with
  | ind length ih =>
    -- Behind balanced text the scan goes on as it began.
    have further {lead : Text} (rest : Text) (balanced : Balanced (fun _ => True) lead)
        (filled : lead ≠ []) (split : text = lead ++ rest) :
        ∃ inside rest, text = inside ++ expected :: rest ∧ Balanced (fun _ => True) inside := by
      rw [split, untilClosed?_append balanced] at found
      obtain ⟨_, behind⟩ := exists_of_prepend found
      have shorter : rest.length < length := by
        have positive := List.length_pos_iff.2 filled
        rw [← size, split, List.length_append]
        omega
      obtain ⟨inside, tail, rfl, nested⟩ := ih rest.length shorter behind rfl
      exact ⟨lead ++ inside, tail, by rw [split, List.append_assoc], balanced.append nested⟩
    cases text with
    | nil => simp [untilClosed?] at found
    | cons c rest =>
      have shorter : rest.length < length := size ▸ Nat.lt_succ_self _
      cases opens : closer? c with
      | some closer =>
        rw [untilClosed?_opener opens] at found
        obtain ⟨_, nested⟩ := exists_of_prepend found
        obtain ⟨inside, tail, rfl, balanced⟩ := ih rest.length shorter nested rfl
        exact further tail (.bracketed opens balanced) (by simp) (by simp)
      | none =>
        cases closes : opener? c with
        | some opener =>
          by_cases same : c = expected
          · exact ⟨[], rest, by rw [same]; rfl, .nil⟩
          · simp [untilClosed?, Pending.next?, opens, closes, same] at found
        | none =>
          by_cases quote : isQuote c = true
          · rw [untilClosed?_quote quote] at found
            obtain ⟨_, inLiteral⟩ := exists_of_prepend found
            obtain ⟨body, tail, rfl, complete⟩ := exists_literalBody_of_untilClosed?.1 inLiteral
            exact further tail (.quoted quote complete) (by simp) (by simp)
          · have plain : isQuote c = false := by simpa using quote
            exact further rest (.other ⟨opens, closes, plain⟩ trivial .nil) (by simp) rfl

/-- A group is read exactly if it is balanced. -/
theorem group?_eq_some_iff {opener closer : Char} {text inside after : Text}
    (opens : closer? opener = some closer) :
    group? (opener :: text) = some (inside, after) ↔
      text = inside ++ closer :: after ∧ Balanced (fun _ => True) inside := by
  constructor
  · intro found
    have closed : untilClosed? ⟨[closer], .code⟩ text = some (inside, after) := by
      simpa [group?, opens] using found
    obtain ⟨before, rest, rfl, balanced⟩ := exists_balanced_of_untilClosed? closed
    rw [group?_append opens balanced] at found
    obtain ⟨rfl, rfl⟩ : before = inside ∧ rest = after := by simpa using found
    exact ⟨rfl, balanced⟩
  · rintro ⟨rfl, balanced⟩
    exact group?_append opens balanced after

end Forwards

section Backwards

variable {expected : Char} {outer : List Char} {text : Text} {parts : Text × Text}

theorem closer?_of_opener? {c opener : Char} (closes : opener? c = some opener) :
    closer? opener = some c := by
  obtain rfl | rfl | rfl := cases_of_opener? closes
  · obtain rfl : '(' = opener := Option.some.inj closes
    rfl
  · obtain rfl : '[' = opener := Option.some.inj closes
    rfl
  · obtain rfl : '{' = opener := Option.some.inj closes
    rfl

/-- An opening bracket closes nothing. -/
theorem opener?_of_opens {c closer : Char} (opens : closer? c = some closer) :
    opener? c = none := by
  obtain ⟨rfl, _⟩ | ⟨rfl, _⟩ | ⟨rfl, _⟩ := cases_of_closer? opens
  · rfl
  · rfl
  · rfl

theorem untilOpened?_closer {c opener : Char} (closes : opener? c = some opener) :
    untilOpened? (expected :: outer) (c :: text) =
      prepend [c] (untilOpened? (opener :: expected :: outer) text) := by
  simp [untilOpened?, nextOpener?, closes, prepend]

theorem untilOpened?_opener {c closer : Char} (opens : closer? c = some closer) :
    untilOpened? (c :: expected :: outer) (c :: text) =
      prepend [c] (untilOpened? (expected :: outer) text) := by
  simp [untilOpened?, nextOpener?, opener?_of_opens opens, opens, prepend]

theorem untilOpened?_other {c : Char} (opensNot : closer? c = none) (closesNot : opener? c = none) :
    untilOpened? (expected :: outer) (c :: text) =
      prepend [c] (untilOpened? (expected :: outer) text) := by
  simp [untilOpened?, nextOpener?, opensNot, closesNot, prepend]

/-- Read backwards, text whose brackets pair off is passed over. -/
theorem untilOpened?_append (paired : Paired text) (expected : Char) (outer : List Char)
    (rest : Text) :
    untilOpened? (expected :: outer) (text.reverse ++ rest) =
      prepend text.reverse (untilOpened? (expected :: outer) rest) := by
  induction paired generalizing expected outer rest with
  | nil => cases found : untilOpened? (expected :: outer) rest <;> simp [prepend, found]
  | other opensNot closesNot _ ih =>
    rw [List.reverse_cons, List.append_assoc, ih, List.singleton_append,
      untilOpened?_other opensNot closesNot, prepend_prepend]
  | @group opener closer inside others opens _ _ ihInside ih =>
    have closes := (opener?_of_closer? opens).2
    simp only [List.reverse_cons, List.reverse_append, List.append_assoc, List.cons_append,
      List.nil_append]
    rw [ih, untilOpened?_closer closes, ihInside, untilOpened?_opener opens]
    simp only [prepend_prepend, List.cons_append, List.nil_append]

/-- Where a backward scan finds the bracket it awaits, the brackets in between pair off. -/
theorem exists_paired_of_untilOpened? (found : untilOpened? (expected :: outer) text = some parts) :
    ∃ inside rest, text = inside.reverse ++ expected :: rest ∧ Paired inside := by
  induction size : text.length using Nat.strongRecOn generalizing expected outer text parts with
  | ind length ih =>
    have further {lead : Text} (rest : Text) (paired : Paired lead) (filled : lead ≠ [])
        (split : text = lead.reverse ++ rest) :
        ∃ inside rest, text = inside.reverse ++ expected :: rest ∧ Paired inside := by
      rw [split, untilOpened?_append paired] at found
      obtain ⟨_, behind⟩ := exists_of_prepend found
      have shorter : rest.length < length := by
        have positive := List.length_pos_iff.2 filled
        rw [← size, split, List.length_append, List.length_reverse]
        omega
      obtain ⟨inside, tail, rfl, nested⟩ := ih rest.length shorter behind rfl
      exact ⟨inside ++ lead, tail, by simp [split], nested.append paired⟩
    cases text with
    | nil => simp [untilOpened?] at found
    | cons c rest =>
      have shorter : rest.length < length := size ▸ Nat.lt_succ_self _
      cases closes : opener? c with
      | some opener =>
        rw [untilOpened?_closer closes] at found
        obtain ⟨_, nested⟩ := exists_of_prepend found
        obtain ⟨inside, tail, rfl, paired⟩ := ih rest.length shorter nested rfl
        exact further tail (.group (closer?_of_opener? closes) paired .nil) (by simp) (by simp)
      | none =>
        cases opens : closer? c with
        | some closer =>
          by_cases same : c = expected
          · exact ⟨[], rest, by rw [same]; rfl, .nil⟩
          · simp [untilOpened?, nextOpener?, opens, closes, same] at found
        | none => exact further rest (.other opens closes .nil) (by simp) rfl

/-- Read backwards, a group is read exactly if its brackets pair off. -/
theorem groupBefore?_eq_some_iff {opener closer : Char} {text inside outside : Text}
    (opens : closer? opener = some closer) :
    groupBefore? (closer :: text) = some (inside, outside) ↔
      text = inside ++ opener :: outside ∧ Paired inside.reverse := by
  have read : groupBefore? (closer :: text) = untilOpened? [opener] text := by
    simp [groupBefore?, (opener?_of_closer? opens).2]
  have passed {before : Text} (paired : Paired before) (rest : Text) :
      untilOpened? [opener] (before.reverse ++ opener :: rest) = some (before.reverse, rest) := by
    have reached : untilOpened? [opener] (opener :: rest) = some ([], rest) := by
      simp [untilOpened?, nextOpener?, opener?_of_opens opens, opens]
    rw [untilOpened?_append paired, reached, prepend_some, List.append_nil]
  rw [read]
  constructor
  · intro found
    obtain ⟨before, rest, rfl, paired⟩ := exists_paired_of_untilOpened? found
    rw [passed paired] at found
    obtain ⟨rfl, rfl⟩ : before.reverse = inside ∧ rest = outside := by simpa using found
    exact ⟨rfl, by rwa [List.reverse_reverse]⟩
  · rintro ⟨rfl, paired⟩
    have found := passed paired outside
    rwa [List.reverse_reverse] at found

end Backwards

section Indexes

variable {opener closer : Char} {line left inside tail rest : Text}

/-- A bracket is closed behind the balanced text that follows it. -/
theorem matchingClose?_append_iff (opens : closer? opener = some closer) {index : Nat} :
    matchingClose? (left ++ opener :: tail) (Text.utf8Length left) = some index ↔
      ∃ inside rest, tail = inside ++ closer :: rest ∧ Balanced (fun _ => True) inside ∧
        index = Text.utf8Length left + 1 + Text.utf8Length inside := by
  simp only [matchingClose?, Text.splitAtByte?_append, Option.bind_eq_bind, Option.bind_some]
  constructor
  · intro found
    obtain ⟨⟨inside, rest⟩, read, same⟩ := Option.bind_eq_some_iff.1 found
    obtain ⟨split, balanced⟩ := (group?_eq_some_iff opens).1 read
    exact ⟨inside, rest, split, balanced, (Option.some.inj same).symm⟩
  · rintro ⟨inside, rest, rfl, balanced, rfl⟩
    rw [group?_append opens balanced]
    rfl

/-- The bracket behind `inside` closes the one before it exactly if `inside` is balanced. -/
theorem matchingClose?_eq_some_iff (opens : closer? opener = some closer)
    (split : line = left ++ opener :: (inside ++ closer :: rest)) :
    matchingClose? line (Text.utf8Length left) =
        some (Text.utf8Length left + 1 + Text.utf8Length inside) ↔
      Balanced (fun _ => True) inside := by
  rw [split, matchingClose?_append_iff opens]
  constructor
  · rintro ⟨other, behind, same, balanced, index⟩
    rwa [Text.eq_of_utf8Length_eq same (Nat.add_left_cancel index)]
  · intro balanced
    exact ⟨inside, rest, rfl, balanced, rfl⟩

/-- Read backwards, the bracket before `inside` opens the one behind it exactly if the brackets of
`inside` pair off. -/
theorem matchingOpen?_eq_some_iff (opens : closer? opener = some closer)
    (split : line = left ++ opener :: (inside ++ closer :: rest)) :
    matchingOpen? line (Text.utf8Length left + 1 + Text.utf8Length inside) =
        some (Text.utf8Length left) ↔ Paired inside := by
  have width : opener.utf8Size = 1 := (isMark_of_closer? (by simp [opens])).1
  have index : Text.utf8Length left + 1 + Text.utf8Length inside =
      Text.utf8Length (left ++ opener :: inside) := by
    rw [Text.utf8Length_append, Text.utf8Length_cons, width, Nat.add_assoc]
  have whole : line = (left ++ opener :: inside) ++ closer :: rest := by
    simp [split]
  simp only [matchingOpen?, whole, index, Text.splitAtByte?_append, Option.bind_eq_bind,
    Option.bind_some, List.head?_cons]
  constructor
  · intro found
    obtain ⟨⟨before, outside⟩, read, size⟩ := Option.bind_eq_some_iff.1 found
    obtain ⟨same, paired⟩ := (groupBefore?_eq_some_iff opens).1 read
    have forwards : left ++ opener :: inside = outside.reverse ++ opener :: before.reverse := by
      simpa using congrArg List.reverse same
    have length : Text.utf8Length left = Text.utf8Length outside.reverse := by
      rw [Text.utf8Length_reverse]
      exact (Option.some.inj size).symm
    rw [Text.eq_of_utf8Length_eq forwards length] at forwards
    rwa [(List.cons.inj (List.append_cancel_left forwards)).2]
  · intro paired
    have read : groupBefore? (closer :: (left ++ opener :: inside).reverse) =
        some (inside.reverse, left.reverse) :=
      (groupBefore?_eq_some_iff opens).2 ⟨by simp, by simpa using paired⟩
    rw [read]
    simp

/-- Brackets that match stand in a text with something in between. -/
structure Spans (line left inside rest : Text) (opener closer : Char) (opening closing : Nat) :
    Prop where
  opens : closer? opener = some closer
  split : line = left ++ opener :: (inside ++ closer :: rest)
  opening_eq : opening = Text.utf8Length left
  closing_eq : closing = Text.utf8Length left + 1 + Text.utf8Length inside

theorem exists_spans_of_matchingClose? {opening closing : Nat}
    (found : matchingClose? line opening = some closing) :
    ∃ left inside rest opener closer,
      Spans line left inside rest opener closer opening closing := by
  obtain ⟨⟨left, tail⟩, cut, read⟩ := Option.bind_eq_some_iff.1 found
  obtain ⟨rfl, rfl⟩ := Text.eq_append_of_splitAtByte? cut
  cases tail with
  | nil => cases read
  | cons opener tail =>
    cases opens : closer? opener with
    | none => simp [group?, opens] at read
    | some closer =>
      obtain ⟨inside, rest, rfl, _, closing⟩ := (matchingClose?_append_iff opens).1 found
      exact ⟨left, inside, rest, opener, closer, opens, rfl, rfl, closing⟩

theorem exists_spans_of_matchingOpen? {opening closing : Nat}
    (found : matchingOpen? line closing = some opening) :
    ∃ left inside rest opener closer,
      Spans line left inside rest opener closer opening closing := by
  obtain ⟨⟨before, tail⟩, cut, read⟩ := Option.bind_eq_some_iff.1 found
  obtain ⟨rfl, rfl⟩ := Text.eq_append_of_splitAtByte? cut
  obtain ⟨closer, head, grouped⟩ := Option.bind_eq_some_iff.1 read
  obtain ⟨rest, rfl⟩ := List.head?_eq_some_iff.1 head
  obtain ⟨⟨inside, outside⟩, group, size⟩ := Option.bind_eq_some_iff.1 grouped
  cases closes : opener? closer with
  | none => simp [groupBefore?, closes] at group
  | some opener =>
    have opens := closer?_of_opener? closes
    have width : opener.utf8Size = 1 := (isMark_of_closer? (by simp [opens])).1
    obtain ⟨reversed, _⟩ := (groupBefore?_eq_some_iff opens).1 group
    have forwards : before = outside.reverse ++ opener :: inside.reverse := by
      simpa using congrArg List.reverse reversed
    refine ⟨outside.reverse, inside.reverse, rest, opener, closer, opens, by simp [forwards],
      ?_, ?_⟩
    · rw [Text.utf8Length_reverse]
      exact (Option.some.inj size).symm
    · rw [forwards, Text.utf8Length_append, Text.utf8Length_cons, width, Nat.add_assoc]

end Indexes

/-- **Without quotes the two readers undo each other.** In a text without quotes the bracket that
closes another one is the bracket that the other one opens. -/
theorem matching_reverses {text : Text} (unquoted : ∀ c ∈ text, isQuote c = false)
    (opening closing : Nat) :
    matchingOpen? text closing = some opening ↔ matchingClose? text opening = some closing := by
  -- Both answers give a pair of brackets, and what stands between them decides both.
  have agree {left inside rest : Text} {opener closer : Char}
      (spans : Spans text left inside rest opener closer opening closing) :
      matchingOpen? text closing = some opening ↔ matchingClose? text opening = some closing := by
    obtain ⟨opens, split, rfl, rfl⟩ := spans
    have plain : ∀ c ∈ inside, isQuote c = false := by
      intro c member
      exact unquoted c (by simp [split, member])
    rw [matchingOpen?_eq_some_iff opens split, matchingClose?_eq_some_iff opens split,
      balanced_iff_paired plain]
  constructor
  · intro found
    obtain ⟨_, _, _, _, _, spans⟩ := exists_spans_of_matchingOpen? found
    exact (agree spans).1 found
  · intro found
    obtain ⟨_, _, _, _, _, spans⟩ := exists_spans_of_matchingClose? found
    exact (agree spans).2 found

/-- Brackets of two kinds around a character of two bytes, with one that is never closed before
them and one that was never opened behind them. -/
theorem matching_reverses_when_unbalanced :
    let text : Text := ['{', '(', 'é', '[', ']', ')', ']']
    (∀ c ∈ text, isQuote c = false) ∧ matchingClose? text 1 = some 6 ∧
      matchingOpen? text 6 = some 1 ∧ matchingClose? text 0 = none ∧
      matchingOpen? text 7 ≠ some 0 := by
  intro text
  have unquoted : ∀ c ∈ text, isQuote c = false := by simp [text, isQuote]
  have closes : matchingClose? text 1 = some 6 := by decide +kernel
  have unclosed : matchingClose? text 0 = none := by decide +kernel
  refine ⟨unquoted, closes, (matching_reverses unquoted 1 6).2 closes, unclosed, ?_⟩
  rw [Ne, matching_reverses unquoted 0 7, unclosed]
  simp

end Bracket

end TemplateNav
