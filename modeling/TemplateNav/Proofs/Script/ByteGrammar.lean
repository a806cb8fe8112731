import TemplateNav.Proofs.Script.Matching
import TemplateNav.Proofs.Text.Bytes

/-!
# Bracket groups as a language of bytes

A bracket is closed by the byte that ends a word of a small grammar: a group is a bracket,
items and the bracket that closes it, and an item is a group, a string literal or any byte
that is no bracket and no quote.  The grammar knows nothing of characters.  An escape takes
one byte, and what is left of a character of several bytes is passed over like any other
byte, so the grammar of bytes derives what the grammar of characters does.
-/

namespace TemplateNav

namespace Bracket

/-- The bytes of an opening bracket and of the one that closes it. -/
inductive BytePair : UInt8 → UInt8 → Prop where
  | round : BytePair '('.toUInt8 ')'.toUInt8
  | square : BytePair '['.toUInt8 ']'.toUInt8
  | curly : BytePair '{'.toUInt8 '}'.toUInt8

/-- The bytes of the three quotes. -/
def quoteBytes : List UInt8 :=
  ['"', '\'', '\x60'].map Char.toUInt8

/-- The inside of a string literal: escapes of a backslash and any byte, and bytes other than the
quote and the backslash. -/
inductive LiteralBytes (quote : UInt8) : List UInt8 → Prop where
  | nil : LiteralBytes quote []
  | escape (b : UInt8) {rest : List UInt8} (body : LiteralBytes quote rest) :
      LiteralBytes quote ('\\'.toUInt8 :: b :: rest)
  | plain {b : UInt8} {rest : List UInt8} (noEscape : b ≠ '\\'.toUInt8) (noQuote : b ≠ quote)
      (body : LiteralBytes quote rest) : LiteralBytes quote (b :: rest)

/-- What the grammar has words for. -/
inductive Part where
  | group
  | items
  | item

/-- The words of each part of the grammar. -/
inductive Derives : Part → List UInt8 → Prop where
  | group {opener closer : UInt8} {inside : List UInt8} (pair : BytePair opener closer)
      (items : Derives .items inside) : Derives .group (opener :: (inside ++ [closer]))
  | none : Derives .items []
  | more {first rest : List UInt8} (item : Derives .item first) (items : Derives .items rest) :
      Derives .items (first ++ rest)
  | nested {bytes : List UInt8} (group : Derives .group bytes) : Derives .item bytes
  | literal {quote : UInt8} {body : List UInt8} (isQuote : quote ∈ quoteBytes)
      (complete : LiteralBytes quote body) : Derives .item (quote :: (body ++ [quote]))
  | byte {b : UInt8} (noMark : b ∉ marks.map Char.toUInt8) : Derives .item [b]

/-- The bytes of a text from index `opening` to index `closing`, both included, are a group. -/
def GroupAt (text : Text) (opening closing : Nat) : Prop :=
  ∃ before group after, text.bytes = before ++ (group ++ after) ∧ before.length = opening ∧
    opening + group.length = closing + 1 ∧ Derives .group group

section Literals

variable {quote : UInt8} {plain rest : List UInt8}

theorem literalBytes_cons_iff {b : UInt8} :
    LiteralBytes quote (b :: rest) ↔
      (b = '\\'.toUInt8 ∧ ∃ escaped behind, rest = escaped :: behind ∧ LiteralBytes quote behind) ∨
      (b ≠ '\\'.toUInt8 ∧ b ≠ quote ∧ LiteralBytes quote rest) := by
  constructor
  · intro body
    cases body with
    | escape escaped body => exact .inl ⟨rfl, escaped, _, rfl, body⟩
    | plain noEscape noQuote body => exact .inr ⟨noEscape, noQuote, body⟩
  · rintro (⟨rfl, escaped, behind, rfl, body⟩ | ⟨noEscape, noQuote, body⟩)
    · exact .escape escaped body
    · exact .plain noEscape noQuote body

theorem literalBody_cons_iff {quote c : Char} {rest : Text} :
    LiteralBody quote (c :: rest) ↔
      (c = '\\' ∧ ∃ escaped behind, rest = escaped :: behind ∧ LiteralBody quote behind) ∨
      (c ≠ '\\' ∧ c ≠ quote ∧ LiteralBody quote rest) := by
  constructor
  · intro body
    cases body with
    | escape escaped body => exact .inl ⟨rfl, escaped, _, rfl, body⟩
    | plain noEscape noQuote body => exact .inr ⟨noEscape, noQuote, body⟩
  · rintro (⟨rfl, escaped, behind, rfl, body⟩ | ⟨noEscape, noQuote, body⟩)
    · exact .escape escaped body
    · exact .plain noEscape noQuote body

theorem literalBytes_append_iff (passed : ∀ b ∈ plain, b ≠ '\\'.toUInt8 ∧ b ≠ quote) :
    LiteralBytes quote (plain ++ rest) ↔ LiteralBytes quote rest := by
  induction plain with
  | nil => exact Iff.rfl
  | cons b plain ih =>
    obtain ⟨⟨noEscape, noQuote⟩, others⟩ := List.forall_mem_cons.1 passed
    rw [List.cons_append, literalBytes_cons_iff, ih others]
    simp [noEscape, noQuote]

end Literals

section LiteralText

variable {quote c : Char} {rest : Text}

/-- The bytes of a character other than the backslash and the quote are plain. -/
theorem plain_of_mem_utf8EncodeChar (single : quote.utf8Size = 1) (noEscape : c ≠ '\\')
    (noQuote : c ≠ quote) :
    ∀ b ∈ String.utf8EncodeChar c, b ≠ '\\'.toUInt8 ∧ b ≠ quote.toUInt8 := by
  intro b member
  constructor
  · rintro rfl
    exact noEscape ((Text.toUInt8_mem_utf8EncodeChar_iff rfl).1 member)
  · rintro rfl
    exact noQuote ((Text.toUInt8_mem_utf8EncodeChar_iff single).1 member)

/-- Of any character all bytes but the first are plain. -/
theorem exists_cons_utf8EncodeChar (single : quote.utf8Size = 1) (c : Char) :
    ∃ first others, String.utf8EncodeChar c = first :: others ∧
      ∀ b ∈ others, b ≠ '\\'.toUInt8 ∧ b ≠ quote.toUInt8 := by
  by_cases narrow : c.utf8Size = 1
  · exact ⟨_, [], Text.utf8EncodeChar_of_single narrow, by simp⟩
  · have filled : String.utf8EncodeChar c ≠ [] := by
      rw [← List.length_pos_iff, String.length_utf8EncodeChar]
      exact c.utf8Size_pos
    obtain ⟨first, others, encoded⟩ := List.exists_cons_of_ne_nil filled
    refine ⟨first, others, encoded, ?_⟩
    intro b member
    apply plain_of_mem_utf8EncodeChar single (c := c)
    · rintro rfl
      exact narrow rfl
    · rintro rfl
      exact narrow single
    · simp [encoded, member]

theorem literalBytes_bytes_cons_iff (single : quote.utf8Size = 1) :
    LiteralBytes quote.toUInt8 (Text.bytes (c :: rest)) ↔
      (c = '\\' ∧ ∃ escaped behind, rest = escaped :: behind ∧
        LiteralBytes quote.toUInt8 (Text.bytes behind)) ∨
      (c ≠ '\\' ∧ c ≠ quote ∧ LiteralBytes quote.toUInt8 (Text.bytes rest)) := by
  by_cases escapes : c = '\\'
  · -- The escape takes the first byte of the next character, and the others are plain.
    subst escapes
    rw [Text.bytes_cons, Text.utf8EncodeChar_of_single rfl, List.singleton_append,
      literalBytes_cons_iff]
    cases rest with
    | nil => simp
    | cons d rest =>
      obtain ⟨first, others, encoded, plain⟩ := exists_cons_utf8EncodeChar single d
      simp [encoded, and_assoc, literalBytes_append_iff plain]
  · by_cases ends : c = quote
    · subst ends
      have different : c.toUInt8 ≠ '\\'.toUInt8 :=
        fun same => escapes (Text.eq_of_toUInt8_eq single rfl same)
      rw [Text.bytes_cons, Text.utf8EncodeChar_of_single single, List.singleton_append,
        literalBytes_cons_iff]
      simp [different, escapes]
    · rw [Text.bytes_cons,
        literalBytes_append_iff (plain_of_mem_utf8EncodeChar single escapes ends)]
      simp [escapes, ends]

/-- The bytes of a text are the inside of a literal if the text is. -/
theorem literalBytes_bytes_iff (single : quote.utf8Size = 1) {text : Text} :
    LiteralBytes quote.toUInt8 text.bytes ↔ LiteralBody quote text := by
  induction size : text.length using Nat.strongRecOn generalizing text with
  | ind length ih =>
    cases text with
    | nil => exact ⟨fun _ => .nil, fun _ => .nil⟩
    | cons c rest =>
      have shorter : rest.length < length := size ▸ Nat.lt_succ_self _
      have escaped : (∃ d behind, rest = d :: behind ∧
            LiteralBytes quote.toUInt8 (Text.bytes behind)) ↔
          ∃ d behind, rest = d :: behind ∧ LiteralBody quote behind := by
        refine exists_congr fun d => exists_congr fun behind => and_congr_right fun split => ?_
        exact ih behind.length (by rw [split, List.length_cons] at shorter; omega) rfl
      rw [literalBytes_bytes_cons_iff single, literalBody_cons_iff, escaped,
        ih rest.length shorter rfl]

end LiteralText

section Classes

variable {c : Char}

theorem isOther_iff : IsOther c ↔ c ∉ marks := by
  constructor
  · intro ⟨opensNot, closesNot, quotesNot⟩ listed
    have marked : ∀ mark ∈ marks,
        (closer? mark).isSome ∨ (opener? mark).isSome ∨ isQuote mark = true := by
      simp [marks, closer?, opener?, isQuote]
    simpa [opensNot, closesNot, quotesNot] using marked c listed
  · exact .of_not_mem

theorem utf8Size_of_mem_marks (listed : c ∈ marks) : c.utf8Size = 1 := by
  have narrow : ∀ mark ∈ marks, mark.utf8Size = 1 := by simp [marks, Char.utf8Size]
  exact narrow c listed

/-- A byte of a character is that of a bracket or a quote only if the character is one. -/
theorem not_mem_markBytes (isOther : IsOther c) :
    ∀ b ∈ String.utf8EncodeChar c, b ∉ marks.map Char.toUInt8 := by
  intro b encoded member
  obtain ⟨mark, listed, rfl⟩ := List.mem_map.1 member
  rw [Text.toUInt8_mem_utf8EncodeChar_iff (utf8Size_of_mem_marks listed)] at encoded
  exact isOther_iff.1 isOther (encoded ▸ listed)

theorem toUInt8_mem_quoteBytes_iff (single : c.utf8Size = 1) :
    c.toUInt8 ∈ quoteBytes ↔ isQuote c = true := by
  constructor
  · intro member
    obtain ⟨quote, listed, same⟩ := List.mem_map.1 member
    have quotes : ∀ mark ∈ ['"', '\'', '\x60'], mark.utf8Size = 1 ∧ isQuote mark = true := by
      simp [Char.utf8Size, isQuote]
    obtain ⟨narrow, isQuote⟩ := quotes quote listed
    rwa [← Text.eq_of_toUInt8_eq narrow single same]
  · intro isQuote
    exact of_isQuote (·.toUInt8 ∈ quoteBytes) isQuote (by decide)

theorem utf8Size_of_closer? {closer : Char} (opens : closer? c = some closer) :
    c.utf8Size = 1 ∧ closer.utf8Size = 1 :=
  ⟨(isMark_of_closer? (by simp [opens])).1,
    (isMark_of_opener? (by simp [(opener?_of_closer? opens).2])).1⟩

theorem exists_closer?_of_bytePair {opener closer : UInt8} (pair : BytePair opener closer) :
    ∃ c d, c.toUInt8 = opener ∧ d.toUInt8 = closer ∧ closer? c = some d := by
  cases pair with
  | round => exact ⟨'(', ')', rfl, rfl, rfl⟩
  | square => exact ⟨'[', ']', rfl, rfl, rfl⟩
  | curly => exact ⟨'{', '}', rfl, rfl, rfl⟩

theorem bytePair_iff (single : c.utf8Size = 1) {closer : UInt8} :
    BytePair c.toUInt8 closer ↔ ∃ d, closer? c = some d ∧ d.toUInt8 = closer := by
  constructor
  · intro pair
    obtain ⟨opener, d, same, closes, opens⟩ := exists_closer?_of_bytePair pair
    rw [Text.eq_of_toUInt8_eq (utf8Size_of_closer? opens).1 single same] at opens
    exact ⟨d, opens, closes⟩
  · rintro ⟨d, opens, rfl⟩
    obtain ⟨rfl, rfl⟩ | ⟨rfl, rfl⟩ | ⟨rfl, rfl⟩ := cases_of_closer? opens
    · exact .round
    · exact .square
    · exact .curly

end Classes

section Items

variable {b : UInt8} {rest : List UInt8}

/-- Items start with a group, a literal or a byte that is neither a bracket nor a quote. -/
theorem derives_items_cons_iff :
    Derives .items (b :: rest) ↔
      (∃ closer inside behind, BytePair b closer ∧ rest = inside ++ closer :: behind ∧
        Derives .items inside ∧ Derives .items behind) ∨
      (∃ body behind, b ∈ quoteBytes ∧ rest = body ++ b :: behind ∧ LiteralBytes b body ∧
        Derives .items behind) ∨
      (b ∉ marks.map Char.toUInt8 ∧ Derives .items rest) := by
  constructor
  · intro items
    generalize whole : b :: rest = bytes at items
    cases items with
    | none => cases whole
    | more item items =>
      cases item with
      | nested group =>
        cases group with
        | group pair inside =>
          obtain ⟨rfl, rfl⟩ := List.cons.inj whole
          exact .inl ⟨_, _, _, pair, by simp, inside, items⟩
      | literal isQuote complete =>
        obtain ⟨rfl, rfl⟩ := List.cons.inj whole
        exact .inr (.inl ⟨_, _, isQuote, by simp, complete, items⟩)
      | byte noMark =>
        obtain ⟨rfl, rfl⟩ := List.cons.inj whole
        exact .inr (.inr ⟨noMark, items⟩)
  · rintro (⟨closer, inside, behind, pair, rfl, nested, items⟩ |
      ⟨body, behind, isQuote, rfl, complete, items⟩ | ⟨noMark, items⟩)
    · simpa using Derives.more (.nested (.group pair nested)) items
    · simpa using Derives.more (.literal isQuote complete) items
    · exact .more (.byte noMark) items

theorem derives_items_append_iff {others : List UInt8}
    (passed : ∀ b ∈ others, b ∉ marks.map Char.toUInt8) :
    Derives .items (others ++ rest) ↔ Derives .items rest := by
  induction others with
  | nil => exact Iff.rfl
  | cons b others ih =>
    obtain ⟨noMark, later⟩ := List.forall_mem_cons.1 passed
    rw [List.cons_append, derives_items_cons_iff, ih later]
    constructor
    · rintro (⟨_, _, _, pair, _⟩ | ⟨_, _, isQuote, _⟩ | ⟨_, items⟩)
      · exact absurd (by cases pair <;> decide) noMark
      · have quotes : quoteBytes ⊆ marks.map Char.toUInt8 := by decide
        exact absurd (quotes isQuote) noMark
      · exact items
    · exact fun items => .inr (.inr ⟨noMark, items⟩)

end Items

section ItemText

variable {c : Char} {rest : Text}

theorem balanced_cons_iff :
    Balanced (fun _ => True) (c :: rest) ↔
      (∃ closer inside behind, closer? c = some closer ∧ rest = inside ++ closer :: behind ∧
        Balanced (fun _ => True) inside ∧ Balanced (fun _ => True) behind) ∨
      (∃ body behind, isQuote c = true ∧ rest = body ++ c :: behind ∧ LiteralBody c body ∧
        Balanced (fun _ => True) behind) ∨
      (IsOther c ∧ Balanced (fun _ => True) rest) := by
  constructor
  · intro balanced
    cases balanced with
    | group opens nested balanced => exact .inl ⟨_, _, _, opens, rfl, nested, balanced⟩
    | literal isQuote complete balanced =>
      exact .inr (.inl ⟨_, _, isQuote, rfl, complete, balanced⟩)
    | other isOther _ balanced => exact .inr (.inr ⟨isOther, balanced⟩)
  · rintro (⟨closer, inside, behind, opens, rfl, nested, balanced⟩ |
      ⟨body, behind, isQuote, rfl, complete, balanced⟩ | ⟨isOther, balanced⟩)
    · exact .group opens nested balanced
    · exact .literal isQuote complete balanced
    · exact .other isOther trivial balanced

/-- The bytes of a text start with items in the same three ways as its characters. -/
theorem derives_items_bytes_cons_iff :
    Derives .items (Text.bytes (c :: rest)) ↔
      (∃ closer inside behind, closer? c = some closer ∧ rest = inside ++ closer :: behind ∧
        Derives .items (Text.bytes inside) ∧ Derives .items (Text.bytes behind)) ∨
      (∃ body behind, isQuote c = true ∧ rest = body ++ c :: behind ∧ LiteralBody c body ∧
        Derives .items (Text.bytes behind)) ∨
      (IsOther c ∧ Derives .items (Text.bytes rest)) := by
  by_cases isOther : IsOther c
  · rw [Text.bytes_cons, derives_items_append_iff (not_mem_markBytes isOther)]
    simp [isOther, isOther.opensNot, isOther.quotesNot]
  · have listed : c ∈ marks := Decidable.not_not.1 (mt isOther_iff.2 isOther)
    have single := utf8Size_of_mem_marks listed
    have marked : c.toUInt8 ∈ marks.map Char.toUInt8 := List.mem_map_of_mem listed
    rw [Text.bytes_cons, Text.utf8EncodeChar_of_single single, List.singleton_append,
      derives_items_cons_iff]
    simp only [isOther, marked, not_true_eq_false, false_and, or_false,
      toUInt8_mem_quoteBytes_iff single, bytePair_iff single]
    refine or_congr ?_ ?_
    · constructor
      · rintro ⟨_, inside, behind, ⟨closer, opens, rfl⟩, split, nested, items⟩
        have narrow := (utf8Size_of_closer? opens).2
        obtain ⟨left, right, rfl, rfl, rfl⟩ := Text.exists_append_of_bytes_eq narrow split
        exact ⟨closer, left, right, opens, rfl, nested, items⟩
      · rintro ⟨closer, inside, behind, opens, rfl, nested, items⟩
        have narrow := (utf8Size_of_closer? opens).2
        exact ⟨_, _, _, ⟨closer, opens, rfl⟩, by simp [Text.utf8EncodeChar_of_single narrow],
          nested, items⟩
    · constructor
      · rintro ⟨body, behind, isQuote, split, complete, items⟩
        obtain ⟨left, right, rfl, rfl, rfl⟩ := Text.exists_append_of_bytes_eq single split
        exact ⟨left, right, isQuote, rfl, (literalBytes_bytes_iff single).1 complete, items⟩
      · rintro ⟨body, behind, isQuote, rfl, complete, items⟩
        exact ⟨_, _, isQuote, by simp [Text.utf8EncodeChar_of_single single],
          (literalBytes_bytes_iff single).2 complete, items⟩

/-- The bytes of a text are items if the text is balanced. -/
theorem derives_items_bytes_iff {text : Text} :
    Derives .items text.bytes ↔ Balanced (fun _ => True) text := by
  induction size : text.length using Nat.strongRecOn generalizing text with
  | ind length ih =>
    cases text with
    | nil => exact ⟨fun _ => .nil, fun _ => .none⟩
    | cons c rest =>
      have within {front part back : Text} (split : rest = front ++ (part ++ back)) :
          Derives .items part.bytes ↔ Balanced (fun _ => True) part := by
        refine ih part.length ?_ rfl
        rw [← size, split]
        simp only [List.length_cons, List.length_append]
        omega
      rw [derives_items_bytes_cons_iff, balanced_cons_iff]
      refine or_congr ?_ (or_congr ?_ (and_congr_right fun _ => @within [] rest [] (by simp)))
      · refine exists_congr fun closer => exists_congr fun inside => exists_congr fun behind =>
          and_congr_right fun _ => and_congr_right fun split => ?_
        exact and_congr (@within [] inside (closer :: behind) split)
          (@within (inside ++ [closer]) behind [] (by simp [split]))
      · refine exists_congr fun body => exists_congr fun behind => and_congr_right fun _ =>
          and_congr_right fun split => and_congr_right fun _ => ?_
        exact @within (body ++ [c]) behind [] (by simp [split])

end ItemText

/-- The byte at which a bracket is closed is the end of a group. -/
theorem matchingClose?_eq_some_iff_groupAt {text : Text} {opening closing : Nat} :
    matchingClose? text opening = some closing ↔ GroupAt text opening closing := by
  constructor
  · intro found
    obtain ⟨left, inside, rest, opener, closer, opens, split, rfl, rfl⟩ :=
      exists_spans_of_matchingClose? found
    have balanced := (matchingClose?_eq_some_iff opens split).1 found
    obtain ⟨narrow, closes⟩ := utf8Size_of_closer? opens
    refine ⟨left.bytes, _, rest.bytes, ?_, Text.length_bytes left, ?_,
      .group ((bytePair_iff narrow).2 ⟨closer, opens, rfl⟩) (derives_items_bytes_iff.2 balanced)⟩
    · simp [split, Text.utf8EncodeChar_of_single narrow, Text.utf8EncodeChar_of_single closes]
    · simp only [List.length_cons, List.length_append, List.length_nil, Text.length_bytes]
      omega
  · rintro ⟨before, group, after, split, rfl, size, derived⟩
    cases derived with
    | group pair items =>
      obtain ⟨opener, closer, rfl, rfl, opens⟩ := exists_closer?_of_bytePair pair
      obtain ⟨narrow, closes⟩ := utf8Size_of_closer? opens
      obtain ⟨left, tail, rfl, rfl, follows⟩ :=
        Text.exists_append_of_bytes_eq narrow (by simpa using split)
      obtain ⟨inside, rest, rfl, rfl, rfl⟩ := Text.exists_append_of_bytes_eq closes follows
      have balanced := derives_items_bytes_iff.1 items
      rw [Text.length_bytes, matchingClose?_append_iff opens]
      refine ⟨inside, rest, rfl, balanced, ?_⟩
      simp only [List.length_cons, List.length_append, List.length_nil, Text.length_bytes] at size
      omega

/-- **A bracket is closed at the end of its group, or not at all.** For every text and index the
bracket that closes the one at the index stands where a group of the grammar ends that starts there.
A group ends in one place at most, and where none starts no bracket is found. -/
theorem closing_bracket_ends_group (text : Text) (opening : Nat) :
    (∀ closing, matchingClose? text opening = some closing ↔ GroupAt text opening closing) ∧
    (∀ closing other, GroupAt text opening closing → GroupAt text opening other →
      closing = other) ∧
    (matchingClose? text opening = none ↔ ∀ closing, ¬ GroupAt text opening closing) := by
  refine ⟨fun closing => matchingClose?_eq_some_iff_groupAt, ?_, ?_⟩
  · intro closing other ends otherEnds
    rw [← matchingClose?_eq_some_iff_groupAt] at ends otherEnds
    exact Option.some.inj (ends.symm.trans otherEnds)
  · simp only [Option.eq_none_iff_forall_ne_some, Ne, matchingClose?_eq_some_iff_groupAt]

/-- A literal with an escaped character of two bytes and a bracket, and an empty group behind it.
Read from the bracket in the literal, the quote behind it starts a literal that does not end. -/
theorem closing_bracket_ends_group_behind_literal :
    let text : Text := ['(', '"', '\\', 'é', '(', '"', '[', ']', ')']
    GroupAt text 0 9 ∧ (∀ closing, GroupAt text 0 closing → 9 = closing) ∧ GroupAt text 7 8 ∧
      ∀ closing, ¬ GroupAt text 5 closing := by
  intro text
  obtain ⟨ends, unique, _⟩ := closing_bracket_ends_group text 0
  have whole : GroupAt text 0 9 := (ends 9).1 (by decide +kernel)
  refine ⟨whole, fun closing => unique 9 closing whole, ?_, ?_⟩
  · exact ((closing_bracket_ends_group text 7).1 8).1 (by decide +kernel)
  · exact (closing_bracket_ends_group text 5).2.2.1 (by decide +kernel)

end Bracket

end TemplateNav
