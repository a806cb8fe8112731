import TemplateNav.Proofs.Template.Surroundings

/-!
# No tag is lost

Each pass reads its tags from the left without overlap, so an opener within the
body of an earlier tag of its kind is not read as one.  Its code is not lost: the
earlier tag was still open there, and the delimiter that would have closed the
inner tag closes the outer one.  The fragment of the outer tag ends where the code
of the inner one ends, and begins before it.
-/

namespace TemplateNav

open Position (origin)

namespace Text

/-- Where something is recognized it is found, unless the place is covered by what was found
before. -/
theorem mem_scanFrom_or_covered {α : Type} {recognize : Text → Text → Option (α × Nat)}
    {left right : Text} {item : α} {width : Nat} (before : Text) {skip : Nat}
    (nonempty : right ≠ []) (reached : skip ≤ left.length)
    (recognized : recognize (left.reverse ++ before) right = some (item, width)) :
    item ∈ scanFrom recognize before skip (left ++ right) ∨
      ∃ outer inner earlier span, left = outer ++ inner ∧ inner ≠ [] ∧ inner.length < span ∧
        recognize (outer.reverse ++ before) (inner ++ right) = some (earlier, span) ∧
        earlier ∈ scanFrom recognize before skip (left ++ right) := by
  induction left generalizing before skip with
  | nil =>
    obtain ⟨c, rest, rfl⟩ := List.exists_cons_of_ne_nil nonempty
    obtain rfl : skip = 0 := Nat.le_zero.1 reached
    rw [List.reverse_nil, List.nil_append] at recognized
    rw [List.nil_append, scanFrom, recognized]
    exact .inl List.mem_cons_self
  | cons c left ih =>
    have later {skip : Nat} (bound : skip ≤ left.length) := ih (c :: before) bound
      (by simpa using recognized)
    -- What the scan finds behind the first character, the whole scan finds as well.
    have extend {skip : Nat} {found : List α}
        (sublist : scanFrom recognize (c :: before) skip (left ++ right) ⊆ found)
        (bound : skip ≤ left.length) :
        item ∈ found ∨ ∃ outer inner earlier span, c :: left = outer ++ inner ∧ inner ≠ [] ∧
          inner.length < span ∧
          recognize (outer.reverse ++ before) (inner ++ right) = some (earlier, span) ∧
          earlier ∈ found := by
      rcases later bound with here | ⟨outer, inner, earlier, span, rfl, rest⟩
      · exact .inl (sublist here)
      · obtain ⟨filled, covers, read, listed⟩ := rest
        exact .inr ⟨c :: outer, inner, earlier, span, rfl, filled, covers, by simpa using read,
          sublist listed⟩
    cases skip with
    | succ skip => exact extend (List.Subset.refl _) (Nat.le_of_succ_le_succ reached)
    | zero =>
      rw [List.cons_append, scanFrom]
      cases read : recognize before (c :: (left ++ right)) with
      | none => exact extend (List.Subset.refl _) (Nat.zero_le _)
      | some answer =>
        obtain ⟨earlier, span⟩ := answer
        by_cases passed : span - 1 ≤ left.length
        · exact extend (List.subset_cons_self _ _) passed
        · refine .inr ⟨[], c :: left, earlier, span, rfl, by simp, ?_, by simpa using read,
            List.mem_cons_self⟩
          rw [List.length_cons]
          omega

theorem isToken_trim_of_ne_nil {text : Text} (filled : trim text ≠ []) : (trim text).IsToken := by
  constructor
  · obtain ⟨c, rest, split⟩ := List.exists_cons_of_ne_nil filled
    exact ⟨c, rest, split, isBlank_of_head?_trim (by rw [split]; rfl)⟩
  · exact ⟨_, _, (List.dropLast_concat_getLast filled).symm,
      isBlank_of_getLast?_trim (List.getLast?_eq_some_getLast filled)⟩

/-- A text that is not blank leaves something when it is trimmed, which is a token. -/
theorem isToken_trim {text : Text} (solid : isBlankText text = false) : (trim text).IsToken := by
  apply isToken_trim_of_ne_nil
  intro empty
  obtain ⟨leading, trailing, split, leads, trails, _⟩ := exists_append_trim text
  rw [empty, List.append_nil] at split
  rw [isBlankText, split, List.all_append, List.all_eq_true.2 leads, List.all_eq_true.2 trails]
    at solid
  cases solid

/-- What stands in front of a token is trimmed by itself. -/
theorem trimStart_append_token {token : Text} (isToken : token.IsToken) (front tail : Text) :
    trimStart (front ++ (token ++ tail)) = trimStart front ++ (token ++ tail) := by
  have kept := trimStart_of_solid (isToken.starts.append tail)
  unfold trimStart at kept ⊢
  rw [List.dropWhile_append]
  split
  · next blank => rw [List.isEmpty_iff.1 blank, kept, List.nil_append]
  · rfl

/-- Text in front of a text that is not blank is trimmed at its own start only. -/
theorem exists_trim_append {text : Text} (solid : isBlankText text = false) (front : Text) :
    ∃ more, trim (front ++ text) = more ++ trim text ∧
      utf8Length (front ++ text) - utf8Length (trimStart (front ++ text)) + utf8Length more =
        utf8Length front + (utf8Length text - utf8Length (trimStart text)) := by
  have isToken := isToken_trim solid
  obtain ⟨leading, trailing, split, leads, trails, size⟩ := exists_append_trim text
  have whole : front ++ text = front ++ leading ++ (trim text ++ trailing) := by
    rw [← List.append_assoc, List.append_assoc front leading, List.append_assoc front, ← split]
  have trimmed : trimStart (front ++ text) =
      trimStart (front ++ leading) ++ (trim text ++ trailing) := by
    rw [whole, trimStart_append_token isToken]
  refine ⟨trimStart (front ++ leading), ?_, ?_⟩
  · rw [trim, trimmed, ← List.append_assoc, trimEnd_append (isToken.ends.append _),
      trimEnd_of_blank trails, List.append_nil]
  · have dropped : utf8Length (trimStart (front ++ leading)) ≤ utf8Length (front ++ leading) := by
      obtain ⟨blank, rest⟩ := trimStart_isSuffix (front ++ leading)
      have sizes := congrArg utf8Length rest
      rw [utf8Length_append] at sizes
      omega
    rw [trimmed, whole, ← size]
    simp only [utf8Length_append] at dropped ⊢
    omega

end Text

namespace Tag

/-- The delimiter behind a body that does not contain it is the first one. -/
theorem untilClose?_of_absent {body : Text} (absent : ¬ ['%', '>'] <:+: body) (rest : Text) :
    untilClose? (body ++ '%' :: '>' :: rest) = some (body, rest) := by
  induction body with
  | nil => rfl
  | cons c body ih =>
    have later : ¬ ['%', '>'] <:+: body :=
      fun present => absent (present.trans (List.suffix_cons c body).isInfix)
    rw [List.cons_append, untilClose?_cons, ih later, Option.map_some]
    rintro rfl head
    cases body with
    | nil => cases head
    | cons d body =>
      obtain rfl : d = '>' := Option.some.inj head
      exact absent ⟨[], body, rfl⟩

theorem absent_of_untilClose? {text body after : Text}
    (found : untilClose? text = some (body, after)) : ¬ ['%', '>'] <:+: body := by
  fun_induction untilClose? text generalizing body with
  | case1 => cases found
  | case2 rest =>
    obtain ⟨rfl, _⟩ : [] = body ∧ rest = after := by simpa using found
    simp
  | case3 c rest unclosed ih =>
    obtain ⟨⟨inner, behind⟩, read, same⟩ := Option.map_eq_some_iff.1 found
    obtain ⟨rfl, rfl⟩ : c :: inner = body ∧ behind = after := by simpa using same
    rw [List.infix_cons_iff]
    rintro (first | later)
    · obtain ⟨tail, split⟩ := first
      obtain ⟨rfl, rfl⟩ : '%' = c ∧ '>' :: tail = inner := by simpa using split
      exact unclosed (tail ++ '%' :: '>' :: behind) rfl (eq_append_of_untilClose? read)
    · exact ih read later

/-- A tag is closed by the first delimiter that starts at its fourth character or behind it. -/
theorem absent_drop_of_body? {tag : Tag} {text body : Text} (found : tag.body? text = some body) :
    ¬ ['%', '>'] <:+: (tag.opener ++ body).drop 3 := by
  cases tag with
  | scriptlet =>
    rcases cases_of_body?_scriptlet found with
      ⟨c, rest, inner, after, _, rfl, _, _, read⟩ | ⟨rfl, _⟩
    · exact absent_of_untilClose? read
    · simp [opener]
  | output =>
    obtain ⟨⟨inner, after⟩, read, rfl⟩ := Option.map_eq_some_iff.1 found
    exact absent_of_untilClose? read
  | unescapedOutput =>
    obtain ⟨⟨inner, after⟩, read, rfl⟩ := Option.map_eq_some_iff.1 found
    exact absent_of_untilClose? read

/-- A body holds no delimiter behind its first character. -/
theorem absent_of_body? {tag : Tag} {text body : Text} (found : tag.body? text = some body) :
    ¬ ['%', '>'] <:+: body.tail := by
  intro present
  have behind : body.tail <:+ (tag.opener ++ body).drop 3 := by
    cases tag with
    | scriptlet =>
      cases body with
      | nil => exact List.suffix_refl _
      | cons c body => exact List.suffix_refl _
    | output => exact List.tail_suffix body
    | unescapedOutput => exact List.tail_suffix body
  exact absent_drop_of_body? found (present.trans behind.isInfix)

/-- Two openers of one kind do not overlap. -/
theorem exists_append_of_opener_append {tag : Tag} {inner first second : Text}
    (nonempty : inner ≠ []) (same : inner ++ (tag.opener ++ first) = tag.opener ++ second) :
    ∃ skipped, inner = tag.opener ++ skipped ∧ skipped ++ (tag.opener ++ first) = second := by
  rcases List.append_eq_append_iff.1 same with
    ⟨overlap, opener, follows⟩ | ⟨skipped, inner_eq, follows⟩
  · -- The second opener would start within the first one.
    cases overlap with
    | nil => exact ⟨[], by simpa using opener.symm, by simpa using follows⟩
    | cons c overlap =>
      have starts : c = '<' := by
        obtain ⟨more, shape⟩ := exists_opener tag
        rw [shape] at follows
        exact (List.cons.inj follows).1.symm
      obtain ⟨d, inner, rfl⟩ := List.exists_cons_of_ne_nil nonempty
      have inside : '<' ∈ tag.opener.tail := by
        rw [opener, List.cons_append, List.tail_cons, starts]
        exact List.mem_append_right _ List.mem_cons_self
      cases tag <;> exact absurd inside (by decide)
  · exact ⟨skipped, inner_eq, follows.symm⟩

/-- An opener that starts before the end of a closing delimiter ends before it starts. -/
theorem exists_append_of_closer_append {tag : Tag} {skipped outer behind after : Text}
    (covers : skipped.length < outer.length + 2)
    (bare : tag = .scriptlet → behind.head? ≠ some '>')
    (same : skipped ++ (tag.opener ++ behind) = outer ++ '%' :: '>' :: after) :
    ∃ inside, outer = skipped ++ (tag.opener ++ inside) ∧
      behind = inside ++ '%' :: '>' :: after := by
  obtain ⟨more, shape⟩ := exists_opener tag
  rcases List.append_eq_append_iff.1 same with ⟨rest, rfl, follows⟩ | ⟨rest, rfl, follows⟩
  · rcases List.append_eq_append_iff.1 follows with ⟨inside, rfl, found⟩ | ⟨crossing, opener, found⟩
    · exact ⟨inside, rfl, found⟩
    · -- The delimiter would start with the second character of the opener or the third.
      cases crossing with
      | nil => exact ⟨[], by simpa using opener.symm, by simpa using found.symm⟩
      | cons c crossing =>
        obtain ⟨rfl, closes⟩ := List.cons.inj found
        cases tag with
        | scriptlet =>
          obtain ⟨_, rfl⟩ : rest = ['<'] ∧ crossing = [] := by
            simpa [Tag.opener, List.cons_eq_append_iff] using opener
          exact absurd (congrArg List.head? closes).symm (bare rfl)
        | output =>
          obtain ⟨_, rfl⟩ : rest = ['<'] ∧ crossing = ['='] := by
            simpa [Tag.opener, List.cons_eq_append_iff] using opener
          cases closes
        | unescapedOutput =>
          obtain ⟨_, rfl⟩ : rest = ['<'] ∧ crossing = ['-'] := by
            simpa [Tag.opener, List.cons_eq_append_iff] using opener
          cases closes
  · -- The opener would start within the delimiter.
    rw [shape] at follows
    rw [List.length_append] at covers
    obtain _ | ⟨c, _ | ⟨d, rest⟩⟩ := rest
    · cases follows
    · cases follows
    · simp only [List.length_cons] at covers
      omega

/-- An opener of a kind stands in a document behind `lead`, and `body` is the text from there to the
first closing delimiter.  A bare opener is one that no `=`, `-` or `>` follows. -/
structure Encloses (tag : Tag) (text lead body rest : Text) : Prop where
  split : text = lead ++ (tag.opener ++ (body ++ '%' :: '>' :: rest))
  nearest : ¬ ['%', '>'] <:+: body
  bare : tag = .scriptlet → ∀ c ∈ body.head?, c ≠ '=' ∧ c ≠ '-' ∧ c ≠ '>'

namespace Encloses

variable {tag : Tag} {text lead body rest : Text}

theorem body?_eq (encloses : tag.Encloses text lead body rest) (filled : body ≠ []) :
    tag.body? (body ++ '%' :: '>' :: rest) = some body := by
  have closed := untilClose?_of_absent encloses.nearest rest
  cases tag with
  | output => simp only [body?, closed, Option.map_some]
  | unescapedOutput => simp only [body?, closed, Option.map_some]
  | scriptlet =>
    obtain ⟨c, body, rfl⟩ := List.exists_cons_of_ne_nil filled
    obtain ⟨noOutput, noUnescaped, _⟩ := encloses.bare rfl c rfl
    have later : ¬ ['%', '>'] <:+: body :=
      fun present => encloses.nearest (present.trans (List.suffix_cons c body).isInfix)
    simp [body?, noOutput, noUnescaped, untilClose?_of_absent later]

/-- An opener that an earlier tag of its kind covers stands in the body of that tag, which ends with
its own body. -/
theorem exists_eq_append (encloses : tag.Encloses text lead body rest) (filled : body ≠ [])
    {inner outer after : Text} (nonempty : inner ≠ [])
    (covers : inner.length < tag.opener.length + outer.length + 2)
    (absent : ¬ ['%', '>'] <:+: outer.tail)
    (same : inner ++ (tag.opener ++ (body ++ '%' :: '>' :: rest)) =
      tag.opener ++ (outer ++ '%' :: '>' :: after)) :
    ∃ skipped, inner = tag.opener ++ skipped ∧ outer = skipped ++ (tag.opener ++ body) := by
  obtain ⟨skipped, rfl, within⟩ := exists_append_of_opener_append nonempty same
  have unclosed : tag = .scriptlet → (body ++ '%' :: '>' :: rest).head? ≠ some '>' := by
    intro isBare first
    obtain ⟨c, body, rfl⟩ := List.exists_cons_of_ne_nil filled
    exact (encloses.bare isBare c rfl).2.2 (Option.some.inj first)
  obtain ⟨inside, rfl, behind⟩ := exists_append_of_closer_append
    (by rw [List.length_append] at covers; omega) unclosed within
  -- Both bodies end at the first delimiter behind the inner opener.
  have nearest : ¬ ['%', '>'] <:+: inside := by
    intro present
    obtain ⟨more, shape⟩ := exists_opener tag
    refine absent (present.trans ?_)
    rw [shape]
    cases skipped with
    | nil => exact ⟨'%' :: more, [], by simp⟩
    | cons c skipped => exact ⟨skipped ++ '<' :: '%' :: more, [], by simp⟩
  have once := untilClose?_of_absent encloses.nearest rest
  rw [behind, untilClose?_of_absent nearest] at once
  obtain ⟨rfl, _⟩ : inside = body ∧ after = rest := by simpa using once
  exact ⟨skipped, rfl, rfl⟩

/-- The body of an enclosed text ends the body of a tag that is found, whose own opener may stand
further in front. -/
theorem exists_mem_bodies (encloses : tag.Encloses text lead body rest) (filled : body ≠ []) :
    ∃ found ∈ tag.bodies text, ∃ skipped, found.text = skipped ++ body ∧
      found.offset + Text.utf8Length skipped = Text.utf8Length (lead ++ tag.opener) := by
  have recognized := recognize_opener_append (encloses.body?_eq filled)
  have nonempty : tag.opener ++ (body ++ '%' :: '>' :: rest) ≠ [] := by simp
  have scanned := Text.mem_scanFrom_or_covered [] nonempty (Nat.zero_le lead.length) (recognized _)
  rw [← encloses.split] at scanned
  rcases scanned with here | ⟨outer, inner, earlier, span, rfl, started, covers, read, listed⟩
  · exact ⟨_, here, [], rfl, by simp⟩
  · obtain ⟨after, same, closed, offset, rfl⟩ := exists_append_of_recognize read
    obtain ⟨skipped, rfl, text_eq⟩ :=
      encloses.exists_eq_append filled started covers (absent_of_body? closed) same
    refine ⟨earlier, listed, skipped ++ tag.opener, by rw [text_eq, List.append_assoc], ?_⟩
    rw [offset]
    simp only [Text.utf8Length_append, Text.utf8Length_reverse, List.append_nil]
    omega

end Encloses

end Tag

namespace Fragment

/-- `fragment` holds the bytes of a document from `start` to `stop`, which end it, and every cursor
from the position of the one to that of the other touches it. -/
structure EndsWith (text : Text) (fragment : Fragment) (start stop : Nat) : Prop where
  start_le : fragment.offset ≤ start
  stop_eq : fragment.offset + Text.utf8Length fragment.content = stop
  touched : ∀ cursor, Lines.positionOf text start ≤ cursor → cursor ≤ Lines.positionOf text stop →
    fragment.contains cursor = true

theorem LocatedIn.endsWith {text before after more code : Text} {fragment : Fragment}
    (located : fragment.LocatedIn text before after) (content : fragment.content = more ++ code)
    {start : Nat} (offset : fragment.offset + Text.utf8Length more = start) :
    fragment.EndsWith text start (start + Text.utf8Length code) where
  start_le := by omega
  stop_eq := by
    rw [content, Text.utf8Length_append]
    omega
  touched := by
    intro cursor behind ahead
    have stop : fragment.stop = Lines.positionOf text (start + Text.utf8Length code) := by
      rw [located.stop_eq, content, Text.utf8Length_append, ← Nat.add_assoc, offset]
    have first : fragment.start ≤ Lines.positionOf text start := by
      have split : text = before ++ more ++ (code ++ after) := by
        rw [located.split, content]
        simp
      rw [located.start_eq, ← offset, located.offset_eq, ← Text.utf8Length_append, split,
        Lines.positionOf_append, List.append_assoc, Lines.positionOf_append, Position.after_append]
      exact Position.le_after _ _
    exact contains_iff_le.2 ⟨Position.le_trans first behind, stop ▸ ahead⟩

/-- No tag is lost: the code between an opener and the first closing delimiter behind it ends a
fragment of that kind, and each cursor that touches the code touches a fragment. -/
theorem enclosed_code_covered {tag : Tag} {text lead body rest : Text}
    (encloses : tag.Encloses text lead body rest) (solid : Text.isBlankText body = false) :
    let start := Text.utf8Length (lead ++ tag.opener) +
      (Text.utf8Length body - Text.utf8Length (Text.trimStart body))
    let stop := start + Text.utf8Length (Text.trim body)
    (∃ fragment ∈ extract text, fragment.tag = tag ∧ Text.trim body <:+ fragment.content ∧
      fragment.EndsWith text start stop) ∧
    ∀ cursor, Lines.positionOf text start ≤ cursor → cursor ≤ Lines.positionOf text stop →
      ∃ fragment, at? (extract text) cursor = some fragment ∧ fragment.contains cursor = true := by
  intro start stop
  have filled : body ≠ [] := by
    rintro rfl
    cases solid
  obtain ⟨found, listed, skipped, text_eq, offset⟩ := encloses.exists_mem_bodies filled
  obtain ⟨more, trimmed, sizes⟩ := Text.exists_trim_append solid skipped
  have code : Text.trim found.text ≠ [] := by
    obtain ⟨c, rest, token, _⟩ := (Text.isToken_trim solid).starts
    rw [text_eq, trimmed, token]
    simp
  obtain ⟨fragment, made, ⟨before, after, located⟩, content, kind, place⟩ :=
    exists_fragment_of_mem_bodies listed code
  have extracted : fragment ∈ extract text := by
    simp only [extract, List.mem_mergeSort, List.mem_flatMap, List.mem_filterMap]
    exact ⟨tag, by cases tag <;> decide, found, listed, made⟩
  have whole : fragment.content = more ++ Text.trim body := by rw [content, text_eq, trimmed]
  have ends : fragment.EndsWith text start stop := by
    apply located.endsWith whole
    rw [place, text_eq]
    omega
  refine ⟨⟨fragment, extracted, kind, ⟨more, whole.symm⟩, ends⟩, ?_⟩
  intro cursor behind ahead
  have present : (at? (extract text) cursor).isSome = true :=
    List.find?_isSome.2 ⟨fragment, extracted, ends.touched cursor behind ahead⟩
  obtain ⟨touched, pointed⟩ := Option.isSome_iff_exists.1 present
  exact ⟨touched, pointed, by simpa using List.find?_some pointed⟩

/-- A bare opener within the body of another bare tag, behind a character of four bytes. -/
theorem enclosed_code_covered_within_tag :
    let text : Text := ['<', '%', ' ', '😀', '<', '%', ' ', 'a', ' ', '%', '>']
    let body : Text := [' ', 'a', ' ']
    extract text = [⟨['😀', '<', '%', ' ', 'a'], ⟨0, 3⟩, ⟨0, 9⟩, .scriptlet, 3⟩] ∧
      Tag.scriptlet.Encloses text ['<', '%', ' ', '😀'] body [] ∧
      Text.isBlankText body = false ∧
      ∃ fragment ∈ extract text, fragment.tag = .scriptlet ∧ ['a'] <:+ fragment.content ∧
        fragment.EndsWith text 10 11 := by
  intro text body
  have encloses : Tag.scriptlet.Encloses text ['<', '%', ' ', '😀'] body [] :=
    ⟨rfl, by decide, by simp [body]⟩
  have solid : Text.isBlankText body = false := by decide
  exact ⟨by decide +kernel, encloses, solid, (enclosed_code_covered encloses solid).1⟩

end Fragment

end TemplateNav
