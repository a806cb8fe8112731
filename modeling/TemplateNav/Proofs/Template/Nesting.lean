import Mathlib.Data.List.Pairwise
import TemplateNav.Proofs.Template.Containment
import TemplateNav.Proofs.Template.Delimiter

/-!
# Fragments are ordered and nested

Whatever its kind, a tag is closed by the first delimiter from its fourth character
on.  Of two tags the one that opens later is therefore closed by the delimiter that
closes the earlier one, or its code stands behind that delimiter.  One pass finds no
tag within another, and two passes find no tag at one place, so fragments that share
bytes are of different kinds and end together, and no two fragments start at one
place.
-/

namespace TemplateNav

namespace Text

variable {α : Type} {recognize : Text → Text → Option (α × Nat)}

/-- `first` is recognized at a place of `text`, and `second` behind what `first` covers. -/
def InTurn (recognize : Text → Text → Option (α × Nat)) (before text : Text) (first second : α) :
    Prop :=
  ∃ outer inner right width later, text = outer ++ (inner ++ right) ∧ width ≤ inner.length ∧
    recognize (outer.reverse ++ before) (inner ++ right) = some (first, width) ∧
    recognize ((outer ++ inner).reverse ++ before) right = some (second, later)

theorem InTurn.cons {before text : Text} {c : Char} {first second : α}
    (inTurn : InTurn recognize (c :: before) text first second) :
    InTurn recognize before (c :: text) first second := by
  obtain ⟨outer, inner, right, width, later, split, covers, found, behind⟩ := inTurn
  exact ⟨c :: outer, inner, right, width, later, by rw [split, List.cons_append], covers,
    by simpa using found, by simpa using behind⟩

/-- A scan finds its items one behind the other. -/
theorem pairwise_scanFrom (before : Text) (skip : Nat) (text : Text) :
    (scanFrom recognize before skip text).Pairwise (InTurn recognize before text) := by
  induction text generalizing before skip with
  | nil => exact List.Pairwise.nil
  | cons c rest ih =>
    have further (skip : Nat) : (scanFrom recognize (c :: before) skip rest).Pairwise
        (InTurn recognize before (c :: rest)) :=
      (ih (c :: before) skip).imp InTurn.cons
    cases skip with
    | succ skip => exact further skip
    | zero =>
      rw [scanFrom]
      split
      · next found width recognized =>
        refine List.pairwise_cons.2 ⟨?_, further _⟩
        intro second member
        obtain ⟨passed, right, later, rfl, reached, behind⟩ :=
          exists_recognized_of_mem_scanFrom member
        refine ⟨[], c :: passed, right, width, later, rfl, ?_, recognized, by simpa using behind⟩
        rw [List.length_cons]
        omega
      · exact further 0

/-- Texts that end with no white space are the same if they are the same but for white space behind
them. -/
theorem eq_of_append_blank {one other gap space : Text} (oneEnds : one.EndsSolid)
    (otherEnds : other.EndsSolid) (gapBlank : ∀ c ∈ gap, isBlank c = true)
    (spaceBlank : ∀ c ∈ space, isBlank c = true) (same : one ++ gap = other ++ space) :
    one = other := by
  have trimmed := congrArg trimEnd same
  rwa [trimEnd_append oneEnds, trimEnd_append otherEnds, trimEnd_of_blank gapBlank,
    trimEnd_of_blank spaceBlank, List.append_nil, List.append_nil] at trimmed

end Text

namespace Tag

/-- The tags of one kind stand one behind the other. -/
theorem pairwise_bodies (tag : Tag) (text : Text) :
    (tag.bodies text).Pairwise fun first second =>
      first.offset + Text.utf8Length first.text ≤ second.offset := by
  refine (Text.pairwise_scanFrom [] 0 text).imp ?_
  intro first second ⟨outer, inner, right, width, later, _, covers, found, behind⟩
  obtain ⟨after, split, _, firstOffset, rfl⟩ := exists_append_of_recognize found
  obtain ⟨_, _, _, secondOffset, _⟩ := exists_append_of_recognize behind
  have within : tag.opener ++ first.text <+: inner := by
    have whole : tag.opener ++ first.text <+: inner ++ right :=
      ⟨'%' :: '>' :: after, by rw [split, List.append_assoc]⟩
    apply List.prefix_of_prefix_length_le whole (List.prefix_append inner right)
    rw [List.length_append]
    omega
  have size := Text.utf8Length_le_of_isPrefix within
  simp only [List.append_nil, Text.utf8Length_reverse, Text.utf8Length_append] at *
  omega

theorem two_le_length_opener (tag : Tag) : 2 ≤ tag.opener.length := by
  obtain ⟨more, shape⟩ := exists_opener tag
  simp [shape]

theorem three_le_length_append (tag : Tag) {body : Text} (filled : body ≠ []) :
    3 ≤ (tag.opener ++ body).length := by
  have opening := tag.two_le_length_opener
  have positive := List.length_pos_of_ne_nil filled
  rw [List.length_append]
  omega

/-- An opener further on starts behind an earlier one and the white space that follows it. -/
theorem opener_append_isPrefix {first second : Tag} {leading content skipped behind : Text}
    (blank : ∀ c ∈ leading, Text.isBlank c = true) (nonempty : skipped ≠ [])
    (same : first.opener ++ leading ++ content = skipped ++ (second.opener ++ behind)) :
    first.opener ++ leading <+: skipped := by
  rcases List.append_eq_append_iff.1 same with ⟨more, rfl, _⟩ | ⟨within, front, follows⟩
  · exact List.prefix_append _ more
  · cases within with
    | nil =>
      exact ⟨[], by rw [List.append_nil, front, List.append_nil]⟩
    | cons c within =>
      -- The later opener would start within the earlier one or the white space.
      obtain ⟨more, shape⟩ := exists_opener first
      obtain ⟨others, laterShape⟩ := exists_opener second
      rw [laterShape] at follows
      obtain ⟨starts, _⟩ := List.cons.inj follows
      obtain ⟨d, skipped, rfl⟩ := List.exists_cons_of_ne_nil nonempty
      have inside : '<' ∈ first.opener.tail ++ leading := by
        have tail : '%' :: more ++ leading = skipped ++ c :: within := by
          rw [shape] at front
          exact (List.cons.inj front).2
        rw [shape, List.tail_cons, tail, starts]
        exact List.mem_append_right skipped List.mem_cons_self
      rcases List.mem_append.1 inside with opening | gap
      · cases first <;> simp [opener] at opening
      · exact absurd (blank _ gap) (by decide)

namespace ReadIn

variable {first second : Tag} {text lead body rest laterLead laterBody laterRest : Text}

theorem ne_of_scriptlet (read : scriptlet.ReadIn text lead body rest) {c : Char} {more : Text}
    (split : text = lead ++ '<' :: '%' :: c :: more) : c ≠ '=' ∧ c ≠ '-' := by
  have same : body ++ '%' :: '>' :: rest = c :: more := by
    have twice := read.split.symm.trans split
    simpa [opener] using twice
  cases body with
  | nil =>
    obtain ⟨rfl, _⟩ := List.cons.inj same
    decide
  | cons d body =>
    obtain ⟨rfl, _⟩ := List.cons.inj same
    exact read.bare rfl d rfl

/-- Two tags at one place are of one kind. -/
theorem tag_eq (one : first.ReadIn text lead body rest)
    (other : second.ReadIn text lead laterBody laterRest) : first = second := by
  have twice := one.split.symm.trans other.split
  cases first with
  | scriptlet =>
    cases second with
    | scriptlet => rfl
    | output => exact absurd rfl (one.ne_of_scriptlet other.split).1
    | unescapedOutput => exact absurd rfl (one.ne_of_scriptlet other.split).2
  | output =>
    cases second with
    | scriptlet => exact absurd rfl (other.ne_of_scriptlet one.split).1
    | output => rfl
    | unescapedOutput => simp [opener] at twice
  | unescapedOutput =>
    cases second with
    | scriptlet => exact absurd rfl (other.ne_of_scriptlet one.split).2
    | output => simp [opener] at twice
    | unescapedOutput => rfl

theorem tag_eq_of_length_eq (one : first.ReadIn text lead body rest)
    (other : second.ReadIn text laterLead laterBody laterRest)
    (same : lead.length = laterLead.length) : first = second := by
  have leadCut : lead <+: text := ⟨_, one.split.symm⟩
  obtain rfl : lead = laterLead :=
    (List.prefix_of_prefix_length_le leadCut ⟨_, other.split.symm⟩
      (Nat.le_of_eq same)).eq_of_length same
  exact one.tag_eq other

/-- Two texts that end at the first delimiter from the fourth character on of one text are the
same. -/
theorem eq_of_absent_drop {one other after behind : Text} (long : 3 ≤ one.length)
    (longer : 3 ≤ other.length) (oneAbsent : ¬ ['%', '>'] <:+: one.drop 3)
    (otherAbsent : ¬ ['%', '>'] <:+: other.drop 3)
    (same : one ++ '%' :: '>' :: after = other ++ '%' :: '>' :: behind) : one = other := by
  have front := congrArg (List.take 3) same
  have back := congrArg (List.drop 3) same
  rw [List.take_append_of_le_length long, List.take_append_of_le_length longer] at front
  rw [List.drop_append_of_le_length long, List.drop_append_of_le_length longer] at back
  have once := untilClose?_of_absent oneAbsent after
  rw [back, untilClose?_of_absent otherAbsent] at once
  obtain ⟨rest_eq, _⟩ : other.drop 3 = one.drop 3 ∧ behind = after := by simpa using once
  rw [← List.take_append_drop 3 one, front, ← rest_eq, List.take_append_drop]

/-- No delimiter stands in a tag from its fourth character on. -/
theorem absent_of_isSuffix (read : first.ReadIn text lead body rest) {part : Text}
    (suffix : part <:+ first.opener ++ body)
    (deep : part.length + 3 ≤ (first.opener ++ body).length) : ¬ ['%', '>'] <:+: part := by
  intro present
  have deeper : part <:+ (first.opener ++ body).drop 3 := by
    apply List.suffix_of_suffix_length_le suffix (List.drop_suffix 3 _)
    rw [List.length_drop]
    omega
  exact read.nearest (present.trans deeper.isInfix)

/-- Of two tags the later one is closed by the delimiter that closes the earlier one, or its body
starts at that delimiter or behind it. -/
theorem within_or_behind (earlier : first.ReadIn text lead body rest)
    (later : second.ReadIn text laterLead laterBody laterRest)
    (order : lead.length < laterLead.length) (filled : laterBody ≠ []) :
    (∃ skipped, skipped ≠ [] ∧ laterLead = lead ++ skipped ∧
      first.opener ++ body = skipped ++ (second.opener ++ laterBody)) ∨
    lead ++ (first.opener ++ body) <+: laterLead ++ second.opener := by
  have leadCut : lead <+: text := ⟨_, earlier.split.symm⟩
  obtain ⟨skipped, rfl⟩ : lead <+: laterLead :=
    List.prefix_of_prefix_length_le leadCut ⟨_, later.split.symm⟩ (Nat.le_of_lt order)
  have nonempty : skipped ≠ [] := by
    rintro rfl
    simp at order
  have same : first.opener ++ body ++ '%' :: '>' :: rest =
      skipped ++ (second.opener ++ laterBody ++ '%' :: '>' :: laterRest) := by
    have twice := earlier.split.symm.trans later.split
    simpa using twice
  rcases List.append_eq_append_iff.1 same with ⟨more, rfl, _⟩ | ⟨within, written, behind⟩
  · exact .inr ⟨more ++ second.opener, by simp⟩
  · by_cases long : 3 ≤ within.length
    · refine .inl ⟨skipped, nonempty, rfl, ?_⟩
      rw [written]
      congr 1
      have nearest : ¬ ['%', '>'] <:+: within.drop 3 := by
        apply earlier.absent_of_isSuffix
        · rw [written]
          exact (List.drop_suffix 3 within).trans (List.suffix_append skipped within)
        · rw [written, List.length_append, List.length_drop]
          omega
      exact eq_of_absent_drop long (second.three_le_length_append filled) nearest later.nearest
        behind.symm
    · right
      have opening := second.two_le_length_opener
      have short : within <+: second.opener :=
        List.prefix_of_prefix_length_le ⟨_, behind.symm⟩
          ⟨laterBody ++ '%' :: '>' :: laterRest, by rw [List.append_assoc]⟩ (by omega)
      rw [written, ← List.append_assoc]
      exact (List.prefix_append_right_inj _).2 short

end ReadIn

end Tag

namespace Fragment

/-- `first` starts before `second`, and ends before `second` starts or, being of another kind, where
`second` ends. -/
structure Leads (first second : Fragment) : Prop where
  starts : first.offset < second.offset
  ends : first.offset + Text.utf8Length first.content ≤ second.offset ∨
    first.tag ≠ second.tag ∧ first.offset + Text.utf8Length first.content =
      second.offset + Text.utf8Length second.content

/-- An opener of a kind stands in the content of `fragment` behind `before`, and `code` behind that
opener and the white space that follows it. -/
structure Opens (fragment : Fragment) (tag : Tag) (before gap code : Text) : Prop where
  content_eq : fragment.content = before ++ (tag.opener ++ (gap ++ code))
  blank : ∀ c ∈ gap, Text.isBlank c = true
  solid : code.StartsSolid
  bare : tag = .scriptlet → ∀ c ∈ (gap ++ code).head?, c ≠ '=' ∧ c ≠ '-'

/-- The content of a fragment stands in the body of its tag between white space. -/
theorem CutFrom.exists_append {fragment : Fragment} {text lead body rest : Text}
    (cut : fragment.CutFrom text lead body rest) :
    ∃ leading trailing, body = leading ++ fragment.content ++ trailing ∧
      (∀ c ∈ leading, Text.isBlank c = true) ∧ (∀ c ∈ trailing, Text.isBlank c = true) ∧
      fragment.offset = Text.utf8Length (lead ++ (fragment.tag.opener ++ leading)) := by
  obtain ⟨leading, trailing, body_eq, leads, trails, size⟩ := Text.exists_append_trim body
  rw [← cut.content_eq] at body_eq
  refine ⟨leading, trailing, body_eq, leads, trails, ?_⟩
  rw [cut.offset_eq, ← size, ← Text.utf8Length_append, List.append_assoc]

namespace CutFrom

variable {first second : Fragment}
  {text lead body rest laterLead laterBody laterRest : Text}

theorem isToken (cut : first.CutFrom text lead body rest) : first.content.IsToken := by
  have filled := cut.nonempty
  rw [cut.content_eq] at filled ⊢
  exact Text.isToken_trim_of_ne_nil filled

theorem body_ne_nil (cut : first.CutFrom text lead body rest) : body ≠ [] := by
  intro empty
  apply cut.nonempty
  rw [cut.content_eq, empty]
  rfl

/-- Of two fragments the one whose tag opens later ends the content of the other, or stands behind
it. -/
theorem within_or_behind (earlier : first.CutFrom text lead body rest)
    (later : second.CutFrom text laterLead laterBody laterRest)
    (order : lead.length < laterLead.length) :
    (∃ before gap, first.Opens second.tag before gap second.content ∧
      second.offset =
        first.offset + Text.utf8Length (before ++ (second.tag.opener ++ gap))) ∨
    first.offset + Text.utf8Length first.content ≤ second.offset := by
  obtain ⟨leading, trailing, body_eq, leadBlank, trailBlank, offset⟩ := earlier.exists_append
  obtain ⟨gap, space, laterBody_eq, gapBlank, spaceBlank, laterOffset⟩ := later.exists_append
  rcases earlier.read.within_or_behind later.read order later.body_ne_nil with
    ⟨skipped, nonempty, rfl, written⟩ | behind
  · -- Both end with the last character before the delimiter that is no white space.
    have stop : first.tag.opener ++ leading ++ first.content =
        skipped ++ (second.tag.opener ++ gap ++ second.content) := by
      apply Text.eq_of_append_blank (earlier.isToken.ends.append _)
        ((later.isToken.ends.append _).append _) trailBlank spaceBlank
      simpa [body_eq, laterBody_eq] using written
    obtain ⟨before, rfl⟩ : first.tag.opener ++ leading <+: skipped := by
      apply Tag.opener_append_isPrefix leadBlank nonempty
      rw [stop, List.append_assoc second.tag.opener]
    refine .inl ⟨before, gap, ⟨by simpa using stop, gapBlank, later.isToken.starts, ?_⟩, ?_⟩
    · intro isBare c head
      apply later.read.bare isBare c
      rw [laterBody_eq, List.head?_append, Option.mem_def.1 head]
      rfl
    · simp only [Text.utf8Length_append] at offset laterOffset ⊢
      omega
  · have size := Text.utf8Length_le_of_isPrefix behind
    rw [body_eq] at size
    simp only [Text.utf8Length_append] at offset laterOffset size
    exact .inr (by omega)

/-- Of two fragments of different kinds the one whose tag opens first leads the other. -/
theorem leads (earlier : first.CutFrom text lead body rest)
    (later : second.CutFrom text laterLead laterBody laterRest) (different : first.tag ≠ second.tag)
    (order : lead.length < laterLead.length) : first.Leads second := by
  have positive := Text.utf8Length_pos earlier.nonempty
  rcases earlier.within_or_behind later order with ⟨before, gap, opens, offset⟩ | behind
  · have opening : 0 < Text.utf8Length second.tag.opener := by
      apply Text.utf8Length_pos
      obtain ⟨more, shape⟩ := Tag.exists_opener second.tag
      simp [shape]
    have size := congrArg Text.utf8Length opens.content_eq
    simp only [Text.utf8Length_append] at offset size
    exact ⟨by omega, .inr ⟨different, by omega⟩⟩
  · exact ⟨by omega, .inl behind⟩

theorem leads_or_leads (one : first.CutFrom text lead body rest)
    (other : second.CutFrom text laterLead laterBody laterRest)
    (different : first.tag ≠ second.tag) : first.Leads second ∨ second.Leads first := by
  rcases Nat.lt_trichotomy lead.length laterLead.length with before | same | behind
  · exact .inl (one.leads other different before)
  · exact absurd (one.read.tag_eq_of_length_eq other.read same) different
  · exact .inr (other.leads one (Ne.symm different) behind)

end CutFrom

theorem within_of_ofBody? {text : Text} {tag : Tag} {body : Tag.Body} {fragment : Fragment}
    (made : ofBody? text tag body = some fragment) :
    body.offset ≤ fragment.offset ∧ fragment.offset + Text.utf8Length fragment.content ≤
      body.offset + Text.utf8Length body.text := by
  obtain ⟨content, _, offset⟩ := fields_of_ofBody? made
  obtain ⟨leading, trailing, split, _, _, size⟩ := Text.exists_append_trim body.text
  have sizes := congrArg Text.utf8Length split
  rw [← content] at sizes
  simp only [Text.utf8Length_append] at sizes
  omega

/-- Of any two fragments that the passes find one leads the other. -/
theorem pairwise_found (text : Text) :
    (Tag.passes.flatMap fun tag => (tag.bodies text).filterMap (ofBody? text tag)).Pairwise
      fun first second => first.Leads second ∨ second.Leads first := by
  refine List.pairwise_flatMap.2 ⟨?_, ?_⟩
  · intro tag _
    refine List.pairwise_filterMap.2 ((tag.pairwise_bodies text).imp_of_mem ?_)
    intro body laterBody listed _ apart first made second laterMade
    obtain ⟨_, _, place⟩ :=
      exists_placedIn_of_mem_extract (mem_extract_iff.2 ⟨tag, body, listed, made⟩)
    have positive := Text.utf8Length_pos place.nonempty
    have within := within_of_ofBody? made
    have laterWithin := within_of_ofBody? laterMade
    exact .inl ⟨by omega, .inl (by omega)⟩
  · have distinct : Tag.passes.Pairwise (· ≠ ·) := by decide
    refine distinct.imp ?_
    intro tag laterTag different first firstFound second secondFound
    obtain ⟨body, listed, made⟩ := List.mem_filterMap.1 firstFound
    obtain ⟨laterBody, laterListed, laterMade⟩ := List.mem_filterMap.1 secondFound
    obtain ⟨_, _, _, cut⟩ :=
      exists_cutFrom_of_mem_extract (mem_extract_iff.2 ⟨tag, body, listed, made⟩)
    have laterMember : second ∈ extract text :=
      mem_extract_iff.2 ⟨laterTag, laterBody, laterListed, laterMade⟩
    obtain ⟨_, _, _, laterCut⟩ := exists_cutFrom_of_mem_extract laterMember
    apply cut.leads_or_leads laterCut
    rwa [(fields_of_ofBody? made).2.1, (fields_of_ofBody? laterMade).2.1]

/-- Fragments of one document are the same, or one leads the other. -/
theorem eq_or_leads {text : Text} {fragment other : Fragment} (member : fragment ∈ extract text)
    (otherMember : other ∈ extract text) :
    fragment = other ∨ fragment.Leads other ∨ other.Leads fragment := by
  have related : (extract text).Pairwise fun first second =>
      first.Leads second ∨ second.Leads first :=
    ((List.mergeSort_perm _ _).pairwise_iff Or.symm).2 (pairwise_found text)
  have symmetric : Std.Symm fun first second : Fragment =>
      first.Leads second ∨ second.Leads first := ⟨fun _ _ => Or.symm⟩
  by_cases same : fragment = other
  · exact .inl same
  · exact .inr (related.forall member otherMember same)

theorem start_lt_iff {text : Text} {first second : Fragment} (firstMember : first ∈ extract text)
    (secondMember : second ∈ extract text) :
    first.start < second.start ↔ first.offset < second.offset := by
  obtain ⟨_, _, place⟩ := exists_placedIn_of_mem_extract firstMember
  obtain ⟨_, _, laterPlace⟩ := exists_placedIn_of_mem_extract secondMember
  rw [place.locatedIn.start_eq, laterPlace.locatedIn.start_eq,
    Lines.positionOf_lt_iff place.isBoundary_start laterPlace.isBoundary_start]

theorem pairwise_start_le (text : Text) :
    (extract text).Pairwise fun first second => first.start ≤ second.start := by
  have sorted : (extract text).Pairwise fun first second =>
      decide (first.start ≤ second.start) = true := by
    apply List.pairwise_mergeSort
    · intro first second third before behind
      exact decide_eq_true
        (Position.le_trans (of_decide_eq_true before) (of_decide_eq_true behind))
    · intro first second
      simpa using Position.le_total first.start second.start
  exact sorted.imp of_decide_eq_true

/-- The fragments of a document stand in the strict order of their positions and of their offsets,
and of any two the earlier one ends before the later one starts, or contains it and ends with it;
two of one kind never share a byte. -/
theorem extracted_fragments_nest (text : Text) :
    (extract text).Pairwise fun first second =>
      first.start < second.start ∧ first.offset < second.offset ∧
      (first.offset + Text.utf8Length first.content ≤ second.offset ∨
        first.tag ≠ second.tag ∧ first.offset + Text.utf8Length first.content =
          second.offset + Text.utf8Length second.content) := by
  have related : (extract text).Pairwise fun first second =>
      first.Leads second ∨ second.Leads first :=
    ((List.mergeSort_perm _ _).pairwise_iff Or.symm).2 (pairwise_found text)
  refine ((pairwise_start_le text).and related).imp_of_mem ?_
  intro first second firstMember secondMember ⟨order, leads⟩
  have ahead : first.Leads second := by
    rcases leads with forward | backward
    · exact forward
    · have behind := (start_lt_iff secondMember firstMember).2 backward.starts
      exact absurd order behind
  exact ⟨(start_lt_iff firstMember secondMember).2 ahead.starts, ahead.starts, ahead.ends⟩

/-- A scriptlet in an output tag that is closed with it: two fragments, of which the first contains
the second. -/
theorem extracted_fragments_nest_in_output_tag :
    let code : Text := ['c', 'o', 'n', 's', 't', ' ', 'b', ' ', '=', ' ', '1']
    let text : Text := ['<', '%', '=', ' ', 'a', ' ', '<', '%', ' '] ++ code ++ [' ', '%', '>']
    let outer : Fragment := ⟨['a', ' ', '<', '%', ' '] ++ code, ⟨0, 4⟩, ⟨0, 20⟩, .output, 4⟩
    let inner : Fragment := ⟨code, ⟨0, 9⟩, ⟨0, 20⟩, .scriptlet, 9⟩
    extract text = [outer, inner] ∧ outer.start < inner.start ∧ outer.offset < inner.offset ∧
      outer.tag ≠ inner.tag ∧
      outer.offset + Text.utf8Length outer.content =
        inner.offset + Text.utf8Length inner.content := by
  intro code text outer inner
  have extracted : extract text = [outer, inner] := List.mergeSort_of_pairwise (by decide +kernel)
  have nested := extracted_fragments_nest text
  rw [extracted] at nested
  obtain ⟨starts, offsets, ends⟩ := List.rel_of_pairwise_cons nested (List.mem_singleton_self _)
  rcases ends with apart | ⟨different, same⟩
  · exact absurd apart (by decide)
  · exact ⟨extracted, starts, offsets, different, same⟩

end Fragment

end TemplateNav
