import TemplateNav.Proofs.Template.Coverage

/-!
# Where a tag ends

A tag ends at the nearest closing delimiter behind its opener, and its code holds
none, with one exception.  A bare tag takes its first character before the
delimiter is looked for, so where the delimiter stands right behind a bare opener
and another one follows, the tag is not read as an empty one: it ends at the next
delimiter, and its code begins with the first.
-/

namespace TemplateNav

namespace Tag

/-- A tag of a kind is read behind `lead`: it is closed by the first delimiter from its fourth
character on, and no `=` or `-` begins the body of a bare one. -/
structure ReadIn (tag : Tag) (text lead body rest : Text) : Prop where
  split : text = lead ++ (tag.opener ++ (body ++ '%' :: '>' :: rest))
  nearest : ¬ ['%', '>'] <:+: (tag.opener ++ body).drop 3
  bare : tag = .scriptlet → ∀ c ∈ body.head?, c ≠ '=' ∧ c ≠ '-'

/-- Every bare opener of a text has a closing delimiter behind it within the text. -/
def ClosesBare (text : Text) : Prop :=
  ∀ outer skipped, text = outer ++ (scriptlet.opener ++ skipped) →
    (∀ c ∈ skipped.head?, c ≠ '=' ∧ c ≠ '-') → ['%', '>'] <:+: skipped

theorem bare_of_body? {text body : Text} (found : scriptlet.body? text = some body) :
    ∀ c ∈ body.head?, c ≠ '=' ∧ c ≠ '-' := by
  intro c head
  rcases cases_of_body?_scriptlet found with
    ⟨d, rest, inner, after, _, rfl, noOutput, noUnescaped, _⟩ | ⟨rfl, _⟩
  · obtain rfl : d = c := Option.some.inj head
    exact ⟨noOutput, noUnescaped⟩
  · cases head

theorem exists_readIn_of_mem_bodies {tag : Tag} {text : Text} {body : Body}
    (member : body ∈ tag.bodies text) :
    ∃ lead rest, tag.ReadIn text lead body.text rest ∧
      body.offset = Text.utf8Length (lead ++ tag.opener) := by
  obtain ⟨left, right, width, rfl, found⟩ := Text.exists_recognized_of_mem_scan member
  obtain ⟨rest, rfl, read, offset, _⟩ := exists_append_of_recognize found
  refine ⟨left.reverse, rest, ⟨rfl, absent_drop_of_body? read, ?_⟩, by simp [offset]⟩
  intro isBare
  subst isBare
  exact bare_of_body? read

/-- The only delimiter that a body can hold is one right behind a bare opener. -/
theorem ReadIn.holds_delimiter_iff {tag : Tag} {text lead body rest : Text}
    (read : tag.ReadIn text lead body rest) :
    ['%', '>'] <:+: body ↔ tag = .scriptlet ∧ ['%', '>'] <+: body := by
  constructor
  · intro present
    have nearest := read.nearest
    cases tag with
    | scriptlet =>
      cases body with
      | nil => simp at present
      | cons c body => exact ⟨rfl, (List.infix_cons_iff.1 present).resolve_right nearest⟩
    | output => exact absurd present nearest
    | unescapedOutput => exact absurd present nearest
  · intro ⟨_, starts⟩
    exact starts.isInfix

/-- A text that holds a delimiter is cut at the first one. -/
theorem exists_untilClose?_of_infix {text : Text} (present : ['%', '>'] <:+: text) :
    ∃ body after, untilClose? text = some (body, after) := by
  induction text with
  | nil => simp at present
  | cons c rest ih =>
    rcases List.infix_cons_iff.1 present with ⟨after, starts⟩ | later
    · exact ⟨[], after, by rw [← starts]; rfl⟩
    · obtain ⟨body, after, read⟩ := ih later
      by_cases closes : c = '%' ∧ rest.head? = some '>'
      · obtain ⟨tail, rfl⟩ := List.head?_eq_some_iff.1 closes.2
        exact ⟨[], tail, by rw [closes.1]; rfl⟩
      · refine ⟨c :: body, after, ?_⟩
        rw [untilClose?_cons (fun isPercent starts => closes ⟨isPercent, starts⟩), read]
        rfl

/-- A tag that is read does not go on past a delimiter, unless its body holds it. -/
theorem holds_delimiter_of_covered {skipped right body after : Text}
    (present : ['%', '>'] <:+: skipped) (covers : skipped.length < body.length + 2)
    (same : skipped ++ right = body ++ '%' :: '>' :: after) : ['%', '>'] <:+: body := by
  by_contra absent
  obtain ⟨first, behind, cut⟩ := exists_untilClose?_of_infix present
  have skipped_eq := eq_append_of_untilClose? cut
  have once := untilClose?_of_absent (absent_of_untilClose? cut) (behind ++ right)
  rw [show first ++ '%' :: '>' :: (behind ++ right) = skipped ++ right by simp [skipped_eq], same,
    untilClose?_of_absent absent] at once
  obtain ⟨rfl, _⟩ : body = first ∧ after = behind ++ right := by simpa using once
  rw [skipped_eq] at covers
  simp only [List.length_append, List.length_cons] at covers
  omega

/-- A delimiter right behind a bare opener is taken into the body, if another one follows. -/
theorem exists_body?_of_delimiter {rest : Text} (present : ['%', '>'] <:+: rest) :
    ∃ body, scriptlet.body? ('%' :: '>' :: rest) = some body ∧ ['%', '>'] <:+: body := by
  obtain ⟨inner, after, read⟩ :=
    exists_untilClose?_of_infix (present.trans (List.suffix_cons '>' rest).isInfix)
  refine ⟨'%' :: inner, by simp [body?, read], ?_⟩
  have split := eq_append_of_untilClose? read
  cases inner with
  | nil => cases split
  | cons c inner =>
    obtain ⟨rfl, _⟩ := List.cons.inj split
    exact ⟨[], inner, rfl⟩

/-- A delimiter right behind a bare opener is in the body of a bare tag, if another delimiter
follows and every bare opener before has a delimiter behind it before this one. -/
theorem exists_mem_bodies_holding {lead rest : Text} (present : ['%', '>'] <:+: rest)
    (closed : ClosesBare lead) :
    ∃ body ∈ scriptlet.bodies (lead ++ (scriptlet.opener ++ '%' :: '>' :: rest)),
      ['%', '>'] <:+: body.text := by
  obtain ⟨body, read, holds⟩ := exists_body?_of_delimiter present
  have recognized := recognize_opener_append read (lead.reverse ++ [])
  have nonempty : scriptlet.opener ++ '%' :: '>' :: rest ≠ [] := by simp
  rcases Text.mem_scanFrom_or_covered [] nonempty (Nat.zero_le lead.length) recognized with
    here | ⟨outer, inner, earlier, span, lead_eq, started, covers, read, listed⟩
  · exact ⟨_, here, holds⟩
  · -- The bare tag that covers the opener goes on past a delimiter, which its body then holds.
    obtain ⟨after, same, closes, _, width_eq⟩ := exists_append_of_recognize read
    obtain ⟨skipped, inner_eq, within⟩ := exists_append_of_opener_append started same
    refine ⟨earlier, listed, ?_⟩
    have delimiter : ['%', '>'] <:+: skipped := by
      apply closed outer skipped (by rw [lead_eq, inner_eq])
      intro c head
      obtain ⟨tail, rfl⟩ := List.head?_eq_some_iff.1 head
      cases text_eq : earlier.text with
      | nil =>
        rw [text_eq] at within
        obtain ⟨rfl, _⟩ := List.cons.inj within
        decide
      | cons d more =>
        have bare := bare_of_body? closes d (by simp [text_eq])
        rw [text_eq] at within
        obtain ⟨rfl, _⟩ := List.cons.inj within
        exact bare
    apply holds_delimiter_of_covered delimiter _ within
    rw [inner_eq, List.length_append] at covers
    omega

end Tag

theorem Text.trim_of_delimiter (rest : Text) :
    Text.trim ('%' :: '>' :: rest) = '%' :: '>' :: Text.trimEnd rest := by
  rw [trim, trimStart_of_solid ⟨'%', '>' :: rest, rfl, by decide⟩, trimEnd_cons (.inl (by decide)),
    trimEnd_cons (.inl (by decide))]

namespace Fragment

/-- `fragment` is the trimmed body of a tag of its kind that is read behind `lead`. -/
structure CutFrom (fragment : Fragment) (text lead body rest : Text) : Prop where
  read : fragment.tag.ReadIn text lead body rest
  nonempty : fragment.content ≠ []
  content_eq : fragment.content = Text.trim body
  offset_eq : fragment.offset = Text.utf8Length (lead ++ fragment.tag.opener) +
    (Text.utf8Length body - Text.utf8Length (Text.trimStart body))

theorem exists_cutFrom_of_mem_extract {text : Text} {fragment : Fragment}
    (member : fragment ∈ extract text) :
    ∃ lead body rest, fragment.CutFrom text lead body rest := by
  obtain ⟨tag, body, found, made⟩ := mem_extract_iff.1 member
  obtain ⟨content, rfl, offset⟩ := fields_of_ofBody? made
  obtain ⟨lead, rest, read, start⟩ := Tag.exists_readIn_of_mem_bodies found
  obtain ⟨_, _, place⟩ := exists_placedIn_of_mem_extract member
  exact ⟨lead, body.text, rest, read, place.nonempty, content, by rw [offset, start]⟩

/-- Trimming takes no delimiter off a body. -/
theorem CutFrom.holds_delimiter_iff {fragment : Fragment} {text lead body rest : Text}
    (cut : fragment.CutFrom text lead body rest) :
    ['%', '>'] <:+: fragment.content ↔ ['%', '>'] <:+: body := by
  rw [cut.content_eq]
  constructor
  · intro present
    obtain ⟨leading, trailing, body_eq, _⟩ := Text.exists_append_trim body
    exact present.trans ⟨leading, trailing, body_eq.symm⟩
  · intro present
    obtain ⟨_, inner, rfl⟩ := cut.read.holds_delimiter_iff.1 present
    exact ⟨[], Text.trimEnd inner, (Text.trim_of_delimiter inner).symm⟩

theorem exists_mem_extract_holding {text : Text} {tag : Tag} {body : Tag.Body}
    (listed : body ∈ tag.bodies text) (holds : ['%', '>'] <:+: body.text) :
    ∃ fragment ∈ extract text, ['%', '>'] <:+: fragment.content := by
  obtain ⟨lead, rest, read, _⟩ := Tag.exists_readIn_of_mem_bodies listed
  obtain ⟨_, inner, text_eq⟩ := read.holds_delimiter_iff.1 holds
  have trimmed : Text.trim body.text = '%' :: '>' :: Text.trimEnd inner := by
    rw [← text_eq]
    exact Text.trim_of_delimiter inner
  obtain ⟨fragment, made, _, content, _⟩ := exists_fragment_of_mem_bodies listed (by simp [trimmed])
  refine ⟨fragment, mem_extract_iff.2 ⟨tag, body, listed, made⟩, ?_⟩
  rw [content, trimmed]
  exact ⟨[], Text.trimEnd inner, rfl⟩

/-- A fragment ends at the nearest delimiter behind its opener and holds none, unless it is the code
of a bare tag with a delimiter right behind the opener.  A document has such a fragment only if some
bare opener stands before two delimiters, the first right behind it, and has one if in addition every
bare opener before that one has a delimiter of its own before it. -/
theorem delimiter_only_behind_bare_opener (text : Text) :
    (∀ fragment ∈ extract text, ∃ lead body rest, fragment.CutFrom text lead body rest ∧
      (['%', '>'] <:+: fragment.content ↔ ['%', '>'] <:+: body) ∧
      (['%', '>'] <:+: body ↔ fragment.tag = .scriptlet ∧ ['%', '>'] <+: body)) ∧
    ((∃ fragment ∈ extract text, ['%', '>'] <:+: fragment.content) →
      ∃ lead rest, text = lead ++ (Tag.scriptlet.opener ++ '%' :: '>' :: rest) ∧
        ['%', '>'] <:+: rest) ∧
    ∀ lead rest, text = lead ++ (Tag.scriptlet.opener ++ '%' :: '>' :: rest) →
      ['%', '>'] <:+: rest → Tag.ClosesBare lead →
      ∃ fragment ∈ extract text, ['%', '>'] <:+: fragment.content := by
  refine ⟨?_, ?_, ?_⟩
  · intro fragment member
    obtain ⟨lead, body, rest, cut⟩ := exists_cutFrom_of_mem_extract member
    exact ⟨lead, body, rest, cut, cut.holds_delimiter_iff, cut.read.holds_delimiter_iff⟩
  · intro ⟨fragment, member, present⟩
    obtain ⟨lead, body, rest, cut⟩ := exists_cutFrom_of_mem_extract member
    obtain ⟨isBare, inner, rfl⟩ :=
      cut.read.holds_delimiter_iff.1 (cut.holds_delimiter_iff.1 present)
    refine ⟨lead, inner ++ '%' :: '>' :: rest, ?_, inner, rest, by simp⟩
    rw [cut.read.split, isBare]
    rfl
  · intro lead rest split present closed
    obtain ⟨body, listed, holds⟩ := Tag.exists_mem_bodies_holding present closed
    rw [← split] at listed
    exact exists_mem_extract_holding listed holds

/-- A delimiter right behind a bare opener, and another one. -/
theorem delimiter_only_behind_bare_opener_of_two :
    let text : Text := ['<', '%', '%', '>', ' ', 'a', ' ', '%', '>']
    let fragment : Fragment := ⟨['%', '>', ' ', 'a'], ⟨0, 2⟩, ⟨0, 6⟩, .scriptlet, 2⟩
    extract text = [fragment] ∧ ['%', '>'] <:+: fragment.content ∧
      (∃ lead body rest, fragment.CutFrom text lead body rest ∧
        fragment.tag = .scriptlet ∧ ['%', '>'] <+: body) ∧
      Tag.ClosesBare [] ∧ ∃ fragment ∈ extract text, ['%', '>'] <:+: fragment.content := by
  intro text fragment
  have extracted : extract text = [fragment] := by decide +kernel
  have holds : ['%', '>'] <:+: fragment.content := ⟨[], [' ', 'a'], rfl⟩
  have closed : Tag.ClosesBare [] := by
    intro outer skipped split
    simp [Tag.opener] at split
  obtain ⟨shape, _, sufficient⟩ := delimiter_only_behind_bare_opener text
  obtain ⟨lead, body, rest, cut, trimmed, front⟩ := shape fragment (by simp [extracted])
  exact ⟨extracted, holds, ⟨lead, body, rest, cut, front.1 (trimmed.1 holds)⟩, closed,
    sufficient [] [' ', 'a', ' ', '%', '>'] rfl ⟨[' ', 'a', ' '], [], rfl⟩ closed⟩

end Fragment

end TemplateNav
