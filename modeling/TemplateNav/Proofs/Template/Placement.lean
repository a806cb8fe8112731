import TemplateNav.Proofs.Lines.Placement
import TemplateNav.Proofs.Script.Identifier
import TemplateNav.Template.Fragment

/-!
# Fragments as parts of a document

The content of a fragment stands in the document between the opener of its tag
and the closing delimiter, with only white space in between, and its two
positions are those of its ends.  A cursor that touches a fragment therefore
stands at a cut within the content, and so does the run of identifier characters
around it, because neither a delimiter nor white space belongs to a name.
-/

namespace TemplateNav

open Position (origin)

namespace Lines.LineAt

variable {text before line after : Text} {index : Nat}

/-- What stands before a line ends with a line feed, if there is anything. -/
theorem endsApart_before (place : LineAt text index before line after) : before.EndsApart := by
  intro c last
  rw [place.eq_of_getLast?_before c last]
  decide

theorem startsApart_after (place : LineAt text index before line after) : after.StartsApart := by
  intro c first
  rcases place.eq_of_head?_after c first with rfl | rfl
  · decide
  · decide

end Lines.LineAt

namespace Tag

theorem eq_append_of_untilClose? {text body after : Text}
    (found : untilClose? text = some (body, after)) : text = body ++ '%' :: '>' :: after := by
  fun_induction untilClose? text generalizing body with
  | case1 => cases found
  | case2 rest =>
    obtain ⟨rfl, rfl⟩ : [] = body ∧ rest = after := by simpa using found
    rfl
  | case3 c rest _ ih =>
    obtain ⟨⟨inner, behind⟩, read, same⟩ := Option.map_eq_some_iff.1 found
    obtain ⟨rfl, rfl⟩ : c :: inner = body ∧ behind = after := by simpa using same
    rw [List.cons_append, ih read]

/-- The end of a bare body is looked for behind its first character, unless the body is empty. -/
theorem cases_of_body?_scriptlet {text body : Text} (found : scriptlet.body? text = some body) :
    (∃ c rest inner after, text = c :: rest ∧ body = c :: inner ∧ c ≠ '=' ∧ c ≠ '-' ∧
      untilClose? rest = some (inner, after)) ∨
    body = [] ∧ ∃ after, text = '%' :: '>' :: after := by
  simp only [body?, Option.orElse_eq_orElse, Option.orElse_eq_or] at found
  rcases Option.or_eq_some_iff.1 found with longer | ⟨_, empty⟩
  · cases text with
    | nil => cases longer
    | cons c rest =>
      simp only at longer
      split at longer
      · cases longer
      · next bare =>
        obtain ⟨⟨inner, after⟩, read, rfl⟩ := Option.map_eq_some_iff.1 longer
        simp only [Bool.or_eq_true, decide_eq_true_eq, not_or] at bare
        exact .inl ⟨c, rest, inner, after, rfl, rfl, bare.1, bare.2, read⟩
  · obtain ⟨after, read, rfl⟩ := Option.map_eq_some_iff.1 empty
    exact .inr ⟨rfl, after, by simpa using Text.eq_append_of_dropLead? read⟩

/-- A body ends at a closing delimiter. -/
theorem exists_append_of_body? {tag : Tag} {text body : Text} (found : tag.body? text = some body) :
    ∃ after, text = body ++ '%' :: '>' :: after := by
  cases tag with
  | scriptlet =>
    rcases cases_of_body?_scriptlet found with
      ⟨c, rest, inner, after, rfl, rfl, _, _, read⟩ | ⟨rfl, after, rfl⟩
    · exact ⟨after, by rw [eq_append_of_untilClose? read, List.cons_append]⟩
    · exact ⟨after, rfl⟩
  | output =>
    obtain ⟨⟨inner, after⟩, read, rfl⟩ := Option.map_eq_some_iff.1 found
    exact ⟨after, eq_append_of_untilClose? read⟩
  | unescapedOutput =>
    obtain ⟨⟨inner, after⟩, read, rfl⟩ := Option.map_eq_some_iff.1 found
    exact ⟨after, eq_append_of_untilClose? read⟩

/-- A tag is an opener, a body and a closing delimiter, and is as wide as these. -/
theorem exists_append_of_recognize {tag : Tag} {before text : Text} {body : Body} {width : Nat}
    (found : tag.recognize before text = some (body, width)) :
    ∃ after, text = tag.opener ++ (body.text ++ '%' :: '>' :: after) ∧
      tag.body? (body.text ++ '%' :: '>' :: after) = some body.text ∧
      body.offset = Text.utf8Length before + Text.utf8Length tag.opener ∧
      width = tag.opener.length + body.text.length + 2 := by
  simp only [recognize, Option.bind_eq_bind, Option.bind_eq_some_iff, Option.pure_def,
    Option.some.injEq, Prod.mk.injEq] at found
  obtain ⟨inside, opened, content, read, rfl, rfl⟩ := found
  obtain ⟨after, rfl⟩ := exists_append_of_body? read
  exact ⟨after, Text.eq_append_of_dropLead? opened, read, rfl, rfl⟩

theorem recognize_opener_append {tag : Tag} {inside body : Text}
    (read : tag.body? inside = some body) (before : Text) :
    tag.recognize before (tag.opener ++ inside) =
      some (⟨Text.utf8Length before + Text.utf8Length tag.opener, body⟩,
        tag.opener.length + body.length + 2) := by
  rw [recognize, Text.dropLead?_self, Option.bind_eq_bind, Option.bind_some, read]
  rfl

/-- The bodies of a kind stand behind openers of that kind. -/
theorem exists_split_of_mem_bodies {tag : Tag} {text : Text} {body : Body}
    (member : body ∈ tag.bodies text) :
    ∃ lead after, text = lead ++ tag.opener ++ body.text ++ '%' :: '>' :: after ∧
      body.offset = Text.utf8Length (lead ++ tag.opener) := by
  obtain ⟨left, right, width, rfl, found⟩ := Text.exists_recognized_of_mem_scan member
  obtain ⟨after, rfl, _, offset, _⟩ := exists_append_of_recognize found
  exact ⟨left.reverse, after, by simp, by simp [offset]⟩

end Tag

namespace Fragment

/-- `fragment` stands in a document between `before` and `after`: behind an opener of its kind and
before a closing delimiter, but for white space. -/
structure PlacedIn (fragment : Fragment) (text before after : Text) : Prop where
  split : text = before ++ fragment.content ++ after
  offset_eq : fragment.offset = Text.utf8Length before
  start_eq : fragment.start = origin.after before
  stop_eq : fragment.stop = origin.after (before ++ fragment.content)
  opened : ∃ lead blank, before = lead ++ fragment.tag.opener ++ blank ∧
    ∀ c ∈ blank, Text.isBlank c = true
  closed : ∃ blank rest, after = blank ++ '%' :: '>' :: rest ∧ ∀ c ∈ blank, Text.isBlank c = true
  nonempty : fragment.content ≠ []
  head_solid : ∀ c ∈ fragment.content.head?, Text.isBlank c = false
  last_solid : ∀ c ∈ fragment.content.getLast?, Text.isBlank c = false

theorem placedIn_of_ofBody? {text lead after : Text} {tag : Tag} {body : Tag.Body}
    {fragment : Fragment}
    (split : text = lead ++ tag.opener ++ body.text ++ '%' :: '>' :: after)
    (offset : body.offset = Text.utf8Length (lead ++ tag.opener))
    (found : ofBody? text tag body = some fragment) :
    ∃ before behind, fragment.PlacedIn text before behind := by
  obtain ⟨leading, trailing, body_eq, leads, trails, size⟩ := Text.exists_append_trim body.text
  simp only [ofBody?] at found
  split at found
  · cases found
  · next nonempty =>
    obtain rfl := Option.some.inj found
    have place : text = lead ++ tag.opener ++ leading ++ Text.trim body.text ++
        (trailing ++ '%' :: '>' :: after) := by
      calc text = lead ++ tag.opener ++ body.text ++ '%' :: '>' :: after := split
        _ = lead ++ tag.opener ++ (leading ++ Text.trim body.text ++ trailing) ++
            '%' :: '>' :: after := by rw [← body_eq]
        _ = _ := by simp
    have start : body.offset + (Text.utf8Length body.text -
        Text.utf8Length (Text.trimStart body.text)) =
        Text.utf8Length (lead ++ tag.opener ++ leading) := by
      rw [offset, ← size, Text.utf8Length_append (lead ++ tag.opener)]
    have stop : Text.utf8Length (lead ++ tag.opener ++ leading) +
        Text.utf8Length (Text.trim body.text) =
        Text.utf8Length (lead ++ tag.opener ++ leading ++ Text.trim body.text) :=
      (Text.utf8Length_append _ _).symm
    have started : Lines.positionOf text (Text.utf8Length (lead ++ tag.opener ++ leading)) =
        origin.after (lead ++ tag.opener ++ leading) := by
      rw [place, List.append_assoc (lead ++ tag.opener ++ leading)]
      exact Lines.positionOf_append _ _
    have stopped : Lines.positionOf text
        (Text.utf8Length (lead ++ tag.opener ++ leading ++ Text.trim body.text)) =
        origin.after (lead ++ tag.opener ++ leading ++ Text.trim body.text) := by
      rw [place]
      exact Lines.positionOf_append _ _
    refine ⟨lead ++ tag.opener ++ leading, trailing ++ '%' :: '>' :: after, place, start, ?_, ?_,
      ⟨lead, leading, rfl, leads⟩, ⟨trailing, after, rfl, trails⟩, by simpa using nonempty,
      fun c first => Text.isBlank_of_head?_trim first,
      fun c last => Text.isBlank_of_getLast?_trim last⟩
    · simp only [start, started]
    · simp only [start, stop, started, stopped]
      rw [← Position.line_after, ← Position.after_append]

/-- The fragments of a document are made of the bodies of its tags. -/
theorem mem_extract_iff {text : Text} {fragment : Fragment} :
    fragment ∈ extract text ↔
      ∃ tag : Tag, ∃ body ∈ tag.bodies text, ofBody? text tag body = some fragment := by
  simp only [extract, List.mem_mergeSort, List.mem_flatMap, List.mem_filterMap]
  constructor
  · intro ⟨tag, _, made⟩
    exact ⟨tag, made⟩
  · intro ⟨tag, made⟩
    exact ⟨tag, by cases tag <;> simp [Tag.passes], made⟩

/-- Every fragment of a document is a part of it. -/
theorem exists_placedIn_of_mem_extract {text : Text} {fragment : Fragment}
    (member : fragment ∈ extract text) : ∃ before after, fragment.PlacedIn text before after := by
  obtain ⟨tag, body, found, made⟩ := mem_extract_iff.1 member
  obtain ⟨lead, after, split, offset⟩ := Tag.exists_split_of_mem_bodies found
  exact placedIn_of_ofBody? split offset made

theorem text?_of_mem_lines {fragment : Fragment} {index : Nat} {line : Text}
    (member : (index, line) ∈ fragment.lines) : Lines.text? fragment.content index = some line := by
  simp only [lines, List.mem_map, Prod.exists, Prod.mk.injEq] at member
  obtain ⟨line, index, numbered, rfl, rfl⟩ := member
  rwa [List.mem_zipIdx_iff_getElem?, List.getElem?_map] at numbered

theorem exists_lineAt_of_mem_lines {fragment : Fragment} {index : Nat} {line : Text}
    (member : (index, line) ∈ fragment.lines) :
    ∃ before after, Lines.LineAt fragment.content index before line after :=
  Lines.exists_lineAt_of_text? (text?_of_mem_lines member)

theorem positionInLine_append (fragment : Fragment) (index : Nat) (before after : Text) :
    fragment.positionInLine index (before ++ after) (Text.utf8Length before) =
      ⟨fragment.start.line + index,
        (if index = 0 then fragment.start.character else 0) + Text.utf16Length before⟩ := by
  simp [positionInLine, Text.splitAtByte?_append]

/-- `word` stands in a document at a position, between `before` and `after` and apart from other
names, within a fragment. -/
structure WordAt (text : Text) (position : Position) (word before after : Text) : Prop where
  split : text = before ++ word ++ after
  position_eq : position = origin.after before
  endsApart : before.EndsApart
  startsApart : after.StartsApart
  inFragment : ∃ fragment ∈ extract text, ∃ outside beyond, fragment.PlacedIn text outside beyond ∧
    outside <+: before ∧ before ++ word <+: outside ++ fragment.content

theorem WordAt.readsAt {text word before after : Text} {position : Position}
    (found : WordAt text position word before after) : Lines.ReadsAt text position word := by
  rw [found.split, found.position_eq]
  exact Lines.readsAt_of_split before word after

theorem contains_iff {fragment : Fragment} {position : Position} :
    fragment.contains position = true ↔
      fragment.start.line ≤ position.line ∧ position.line ≤ fragment.stop.line ∧
        (position.line = fragment.start.line → fragment.start.character ≤ position.character) ∧
        (position.line = fragment.stop.line → position.character ≤ fragment.stop.character) := by
  unfold contains isMultiLine
  split
  · next outside =>
    simp only [Bool.or_eq_true, decide_eq_true_eq] at outside
    simp only [Bool.false_eq_true, false_iff]
    omega
  · next inside =>
    simp only [Bool.or_eq_true, decide_eq_true_eq] at inside
    split
    · next single =>
      simp only [Bool.not_eq_true', decide_eq_false_iff_not] at single
      simp only [Bool.and_eq_true, decide_eq_true_eq]
      omega
    · next several =>
      simp only [Bool.not_eq_true', decide_eq_false_iff_not, Decidable.not_not] at several
      split
      · simp only [decide_eq_true_eq]
        omega
      · split
        · simp only [decide_eq_true_eq]
          omega
        · simp only [true_iff]
          omega

/-- A cursor touches a fragment if it stands from its start to its end in reading order. -/
theorem contains_iff_le {fragment : Fragment} {position : Position} :
    fragment.contains position = true ↔ fragment.start ≤ position ∧ position ≤ fragment.stop := by
  rw [contains_iff, Position.le_def, Position.le_def]
  omega

namespace PlacedIn

variable {fragment : Fragment} {text before after : Text}

theorem isPart_last_before (place : fragment.PlacedIn text before after) :
    ∀ c ∈ before.getLast?, Identifier.isPart c = false := by
  obtain ⟨lead, blank, rfl, blanks⟩ := place.opened
  intro c last
  rw [List.getLast?_append] at last
  cases ending : blank.getLast? with
  | some d =>
    obtain rfl : d = c := by simpa [ending] using last
    exact Identifier.isPart_eq_false_of_isBlank (blanks d (List.mem_of_getLast? ending))
  | none =>
    rw [ending, Option.none_or, List.getLast?_append] at last
    cases tag : fragment.tag <;> rw [tag] at last <;>
      · obtain rfl := Option.some.inj last
        decide

theorem isPart_head_after (place : fragment.PlacedIn text before after) :
    ∀ c ∈ after.head?, Identifier.isPart c = false := by
  obtain ⟨blank, rest, rfl, blanks⟩ := place.closed
  intro c first
  cases blank with
  | nil =>
    obtain rfl : '%' = c := by simpa using first
    decide
  | cons d blank =>
    obtain rfl : d = c := by simpa using first
    exact Identifier.isPart_eq_false_of_isBlank (blanks d List.mem_cons_self)

/-- The position of a column on a content line is the one that the document has there. -/
theorem positionInLine_eq (place : fragment.PlacedIn text before after) {index : Nat}
    {lead left right rest : Text}
    (here : Lines.LineAt fragment.content index lead (left ++ right) rest) :
    fragment.positionInLine index (left ++ right) (Text.utf8Length left) =
      origin.after (before ++ lead ++ left) := by
  have single : '\n' ∉ left := fun newline => here.single (List.mem_append_left _ newline)
  rw [positionInLine_append, Position.after_append, Position.after_append, ← place.start_eq,
    here.moves, Position.after_eq_advancedBy single]
  rfl

theorem start_character_le (place : fragment.PlacedIn text before after) {index : Nat}
    {lead line rest : Text} (here : Lines.LineAt text index lead line rest)
    (same : fragment.start.line = index) : fragment.start.character ≤ Text.utf16Length line := by
  rw [place.start_eq] at same ⊢
  rcases here.exists_cut ⟨fragment.content ++ after, by simp [place.split]⟩ same with
    ⟨left, right, rfl, rfl⟩ | ⟨rfl, beyond, rfl, newline⟩
  · rw [here.origin_after_append, Text.utf16Length_append]
    exact Nat.le_add_right _ _
  · -- The content would begin with the line feed behind a carriage return.
    have follows : beyond = fragment.content ++ after := by
      have twice := place.split.symm.trans here.split
      simpa using twice.symm
    obtain ⟨c, content, content_eq⟩ := List.exists_cons_of_ne_nil place.nonempty
    have first : c = '\n' := newline c (by simp [follows, content_eq])
    have solid := place.head_solid c (by simp [content_eq])
    rw [first] at solid
    exact absurd solid (by decide)

theorem character_le_stop (place : fragment.PlacedIn text before after) {index units : Nat}
    {lead line rest : Text} (here : Lines.LineAt text index lead line rest)
    (same : fragment.stop.line = index) (reached : units ≤ fragment.stop.character) :
    Text.utf16Length (Text.splitAtUnit units line).1 ≤ fragment.stop.character := by
  rw [place.stop_eq] at same reached ⊢
  rcases here.exists_cut ⟨after, by simp [place.split]⟩ same with
    ⟨left, right, rfl, cut⟩ | ⟨cut, _⟩
  · rw [cut, here.origin_after_append] at reached ⊢
    exact Text.utf16Length_splitAtUnit_le reached
  · -- The content would end with a carriage return.
    have last : fragment.content.getLast? = some '\r' := by
      have whole := congrArg List.getLast? cut
      rwa [List.getLast?_append, List.getLast?_eq_some_getLast place.nonempty, Option.some_or,
        ← List.getLast?_eq_some_getLast place.nonempty, List.getLast?_concat] at whole
    exact absurd (place.last_solid '\r' last) (by decide)

/-- A cursor that touches a fragment stands at a cut within its content. -/
theorem cut_within (place : fragment.PlacedIn text before after) {position : Position}
    (touched : fragment.contains position = true) {lead line rest : Text}
    (here : Lines.LineAt text position.line lead line rest) :
    before.length ≤ (lead ++ (Text.splitAtUnit position.character line).1).length ∧
      (lead ++ (Text.splitAtUnit position.character line).1).length ≤
        (before ++ fragment.content).length := by
  obtain ⟨lower, upper, startBound, stopBound⟩ := contains_iff.1 touched
  have reached := Text.le_utf16Length_splitAtUnit position.character line
  have cutInText := here.isPrefix_splitAtUnit position.character
  have cutPosition := here.origin_after_splitAtUnit position.character
  constructor
  · apply Position.length_le_of_after_le origin
      ⟨fragment.content ++ after, by simp [place.split]⟩ cutInText
    rw [cutPosition, ← place.start_eq, Position.le_def]
    by_cases same : fragment.start.line = position.line
    · have within := place.start_character_le here same
      have bound := startBound same.symm
      exact .inr ⟨same, Nat.le_trans (Nat.le_min.2 ⟨bound, within⟩) reached⟩
    · exact .inl (Nat.lt_of_le_of_ne lower same)
  · apply Position.length_le_of_after_le origin cutInText
      ⟨after, by simp [place.split]⟩
    rw [cutPosition, ← place.stop_eq, Position.le_def]
    by_cases same : position.line = fragment.stop.line
    · exact .inr ⟨same, place.character_le_stop here same.symm (stopBound same)⟩
    · exact .inl (Nat.lt_of_le_of_ne upper same)

end PlacedIn

/-- A word that stands apart on a content line stands in the document where its line and column
say, apart from other names there as well. -/
theorem exists_wordAt_positionInLine {text line word : Text} {fragment : Fragment}
    {index column : Nat} (extracted : fragment ∈ extract text)
    (member : (index, line) ∈ fragment.lines) (stands : line.StandsApart column word) :
    ∃ before after, WordAt text (fragment.positionInLine index line column) word before after := by
  obtain ⟨before, after, place⟩ := exists_placedIn_of_mem_extract extracted
  obtain ⟨lead, rest, here⟩ := exists_lineAt_of_mem_lines member
  obtain ⟨left, right, rfl, rfl, ends, starts⟩ := stands
  have content : fragment.content = lead ++ left ++ word ++ (right ++ rest) := by
    rw [here.split]
    simp
  refine ⟨before ++ lead ++ left, right ++ rest ++ after, ?_, ?_, ?_, ?_,
    fragment, extracted, before, after, place, ?_, ?_⟩
  · rw [place.split, content]
    simp
  · rw [List.append_assoc left] at here ⊢
    exact place.positionInLine_eq here
  · exact (Text.EndsApart.append place.isPart_last_before here.endsApart_before).append ends
  · exact (starts.append here.startsApart_after).append place.isPart_head_after
  · exact ⟨lead ++ left, by simp⟩
  · exact ⟨right ++ rest, by rw [content]; simp⟩

end Fragment

end TemplateNav
