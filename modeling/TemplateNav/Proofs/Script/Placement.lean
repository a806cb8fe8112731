import TemplateNav.Proofs.Script.Identifier
import TemplateNav.Script.Binding
import TemplateNav.Script.Occurrence

/-!
# Names as parts of a line

The readers of brackets, binding lists and usages pass on parts of the line they
were given.  Each of them adds up byte offsets on the way, and the name that
comes out stands in the line where the sum says.  It is a whole word there: the
readers cut at brackets, commas, colons, equals signs, dots and white space only.
-/

namespace TemplateNav

open Text (StandsApart)

namespace Bracket

theorem cases_of_closer? {c closer : Char} (opens : closer? c = some closer) :
    c = '(' ∧ closer = ')' ∨ c = '[' ∧ closer = ']' ∨ c = '{' ∧ closer = '}' := by
  unfold closer? at opens
  split at opens
  · next round => exact .inl ⟨round, (Option.some.inj opens).symm⟩
  · split at opens
    · next square => exact .inr (.inl ⟨square, (Option.some.inj opens).symm⟩)
    · split at opens
      · next curly => exact .inr (.inr ⟨curly, (Option.some.inj opens).symm⟩)
      · cases opens

theorem cases_of_opener? {c opener : Char} (closes : opener? c = some opener) :
    c = ')' ∨ c = ']' ∨ c = '}' := by
  unfold opener? at closes
  split at closes
  · next round => exact .inl round
  · split at closes
    · next square => exact .inr (.inl square)
    · split at closes
      · next curly => exact .inr (.inr curly)
      · cases closes

/-- A character of one byte that is no identifier character, as all brackets are. -/
def IsMark (c : Char) : Prop :=
  c.utf8Size = 1 ∧ Identifier.isPart c = false

theorem isMark_of_closer? {c : Char} (opens : (closer? c).isSome = true) : IsMark c := by
  obtain ⟨closer, found⟩ := Option.isSome_iff_exists.1 opens
  obtain ⟨rfl, _⟩ | ⟨rfl, _⟩ | ⟨rfl, _⟩ := cases_of_closer? found
  · exact ⟨rfl, rfl⟩
  · exact ⟨rfl, rfl⟩
  · exact ⟨rfl, rfl⟩

theorem isMark_of_opener? {c : Char} (closes : (opener? c).isSome = true) : IsMark c := by
  obtain ⟨opener, found⟩ := Option.isSome_iff_exists.1 closes
  obtain rfl | rfl | rfl := cases_of_opener? found
  · exact ⟨rfl, rfl⟩
  · exact ⟨rfl, rfl⟩
  · exact ⟨rfl, rfl⟩

/-- Only a closing bracket takes the last awaited one away. -/
theorem isMark_of_next? {pending later : Pending} {c : Char}
    (next : pending.next? c = some later) (awaiting : pending.awaited ≠ [])
    (done : later.awaited = []) : IsMark c := by
  unfold Pending.next? at next
  split at next
  · split at next
    · obtain rfl := Option.some.inj next
      cases done
    · split at next
      · next closes => exact isMark_of_opener? closes
      · obtain rfl := Option.some.inj next
        exact absurd done awaiting
  · obtain rfl := Option.some.inj next
    exact absurd done awaiting

theorem exists_append_of_untilClosed? {pending : Pending} {text inside after : Text}
    (found : untilClosed? pending text = some (inside, after)) (awaiting : pending.awaited ≠ []) :
    ∃ closing, text = inside ++ closing :: after ∧ IsMark closing := by
  induction text generalizing pending inside with
  | nil => simp [untilClosed?] at found
  | cons c rest ih =>
    rw [untilClosed?] at found
    split at found
    · cases found
    · next later next =>
      split at found
      · next done =>
        obtain ⟨rfl, rfl⟩ : [] = inside ∧ rest = after := by simpa using found
        exact ⟨c, rfl, isMark_of_next? next awaiting (by simpa using done)⟩
      · next more =>
        obtain ⟨⟨inner, behind⟩, read, same⟩ := Option.map_eq_some_iff.1 found
        obtain ⟨rfl, rfl⟩ : c :: inner = inside ∧ behind = after := by simpa using same
        obtain ⟨closing, rfl, mark⟩ := ih read (by simpa using more)
        exact ⟨closing, rfl, mark⟩

/-- A group is an opening bracket, the inside, a closing bracket and the rest. -/
theorem exists_append_of_group? {text inside after : Text}
    (found : group? text = some (inside, after)) :
    ∃ opening closing, text = opening :: (inside ++ closing :: after) ∧ IsMark opening ∧
      IsMark closing := by
  cases text with
  | nil => simp [group?] at found
  | cons c rest =>
    simp only [group?, Option.bind_eq_bind, Option.bind_eq_some_iff] at found
    obtain ⟨closer, opens, closed⟩ := found
    obtain ⟨closing, rfl, mark⟩ := exists_append_of_untilClosed? closed (by simp)
    exact ⟨c, closing, rfl, isMark_of_closer? (by simp [opens]), mark⟩

theorem standsApart_of_group? {text inside after : Text}
    (found : group? text = some (inside, after)) : text.StandsApart 1 inside := by
  obtain ⟨opening, closing, rfl, ⟨size, opens⟩, _, closes⟩ := exists_append_of_group? found
  exact ⟨[opening], closing :: after, by simp, by simp [size], Text.endsApart_concat [] opens,
    Text.startsApart_cons after closes⟩

theorem isSuffix_of_group? {text inside after : Text}
    (found : group? text = some (inside, after)) : after <:+ text := by
  obtain ⟨opening, closing, rfl, _⟩ := exists_append_of_group? found
  exact ⟨opening :: (inside ++ [closing]), by simp⟩

theorem exists_append_of_untilOpened? {awaited : List Char} {text inside beyond : Text}
    (found : untilOpened? awaited text = some (inside, beyond)) (awaiting : awaited ≠ []) :
    ∃ opening, text = inside ++ opening :: beyond ∧ IsMark opening := by
  induction text generalizing awaited inside with
  | nil => simp [untilOpened?] at found
  | cons c rest ih =>
    rw [untilOpened?] at found
    split at found
    · cases found
    · next later next =>
      split at found
      · next done =>
        obtain ⟨rfl, rfl⟩ : [] = inside ∧ rest = beyond := by simpa using found
        refine ⟨c, rfl, isMark_of_closer? ?_⟩
        -- Only an opening bracket takes the last awaited one away.
        obtain rfl : later = [] := by simpa using done
        unfold nextOpener? at next
        split at next
        · cases next
        · split at next
          · assumption
          · exact absurd (Option.some.inj next) awaiting
      · next more =>
        obtain ⟨⟨inner, behind⟩, read, same⟩ := Option.map_eq_some_iff.1 found
        obtain ⟨rfl, rfl⟩ : c :: inner = inside ∧ behind = beyond := by simpa using same
        obtain ⟨opening, rfl, mark⟩ := ih read (by simpa using more)
        exact ⟨opening, rfl, mark⟩

/-- Read backwards, a group is a closing bracket, the inside, an opening bracket and what stands
before it. -/
theorem exists_append_of_groupBefore? {text inside outside : Text}
    (found : groupBefore? text = some (inside, outside)) :
    ∃ closing opening, text = closing :: (inside ++ opening :: outside) ∧ IsMark closing ∧
      IsMark opening := by
  cases text with
  | nil => simp [groupBefore?] at found
  | cons c rest =>
    simp only [groupBefore?, Option.bind_eq_bind, Option.bind_eq_some_iff] at found
    obtain ⟨opener, closes, opened⟩ := found
    obtain ⟨opening, rfl, mark⟩ := exists_append_of_untilOpened? opened (by simp)
    exact ⟨c, opening, rfl, isMark_of_opener? (by simp [closes]), mark⟩

theorem segmentsFrom_ne_nil (nesting : Nesting) (text : Text) : segmentsFrom nesting text ≠ [] := by
  induction text generalizing nesting with
  | nil => simp [segmentsFrom]
  | cons c rest ih =>
    rw [segmentsFrom]
    split
    · simp
    · simpa using ih (nesting.next c)

/-- The segments with commas between them are the text again. -/
theorem intercalate_segmentsFrom (nesting : Nesting) (text : Text) :
    [','].intercalate (segmentsFrom nesting text) = text := by
  induction text generalizing nesting with
  | nil => simp [segmentsFrom]
  | cons c rest ih =>
    rw [segmentsFrom]
    split
    · next comma =>
      obtain ⟨rfl, _⟩ : c = ',' ∧ nesting = Nesting.top := by simpa using comma
      rw [List.intercalate_cons_of_ne_nil (segmentsFrom_ne_nil _ _), ih]
      rfl
    · have whole := ih (nesting.next c)
      obtain ⟨head, others, segments⟩ :=
        List.exists_cons_of_ne_nil (segmentsFrom_ne_nil (nesting.next c) rest)
      rw [segments] at whole ⊢
      rw [List.modifyHead_cons, ← whole]
      cases others with
      | nil => simp
      | cons second others => simp [List.intercalate_cons_cons]

/-- A segment stands in the list where its offset says, between commas. -/
theorem standsApart_of_mem_withOffsets {segments : List Text} {segment : Text} {offset start : Nat}
    (member : (start, segment) ∈ withOffsets offset segments) :
    ∃ column, start = offset + column ∧
      StandsApart ([','].intercalate segments) column segment := by
  induction segments generalizing offset with
  | nil => cases member
  | cons first rest ih =>
    rcases List.mem_cons.1 member with same | later
    · obtain ⟨rfl, rfl⟩ := Prod.mk.inj same
      refine ⟨0, rfl, ?_⟩
      cases rest with
      | nil => simpa using StandsApart.whole segment
      | cons second others =>
        rw [List.intercalate_cons_cons, List.append_assoc]
        exact .of_append (Text.startsApart_cons _ rfl)
    · obtain ⟨column, rfl, stands⟩ := ih later
      have others : rest ≠ [] := by
        rintro rfl
        cases later
      refine ⟨Text.utf8Length first + 1 + column, by omega, ?_⟩
      rw [List.intercalate_cons_of_ne_nil others]
      exact StandsApart.trans ⟨first ++ [','], [], by simp, by simp; rfl,
        Text.endsApart_concat first rfl, Text.startsApart_nil⟩ stands

theorem eq_append_of_atColon? {nesting : Nesting} {text before after : Text}
    (found : atColon? nesting text = some (before, after)) : text = before ++ ':' :: after := by
  induction text generalizing nesting before with
  | nil => simp [atColon?] at found
  | cons c rest ih =>
    rw [atColon?] at found
    split at found
    · next colon =>
      obtain ⟨rfl, rfl⟩ : [] = before ∧ rest = after := by simpa using found
      obtain ⟨rfl, _⟩ : c = ':' ∧ nesting = Nesting.top := by simpa using colon
      rfl
    · obtain ⟨⟨inner, behind⟩, read, same⟩ := Option.map_eq_some_iff.1 found
      obtain ⟨rfl, rfl⟩ : c :: inner = before ∧ behind = after := by simpa using same
      rw [List.cons_append, ih read]

theorem eq_append_of_atEquals? {nesting : Nesting} {text before after : Text}
    (found : atEquals? nesting text = some (before, after)) : text = before ++ '=' :: after := by
  fun_induction atEquals? nesting text generalizing before with
  | case1 => cases found
  | case2 nesting c top =>
    obtain ⟨rfl, rfl⟩ : [] = before ∧ [] = after := by simpa using found
    obtain ⟨rfl, _⟩ : c = '=' ∧ nesting = Nesting.top := by simpa using top
    rfl
  | case3 nesting c top d beyond operator ih =>
    obtain ⟨⟨inner, behind⟩, read, same⟩ := Option.map_eq_some_iff.1 found
    obtain ⟨rfl, rfl⟩ : c :: d :: inner = before ∧ behind = after := by simpa using same
    rw [List.cons_append, List.cons_append, ← ih read]
  | case4 nesting c top d beyond assignment =>
    obtain ⟨rfl, rfl⟩ : [] = before ∧ d :: beyond = after := by simpa using found
    obtain ⟨rfl, _⟩ : c = '=' ∧ nesting = Nesting.top := by simpa using top
    rfl
  | case5 nesting c rest other ih =>
    obtain ⟨⟨inner, behind⟩, read, same⟩ := Option.map_eq_some_iff.1 found
    obtain ⟨rfl, rfl⟩ : c :: inner = before ∧ behind = after := by simpa using same
    rw [List.cons_append, ← ih read]

end Bracket

namespace Binding

theorem standsApart_target (element : Text) :
    element.StandsApart (targetOffset element) (target element) := by
  refine (Text.standsApart_trim element).trans ?_
  unfold target
  split
  · simpa using StandsApart.whole (Text.trim element)
  · next rest dots =>
    -- White space or the last dot stands before the target of a rest element.
    have blanks : ∀ c ∈ rest.takeWhile Text.isBlank, Text.isBlank c = true :=
      List.all_eq_true.1 List.all_takeWhile
    have split : Text.trim element =
        (['.', '.', '.'] ++ rest.takeWhile Text.isBlank) ++ Text.trimStart rest := by
      rw [Text.eq_append_of_dropLead? dots, List.append_assoc, Text.trimStart,
        List.takeWhile_append_dropWhile]
    have dotted : Text.EndsApart ['.', '.', '.'] := Text.endsApart_concat ['.', '.'] rfl
    rw [split]
    exact .of_read (dotted.append (Text.endsApart_of_blank blanks))

theorem exists_append_of_behindComputedKey? {text element : Text}
    (found : behindComputedKey? text = some element) : ∃ key, text = key ++ ':' :: element := by
  simp only [behindComputedKey?, Option.bind_eq_bind, Option.bind_eq_some_iff] at found
  obtain ⟨⟨inside, after⟩, group, colon⟩ := found
  obtain ⟨key, split⟩ := (Text.trimStart_isSuffix after).trans (Bracket.isSuffix_of_group? group)
  exact ⟨key, by rw [← split, Text.eq_append_of_dropLead? colon]; rfl⟩

theorem exists_append_of_behindKey? {text element : Text}
    (found : behindKey? text = some element) : ∃ key, text = key ++ ':' :: element := by
  unfold behindKey? at found
  split at found
  · cases found
  · next key behind colon _ =>
    obtain rfl := Option.some.inj found
    exact ⟨key, Bracket.eq_append_of_atColon? colon⟩
  · next key behind before after colon _ =>
    split at found
    · obtain rfl := Option.some.inj found
      exact ⟨key, Bracket.eq_append_of_atColon? colon⟩
    · cases found

/-- What a shape passes on is a part of the target. -/
def Shape.PartOf (text : Text) : Shape → Prop
  | .keyed element => ∃ key, text = key ++ ':' :: element
  | .nested _ inside => text.StandsApart 1 inside
  | .word name => text.StandsApart 0 name
  | .unreadable => True

theorem unkeyedShape_partOf (text : Text) : (unkeyedShape text).PartOf text := by
  unfold unkeyedShape
  split
  · split
    · next group => exact Bracket.standsApart_of_group? group
    · trivial
  · split
    · next before after equals =>
      obtain ⟨blank, split, blanks⟩ := Text.exists_append_trimEnd before
      have whole : text = Text.trimEnd before ++ (blank ++ '=' :: after) := by
        rw [← List.append_assoc, ← split]
        exact Bracket.eq_append_of_atEquals? equals
      rw [whole]
      exact .of_append ((Text.startsApart_of_blank blanks).append (Text.startsApart_cons after rfl))
    · exact .whole text

theorem shape_partOf (context : Context) (text : Text) : (shape context text).PartOf text := by
  unfold shape
  split
  · exact unkeyedShape_partOf text
  · split
    · cases found : behindComputedKey? text with
      | none => trivial
      | some element => exact exists_append_of_behindComputedKey? found
    · split
      · exact unkeyedShape_partOf text
      · cases found : behindKey? text with
        | none => exact unkeyedShape_partOf text
        | some element => exact exists_append_of_behindKey? found

/-- A binding names a valid word that stands apart in `text`, where `text` itself starts at
`offset`. -/
def FoundIn (text : Text) (offset : Nat) (binding : Binding) : Prop :=
  ∃ column, binding.offset = offset + column ∧ text.StandsApart column binding.name ∧
    Identifier.isValid binding.name = true

theorem FoundIn.bounds {text : Text} {offset : Nat} {binding : Binding}
    (found : binding.FoundIn text offset) :
    offset ≤ binding.offset ∧
      binding.offset + Text.utf8Length binding.name ≤ offset + Text.utf8Length text := by
  obtain ⟨column, same, ⟨before, after, rfl, rfl, _⟩, _⟩ := found
  simp only [Text.utf8Length_append]
  omega

theorem FoundIn.of_part {text part : Text} {offset column : Nat} {binding : Binding}
    (found : binding.FoundIn part (offset + column)) (place : text.StandsApart column part) :
    binding.FoundIn text offset := by
  obtain ⟨inner, same, stands, valid⟩ := found
  exact ⟨column + inner, by omega, place.trans stands, valid⟩

theorem FoundIn.of_segment {nesting : Bracket.Nesting} {list segment : Text} {offset start : Nat}
    {binding : Binding} (found : binding.FoundIn segment start)
    (listed : (start, segment) ∈ Bracket.withOffsets offset (Bracket.segmentsFrom nesting list)) :
    binding.FoundIn list offset := by
  obtain ⟨column, rfl, place⟩ := Bracket.standsApart_of_mem_withOffsets listed
  rw [Bracket.intercalate_segmentsFrom] at place
  exact found.of_part place

section Equations

variable {context : Context} {offset : Nat} {element : Text}

theorem ofElement_of_word {name : Text} (read : shape context (target element) = .word name) :
    ofElement context offset element =
      if Identifier.isValid name then [⟨name, offset + targetOffset element⟩] else [] := by
  rw [ofElement]
  split <;> rename_i other <;> cases read.symm.trans other
  rfl

theorem ofElement_of_nested {inner : Context} {inside : Text}
    (read : shape context (target element) = .nested inner inside) :
    ofElement context offset element = ofList inner (offset + targetOffset element + 1) inside := by
  rw [ofElement]
  split <;> rename_i other <;> cases read.symm.trans other
  rw [ofList, List.flatMap_subtype fun _ _ => rfl, List.unattach_attach]

theorem ofElement_of_keyed {inner : Text}
    (read : shape context (target element) = .keyed inner) :
    ofElement context offset element = ofElement .list (offset + targetOffset element +
      (Text.utf8Length (target element) - Text.utf8Length inner)) inner := by
  rw [ofElement]
  split <;> rename_i other <;> cases read.symm.trans other
  rfl

theorem ofElement_of_unreadable (read : shape context (target element) = .unreadable) :
    ofElement context offset element = [] := by
  rw [ofElement]
  split <;> rename_i other <;> cases read.symm.trans other
  rfl

end Equations

/-- Every name that an element binds stands in it. -/
theorem foundIn_of_mem_ofElement {context : Context} {offset : Nat} {element : Text}
    {binding : Binding} (member : binding ∈ ofElement context offset element) :
    binding.FoundIn element offset := by
  fun_induction ofElement context offset element with
  | case1 context offset element inner read ih =>
    have part := shape_partOf context (target element)
    rw [read] at part
    obtain ⟨key, split⟩ := part
    have behind : (target element).StandsApart
        (Text.utf8Length (target element) - Text.utf8Length inner) inner := by
      rw [split, List.append_cons]
      exact .of_read (Text.endsApart_concat key rfl)
    exact ((ih member).of_part behind).of_part (standsApart_target element)
  | case2 context offset element inner inside read ih =>
    have part := shape_partOf context (target element)
    rw [read] at part
    obtain ⟨⟨⟨start, segment⟩, listed⟩, _, bound⟩ := List.mem_flatMap.1 member
    have inSegment := (ih start segment listed bound).of_segment listed
    exact (inSegment.of_part part).of_part (standsApart_target element)
  | case3 context offset element name read valid =>
    have part := shape_partOf context (target element)
    rw [read] at part
    obtain rfl := List.mem_singleton.1 member
    exact ⟨targetOffset element, rfl, (standsApart_target element).trans part, valid⟩
  | case4 => cases member
  | case5 => cases member

/-- Every name that a list binds stands in it. -/
theorem foundIn_of_mem_ofList {context : Context} {offset : Nat} {list : Text} {binding : Binding}
    (member : binding ∈ ofList context offset list) : binding.FoundIn list offset := by
  obtain ⟨⟨start, segment⟩, listed, bound⟩ := List.mem_flatMap.1 member
  exact (foundIn_of_mem_ofElement bound).of_segment listed

end Binding

namespace Occurrence

theorem standsApart_of_mem_collect {cursor : Cursor} {before text : Text} {occurrence : Occurrence}
    (member : occurrence ∈ collect cursor before text) :
    StandsApart (before.reverse ++ text) occurrence.column occurrence.name := by
  induction text generalizing cursor before with
  | nil => cases member
  | cons c rest ih =>
    have shifted : (c :: before).reverse ++ rest = before.reverse ++ c :: rest := by simp
    rw [← shifted]
    rw [collect] at member
    split at member
    · cases member
    · split at member
      · next usage =>
        rcases List.mem_cons.1 member with rfl | later
        · refine ⟨before.reverse, rest.dropWhile Identifier.isPart, by simp, by simp, ?_, ?_⟩
          · simp only [startsAt, Bool.and_eq_true, Bool.not_eq_true'] at usage
            intro d last
            rw [List.getLast?_reverse, Option.mem_def] at last
            simpa [last] using usage.2.1.2
          · intro d head
            have stopped := List.head?_dropWhile_not Identifier.isPart rest
            rw [Option.mem_def] at head
            rw [head] at stopped
            simpa using stopped
        · exact ih later
      · exact ih member

/-- Every usage on a line stands in it as a whole word. -/
theorem standsApart_of_mem_ofLine {line : Text} {occurrence : Occurrence}
    (member : occurrence ∈ ofLine line) : line.StandsApart occurrence.column occurrence.name :=
  standsApart_of_mem_collect member

end Occurrence

end TemplateNav
