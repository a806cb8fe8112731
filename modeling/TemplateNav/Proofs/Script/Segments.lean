import TemplateNav.Proofs.Script.Grammar

/-!
# Lists and their top-level segments

A list is cut at the commas outside all brackets and literals, and behind such a comma the
scan is where it was at the start.  So a segment is scanned from there as well and holds
nothing that the scan would cut at.  Nothing but the commas is lost, and a list that is
continued behind one more such comma has its segments and those of what follows.
-/

namespace TemplateNav

namespace Bracket

section Joining

variable (segment : Text) (earlier later : List Text)

theorem intercalate_cons :
    [','].intercalate (segment :: later) = segment ++ later.flatMap (',' :: ·) := by
  induction later generalizing segment with
  | nil => simp
  | cons next later ih =>
    rw [List.intercalate_cons_cons, ih, List.flatMap_cons]
    simp

/-- Joined segments are those before one of them, that one, and those behind it, each with the comma
on its other side. -/
theorem intercalate_append :
    [','].intercalate (earlier ++ segment :: later) =
      earlier.flatMap (· ++ [',']) ++ (segment ++ later.flatMap (',' :: ·)) := by
  induction earlier with
  | nil => exact intercalate_cons segment later
  | cons first earlier ih =>
    rw [List.cons_append, List.intercalate_cons_of_ne_nil (by simp), ih, List.flatMap_cons,
      List.append_assoc _ (List.flatMap _ _)]

theorem intercalate_concat_comma :
    [','].intercalate (segment :: later) ++ [','] = (segment :: later).flatMap (· ++ [',']) := by
  induction later generalizing segment with
  | nil => simp
  | cons next later ih =>
    rw [List.intercalate_cons_cons, List.flatMap_cons, ← ih, List.append_assoc _ _ [',']]

end Joining

section Offsets

theorem map_snd_withOffsets (offset : Nat) (segments : List Text) :
    (withOffsets offset segments).map Prod.snd = segments := by
  induction segments generalizing offset with
  | nil => rfl
  | cons segment rest ih => rw [withOffsets, List.map_cons, ih]

theorem withOffsets_append (offset : Nat) (left right : List Text) :
    withOffsets offset (left ++ right) = withOffsets offset left ++
      withOffsets (offset + Text.utf8Length (left.flatMap (· ++ [',']))) right := by
  induction left generalizing offset with
  | nil => rfl
  | cons segment left ih =>
    have width : Text.utf8Length [','] = 1 := rfl
    rw [List.cons_append, withOffsets, withOffsets, ih, List.cons_append, List.flatMap_cons,
      Text.utf8Length_append, Text.utf8Length_append, width, ← Nat.add_assoc, ← Nat.add_assoc]

theorem withOffsets_add (offset shift : Nat) (segments : List Text) :
    withOffsets (offset + shift) segments =
      (withOffsets offset segments).map fun item => (item.1 + shift, item.2) := by
  induction segments generalizing offset with
  | nil => rfl
  | cons segment rest ih =>
    have next : offset + shift + Text.utf8Length segment + 1 =
        offset + Text.utf8Length segment + 1 + shift := by omega
    rw [withOffsets, withOffsets, List.map_cons, next, ih]

/-- The offset of a segment counts the bytes of those before it and a comma for each. -/
theorem offset_of_withOffsets {offset : Nat} {segments : List Text}
    {earlier later : List (Nat × Text)} {item : Nat × Text}
    (split : withOffsets offset segments = earlier ++ item :: later) :
    item.1 = offset + Text.utf8Length (earlier.flatMap fun before => before.2 ++ [',']) := by
  have texts := congrArg (List.map Prod.snd) split
  rw [map_snd_withOffsets, List.map_append, List.map_cons] at texts
  rw [texts, withOffsets_append, withOffsets] at split
  have lengths : (withOffsets offset (earlier.map Prod.snd)).length = earlier.length := by
    rw [← List.length_map, map_snd_withOffsets, List.length_map]
  have same := (List.cons.inj (List.append_inj_right split lengths)).1
  rw [← same, List.flatMap_map]

end Offsets

section Scans

variable {nesting : Nesting} {text segment : Text}

/-- A list is scanned on behind a top-level comma as from its start. -/
theorem segmentsFrom_append_comma {left : Text} (closed : nesting.after left = Nesting.top)
    (right : Text) : segmentsFrom nesting (left ++ ',' :: right) =
      segmentsFrom nesting left ++ segmentsFrom Nesting.top right := by
  induction left generalizing nesting with
  | nil =>
    obtain rfl : nesting = Nesting.top := closed
    rfl
  | cons c left ih =>
    have closedLater : (nesting.next c).after left = Nesting.top := closed
    rw [List.cons_append]
    by_cases comma : c = ',' ∧ nesting = Nesting.top
    · obtain ⟨rfl, rfl⟩ := comma
      rw [segmentsFrom, if_pos (by decide), segmentsFrom, if_pos (by decide),
        ih (show Nesting.top.after left = Nesting.top from closed), List.cons_append]
    · obtain ⟨head, others, segments⟩ :=
        List.exists_cons_of_ne_nil (segmentsFrom_ne_nil (nesting.next c) left)
      rw [segmentsFrom_cons comma, segmentsFrom_cons comma, ih closedLater, segments,
        List.cons_append, List.modifyHead_cons, List.modifyHead_cons, List.cons_append]

/-- The first segment is scanned again from where the scan began, and each other one from the top
level, and none of them is cut. -/
theorem segmentsFrom_of_segments {others : List Text}
    (segments : segmentsFrom nesting text = segment :: others) :
    segmentsFrom nesting segment = [segment] ∧
      ∀ other ∈ others, segmentsFrom Nesting.top other = [other] := by
  induction text generalizing nesting segment others with
  | nil =>
    obtain ⟨rfl, rfl⟩ := List.cons.inj segments
    exact ⟨rfl, by simp⟩
  | cons c rest ih =>
    by_cases comma : c = ',' ∧ nesting = Nesting.top
    · obtain ⟨rfl, rfl⟩ := comma
      rw [segmentsFrom, if_pos (by decide)] at segments
      obtain ⟨rfl, rfl⟩ := List.cons.inj segments
      obtain ⟨head, behind, later⟩ :=
        List.exists_cons_of_ne_nil (segmentsFrom_ne_nil Nesting.top rest)
      rw [later]
      exact ⟨rfl, List.forall_mem_cons.2 (ih later)⟩
    · obtain ⟨head, behind, later⟩ :=
        List.exists_cons_of_ne_nil (segmentsFrom_ne_nil (nesting.next c) rest)
      obtain ⟨uncut, othersUncut⟩ := ih later
      rw [segmentsFrom_cons comma, later, List.modifyHead_cons] at segments
      obtain ⟨rfl, rfl⟩ := List.cons.inj segments
      refine ⟨?_, othersUncut⟩
      rw [segmentsFrom_cons comma, uncut, List.modifyHead_cons]

theorem segmentsFrom_of_mem (member : segment ∈ segmentsFrom Nesting.top text) :
    segmentsFrom Nesting.top segment = [segment] := by
  obtain ⟨head, others, segments⟩ :=
    List.exists_cons_of_ne_nil (segmentsFrom_ne_nil Nesting.top text)
  rw [segments] at member
  obtain ⟨uncut, othersUncut⟩ := segmentsFrom_of_segments segments
  rcases List.mem_cons.1 member with rfl | later
  · exact uncut
  · exact othersUncut segment later

/-- With a comma behind each, the segments take up the bytes of the text and one more. -/
theorem utf8Length_segments (nesting : Nesting) (text : Text) :
    Text.utf8Length ((segmentsFrom nesting text).flatMap (· ++ [','])) =
      Text.utf8Length text + 1 := by
  obtain ⟨head, others, segments⟩ :=
    List.exists_cons_of_ne_nil (segmentsFrom_ne_nil nesting text)
  rw [segments, ← intercalate_concat_comma, ← segments, intercalate_segmentsFrom,
    Text.utf8Length_append]
  rfl

end Scans

/-- **A list is its top-level segments.** Joined with commas they are the list, each stands at its
offset between those before it and those behind it, and none is split again.  Behind a text that
ends outside all brackets and literals a comma splits, and what follows is split on its own. -/
theorem top_level_split_composes :
    (∀ text : Text,
      [','].intercalate ((splitTopLevel text).map Prod.snd) = text ∧
      (∀ earlier start segment later,
        splitTopLevel text = earlier ++ (start, segment) :: later →
          start = Text.utf8Length (earlier.flatMap fun item => item.2 ++ [',']) ∧
          text = earlier.flatMap (fun item => item.2 ++ [',']) ++
            (segment ++ later.flatMap fun item => ',' :: item.2)) ∧
      ∀ start segment, (start, segment) ∈ splitTopLevel text →
        splitTopLevel segment = [(0, segment)]) ∧
    ∀ left right : Text, Nesting.top.after left = Nesting.top →
      splitTopLevel (left ++ ',' :: right) = splitTopLevel left ++
        (splitTopLevel right).map
          fun (start, segment) => (start + (Text.utf8Length left + 1), segment) := by
  refine ⟨fun text => ⟨?_, ?_, ?_⟩, ?_⟩
  · rw [splitTopLevel, map_snd_withOffsets, intercalate_segmentsFrom]
  · intro earlier start segment later split
    have offset := offset_of_withOffsets split
    have texts := congrArg (List.map Prod.snd) split
    rw [splitTopLevel, map_snd_withOffsets, List.map_append, List.map_cons] at texts
    have joined := intercalate_segmentsFrom Nesting.top text
    rw [texts, intercalate_append, List.flatMap_map, List.flatMap_map] at joined
    exact ⟨by simpa using offset, joined.symm⟩
  · intro start segment member
    rw [splitTopLevel, segmentsFrom_of_mem (mem_of_mem_withOffsets member)]
    rfl
  · intro left right closed
    rw [splitTopLevel, segmentsFrom_append_comma closed, withOffsets_append, utf8Length_segments,
      withOffsets_add]
    rfl

/-- A text with an unopened bracket and a literal that escapes a character of four bytes, each with
a comma next to it, and one more element behind it. -/
theorem top_level_split_composes_behind_literal :
    let left : Text := ['é', ')', ',', '"', '\\', '😀', ',', '"']
    let right : Text := ['[', ',', ']']
    Nesting.top.after left = Nesting.top ∧
      splitTopLevel (left ++ ',' :: right) =
        [(0, ['é', ')']), (4, ['"', '\\', '😀', ',', '"']), (13, ['[', ',', ']'])] ∧
      splitTopLevel ['"', '\\', '😀', ',', '"'] = [(0, ['"', '\\', '😀', ',', '"'])] := by
  intro left right
  obtain ⟨whole, composes⟩ := top_level_split_composes
  have closed : Nesting.top.after left = Nesting.top := by decide
  have first : splitTopLevel left = [(0, ['é', ')']), (4, ['"', '\\', '😀', ',', '"'])] := by
    decide +kernel
  have second : splitTopLevel right = [(0, ['[', ',', ']'])] := by decide +kernel
  refine ⟨closed, ?_, (whole left).2.2 4 _ (by simp [first])⟩
  rw [composes left right closed, first, second]
  rfl

end Bracket

end TemplateNav
