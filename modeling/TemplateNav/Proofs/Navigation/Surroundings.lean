import TemplateNav.Proofs.Navigation.Places
import TemplateNav.Proofs.Symbol.Shift

/-!
# Navigation between other text

The word at a cursor is read off a whole line of the document, and other text may
stand on that line before the first tag and behind the last.  Within a fragment
the delimiters of its tag keep such text apart from every word.  So text in front
that opens no tag and text behind that closes none change an answer only as far as
they shift the document.
-/

namespace TemplateNav

open Position (origin)

namespace Text

/-- A cut within the start of a line cuts that start. -/
theorem splitAtUnit_of_le {units : Nat} {front : Text} (within : units ≤ utf16Length front)
    (rest : Text) : splitAtUnit units (front ++ rest) =
      ((splitAtUnit units front).1, (splitAtUnit units front).2 ++ rest) := by
  induction front generalizing units with
  | nil =>
    obtain rfl : units = 0 := Nat.le_zero.1 within
    simp [splitAtUnit]
  | cons c front ih =>
    cases units with
    | zero => rfl
    | succ units =>
      rw [utf16Length_cons] at within
      rw [List.cons_append, splitAtUnit, splitAtUnit, ih (by omega)]

end Text

namespace Word

/-- Where a word is when `front` is put in front of its document. -/
def shifted (word : Word) (front : Text) : Word :=
  ⟨word.range.shifted front, word.text⟩

/-- The word at a cursor that stands on the given line. -/
def onLine (position : Position) (line : Text) : Option Word :=
  let (before, after) := Text.splitAtUnit position.character line
  let (outside, run, _) := around before after
  if run.isEmpty then none
  else some ⟨Range.ofLength ⟨position.line, Text.utf16Length outside⟩ (Text.utf16Length run), run⟩

theorem at?_eq_onLine (text : Text) (position : Position) :
    at? text position = (Lines.text? text position.line).bind (onLine position) := by
  unfold at?
  cases Lines.text? text position.line with
  | none => rfl
  | some line =>
    simp only [Option.bind_eq_bind, Option.bind_some, onLine]
    split
    · rfl
    · rfl

/-- More text on both sides of a line belongs to no word of it, if it is kept apart. -/
theorem around_frame (front before after rest : Text)
    (ends : (front ++ (around before after).1).EndsApart) (starts : rest.StartsApart) :
    around (front ++ before) (after ++ rest) =
      (front ++ (around before after).1, (around before after).2.1,
        (around before after).2.2 ++ rest) := by
  obtain ⟨left, right, before_eq, after_eq, run, parts, _, apart⟩ :=
    exists_append_around before after
  generalize around before after = split at *
  obtain ⟨outside, word, behind⟩ := split
  simp only at before_eq after_eq run apart ends ⊢
  subst before_eq after_eq run
  rw [← List.append_assoc, List.append_assoc right]
  exact around_append parts ends (Text.StartsApart.append apart starts)

/-- A line that is continued behind a cursor, apart from its words, has the same word there. -/
theorem onLine_append {position : Position} {line rest : Text}
    (within : position.character ≤ Text.utf16Length line) (starts : rest.StartsApart) :
    onLine position (line ++ rest) = onLine position line := by
  have cut := Text.splitAtUnit_of_le within rest
  unfold onLine
  rw [cut]
  generalize Text.splitAtUnit position.character line = split
  obtain ⟨before, after⟩ := split
  obtain ⟨_, _, _, _, _, _, ends, _⟩ := exists_append_around before after
  have frame := around_frame [] before after rest ends starts
  rw [List.nil_append, List.nil_append] at frame
  simp only [frame]

/-- In front of a character that belongs to no word, more text is kept apart from the run. -/
theorem endsApart_front_around (front after : Text) {before : Text} {c : Char}
    (other : Identifier.isPart c = false) (passed : c ∈ before) :
    (front ++ (around before after).1).EndsApart := by
  obtain ⟨left, right, before_eq, _, _, parts, apart, _⟩ := exists_append_around before after
  have outside : c ∈ (around before after).1 := by
    rw [before_eq] at passed
    rcases List.mem_append.1 passed with outside | inside
    · exact outside
    · have part := parts c (List.mem_append_left _ inside)
      exact absurd part (by simp [other])
  intro d final
  rw [List.getLast?_append, List.getLast?_eq_some_getLast (List.ne_nil_of_mem outside),
    Option.some_or, ← List.getLast?_eq_some_getLast] at final
  exact apart d final

/-- A first line that is continued at its start has the same word at a cursor, if some character
between that start and the cursor belongs to no word. -/
theorem onLine_front {position : Position} (front : Text) {line : Text} {c : Char}
    (first : position.line = 0) (other : Identifier.isPart c = false)
    (passed : c ∈ (Text.splitAtUnit position.character line).1) :
    onLine (position.shifted front) (Lines.last front ++ line) =
      (onLine position line).map (shifted · front) := by
  have cut := Text.splitAtUnit_add (Lines.last front) line position.character
  have column : (position.shifted front).character =
      Text.utf16Length (Lines.last front) + position.character := by
    rw [Position.shifted, if_pos first]
  unfold onLine
  rw [column, cut]
  generalize Text.splitAtUnit position.character line = split at passed
  obtain ⟨before, after⟩ := split
  have ends := endsApart_front_around (Lines.last front) after other passed
  have frame := around_frame _ before after [] ends Text.startsApart_nil
  rw [List.append_nil, List.append_nil] at frame
  simp only [frame]
  split
  · rfl
  · rw [Option.map_some, shifted, Range.shifted_ofLength]
    simp [Position.shifted, first]

/-- On a line other than the first the word at a cursor is shifted with the cursor. -/
theorem onLine_shifted {position : Position} (later : position.line ≠ 0) (front line : Text) :
    onLine (position.shifted front) line = (onLine position line).map (shifted · front) := by
  simp only [onLine, Position.shifted, if_neg later]
  split
  · rfl
  · rw [Option.map_some, shifted, Range.shifted_ofLength, Position.shifted, if_neg later]

end Word

namespace Fragment

variable {fragment : Fragment} {text before after : Text} {position : Position}

namespace PlacedIn

theorem stop_line (place : fragment.PlacedIn text before after) :
    fragment.stop.line = (before ++ fragment.content).count '\n' := by
  rw [place.stop_eq, Position.line_after]
  exact Nat.zero_add _

theorem stop_character (place : fragment.PlacedIn text before after) :
    fragment.stop.character = Text.utf16Length (Lines.last (before ++ fragment.content)) := by
  rw [place.stop_eq, Position.after_eq]
  simp [origin]

/-- On the line where the fragment ends, the word at a cursor is read before the closing
delimiter. -/
theorem at?_of_stop (place : fragment.PlacedIn text before after) (single : '\n' ∉ after)
    (touched : fragment.contains position = true) (stop : position.line = fragment.stop.line)
    (rest : Text) :
    Word.at? (text ++ rest) position =
      Word.onLine position (Lines.last (before ++ fragment.content)) := by
  obtain ⟨_, _, _, within⟩ := contains_iff.1 touched
  have reached := within stop
  rw [place.stop_line] at stop
  rw [place.stop_character] at reached
  have nonempty : after ≠ [] := by
    obtain ⟨blank, behind, rfl, _⟩ := place.closed
    simp
  obtain ⟨more, first⟩ := Lines.exists_raw_append single rest
  have read := Lines.text?_append (before ++ fragment.content) first
    (List.append_ne_nil_of_left_ne_nil nonempty more)
  have starts : Text.StartsApart (after ++ more) := by
    intro c head
    rw [List.head?_append_of_ne_nil _ nonempty] at head
    exact place.isPart_head_after c head
  obtain ⟨mark, line, _⟩ := Lines.exists_append_withoutReturn (after ++ more)
  rw [line] at starts
  rw [← List.append_assoc, ← place.split, ← stop] at read
  rw [Word.at?_eq_onLine, read, Option.bind_some, Word.onLine_append reached starts.left]

/-- More text behind a document changes no word in a fragment. -/
theorem at?_append (place : fragment.PlacedIn text before after)
    (touched : fragment.contains position = true) (rest : Text) :
    Word.at? (text ++ rest) position = Word.at? text position := by
  by_cases earlier : position.line < text.count '\n'
  · rw [Word.at?_eq_onLine, Word.at?_eq_onLine, Lines.text?, Lines.text?,
      Lines.raw_append_getElem?_of_lt earlier]
  · -- The cursor is on the last line, so the fragment ends there and no line feed follows it.
    obtain ⟨_, bound, _, _⟩ := contains_iff.1 touched
    have whole := congrArg (List.count '\n') place.split
    rw [List.count_append] at whole
    have stop := place.stop_line
    have single : '\n' ∉ after := List.count_eq_zero.1 (by omega)
    have here : position.line = fragment.stop.line := by omega
    have alone := place.at?_of_stop single touched here []
    rw [List.append_nil] at alone
    rw [place.at?_of_stop single touched here rest, alone]

theorem mem_before (place : fragment.PlacedIn text before after) : '%' ∈ before := by
  obtain ⟨lead, blank, rfl, _⟩ := place.opened
  obtain ⟨more, opener⟩ := fragment.tag.exists_opener
  simp [opener]

/-- On the first line of a document the opener of the fragment stands before a cursor in it. -/
theorem mem_before_cursor (place : fragment.PlacedIn text before after)
    (touched : fragment.contains position = true) (first : position.line = 0) {line : Text}
    (read : Lines.text? text position.line = some line) :
    '%' ∈ (Text.splitAtUnit position.character line).1 := by
  obtain ⟨lead, rest, here⟩ := Lines.exists_lineAt_of_text? read
  obtain ⟨started, _⟩ := place.cut_within touched here
  obtain rfl : lead = [] := by
    by_contra nonempty
    apply Position.not_after_le nonempty origin
    rw [here.origin_after, first]
    exact .inr ⟨rfl, Nat.le_refl _⟩
  rw [List.nil_append] at started
  have inText : before <+: text := ⟨fragment.content ++ after, by simp [place.split]⟩
  have cutInText : (Text.splitAtUnit position.character line).1 <+: text :=
    ⟨(Text.splitAtUnit position.character line).2 ++ rest, by
      rw [← List.append_assoc, Text.splitAtUnit_append, here.split, List.nil_append]⟩
  have opened := List.prefix_of_prefix_length_le inText cutInText started
  exact opened.subset place.mem_before

/-- More text in front of a document shifts every word in a fragment. -/
theorem at?_front (place : fragment.PlacedIn text before after)
    (touched : fragment.contains position = true) (front : Text) :
    Word.at? (front ++ text) (position.shifted front) =
      (Word.at? text position).map (Word.shifted · front) := by
  have lines := Lines.raw_append_getElem? front text position.line
  rw [Word.at?_eq_onLine, Word.at?_eq_onLine]
  by_cases first : position.line = 0
  · obtain ⟨lower, _, _, _⟩ := contains_iff.1 touched
    rw [place.start_eq, Position.line_after, first] at lower
    have single : '\n' ∉ before := List.count_eq_zero.1 (by omega)
    obtain ⟨more, line⟩ := Lines.exists_raw_append single (fragment.content ++ after)
    rw [← List.append_assoc, ← place.split] at line
    have read : Lines.text? text position.line = some (Lines.withoutReturn (before ++ more)) := by
      rw [Lines.text?, first, line, Option.map_some]
    have readBehind := Lines.text?_append front line
      (List.append_ne_nil_of_left_ne_nil (List.ne_nil_of_mem place.mem_before) more)
    have number : (position.shifted front).line = front.count '\n' := by
      rw [Position.shifted, first, Nat.add_zero]
    rw [number, readBehind, read, Option.bind_some, Option.bind_some]
    exact Word.onLine_front front first (by decide) (place.mem_before_cursor touched first read)
  · simp only [first, ↓reduceIte, Option.map_id'] at lines
    have same : Lines.text? (front ++ text) (position.shifted front).line =
        Lines.text? text position.line := congrArg (Option.map Lines.withoutReturn) lines
    rw [same]
    cases Lines.text? text position.line with
    | none => rfl
    | some line => exact Word.onLine_shifted first front line

/-- A fragment of a document stands at its place when more text follows. -/
theorem append (place : fragment.PlacedIn text before after) (rest : Text) :
    fragment.PlacedIn (text ++ rest) before (after ++ rest) where
  split := by rw [place.split, List.append_assoc]
  offset_eq := place.offset_eq
  start_eq := place.start_eq
  stop_eq := place.stop_eq
  opened := place.opened
  closed := by
    obtain ⟨blank, behind, rfl, blanks⟩ := place.closed
    exact ⟨blank, behind ++ rest, by simp, blanks⟩
  nonempty := place.nonempty
  head_solid := place.head_solid
  last_solid := place.last_solid

/-- Text on both sides of a document shifts every word in a fragment. -/
theorem at?_between (place : fragment.PlacedIn text before after)
    (touched : fragment.contains position = true) (front rest : Text) :
    Word.at? (front ++ (text ++ rest)) (position.shifted front) =
      (Word.at? text position).map (Word.shifted · front) := by
  rw [(place.append rest).at?_front touched, place.at?_append touched]

end PlacedIn

theorem contains_shifted (front : Text) (fragment : Fragment) (position : Position) :
    (fragment.shifted front).contains (position.shifted front) = fragment.contains position := by
  rw [Bool.eq_iff_iff, contains_iff_le, contains_iff_le]
  exact and_congr (Position.shifted_le_shifted front) (Position.shifted_le_shifted front)

theorem at?_shifted (front : Text) (fragments : List Fragment) (position : Position) :
    at? (fragments.map (shifted · front)) (position.shifted front) =
      (at? fragments position).map (shifted · front) := by
  rw [at?, at?, List.find?_map]
  congr 2
  funext fragment
  exact contains_shifted front fragment position

end Fragment

namespace Highlight

/-- Where a marked place is when `front` is put in front of its document. -/
def shifted (mark : Highlight) (front : Text) : Highlight :=
  { mark with range := mark.range.shifted front }

theorem ofSymbol_shifted (front : Text) (symbol : Symbol) :
    ofSymbol (symbol.shifted front) = (ofSymbol symbol).map (shifted · front) := by
  have places : positions (symbol.shifted front) =
      (positions symbol).map (Position.shifted · front) := by
    have known := Position.contains_map_shifted front symbol.references symbol.position
    simp only [positions, Symbol.shifted, known]
    split
    · rfl
    · rw [List.map_append, List.map_singleton]
  have sorted : ((positions symbol).map (Position.shifted · front)).mergeSort
      (fun first second => decide (first ≤ second)) =
      ((positions symbol).mergeSort fun first second => decide (first ≤ second)).map
        (Position.shifted · front) := by
    rw [List.map_mergeSort]
    intro first _ second _
    exact decide_eq_decide.2 (Position.shifted_le_shifted front).symm
  simp only [ofSymbol, places, sorted, List.map_map]
  apply List.map_congr_left
  intro start _
  simp [shifted, Symbol.shifted, Range.shifted_ofLength, Position.shifted_inj front]

end Highlight

namespace Analysis

variable {front text rest : Text}

theorem ofText_shifted (opens : Tag.OpensNothing front text)
    (closes : Tag.ClosesNothing text rest) :
    ofText (front ++ (text ++ rest)) = (ofText text).shifted front := by
  simp only [ofText, shifted, Fragment.extract_front_append opens closes, indexOf_shifted]

/-- A cursor in a document points at the same symbol when other text surrounds the document. -/
theorem symbolAt?_shifted (opens : Tag.OpensNothing front text)
    (closes : Tag.ClosesNothing text rest) (cursor : Position) :
    (ofText (front ++ (text ++ rest))).symbolAt? (front ++ (text ++ rest)) (cursor.shifted front) =
      ((ofText text).symbolAt? text cursor).map fun (symbol, range) =>
        (symbol.shifted front, range.shifted front) := by
  have touching := Fragment.at?_shifted front (Fragment.extract text) cursor
  rw [ofText_shifted opens closes]
  simp only [symbolAt?, shifted, ofText, touching]
  cases found : Fragment.at? (Fragment.extract text) cursor with
  | none => rfl
  | some fragment =>
    obtain ⟨before, after, place⟩ :=
      Fragment.exists_placedIn_of_mem_extract (List.mem_of_find?_eq_some found)
    unfold Fragment.at? at found
    have touched := List.find?_some found
    rw [place.at?_between touched]
    cases Word.at? text cursor with
    | none => rfl
    | some word =>
      have named := SymbolIndex.first?_shifted front (indexOf (Fragment.extract text)) word.text
      cases valid : Identifier.isValid word.text with
      | false => simp [Word.shifted, valid]
      | true =>
        cases first : (indexOf (Fragment.extract text)).first? word.text with
        | none => simp [Word.shifted, valid, named, first]
        | some symbol => simp [Word.shifted, valid, named, first]

/-- Text in front of a document that opens no tag, and text behind it that closes none, only shift
the document: fragments, symbols, buckets and answers stay the same otherwise. -/
theorem surroundings_only_shift (opens : Tag.OpensNothing front text)
    (closes : Tag.ClosesNothing text rest) :
    let document := front ++ text ++ rest
    ofText document = (ofText text).shifted front ∧
      Symbol.recognize (Fragment.extract document) =
        (Symbol.recognize (Fragment.extract text)).map (Symbol.shifted · front) ∧
      (∀ name, (ofText document).index.bucket name =
        ((ofText text).index.bucket name).map (Symbol.shifted · front)) ∧
      ∀ cursor : Position,
        (ofText document).definition? document (cursor.shifted front) =
          ((ofText text).definition? text cursor).map (Range.shifted · front) ∧
        (ofText document).highlights document (cursor.shifted front) =
          ((ofText text).highlights text cursor).map (Highlight.shifted · front) := by
  intro document
  have whole : document = front ++ (text ++ rest) := List.append_assoc front text rest
  rw [whole]
  refine ⟨ofText_shifted opens closes, ?_, ?_, ?_⟩
  · rw [Fragment.extract_front_append opens closes, Symbol.recognize_shifted]
  · intro name
    rw [ofText_shifted opens closes]
    exact SymbolIndex.bucket_shifted front _ name
  · intro cursor
    have pointed := symbolAt?_shifted opens closes cursor
    constructor
    · unfold definition?
      rw [pointed]
      cases (ofText text).symbolAt? text cursor with
      | none => rfl
      | some found => exact congrArg some (Symbol.range_shifted front found.1)
    · unfold highlights
      rw [pointed]
      cases (ofText text).symbolAt? text cursor with
      | none => rfl
      | some found => exact Highlight.ofSymbol_shifted front found.1

/-- A document between a line with a character of two code units and a continued last line; it
starts with the name of its symbol, and the cursor stands behind the last usage of that name. -/
theorem surroundings_only_shift_between_names :
    let front : Text := ['x', '\n', '😀', '%', '<', 'a']
    let text : Text := ['a', '<', '%', 'a', '=', '>', '\r', '\n', 'a', '%', '>', 'a', '%']
    let rest : Text := ['a', '>', '<', '%', '\n']
    let document := front ++ text ++ rest
    Tag.OpensNothing front text ∧ Tag.ClosesNothing text rest ∧
      (ofText document).definition? document ⟨2, 1⟩ = some ⟨⟨1, 8⟩, ⟨1, 9⟩⟩ ∧
      (ofText document).highlights document ⟨2, 1⟩ =
        ((ofText text).highlights text ⟨1, 1⟩).map (Highlight.shifted · front) := by
  intro front text rest document
  have opens : Tag.OpensNothing front text := ⟨by decide +kernel, by decide⟩
  have closes : Tag.ClosesNothing text rest := ⟨by decide +kernel, by decide⟩
  have defined : (ofText text).definition? text ⟨1, 1⟩ = some ⟨⟨0, 3⟩, ⟨0, 4⟩⟩ := by
    decide +kernel
  obtain ⟨_, _, _, answers⟩ := surroundings_only_shift opens closes
  obtain ⟨definition, highlights⟩ := answers ⟨1, 1⟩
  rw [defined] at definition
  exact ⟨opens, closes, definition, highlights⟩

end Analysis

end TemplateNav
