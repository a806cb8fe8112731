import TemplateNav.Proofs.Text.Placement
import TemplateNav.Script.Identifier

/-!
# Parts with no identifier character next to them

Identifier characters are ASCII letters, digits, `_` and `$`, so neither white
space nor punctuation belongs to a name.  A part of a text that such characters
or the ends of the text delimit stands apart from other names, and a part that
stands apart within it stands apart in the whole text as well.
-/

namespace TemplateNav

namespace Identifier

theorem toNat_of_isPart {c : Char} (part : isPart c = true) :
    0x24 ≤ c.toNat ∧ c.toNat ≤ 0x7A := by
  have letters : c.isAlpha =
      (decide ('A'.val ≤ c.val ∧ c.val ≤ 'Z'.val) || ('a'.val ≤ c.val && c.val ≤ 'z'.val)) := rfl
  have digits : c.isDigit = ('0'.val ≤ c.val && c.val ≤ '9'.val) := rfl
  simp only [isPart, Char.isAlphanum, letters, digits, Bool.or_eq_true, Bool.and_eq_true,
    decide_eq_true_eq, beq_iff_eq, UInt32.le_iff_toNat_le, Char.toNat_val,
    Char.reduceToNat] at part
  rcases part with (letterOrDigit | rfl) | rfl
  · omega
  · decide
  · decide

theorem isPart_eq_false_of_isBlank {c : Char} (blank : Text.isBlank c = true) :
    isPart c = false := by
  rw [Bool.eq_false_iff]
  intro part
  have bounds := toNat_of_isPart part
  simp only [Text.isBlank, Text.inRanges, Text.blankRanges, List.any_cons, List.any_nil,
    Bool.or_eq_true, Bool.and_eq_true, decide_eq_true_eq, Bool.or_false] at blank
  omega

theorem isPart_of_isStart {c : Char} (start : isStart c = true) : isPart c = true := by
  simp only [isStart, isPart, Char.isAlphanum, Bool.or_eq_true] at start ⊢
  rcases start with (letter | underscore) | dollar
  · exact .inl (.inl (.inl letter))
  · exact .inl (.inr underscore)
  · exact .inr dollar

theorem isPart_of_isValid {word : Text} (valid : isValid word = true) :
    ∀ c ∈ word, isPart c = true := by
  cases word with
  | nil => simp
  | cons first rest =>
    simp only [isValid, Bool.and_eq_true] at valid
    intro c member
    rcases List.mem_cons.1 member with rfl | later
    · exact isPart_of_isStart valid.1.1
    · exact List.all_eq_true.1 valid.1.2 c later

theorem ne_nil_of_isValid {word : Text} (valid : isValid word = true) : word ≠ [] := by
  rintro rfl
  cases valid

theorem isReserved_of_isValid {word : Text} (valid : isValid word = true) :
    isReserved word = false := by
  cases word with
  | nil => cases valid
  | cons first rest =>
    simp only [isValid, Bool.and_eq_true, Bool.not_eq_true'] at valid
    exact valid.2

theorem not_mem_of_isValid {word : Text} (valid : isValid word = true) : '\n' ∉ word := by
  intro newline
  exact absurd (isPart_of_isValid valid _ newline) (by decide)

/-- A word that is read is followed by no identifier character. -/
theorem eq_append_of_read? {text name rest : Text} (found : read? text = some (name, rest)) :
    text = name ++ rest ∧ ∀ c ∈ rest.head?, isPart c = false := by
  unfold read? at found
  split at found
  · cases found
  · next first others =>
    split at found
    · obtain ⟨rfl, rfl⟩ : _ = name ∧ _ = rest := by simpa using found
      refine ⟨by simp, ?_⟩
      intro c head
      have stopped := List.head?_dropWhile_not isPart others
      rw [Option.mem_def] at head
      rw [head] at stopped
      simpa using stopped
    · cases found

end Identifier

namespace Text

/-- No identifier character ends a text. -/
def EndsApart (text : Text) : Prop :=
  ∀ c ∈ text.getLast?, Identifier.isPart c = false

/-- No identifier character starts a text. -/
def StartsApart (text : Text) : Prop :=
  ∀ c ∈ text.head?, Identifier.isPart c = false

/-- `part` stands in `text` behind `offset` bytes, with no identifier character next to it. -/
def StandsApart (text : Text) (offset : Nat) (part : Text) : Prop :=
  ∃ before after, text = before ++ part ++ after ∧ utf8Length before = offset ∧
    before.EndsApart ∧ after.StartsApart

theorem endsApart_nil : EndsApart [] := by
  simp [EndsApart]

theorem startsApart_nil : StartsApart [] := by
  simp [StartsApart]

theorem endsApart_concat (text : Text) {c : Char} (other : Identifier.isPart c = false) :
    EndsApart (text ++ [c]) := by
  simpa [EndsApart] using other

theorem startsApart_cons {c : Char} (text : Text) (other : Identifier.isPart c = false) :
    StartsApart (c :: text) := by
  simpa [StartsApart] using other

theorem EndsApart.append {left right : Text} (first : left.EndsApart) (second : right.EndsApart) :
    EndsApart (left ++ right) := by
  intro c last
  rw [List.getLast?_append, Option.mem_def, Option.or_eq_some_iff] at last
  rcases last with inRight | ⟨_, inLeft⟩
  · exact second c inRight
  · exact first c inLeft

theorem StartsApart.append {left right : Text} (first : left.StartsApart)
    (second : right.StartsApart) : StartsApart (left ++ right) := by
  intro c head
  rw [List.head?_append, Option.mem_def, Option.or_eq_some_iff] at head
  rcases head with inLeft | ⟨_, inRight⟩
  · exact first c inLeft
  · exact second c inRight

theorem EndsApart.right {left right : Text} (ends : EndsApart (left ++ right)) :
    right.EndsApart := by
  intro c last
  apply ends c
  rw [Option.mem_def] at last
  rw [List.getLast?_append, last]
  rfl

theorem StartsApart.left {left right : Text} (starts : StartsApart (left ++ right)) :
    left.StartsApart := by
  intro c head
  apply starts c
  rw [Option.mem_def] at head
  rw [List.head?_append, head]
  rfl

theorem endsApart_of_blank {text : Text} (blanks : ∀ c ∈ text, isBlank c = true) :
    text.EndsApart :=
  fun c last => Identifier.isPart_eq_false_of_isBlank (blanks c (List.mem_of_getLast? last))

theorem startsApart_of_blank {text : Text} (blanks : ∀ c ∈ text, isBlank c = true) :
    text.StartsApart :=
  fun c head => Identifier.isPart_eq_false_of_isBlank (blanks c (List.mem_of_mem_head? head))

namespace StandsApart

theorem whole (text : Text) : text.StandsApart 0 text :=
  ⟨[], [], by simp, rfl, endsApart_nil, startsApart_nil⟩

theorem trans {text middle part : Text} {offset column : Nat}
    (outer : text.StandsApart offset middle) (inner : middle.StandsApart column part) :
    text.StandsApart (offset + column) part := by
  obtain ⟨before, after, rfl, rfl, endsBefore, startsAfter⟩ := outer
  obtain ⟨left, right, rfl, rfl, endsLeft, startsRight⟩ := inner
  exact ⟨before ++ left, right ++ after, by simp, by simp, endsBefore.append endsLeft,
    startsRight.append startsAfter⟩

theorem of_append {before after : Text} (starts : after.StartsApart) :
    StandsApart (before ++ after) 0 before :=
  ⟨[], after, by simp, rfl, endsApart_nil, starts⟩

/-- What is still to be read stands apart if no identifier character was read last. -/
theorem of_read {before rest : Text} (ends : before.EndsApart) :
    StandsApart (before ++ rest) (utf8Length (before ++ rest) - utf8Length rest) rest :=
  ⟨before, [], by simp, by simp, ends, startsApart_nil⟩

end StandsApart

theorem standsApart_trim (text : Text) :
    text.StandsApart (utf8Length text - utf8Length (trimStart text)) (trim text) := by
  obtain ⟨leading, trailing, split, leads, trails, size⟩ := exists_append_trim text
  exact ⟨leading, trailing, split, size, endsApart_of_blank leads, startsApart_of_blank trails⟩

end Text

namespace Identifier

theorem takeWhile_append {word after : Text} (parts : ∀ c ∈ word, isPart c = true)
    (starts : after.StartsApart) : (word ++ after).takeWhile isPart = word := by
  rw [List.takeWhile_append_of_pos parts]
  cases after with
  | nil => simp
  | cons c rest =>
    have other := starts c rfl
    simp [other]

theorem dropWhile_append {word after : Text} (parts : ∀ c ∈ word, isPart c = true)
    (starts : after.StartsApart) : (word ++ after).dropWhile isPart = after := by
  rw [List.dropWhile_append_of_pos parts]
  cases after with
  | nil => simp
  | cons c rest =>
    have other := starts c rfl
    simp [other]

end Identifier

end TemplateNav
