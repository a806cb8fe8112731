import TemplateNav.Text.Basic

/-!
# The bytes of a text

Offsets count the bytes that a text has in UTF-8.  A character of one byte is found among
these bytes only where it stands in the text, since no other character has that byte, be it
as its first or as a later one.
-/

namespace TemplateNav

namespace Text

/-- The bytes of a text in UTF-8. -/
def bytes (text : Text) : List UInt8 :=
  text.flatMap String.utf8EncodeChar

@[simp] theorem bytes_nil : bytes [] = [] := rfl

@[simp] theorem bytes_cons (c : Char) (rest : Text) :
    bytes (c :: rest) = String.utf8EncodeChar c ++ bytes rest := rfl

@[simp] theorem bytes_append (left right : Text) :
    bytes (left ++ right) = bytes left ++ bytes right :=
  List.flatMap_append

theorem length_bytes (text : Text) : (bytes text).length = utf8Length text := by
  induction text with
  | nil => rfl
  | cons c rest ih => simp [ih]

theorem toNat_toUInt8_of_single {c : Char} (single : c.utf8Size = 1) :
    c.toUInt8.toNat = c.toNat ∧ c.toNat < 128 := by
  have small : c.toNat ≤ 127 := UInt32.le_iff_toNat_le.1 (Char.utf8Size_eq_one_iff.1 single)
  have size : c.toUInt8.toNat = c.toNat % 256 := UInt32.toNat_toUInt8 c.val
  omega

theorem utf8EncodeChar_of_single {c : Char} (single : c.utf8Size = 1) :
    String.utf8EncodeChar c = [c.toUInt8] :=
  String.utf8EncodeChar_eq_singleton single

/-- All bytes of a character of more than one byte are large. -/
theorem le_of_mem_utf8EncodeChar {c : Char} (wide : c.utf8Size ≠ 1) {b : UInt8}
    (member : b ∈ String.utf8EncodeChar c) : 128 ≤ b.toNat := by
  have large : ¬ c.val.toNat ≤ 127 := by
    rwa [Ne, Char.utf8Size_eq_one_iff, UInt32.le_iff_toNat_le] at wide
  have byte {value : Nat} (least : 128 ≤ value) (most : value < 256) :
      128 ≤ (UInt8.ofNat value).toNat := by
    rwa [UInt8.toNat_ofNat', Nat.mod_eq_of_lt most]
  simp only [String.utf8EncodeChar, large, ↓reduceIte] at member
  split at member
  · simp only [List.mem_cons, List.not_mem_nil, or_false] at member
    rcases member with rfl | rfl <;> exact byte (by omega) (by omega)
  · split at member
    · simp only [List.mem_cons, List.not_mem_nil, or_false] at member
      rcases member with rfl | rfl | rfl <;> exact byte (by omega) (by omega)
    · simp only [List.mem_cons, List.not_mem_nil, or_false] at member
      rcases member with rfl | rfl | rfl | rfl <;> exact byte (by omega) (by omega)

theorem eq_of_toUInt8_eq {c mark : Char} (narrow : c.utf8Size = 1) (single : mark.utf8Size = 1)
    (same : c.toUInt8 = mark.toUInt8) : c = mark := by
  rw [← Char.toNat_inj, ← (toNat_toUInt8_of_single narrow).1, same,
    (toNat_toUInt8_of_single single).1]

/-- The byte of a character of one byte belongs to that character only. -/
theorem toUInt8_mem_utf8EncodeChar_iff {mark c : Char} (single : mark.utf8Size = 1) :
    mark.toUInt8 ∈ String.utf8EncodeChar c ↔ c = mark := by
  constructor
  · intro member
    by_cases narrow : c.utf8Size = 1
    · rw [utf8EncodeChar_of_single narrow, List.mem_singleton] at member
      exact eq_of_toUInt8_eq narrow single member.symm
    · have large := le_of_mem_utf8EncodeChar narrow member
      have small := toNat_toUInt8_of_single single
      omega
  · rintro rfl
    simp [utf8EncodeChar_of_single single]

/-- Where the bytes of a text hold that of a character of one byte, the character stands. -/
theorem exists_append_of_bytes_eq {mark : Char} (single : mark.utf8Size = 1) {text : Text}
    {before after : List UInt8} (split : bytes text = before ++ mark.toUInt8 :: after) :
    ∃ left right, text = left ++ mark :: right ∧ bytes left = before ∧ bytes right = after := by
  induction text generalizing before with
  | nil => simp at split
  | cons c rest ih =>
    -- What is left of `before` behind the bytes of the first character starts the others.
    have further {more : List UInt8} (lead : before = String.utf8EncodeChar c ++ more)
        (tail : bytes rest = more ++ mark.toUInt8 :: after) :
        ∃ left right, c :: rest = left ++ mark :: right ∧ bytes left = before ∧
          bytes right = after := by
      obtain ⟨left, right, rfl, rfl, rfl⟩ := ih tail
      exact ⟨c :: left, right, rfl, lead.symm, rfl⟩
    rw [bytes_cons] at split
    rcases List.append_eq_append_iff.1 split with ⟨more, lead, tail⟩ | ⟨within, encoded, tail⟩
    · exact further lead tail
    · cases within with
      | nil => exact @further [] (by simpa using encoded.symm) tail.symm
      | cons b within =>
        obtain ⟨rfl, behind⟩ := List.cons.inj tail
        obtain rfl : c = mark :=
          (toUInt8_mem_utf8EncodeChar_iff single).1 (by simp [encoded])
        rw [utf8EncodeChar_of_single single, List.singleton_eq_append_iff] at encoded
        obtain ⟨rfl, same⟩ | ⟨_, none⟩ := encoded
        · obtain ⟨_, rfl⟩ := List.cons.inj same
          exact ⟨[], rest, rfl, rfl, behind.symm⟩
        · cases none

end Text

end TemplateNav
