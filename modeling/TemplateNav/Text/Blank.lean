import TemplateNav.Text.Ranges

/-!
# White space

Blank characters are those with the Unicode White_Space property: the tab and
line controls, the next-line control, the no-break and Ogham spaces, the
typographic spaces and the two separators.
-/

namespace TemplateNav

namespace Text

/-- Code points with the White_Space property. -/
def blankRanges : List (Nat × Nat) :=
  [(0x9, 0xD), (0x20, 0x20), (0x85, 0x85), (0xA0, 0xA0), (0x1680, 0x1680), (0x2000, 0x200A),
   (0x2028, 0x2029), (0x202F, 0x202F), (0x205F, 0x205F), (0x3000, 0x3000)]

/-- White space, in the Unicode sense. -/
def isBlank (c : Char) : Bool :=
  inRanges blankRanges c

/-- A text without its leading white space. -/
def trimStart (text : Text) : Text :=
  text.dropWhile isBlank

/-- A text without its trailing white space. -/
def trimEnd : Text → Text
  | [] => []
  | c :: rest =>
    match trimEnd rest with
    | [] => if isBlank c then [] else [c]
    | kept => c :: kept

/-- A text without white space at either end. -/
def trim (text : Text) : Text :=
  trimEnd (trimStart text)

/-- Whether a text holds white space only. -/
def isBlankText (text : Text) : Bool :=
  text.all isBlank

theorem length_trimStart_le (text : Text) : (trimStart text).length ≤ text.length :=
  (List.dropWhile_sublist isBlank).length_le

theorem length_trimEnd_le (text : Text) : (trimEnd text).length ≤ text.length := by
  induction text with
  | nil => simp [trimEnd]
  | cons c rest ih =>
    rw [trimEnd]
    split
    · split <;> simp
    · next kept => simpa using ih

theorem length_trim_le (text : Text) : (trim text).length ≤ text.length :=
  Nat.le_trans (length_trimEnd_le _) (length_trimStart_le _)

end Text

end TemplateNav
