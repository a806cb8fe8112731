import TemplateNav.Text.Blank
import TemplateNav.Text.Scan

/-!
# Cuts of a text

A scan hands parts of a text on together with byte offsets.  Every cut that the
scans make, be it a trimmed end, a dropped lead or a suffix that is still to be
read, takes the text apart into pieces of known length and kind.
-/

namespace TemplateNav

namespace Text

@[simp] theorem utf8Length_reverse (text : Text) : utf8Length text.reverse = utf8Length text := by
  induction text with
  | nil => rfl
  | cons c rest ih => simp [ih, Nat.add_comm]

/-- A text is cut in one way only behind a number of bytes. -/
theorem eq_of_utf8Length_eq {first second left right : Text}
    (same : first ++ left = second ++ right) (size : utf8Length first = utf8Length second) :
    first = second := by
  have cut := splitAtByte?_append first left
  rw [same, size, splitAtByte?_append] at cut
  exact (Prod.mk.inj (Option.some.inj cut)).1.symm

/-- The text between two byte indexes, if both are at character boundaries. -/
def slice? (text : Text) (start stop : Nat) : Option Text :=
  if start ≤ stop then do
    let (_, behind) ← splitAtByte? start text
    let (part, _) ← splitAtByte? (stop - start) behind
    return part
  else
    none

theorem slice?_eq_some_iff {text part : Text} {start stop : Nat} :
    slice? text start stop = some part ↔ ∃ before after, text = before ++ part ++ after ∧
      utf8Length before = start ∧ start + utf8Length part = stop := by
  constructor
  · intro read
    unfold slice? at read
    split at read
    · simp only [Option.bind_eq_bind, Option.bind_eq_some_iff] at read
      obtain ⟨⟨before, behind⟩, lower, ⟨inner, after⟩, upper, same⟩ := read
      obtain rfl : inner = part := Option.some.inj same
      obtain ⟨rfl, startsAt⟩ := eq_append_of_splitAtByte? lower
      obtain ⟨rfl, width⟩ := eq_append_of_splitAtByte? upper
      exact ⟨before, after, (List.append_assoc ..).symm, startsAt, by omega⟩
    · cases read
  · rintro ⟨before, after, rfl, rfl, rfl⟩
    rw [slice?, if_pos (Nat.le_add_right _ _), Nat.add_sub_cancel_left, List.append_assoc,
      splitAtByte?_append, Option.bind_eq_bind, Option.bind_some]
    simp only [splitAtByte?_append]
    rfl

theorem slice?_of_split {text : Text} (before part after : Text)
    (split : text = before ++ part ++ after) :
    slice? text (utf8Length before) (utf8Length before + utf8Length part) = some part :=
  slice?_eq_some_iff.2 ⟨before, after, split, rfl, rfl⟩

/-- What stands behind a mark is cut out behind its byte. -/
theorem slice?_behind {text before rest : Text} {mark : Char}
    (split : text = before ++ mark :: rest) (single : mark.utf8Size = 1) :
    text.slice? (utf8Length before + 1) (utf8Length text) = some rest := by
  refine slice?_eq_some_iff.2 ⟨before ++ [mark], [], by simp [split], ?_, ?_⟩
  · simp [single]
  · rw [split, utf8Length_append, utf8Length_cons, single, Nat.add_assoc]

theorem isSuffix_of_dropLead? {lead text rest : Text} (found : dropLead? lead text = some rest) :
    rest <:+ text :=
  ⟨lead, (eq_append_of_dropLead? found).symm⟩

theorem dropLead?_self (lead rest : Text) : dropLead? lead (lead ++ rest) = some rest := by
  induction lead with
  | nil => rfl
  | cons l lead ih => simpa [dropLead?] using ih

theorem isSome_dropLead?_iff {lead text : Text} :
    (dropLead? lead text).isSome = true ↔ lead <+: text := by
  constructor
  · intro found
    obtain ⟨rest, dropped⟩ := Option.isSome_iff_exists.1 found
    exact ⟨rest, (eq_append_of_dropLead? dropped).symm⟩
  · rintro ⟨rest, rfl⟩
    rw [dropLead?_self, Option.isSome_some]

theorem trimStart_isSuffix (text : Text) : trimStart text <:+ text :=
  List.dropWhile_suffix _

/-- Trimming takes white space off the end and nothing else. -/
theorem exists_append_trimEnd (text : Text) :
    ∃ blank, text = trimEnd text ++ blank ∧ ∀ c ∈ blank, isBlank c = true := by
  induction text with
  | nil => exact ⟨[], rfl, by simp⟩
  | cons c rest ih =>
    obtain ⟨blank, split, blanks⟩ := ih
    rw [trimEnd]
    split
    · next empty =>
      rw [empty, List.nil_append] at split
      by_cases blankHead : isBlank c = true
      · refine ⟨c :: blank, by simp [blankHead, split], ?_⟩
        intro other member
        rcases List.mem_cons.1 member with rfl | later
        · exact blankHead
        · exact blanks other later
      · exact ⟨blank, by simp [blankHead, split], blanks⟩
    · exact ⟨blank, by rw [List.cons_append, ← split], blanks⟩

theorem head?_of_head?_trimEnd {text : Text} {c : Char} (head : c ∈ (trimEnd text).head?) :
    c ∈ text.head? := by
  obtain ⟨blank, split, _⟩ := exists_append_trimEnd text
  rw [split, List.head?_append, Option.mem_def.1 head]
  rfl

/-- A trimmed end is no white space. -/
theorem isBlank_of_getLast?_trimEnd {text : Text} {c : Char}
    (last : (trimEnd text).getLast? = some c) : isBlank c = false := by
  induction text with
  | nil => simp [trimEnd] at last
  | cons first rest ih =>
    rw [trimEnd] at last
    split at last
    · by_cases blank : isBlank first = true
      · simp [blank] at last
      · simp only [blank, Bool.false_eq_true, ↓reduceIte, List.getLast?_singleton,
          Option.some.injEq] at last
        simpa [last] using blank
    · next kept =>
      apply ih
      rwa [List.getLast?_cons_of_ne_nil (by simpa using kept)] at last

/-- A trimmed text stands between the white space that was taken off. -/
theorem exists_append_trim (text : Text) :
    ∃ leading trailing, text = leading ++ trim text ++ trailing ∧
      (∀ c ∈ leading, isBlank c = true) ∧ (∀ c ∈ trailing, isBlank c = true) ∧
      utf8Length leading = utf8Length text - utf8Length (trimStart text) := by
  obtain ⟨trailing, split, blanks⟩ := exists_append_trimEnd (trimStart text)
  have whole : text.takeWhile isBlank ++ trimStart text = text :=
    List.takeWhile_append_dropWhile
  have size := congrArg utf8Length whole
  rw [utf8Length_append] at size
  refine ⟨text.takeWhile isBlank, trailing, ?_, ?_, blanks, by omega⟩
  · rw [trim, List.append_assoc, ← split, whole]
  · intro c member
    exact List.all_eq_true.1 List.all_takeWhile c member

theorem isBlank_of_getLast?_trim {text : Text} {c : Char}
    (last : (trim text).getLast? = some c) : isBlank c = false :=
  isBlank_of_getLast?_trimEnd last

/-- A trimmed text does not start with white space. -/
theorem isBlank_of_head?_trim {text : Text} {c : Char}
    (first : (trim text).head? = some c) : isBlank c = false := by
  have same : (trimStart text).head? = some c := head?_of_head?_trimEnd first
  have found := List.head?_dropWhile_not isBlank text
  rw [trimStart] at same
  rw [same] at found
  simpa using found

/-- A text that starts with no white space. -/
def StartsSolid (text : Text) : Prop :=
  ∃ c rest, text = c :: rest ∧ isBlank c = false

/-- A text that ends with no white space. -/
def EndsSolid (text : Text) : Prop :=
  ∃ front c, text = front ++ [c] ∧ isBlank c = false

/-- A text that trimming leaves as it is. -/
structure IsToken (text : Text) : Prop where
  starts : text.StartsSolid
  ends : text.EndsSolid

theorem EndsSolid.append (left : Text) {right : Text} (ends : right.EndsSolid) :
    EndsSolid (left ++ right) := by
  obtain ⟨front, c, rfl, solid⟩ := ends
  exact ⟨left ++ front, c, by simp, solid⟩

theorem StartsSolid.append {left : Text} (starts : left.StartsSolid) (right : Text) :
    StartsSolid (left ++ right) := by
  obtain ⟨c, rest, rfl, solid⟩ := starts
  exact ⟨c, rest ++ right, rfl, solid⟩

theorem IsToken.of_forall {text : Text} (nonempty : text ≠ [])
    (solid : ∀ c ∈ text, isBlank c = false) : text.IsToken := by
  constructor
  · obtain ⟨c, rest, rfl⟩ := List.exists_cons_of_ne_nil nonempty
    exact ⟨c, rest, rfl, solid c (by simp)⟩
  · exact ⟨text.dropLast, text.getLast nonempty, (List.dropLast_concat_getLast nonempty).symm,
      solid _ (List.getLast_mem nonempty)⟩

theorem trimStart_append {lead : Text} (blank : ∀ c ∈ lead, isBlank c = true) (text : Text) :
    trimStart (lead ++ text) = trimStart text :=
  List.dropWhile_append_of_pos blank

theorem trimStart_of_solid {text : Text} (starts : text.StartsSolid) : trimStart text = text := by
  obtain ⟨c, rest, rfl, solid⟩ := starts
  exact List.dropWhile_cons_of_neg (by simp [solid])

theorem trimEnd_of_blank {text : Text} (blank : ∀ c ∈ text, isBlank c = true) :
    trimEnd text = [] := by
  induction text with
  | nil => rfl
  | cons c rest ih =>
    obtain ⟨first, later⟩ := List.forall_mem_cons.1 blank
    simp [trimEnd, ih later, first]

theorem trimEnd_cons {c : Char} {rest : Text} (kept : isBlank c = false ∨ trimEnd rest ≠ []) :
    trimEnd (c :: rest) = c :: trimEnd rest := by
  rw [trimEnd]
  split
  · next empty =>
    rcases kept with solid | filled
    · simp [solid, empty]
    · exact absurd empty filled
  · rfl

theorem trimEnd_append {left : Text} (ends : left.EndsSolid) (right : Text) :
    trimEnd (left ++ right) = left ++ trimEnd right := by
  obtain ⟨front, c, rfl, solid⟩ := ends
  induction front with
  | nil => exact trimEnd_cons (.inl solid)
  | cons first front ih =>
    have filled : trimEnd (front ++ [c] ++ right) ≠ [] := by
      rw [ih]
      simp
    rw [List.cons_append, List.cons_append, trimEnd_cons (.inr filled), ih]
    rfl

theorem trimEnd_trimEnd (text : Text) : trimEnd (trimEnd text) = trimEnd text := by
  by_cases empty : trimEnd text = []
  · rw [empty, trimEnd]
  · have solid := isBlank_of_getLast?_trimEnd (List.getLast?_eq_some_getLast empty)
    have kept := trimEnd_append ⟨_, _, (List.dropLast_concat_getLast empty).symm, solid⟩ []
    rwa [List.append_nil, trimEnd, List.append_nil] at kept

/-- White space is trimmed off before a token and from what stands behind it. -/
theorem trim_append {lead token : Text} (blank : ∀ c ∈ lead, isBlank c = true)
    (isToken : token.IsToken) (tail : Text) :
    trimStart (lead ++ (token ++ tail)) = token ++ tail ∧
      trim (lead ++ (token ++ tail)) = token ++ trimEnd tail := by
  have start : trimStart (lead ++ (token ++ tail)) = token ++ tail := by
    rw [trimStart_append blank, trimStart_of_solid (isToken.starts.append tail)]
  rw [trim, start, trimEnd_append isToken.ends]
  exact ⟨rfl, rfl⟩

/-- What a scan finds was recognized at a cut of the text. -/
theorem exists_recognized_of_mem_scan {α : Type} {recognize : Text → Text → Option (α × Nat)}
    {text : Text} {item : α} (member : item ∈ scan recognize text) :
    ∃ left right width, text = left.reverse ++ right ∧
      recognize left right = some (item, width) := by
  obtain ⟨passed, right, width, split, _, found⟩ := exists_recognized_of_mem_scanFrom member
  exact ⟨passed.reverse ++ [], right, width, by simpa using split, found⟩

end Text

end TemplateNav
