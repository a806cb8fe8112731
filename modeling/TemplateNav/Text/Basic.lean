/-!
# Text and its two measures

Source text is a sequence of characters.  Offsets into it count UTF-8 bytes and
columns count UTF-16 code units, so both measures and the cuts that belong to
them live here.
-/

namespace TemplateNav

/-- Source text, one entry per Unicode scalar value. -/
abbrev Text := List Char

namespace Text

/-- UTF-16 code units of one character: two beyond the basic plane, one within it. -/
def unitsOf (c : Char) : Nat :=
  if c.toNat < 0x10000 then 1 else 2

/-- Length of a text in UTF-8 bytes. -/
def utf8Length : Text → Nat
  | [] => 0
  | c :: rest => c.utf8Size + utf8Length rest

/-- Length of a text in UTF-16 code units. -/
def utf16Length : Text → Nat
  | [] => 0
  | c :: rest => unitsOf c + utf16Length rest

/-- Cuts a text after `count` bytes, if a character boundary is there. -/
def splitAtByte? : Nat → Text → Option (Text × Text)
  | 0, text => some ([], text)
  | _ + 1, [] => none
  | count + 1, c :: rest =>
    if c.utf8Size ≤ count + 1 then
      (splitAtByte? (count + 1 - c.utf8Size) rest).map fun (before, after) => (c :: before, after)
    else
      none

/-- Cuts a line at the first character boundary that is `units` UTF-16 units or more from its
start, or at its end when the line is shorter. -/
def splitAtUnit : Nat → Text → Text × Text
  | 0, line => ([], line)
  | _ + 1, [] => ([], [])
  | units + 1, c :: rest =>
    let (before, after) := splitAtUnit (units + 1 - unitsOf c) rest
    (c :: before, after)

/-- The rest of a text that starts with `lead`. -/
def dropLead? : (lead : Text) → Text → Option Text
  | [], text => some text
  | _ :: _, [] => none
  | l :: lead, c :: rest => if l = c then dropLead? lead rest else none

/-- Whether a text starts with the character `c`. -/
def startsWith (c : Char) (text : Text) : Bool :=
  text.head? == some c

/-- The longest start of a text made of characters of one class, and the rest. -/
def spanClass (isMember : Char → Bool) (text : Text) : Text × Text :=
  (text.takeWhile isMember, text.dropWhile isMember)

/-- Dictionary order by code points; a text precedes itself. -/
def precedes : Text → Text → Bool
  | [], _ => true
  | _ :: _, [] => false
  | c :: first, d :: second => if c = d then precedes first second else decide (c.toNat < d.toNat)

theorem unitsOf_pos (c : Char) : 0 < unitsOf c := by
  unfold unitsOf
  split <;> decide

@[simp] theorem utf8Length_nil : utf8Length [] = 0 := rfl

@[simp] theorem utf8Length_cons (c : Char) (rest : Text) :
    utf8Length (c :: rest) = c.utf8Size + utf8Length rest := rfl

@[simp] theorem utf16Length_nil : utf16Length [] = 0 := rfl

@[simp] theorem utf16Length_cons (c : Char) (rest : Text) :
    utf16Length (c :: rest) = unitsOf c + utf16Length rest := rfl

theorem precedes_total (first second : Text) :
    (precedes first second || precedes second first) = true := by
  induction first generalizing second with
  | nil => rfl
  | cons c first ih =>
    cases second with
    | nil => rfl
    | cons d second =>
      by_cases same : c = d
      · simpa [precedes, same] using ih second
      · have different : c.toNat ≠ d.toNat := fun equal => same (Char.toNat_inj.1 equal)
        simp only [precedes, same, Ne.symm same, ↓reduceIte, Bool.or_eq_true, decide_eq_true_eq]
        omega

theorem precedes_trans {first second third : Text} (left : precedes first second = true)
    (right : precedes second third = true) : precedes first third = true := by
  induction first generalizing second third with
  | nil => rfl
  | cons c first ih =>
    obtain _ | ⟨d, second⟩ := second
    · cases left
    obtain _ | ⟨e, third⟩ := third
    · cases right
    simp only [precedes] at left right ⊢
    by_cases lower : c = d
    · subst lower
      by_cases upper : c = e
      · rw [if_pos rfl] at left
        rw [if_pos upper] at right ⊢
        exact ih left right
      · rwa [if_neg upper] at right ⊢
    · rw [if_neg lower, decide_eq_true_eq] at left
      by_cases upper : d = e
      · subst upper
        rw [if_neg lower, decide_eq_true_eq]
        exact left
      · rw [if_neg upper, decide_eq_true_eq] at right
        have between := Nat.lt_trans left right
        rw [if_neg (by rintro rfl; exact Nat.lt_irrefl _ between), decide_eq_true_eq]
        exact between

theorem precedes_antisymm {first second : Text} (left : precedes first second = true)
    (right : precedes second first = true) : first = second := by
  induction first generalizing second with
  | nil =>
    cases second with
    | nil => rfl
    | cons d second => cases right
  | cons c first ih =>
    cases second with
    | nil => cases left
    | cons d second =>
      by_cases same : c = d
      · subst same
        rw [precedes, if_pos rfl] at left right
        rw [ih left right]
      · rw [precedes, if_neg same, decide_eq_true_eq] at left
        rw [precedes, if_neg (Ne.symm same), decide_eq_true_eq] at right
        exact absurd right (Nat.lt_asymm left)

/-- Bytes add up over concatenation. -/
@[simp] theorem utf8Length_append (left right : Text) :
    utf8Length (left ++ right) = utf8Length left + utf8Length right := by
  induction left with
  | nil => simp
  | cons c left ih => simp [ih, Nat.add_assoc]

/-- Code units add up over concatenation. -/
@[simp] theorem utf16Length_append (left right : Text) :
    utf16Length (left ++ right) = utf16Length left + utf16Length right := by
  induction left with
  | nil => simp
  | cons c left ih => simp [ih, Nat.add_assoc]

/-- The byte length of the first part finds the cut between two parts again. -/
theorem splitAtByte?_append (before after : Text) :
    splitAtByte? (utf8Length before) (before ++ after) = some (before, after) := by
  induction before with
  | nil => simp [splitAtByte?]
  | cons c before ih =>
    have positive := c.utf8Size_pos
    obtain ⟨size, hsize⟩ : ∃ size, c.utf8Size = size + 1 := ⟨c.utf8Size - 1, by omega⟩
    have count : utf8Length (c :: before) = (size + utf8Length before) + 1 := by
      simp only [utf8Length_cons, hsize]
      omega
    rw [count, List.cons_append, splitAtByte?]
    simp [ih, hsize, Nat.add_right_comm]

/-- A cut loses nothing and stands where it was asked for. -/
theorem eq_append_of_splitAtByte? {count : Nat} {text before after : Text}
    (cut : splitAtByte? count text = some (before, after)) :
    text = before ++ after ∧ utf8Length before = count := by
  induction text generalizing count before with
  | nil =>
    cases count with
    | zero => simp_all [splitAtByte?]
    | succ count => simp [splitAtByte?] at cut
  | cons c rest ih =>
    cases count with
    | zero => simp_all [splitAtByte?]
    | succ count =>
      rw [splitAtByte?] at cut
      split at cut
      · obtain ⟨⟨inner, tail⟩, found, same⟩ := Option.map_eq_some_iff.1 cut
        simp only [Prod.mk.injEq] at same
        obtain ⟨rfl, rfl⟩ := same
        obtain ⟨rfl, size⟩ := ih found
        exact ⟨rfl, by simp only [utf8Length_cons]; omega⟩
      · cases cut

/-- Cutting at a column loses nothing. -/
theorem splitAtUnit_append (units : Nat) (line : Text) :
    (splitAtUnit units line).1 ++ (splitAtUnit units line).2 = line := by
  induction line generalizing units with
  | nil => cases units <;> rfl
  | cons c rest ih =>
    cases units with
    | zero => rfl
    | succ units => simp [splitAtUnit, ih]

theorem eq_append_of_dropLead? {lead text rest : Text} (found : dropLead? lead text = some rest) :
    text = lead ++ rest := by
  induction lead generalizing text with
  | nil => simpa [dropLead?] using found
  | cons l lead ih =>
    cases text with
    | nil => simp [dropLead?] at found
    | cons c text =>
      simp only [dropLead?] at found
      split at found
      · next same => simp [same, ih found]
      · cases found

end Text

end TemplateNav
