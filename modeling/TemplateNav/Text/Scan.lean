import TemplateNav.Text.Basic

/-!
# Leftmost, non-overlapping recognition

Every pass over text in this library reads it from the left: a recognizer is
asked at each place in turn, and after an answer the scan resumes behind what
the answer covers.
-/

namespace TemplateNav

namespace Text

/-- Collects what `recognize` finds, scanning from the left without overlap.

The recognizer sees the characters before the place, the nearest first, and the
text from there on; it answers with what it found and the number of characters
covered.  `skip` counts the characters that the last answer still covers. -/
def scanFrom {α : Type} (recognize : Text → Text → Option (α × Nat)) (before : Text) (skip : Nat) :
    Text → List α
  | [] => []
  | c :: rest =>
    match skip with
    | skip + 1 => scanFrom recognize (c :: before) skip rest
    | 0 =>
      match recognize before (c :: rest) with
      | some (found, width) => found :: scanFrom recognize (c :: before) (width - 1) rest
      | none => scanFrom recognize (c :: before) 0 rest

/-- Collects what `recognize` finds in a whole text. -/
def scan {α : Type} (recognize : Text → Text → Option (α × Nat)) (text : Text) : List α :=
  scanFrom recognize [] 0 text

/-- Every item found was recognized at some place of the text, behind the characters to skip. -/
theorem exists_recognized_of_mem_scanFrom {α : Type} {recognize : Text → Text → Option (α × Nat)}
    {before text : Text} {skip : Nat} {item : α}
    (member : item ∈ scanFrom recognize before skip text) :
    ∃ passed right width, text = passed ++ right ∧ skip ≤ passed.length ∧
      recognize (passed.reverse ++ before) right = some (item, width) := by
  induction text generalizing before skip with
  | nil => simp [scanFrom] at member
  | cons c rest ih =>
    have further {skip : Nat} (later : item ∈ scanFrom recognize (c :: before) skip rest) :
        ∃ passed right width, c :: rest = passed ++ right ∧ skip + 1 ≤ passed.length ∧
          recognize (passed.reverse ++ before) right = some (item, width) := by
      obtain ⟨passed, right, width, rfl, reached, recognized⟩ := ih later
      exact ⟨c :: passed, right, width, rfl, Nat.succ_le_succ reached, by simpa using recognized⟩
    cases skip with
    | succ skip =>
      rw [scanFrom] at member
      exact further member
    | zero =>
      rw [scanFrom] at member
      split at member
      · next found width recognized =>
        rcases List.mem_cons.1 member with rfl | later
        · exact ⟨[], c :: rest, width, rfl, Nat.le_refl 0, recognized⟩
        · obtain ⟨passed, right, width, split, _, recognized⟩ := further later
          exact ⟨passed, right, width, split, Nat.zero_le _, recognized⟩
      · obtain ⟨passed, right, width, split, _, recognized⟩ := further member
        exact ⟨passed, right, width, split, Nat.zero_le _, recognized⟩

end Text

end TemplateNav
