import TemplateNav.Text.Scan

/-!
# What a scan passes over

A scan that has read a part of a text may still owe it some characters: those that
its last find covers beyond that part.  Where it owes nothing it asks its recognizer,
and where it owes something it does not.  So a place is passed over exactly if some
place before it was not, and what is found there covers the later place.
-/

namespace TemplateNav

namespace Text

variable {α : Type} {recognize : Text → Text → Option (α × Nat)}

/-- How many characters behind `left` are covered by what a scan has found in it. -/
def pendingFrom (recognize : Text → Text → Option (α × Nat)) (before : Text) (skip : Nat) :
    (left right : Text) → Nat
  | [], _ => skip
  | c :: left, right =>
    match skip with
    | skip + 1 => pendingFrom recognize (c :: before) skip left right
    | 0 =>
      match recognize before (c :: (left ++ right)) with
      | some (_, width) => pendingFrom recognize (c :: before) (width - 1) left right
      | none => pendingFrom recognize (c :: before) 0 left right

/-- How many characters behind `left` are covered in a scan of the whole text. -/
def pending (recognize : Text → Text → Option (α × Nat)) (left right : Text) : Nat :=
  pendingFrom recognize [] 0 left right

theorem pendingFrom_append (before : Text) (skip : Nat) (outer inner right : Text) :
    pendingFrom recognize before skip (outer ++ inner) right =
      pendingFrom recognize (outer.reverse ++ before)
        (pendingFrom recognize before skip outer (inner ++ right)) inner right := by
  induction outer generalizing before skip with
  | nil => rfl
  | cons c outer ih =>
    rw [List.cons_append, List.reverse_cons, List.append_assoc, List.singleton_append]
    cases skip with
    | succ skip =>
      rw [pendingFrom, pendingFrom]
      exact ih (c :: before) skip
    | zero =>
      rw [pendingFrom, pendingFrom, List.append_assoc]
      cases recognize before (c :: (outer ++ (inner ++ right))) with
      | none => exact ih (c :: before) 0
      | some answer => exact ih (c :: before) (answer.2 - 1)

theorem pendingFrom_of_length_le (before : Text) {skip : Nat} {left : Text}
    (covers : left.length ≤ skip) (right : Text) :
    pendingFrom recognize before skip left right = skip - left.length := by
  induction left generalizing before skip with
  | nil => rfl
  | cons c left ih =>
    rw [List.length_cons] at covers
    obtain ⟨skip, rfl⟩ := Nat.exists_eq_add_of_lt covers
    rw [pendingFrom, ih (c :: before) (by omega), List.length_cons]
    omega

/-- What covers a place was found at a place where nothing was owed, or was owed from the start. -/
theorem exists_covering_of_pendingFrom {before left right : Text} {skip : Nat}
    (owed : 0 < pendingFrom recognize before skip left right) :
    left.length < skip ∨ ∃ outer inner item width, left = outer ++ inner ∧ inner ≠ [] ∧
      pendingFrom recognize before skip outer (inner ++ right) = 0 ∧
      recognize (outer.reverse ++ before) (inner ++ right) = some (item, width) ∧
      inner.length < width := by
  induction left generalizing before skip with
  | nil => exact .inl owed
  | cons c left ih =>
    cases skip with
    | succ skip =>
      rw [pendingFrom] at owed
      rcases ih owed with covers | ⟨outer, inner, item, width, rfl, filled, free, found, covers⟩
      · exact .inl (Nat.succ_lt_succ covers)
      · exact .inr ⟨c :: outer, inner, item, width, rfl, filled, free, by simpa using found, covers⟩
    | zero =>
      rw [pendingFrom] at owed
      split at owed
      · next first span recognized =>
        rcases ih owed with covers | ⟨outer, inner, item, width, rfl, filled, free, found, covers⟩
        · refine .inr ⟨[], c :: left, first, span, rfl, by simp, rfl, recognized, ?_⟩
          rw [List.length_cons]
          omega
        · refine .inr ⟨c :: outer, inner, item, width, rfl, filled, ?_, by simpa using found,
            covers⟩
          rw [List.append_assoc] at recognized
          rw [pendingFrom, recognized]
          exact free
      · next unrecognized =>
        rcases ih owed with covers | ⟨outer, inner, item, width, rfl, filled, free, found, covers⟩
        · exact absurd covers (Nat.not_lt_zero _)
        · refine .inr ⟨c :: outer, inner, item, width, rfl, filled, ?_, by simpa using found,
            covers⟩
          rw [List.append_assoc] at unrecognized
          rw [pendingFrom, unrecognized]
          exact free

/-- A place is passed over exactly if what is found at a place before it, which is not passed over,
covers it. -/
theorem pending_pos_iff {left right : Text} :
    0 < pending recognize left right ↔ ∃ outer inner item width, left = outer ++ inner ∧
      inner ≠ [] ∧ pending recognize outer (inner ++ right) = 0 ∧
      recognize outer.reverse (inner ++ right) = some (item, width) ∧ inner.length < width := by
  constructor
  · intro owed
    rcases exists_covering_of_pendingFrom owed with covers | covered
    · exact absurd covers (Nat.not_lt_zero _)
    · simpa [pending] using covered
  · rintro ⟨outer, inner, item, width, rfl, filled, free, found, covers⟩
    rw [pending] at free ⊢
    obtain ⟨c, inner, rfl⟩ := List.exists_cons_of_ne_nil filled
    rw [List.length_cons] at covers
    rw [pendingFrom_append, free, pendingFrom, List.append_nil]
    rw [List.cons_append] at found
    rw [found]
    simp only
    rw [pendingFrom_of_length_le _ (by omega)]
    omega

/-- What a scan finds in the second part of a text is what it finds there behind the characters that
it owes. -/
theorem exists_scanFrom_append (recognize : Text → Text → Option (α × Nat)) (before : Text)
    (skip : Nat) (left right : Text) :
    ∃ earlier, scanFrom recognize before skip (left ++ right) = earlier ++
        scanFrom recognize (left.reverse ++ before)
          (pendingFrom recognize before skip left right) right ∧
      ∀ item ∈ earlier, ∃ outer inner width, left = outer ++ inner ∧ inner ≠ [] ∧
        recognize (outer.reverse ++ before) (inner ++ right) = some (item, width) := by
  induction left generalizing before skip with
  | nil => exact ⟨[], rfl, by simp⟩
  | cons c left ih =>
    have further (skip : Nat) : ∃ earlier, scanFrom recognize (c :: before) skip (left ++ right) =
        earlier ++ scanFrom recognize ((c :: left).reverse ++ before)
          (pendingFrom recognize (c :: before) skip left right) right ∧
        ∀ item ∈ earlier, ∃ outer inner width, c :: left = outer ++ inner ∧ inner ≠ [] ∧
          recognize (outer.reverse ++ before) (inner ++ right) = some (item, width) := by
      obtain ⟨earlier, same, places⟩ := ih (c :: before) skip
      refine ⟨earlier, by simpa using same, ?_⟩
      intro item member
      obtain ⟨outer, inner, width, rfl, filled, found⟩ := places item member
      exact ⟨c :: outer, inner, width, rfl, filled, by simpa using found⟩
    cases skip with
    | succ skip => exact further skip
    | zero =>
      rw [List.cons_append, scanFrom, pendingFrom]
      cases recognized : recognize before (c :: (left ++ right)) with
      | none => exact further 0
      | some answer =>
        obtain ⟨first, width⟩ := answer
        obtain ⟨earlier, same, places⟩ := further (width - 1)
        refine ⟨first :: earlier, by simp only [same, List.cons_append], ?_⟩
        intro item member
        rcases List.mem_cons.1 member with rfl | later
        · exact ⟨[], c :: left, width, rfl, by simp, recognized⟩
        · exact places item later

/-- Where nothing is owed, what is recognized is found. -/
theorem mem_scan_of_pending_eq_zero {left right : Text} {item : α} {width : Nat}
    (nonempty : right ≠ []) (recognized : recognize left.reverse right = some (item, width))
    (free : pending recognize left right = 0) : item ∈ scan recognize (left ++ right) := by
  obtain ⟨earlier, same, _⟩ := exists_scanFrom_append recognize [] 0 left right
  rw [pending] at free
  obtain ⟨c, rest, rfl⟩ := List.exists_cons_of_ne_nil nonempty
  rw [scan, same, free, scanFrom, List.append_nil, recognized]
  exact List.mem_append_right _ List.mem_cons_self

/-- Where something is owed nothing is found: all finds are recognized elsewhere. -/
theorem exists_elsewhere_of_pending {left right : Text} {item : α}
    (owed : 0 < pending recognize left right) (member : item ∈ scan recognize (left ++ right)) :
    ∃ other rest width, left ++ right = other ++ rest ∧ other ≠ left ∧
      recognize other.reverse rest = some (item, width) := by
  obtain ⟨earlier, same, places⟩ := exists_scanFrom_append recognize [] 0 left right
  rw [pending] at owed
  rw [scan, same] at member
  rcases List.mem_append.1 member with first | later
  · obtain ⟨outer, inner, width, rfl, filled, found⟩ := places item first
    exact ⟨outer, inner ++ right, width, by simp, by simpa using filled, by simpa using found⟩
  · obtain ⟨passed, rest, width, rfl, reached, found⟩ := exists_recognized_of_mem_scanFrom later
    have filled : passed ≠ [] := by
      rintro rfl
      exact absurd owed (Nat.not_lt.2 reached)
    exact ⟨left ++ passed, rest, width, by simp, by simpa using filled, by simpa using found⟩

end Text

end TemplateNav
