import TemplateNav.Proofs.Script.Placement

/-!
# Bindings in the order of their names

The segments of a list follow one another with a comma between any two, and whatever an element
binds stands within the element.  So the names come out in the order of the text, and no name
starts before the one that comes first has ended.
-/

namespace TemplateNav

namespace Bracket

/-- Each segment starts behind the comma that ends the one before it. -/
theorem pairwise_withOffsets (offset : Nat) (segments : List Text) :
    (withOffsets offset segments).Pairwise fun first second =>
      first.1 + Text.utf8Length first.2 < second.1 := by
  induction segments generalizing offset with
  | nil => exact .nil
  | cons segment rest ih =>
    refine .cons ?_ (ih _)
    rintro ⟨start, later⟩ member
    obtain ⟨column, rfl, _⟩ := standsApart_of_mem_withOffsets member
    simp only
    omega

end Bracket

namespace Binding

/-- The name of a binding ends before that of another starts, and something stands between them. -/
def Precedes (first second : Binding) : Prop :=
  first.offset + Text.utf8Length first.name < second.offset

variable {context : Context} {offset : Nat}

theorem pairwise_ofList_of_elements {list : Text}
    (elements : ∀ start segment,
      (start, segment) ∈ Bracket.withOffsets offset (Bracket.segmentsFrom .top list) →
        (ofElement context start segment).Pairwise Precedes) :
    (ofList context offset list).Pairwise Precedes := by
  refine List.pairwise_flatMap.2 ⟨fun item listed => elements item.1 item.2 listed, ?_⟩
  refine (Bracket.pairwise_withOffsets offset _).imp ?_
  intro first second apart left leftBound right rightBound
  have leftEnds := (foundIn_of_mem_ofElement leftBound).bounds.2
  have rightStarts := (foundIn_of_mem_ofElement rightBound).bounds.1
  unfold Precedes
  omega

theorem pairwise_ofElement (context : Context) (offset : Nat) (element : Text) :
    (ofElement context offset element).Pairwise Precedes := by
  induction context, offset, element using ofElement.induct with
  | case1 context offset element inner read ih =>
    rw [ofElement_of_keyed read]
    exact ih
  | case2 context offset element inner inside read ih =>
    rw [ofElement_of_nested read]
    exact pairwise_ofList_of_elements ih
  | case3 context offset element name read valid =>
    rw [ofElement_of_word read, if_pos valid]
    exact List.pairwise_singleton _ _
  | case4 context offset element name read invalid =>
    rw [ofElement_of_word read, if_neg invalid]
    exact .nil
  | case5 context offset element read =>
    rw [ofElement_of_unreadable read]
    exact .nil

theorem pairwise_ofList (context : Context) (offset : Nat) (list : Text) :
    (ofList context offset list).Pairwise Precedes :=
  pairwise_ofList_of_elements fun start segment _ => pairwise_ofElement context start segment

/-- What an expansion of `text` may report if `text` stands at `offset`: valid names where they
occur in the text as whole words, in the order of the text and without overlap. -/
structure WellPlaced (text : Text) (offset : Nat) (bindings : List Binding) : Prop where
  valid : ∀ binding ∈ bindings, Identifier.isValid binding.name = true ∧
    Identifier.isReserved binding.name = false
  reads : ∀ binding ∈ bindings, offset ≤ binding.offset ∧
    text.slice? (binding.offset - offset)
      (binding.offset - offset + Text.utf8Length binding.name) = some binding.name
  apart : ∀ binding ∈ bindings, text.StandsApart (binding.offset - offset) binding.name
  increasing : bindings.Pairwise fun first second =>
    first.offset - offset < second.offset - offset
  disjoint : bindings.Pairwise Precedes

theorem WellPlaced.of_foundIn {text : Text} {bindings : List Binding}
    (found : ∀ binding ∈ bindings, binding.FoundIn text offset)
    (ordered : bindings.Pairwise Precedes) : WellPlaced text offset bindings := by
  have apart : ∀ binding ∈ bindings,
      text.StandsApart (binding.offset - offset) binding.name := by
    intro binding member
    obtain ⟨column, same, stands, _⟩ := found binding member
    rwa [same, Nat.add_sub_cancel_left]
  refine ⟨?_, ?_, apart, ?_, ordered⟩
  · intro binding member
    obtain ⟨_, _, _, valid⟩ := found binding member
    exact ⟨valid, Identifier.isReserved_of_isValid valid⟩
  · intro binding member
    obtain ⟨before, after, split, size, _⟩ := apart binding member
    exact ⟨(found binding member).bounds.1,
      Text.slice?_eq_some_iff.2 ⟨before, after, split, size, rfl⟩⟩
  · refine ordered.imp_of_mem ?_
    intro first second firstMember _ precedes
    have reached := (found first firstMember).bounds.1
    unfold Precedes at precedes
    omega

theorem wellPlaced_ofElement (context : Context) (offset : Nat) (element : Text) :
    WellPlaced element offset (ofElement context offset element) :=
  .of_foundIn (fun _ => foundIn_of_mem_ofElement) (pairwise_ofElement context offset element)

theorem wellPlaced_ofList (context : Context) (offset : Nat) (list : Text) :
    WellPlaced list offset (ofList context offset list) :=
  .of_foundIn (fun _ => foundIn_of_mem_ofList) (pairwise_ofList context offset list)

theorem wellPlaced_ofPattern (offset : Nat) (pattern : Text) :
    WellPlaced pattern offset (ofPattern offset pattern) := by
  unfold ofPattern
  split
  · next context inside _ group =>
    refine .of_foundIn ?_ (pairwise_ofList context (offset + 1) inside)
    intro binding member
    exact (foundIn_of_mem_ofList member).of_part (Bracket.standsApart_of_group? group)
  · exact .of_foundIn (by simp) .nil

end Binding

end TemplateNav
