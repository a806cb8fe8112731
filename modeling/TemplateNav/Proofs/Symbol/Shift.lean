import TemplateNav.Analysis
import TemplateNav.Proofs.Template.Surroundings

/-!
# Symbols of shifted fragments

Symbols and usages are read off the content of fragments, and of where a fragment
stands only its start is used.  So fragments that are shifted together have the
same symbols in the same order, shifted as well, and the same usages are recorded
for them.
-/

namespace TemplateNav

namespace Range

/-- Where a range is when `front` is put in front of its document. -/
def shifted (range : Range) (front : Text) : Range :=
  ⟨range.start.shifted front, range.stop.shifted front⟩

theorem shifted_ofLength (front : Text) (start : Position) (length : Nat) :
    (ofLength start length).shifted front = ofLength (start.shifted front) length := by
  rw [ofLength, ofLength, shifted, Position.shifted_advancedBy]

end Range

namespace Position

theorem contains_map_shifted (front : Text) (positions : List Position) (position : Position) :
    (positions.map (shifted · front)).contains (position.shifted front) =
      positions.contains position := by
  rw [Bool.eq_iff_iff, List.contains_iff_mem, List.contains_iff_mem, List.mem_map]
  constructor
  · rintro ⟨other, member, same⟩
    exact (shifted_inj front).1 same ▸ member
  · intro member
    exact ⟨position, member, rfl⟩

end Position

theorem Fragment.positionInLine_shifted (front : Text) (fragment : Fragment) (index : Nat)
    (line : Text) (column : Nat) :
    (fragment.shifted front).positionInLine index line column =
      (fragment.positionInLine index line column).shifted front := by
  by_cases first : index = 0
  · by_cases start : fragment.start.line = 0
    · simp [positionInLine, shifted, Position.shifted, first, start, Nat.add_assoc]
    · simp [positionInLine, shifted, Position.shifted, first, start]
  · simp [positionInLine, shifted, Position.shifted, first, Nat.add_assoc]

namespace Symbol

/-- Where a symbol is when `front` is put in front of its document. -/
def shifted (symbol : Symbol) (front : Text) : Symbol :=
  { symbol with
    position := symbol.position.shifted front
    references := symbol.references.map (Position.shifted · front) }

variable (front : Text)

theorem range_shifted (symbol : Symbol) :
    (symbol.shifted front).range = symbol.range.shifted front :=
  (Range.shifted_ofLength front _ _).symm

theorem ofFragment_shifted (fragment : Fragment) :
    ofFragment (fragment.shifted front) = (ofFragment fragment).map (shifted · front) := by
  rw [ofFragment, ofFragment, List.map_flatMap]
  apply List.flatMap_congr
  rintro ⟨index, line⟩ _
  by_cases blank : Text.isBlankText line = true
  · simp [blank]
  · simp only [blank, Bool.false_eq_true, ↓reduceIte, List.map_flatMap]
    apply List.flatMap_congr
    intro rule _
    rw [ofLine, ofLine, List.map_map]
    apply List.map_congr_left
    intro declaration _
    rw [Fragment.positionInLine_shifted]
    rfl

theorem sameDeclaration_shifted (first second : Symbol) :
    sameDeclaration (first.shifted front) (second.shifted front) =
      sameDeclaration first second := by
  rw [Bool.eq_iff_iff]
  simp [sameDeclaration, shifted, Position.shifted_inj front]

theorem insertNew_shifted (found : List Symbol) (symbol : Symbol) :
    insertNew (found.map (shifted · front)) (symbol.shifted front) =
      (insertNew found symbol).map (shifted · front) := by
  have known : (found.map (shifted · front)).any (sameDeclaration (symbol.shifted front)) =
      found.any (sameDeclaration symbol) := by
    rw [List.any_map]
    exact congrArg (found.any ·) (funext fun other => sameDeclaration_shifted front symbol other)
  unfold insertNew
  rw [known]
  split
  · rfl
  · rw [List.map_append, List.map_singleton]

theorem recognize_shifted (fragments : List Fragment) :
    recognize (fragments.map (Fragment.shifted · front)) =
      (recognize fragments).map (shifted · front) := by
  have found : (fragments.map (Fragment.shifted · front)).flatMap ofFragment =
      (fragments.flatMap ofFragment).map (shifted · front) := by
    rw [List.flatMap_map, List.map_flatMap]
    exact List.flatMap_congr fun fragment _ => ofFragment_shifted front fragment
  rw [recognize, found, List.foldl_map, recognize, ← List.foldl_hom (List.map (shifted · front))]
  · rfl
  · exact insertNew_shifted front

end Symbol

namespace SymbolIndex

/-- Where the symbols of an index are when `front` is put in front of their document. -/
def shifted (index : SymbolIndex) (front : Text) : SymbolIndex :=
  ⟨index.symbols.map (Symbol.shifted · front)⟩

variable (front : Text)

theorem precedes_shifted (first second : Symbol) :
    precedes (first.shifted front) (second.shifted front) = precedes first second := by
  simp [precedes, Symbol.shifted, Position.shifted_inj front, Position.shifted_le_shifted front]

theorem build_shifted (symbols : List Symbol) :
    build (symbols.map (Symbol.shifted · front)) = (build symbols).shifted front := by
  rw [build, build, shifted, List.map_mergeSort]
  intro first _ second _
  exact (precedes_shifted front first second).symm

theorem bucket_shifted (index : SymbolIndex) (name : Text) :
    (index.shifted front).bucket name = (index.bucket name).map (Symbol.shifted · front) :=
  List.filter_map

theorem first?_shifted (index : SymbolIndex) (name : Text) :
    (index.shifted front).first? name = (index.first? name).map (Symbol.shifted · front) :=
  List.find?_map

theorem addReferenceTo_shifted (name : Text) (position : Position) (symbols : List Symbol) :
    addReferenceTo name (position.shifted front) (symbols.map (Symbol.shifted · front)) =
      (addReferenceTo name position symbols).map (Symbol.shifted · front) := by
  induction symbols with
  | nil => rfl
  | cons symbol rest ih =>
    have known := Position.contains_map_shifted front symbol.references position
    rw [List.map_cons, addReferenceTo, addReferenceTo]
    by_cases named : symbol.name == name
    · simp only [Symbol.shifted, named, known, ↓reduceIte, List.map_cons]
      split
      · rfl
      · rw [List.map_append, List.map_singleton]
    · simp only [Symbol.shifted, named, Bool.false_eq_true, ↓reduceIte, List.map_cons]
      exact congrArg _ ih

theorem usages_shifted (fragments : List Fragment) :
    usages (fragments.map (Fragment.shifted · front)) =
      (usages fragments).map fun (name, position) => (name, position.shifted front) := by
  rw [usages, usages, List.flatMap_map, List.map_flatMap]
  apply List.flatMap_congr
  intro fragment _
  rw [List.map_flatMap]
  apply List.flatMap_congr
  rintro ⟨index, line⟩ _
  rw [List.map_map]
  apply List.map_congr_left
  intro occurrence _
  rw [Fragment.positionInLine_shifted]
  rfl

theorem trackReferences_shifted (index : SymbolIndex) (fragments : List Fragment) :
    (index.shifted front).trackReferences (fragments.map (Fragment.shifted · front)) =
      (index.trackReferences fragments).shifted front := by
  rw [trackReferences, usages_shifted, List.foldl_map]
  apply List.foldl_hom (shifted · front)
  rintro index ⟨name, position⟩
  exact congrArg mk (addReferenceTo_shifted front name position index.symbols)

end SymbolIndex

namespace Analysis

/-- Where everything in an analysis is when `front` is put in front of its document. -/
def shifted (analysis : Analysis) (front : Text) : Analysis :=
  ⟨analysis.fragments.map (Fragment.shifted · front), analysis.index.shifted front⟩

theorem indexOf_shifted (front : Text) (fragments : List Fragment) :
    indexOf (fragments.map (Fragment.shifted · front)) = (indexOf fragments).shifted front := by
  rw [indexOf, Symbol.recognize_shifted, SymbolIndex.build_shifted,
    SymbolIndex.trackReferences_shifted, indexOf]

end Analysis

end TemplateNav
