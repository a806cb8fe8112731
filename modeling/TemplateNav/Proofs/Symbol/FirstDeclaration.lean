import Mathlib.Data.List.Induction
import TemplateNav.Proofs.Deduplication
import TemplateNav.Symbol.Index

/-!
# The first declaration of a name

The index is sorted, so the symbol that a name leads to is the earliest of that
name.  Recording usages leaves that symbol in its place and only extends its
references, each position once; all other symbols stay as they are.
-/

namespace TemplateNav

namespace SymbolIndex

theorem precedes_total (first second : Symbol) :
    (precedes first second || precedes second first) = true := by
  unfold precedes
  by_cases same : first.position = second.position
  · simpa only [same, ↓reduceIte] using Text.precedes_total first.name second.name
  · simpa only [same, Ne.symm same, ↓reduceIte, Bool.or_eq_true, decide_eq_true_eq] using
      Position.le_total first.position second.position

theorem position_le_of_precedes {first second : Symbol} (order : precedes first second = true) :
    first.position ≤ second.position := by
  unfold precedes at order
  split at order
  · next same =>
    have column : first.position.character = second.position.character := by rw [same]
    exact .inr ⟨congrArg Position.line same, Nat.le_of_eq column⟩
  · exact of_decide_eq_true order

theorem precedes_trans (first second third : Symbol) (left : precedes first second = true)
    (right : precedes second third = true) : precedes first third = true := by
  have lower := position_le_of_precedes left
  have upper := position_le_of_precedes right
  by_cases same : first.position = third.position
  · have middle : first.position = second.position :=
      Position.le_antisymm lower (same ▸ upper)
    rw [precedes, if_pos middle] at left
    rw [precedes, if_pos (middle.symm.trans same)] at right
    rw [precedes, if_pos same]
    exact Text.precedes_trans left right
  · rw [precedes, if_neg same]
    exact decide_eq_true (Position.le_trans lower upper)

theorem build_pairwise (symbols : List Symbol) :
    (build symbols).symbols.Pairwise fun first second => precedes first second = true :=
  List.pairwise_mergeSort precedes_trans precedes_total symbols

/-- A name leads to the earliest symbol of that name. -/
theorem first?_build {symbols : List Symbol} {name : Text} {symbol : Symbol}
    (found : (build symbols).first? name = some symbol) :
    symbol ∈ symbols ∧ symbol.name = name ∧
      ∀ other ∈ symbols, other.name = name → symbol.position ≤ other.position := by
  obtain ⟨named, before, after, split, earlier⟩ := List.find?_eq_some_iff_append.1 found
  have sorted := build_pairwise symbols
  rw [split] at sorted
  have later := (List.pairwise_cons.1 (List.pairwise_append.1 sorted).2.1).1
  refine ⟨List.mem_mergeSort.1 (List.mem_of_find?_eq_some found), beq_iff_eq.1 named, ?_⟩
  intro other member sameName
  have indexed : other ∈ (build symbols).symbols := List.mem_mergeSort.2 member
  rw [split] at indexed
  rcases List.mem_append.1 indexed with front | rest
  · have unnamed := earlier other front
    simp [sameName] at unnamed
  · rcases List.mem_cons.1 rest with rfl | behind
    · exact .inr ⟨rfl, Nat.le_refl _⟩
    · exact position_le_of_precedes (later other behind)

/-- `symbol` is `original` with more references behind the ones it had: the usages of its name that
were not among them, each once. -/
structure Extends (usages : List (Text × Position)) (original symbol : Symbol) : Prop where
  same : symbol = { original with references := symbol.references }
  begins : original.references <+: symbol.references
  nodup : original.references.Nodup → symbol.references.Nodup
  mem_iff : ∀ position, position ∈ symbol.references ↔
    position ∈ original.references ∨ (original.name, position) ∈ usages

namespace Extends

variable {usages : List (Text × Position)} {original symbol : Symbol}

theorem kept (grown : Extends usages original symbol) :
    ∀ position ∈ original.references, position ∈ symbol.references :=
  fun position member => (grown.mem_iff position).2 (.inl member)

theorem used (grown : Extends usages original symbol) :
    ∀ position ∈ symbol.references,
      position ∈ original.references ∨ (original.name, position) ∈ usages :=
  fun position member => (grown.mem_iff position).1 member

end Extends

/-- The symbol with one more reference, unless it has it already. -/
def referencedAt (position : Position) (symbol : Symbol) : Symbol :=
  { symbol with
    references := if symbol.references.contains position then symbol.references
      else symbol.references ++ [position] }

/-- The positions that a run of usages adds to a symbol: those of its name that it does not refer to
yet, each once and in the order found. -/
def newReferences (usages : List (Text × Position)) (symbol : Symbol) : List Position :=
  ((usages.filter fun usage =>
    usage.1 == symbol.name && !symbol.references.contains usage.2).map Prod.snd).eraseDups

theorem nodup_newReferences (usages : List (Text × Position)) (symbol : Symbol) :
    (newReferences usages symbol).Nodup :=
  nodup_eraseDups _

theorem mem_newReferences {usages : List (Text × Position)} {symbol : Symbol}
    {position : Position} :
    position ∈ newReferences usages symbol ↔
      (symbol.name, position) ∈ usages ∧ position ∉ symbol.references := by
  simp [newReferences]

/-- The symbol with the references that a run of usages adds to it. -/
def grownBy (usages : List (Text × Position)) (symbol : Symbol) : Symbol :=
  { symbol with references := symbol.references ++ newReferences usages symbol }

@[simp] theorem grownBy_nil (symbol : Symbol) : grownBy [] symbol = symbol := by
  simp [grownBy, newReferences]

theorem grownBy_concat_of_ne {used : Text} {symbol : Symbol} (different : used ≠ symbol.name)
    (usages : List (Text × Position)) (position : Position) :
    grownBy (usages ++ [(used, position)]) symbol = grownBy usages symbol := by
  simp [grownBy, newReferences, different]

theorem grownBy_concat_self (usages : List (Text × Position)) (symbol : Symbol)
    (position : Position) :
    grownBy (usages ++ [(symbol.name, position)]) symbol =
      referencedAt position (grownBy usages symbol) := by
  by_cases listed : position ∈ symbol.references
  · simp [grownBy, newReferences, referencedAt, listed]
  · have added : newReferences (usages ++ [(symbol.name, position)]) symbol =
        if position ∈ newReferences usages symbol then newReferences usages symbol
        else newReferences usages symbol ++ [position] := by
      simp [newReferences, listed, eraseDups_concat]
    by_cases repeated : position ∈ newReferences usages symbol
    · simp [grownBy, referencedAt, added, repeated]
    · simp [grownBy, referencedAt, added, repeated, listed]

theorem extends_grownBy (usages : List (Text × Position)) (symbol : Symbol) :
    Extends usages symbol (grownBy usages symbol) where
  same := rfl
  begins := List.prefix_append _ _
  nodup distinct := by
    refine List.nodup_append.2 ⟨distinct, nodup_newReferences usages symbol, ?_⟩
    rintro position listed _ added rfl
    exact (mem_newReferences.1 added).2 listed
  mem_iff := by
    intro position
    simp only [grownBy, List.mem_append, mem_newReferences]
    by_cases listed : position ∈ symbol.references <;> simp [listed]

theorem name_of_bucket {index : SymbolIndex} {name : Text} {symbol : Symbol} {later : List Symbol}
    (found : index.bucket name = symbol :: later) : symbol.name = name := by
  have member : symbol ∈ index.bucket name := found ▸ List.mem_cons_self
  exact beq_iff_eq.1 (List.mem_filter.1 member).2

/-- A usage of a name goes to the first symbol of its bucket. -/
theorem bucket_addReference_self (index : SymbolIndex) (name : Text) (position : Position) :
    (index.addReference (name, position)).bucket name =
      (index.bucket name).modifyHead (referencedAt position) := by
  obtain ⟨symbols⟩ := index
  simp only [bucket, addReference]
  induction symbols with
  | nil => rfl
  | cons first rest ih =>
    by_cases named : first.name = name
    · simp [addReferenceTo, referencedAt, named]
    · simpa [addReferenceTo, named] using ih

/-- A usage of another name leaves a bucket as it is. -/
theorem bucket_addReference_of_ne (index : SymbolIndex) {used name : Text}
    (different : used ≠ name) (position : Position) :
    (index.addReference (used, position)).bucket name = index.bucket name := by
  obtain ⟨symbols⟩ := index
  simp only [bucket, addReference]
  induction symbols with
  | nil => rfl
  | cons first rest ih =>
    by_cases named : first.name = used
    · simp [addReferenceTo, named, different]
    · simp only [addReferenceTo, beq_iff_eq, named, if_false, List.filter_cons, ih]

/-- Recording a usage keeps what does not depend on references, symbol by symbol. -/
theorem map_addReferenceTo {β : Type} (view : Symbol → β)
    (blind : ∀ symbol references, view { symbol with references := references } = view symbol)
    (name : Text) (position : Position) (symbols : List Symbol) :
    (addReferenceTo name position symbols).map view = symbols.map view := by
  induction symbols with
  | nil => rfl
  | cons symbol rest ih =>
    rw [addReferenceTo]
    split
    · rw [List.map_cons, blind, List.map_cons]
    · rw [List.map_cons, ih, List.map_cons]

theorem map_trackReferences {β : Type} (view : Symbol → β)
    (blind : ∀ symbol references, view { symbol with references := references } = view symbol)
    (index : SymbolIndex) (fragments : List Fragment) :
    (index.trackReferences fragments).symbols.map view = index.symbols.map view := by
  unfold trackReferences
  induction usages fragments generalizing index with
  | nil => rfl
  | cons usage rest ih =>
    rw [List.foldl_cons, ih]
    exact map_addReferenceTo view blind usage.1 usage.2 index.symbols

/-- Recording usages adds references to the first symbol of a bucket and leaves the later ones as
they are. -/
theorem bucket_foldl_addReference (usages : List (Text × Position)) (index : SymbolIndex)
    (name : Text) :
    (usages.foldl addReference index).bucket name =
      (index.bucket name).modifyHead (grownBy usages) := by
  induction usages using List.reverseRecOn with
  | nil => cases bucket : index.bucket name <;> simp [bucket]
  | append_singleton earlier usage ih =>
    obtain ⟨used, position⟩ := usage
    rw [List.foldl_append, List.foldl_cons, List.foldl_nil]
    by_cases same : used = name
    · subst same
      rw [bucket_addReference_self, ih]
      cases bucket : index.bucket used with
      | nil => rfl
      | cons first later =>
        rw [← name_of_bucket bucket]
        simp only [List.modifyHead_cons, grownBy_concat_self]
    · rw [bucket_addReference_of_ne _ same, ih]
      cases bucket : index.bucket name with
      | nil => rfl
      | cons first later =>
        have other : used ≠ first.name := name_of_bucket bucket ▸ same
        simp only [List.modifyHead_cons, grownBy_concat_of_ne other]

/-- Tracking usages adds the new ones to the first symbol of a bucket. -/
theorem bucket_trackReferences (index : SymbolIndex) (fragments : List Fragment) (name : Text) :
    (index.trackReferences fragments).bucket name =
      (index.bucket name).modifyHead (grownBy (usages fragments)) :=
  bucket_foldl_addReference (usages fragments) index name

/-- Tracking usages extends the first symbol of a bucket. -/
theorem exists_extends_of_bucket {index : SymbolIndex} {fragments : List Fragment}
    {name : Text} {symbol : Symbol} {later : List Symbol}
    (found : (index.trackReferences fragments).bucket name = symbol :: later) :
    ∃ original, index.bucket name = original :: later ∧
      Extends (usages fragments) original symbol := by
  rw [bucket_trackReferences] at found
  obtain ⟨original, others, split⟩ := List.exists_cons_of_ne_nil
    (fun empty : index.bucket name = [] => by simp [empty] at found)
  obtain ⟨rfl, rfl⟩ : grownBy (usages fragments) original = symbol ∧ others = later := by
    simpa [split] using found
  exact ⟨original, split, extends_grownBy _ original⟩

theorem head?_bucket (index : SymbolIndex) (name : Text) :
    (index.bucket name).head? = index.first? name :=
  List.head?_filter

/-- Tracking usages extends the symbol that a name leads to. -/
theorem exists_extends_of_trackReferences {index : SymbolIndex} {fragments : List Fragment}
    {name : Text} {symbol : Symbol}
    (found : (index.trackReferences fragments).first? name = some symbol) :
    ∃ original, index.first? name = some original ∧
      Extends (usages fragments) original symbol := by
  rw [← head?_bucket, List.head?_eq_some_iff] at found
  obtain ⟨later, split⟩ := found
  obtain ⟨original, first, grown⟩ := exists_extends_of_bucket split
  exact ⟨original, by rw [← head?_bucket, first, List.head?_cons], grown⟩

end SymbolIndex

end TemplateNav
