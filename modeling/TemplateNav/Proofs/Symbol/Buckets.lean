import Mathlib.Algebra.BigOperators.Group.Finset.Basic
import TemplateNav.Proofs.Symbol.FirstDeclaration

/-!
# What the buckets of the index hold

The index is sorted as a whole, by position and then by name.  Within one name this
is a stable sort by position, so a bucket holds the symbols of its name in that order,
whatever other symbols there are.  Where no two symbols of a name share a position, the
order of discovery leaves no trace.  Tracking usages adds references to the first symbols
of buckets and leaves everything else as it is.
-/

namespace TemplateNav

namespace Symbol

/-- The symbol without the places where it is used. -/
def unreferenced (symbol : Symbol) : Symbol :=
  { symbol with references := [] }

/-- Whether symbols come in order of position. -/
def Ordered (symbols : List Symbol) : Prop :=
  symbols.Pairwise fun first second => first.position ≤ second.position

/-- The symbols of one name. -/
def named (symbols : List Symbol) (name : Text) : List Symbol :=
  symbols.filter fun symbol => symbol.name == name

/-- The symbols at one position. -/
def declaredAt (symbols : List Symbol) (position : Position) : List Symbol :=
  symbols.filter fun symbol => symbol.position == position

/-- `sorted` are `symbols` in order of position, those at one position as they were. -/
structure IsStableSort (sorted symbols : List Symbol) : Prop where
  perm : sorted.Perm symbols
  ordered : Ordered sorted
  ties : ∀ position, declaredAt sorted position = declaredAt symbols position

/-- The first of ordered symbols is behind none of them. -/
theorem Ordered.head_le {first symbol : Symbol} {rest : List Symbol}
    (ordered : Ordered (first :: rest)) (member : symbol ∈ first :: rest) :
    first.position ≤ symbol.position := by
  rcases List.mem_cons.1 member with rfl | behind
  · exact .inr ⟨rfl, Nat.le_refl _⟩
  · exact (List.pairwise_cons.1 ordered).1 symbol behind

theorem declaredAt_cons (first : Symbol) (rest : List Symbol) (position : Position) :
    declaredAt (first :: rest) position =
      if first.position = position then first :: declaredAt rest position
      else declaredAt rest position := by
  simp [declaredAt, List.filter_cons]

theorem mem_iff_of_ties {left right : List Symbol}
    (ties : ∀ position, declaredAt left position = declaredAt right position) (symbol : Symbol) :
    symbol ∈ left ↔ symbol ∈ right := by
  have same := congrArg (symbol ∈ ·) (ties symbol.position)
  simpa [declaredAt] using same

/-- Ordered symbols are determined by those at each position. -/
theorem Ordered.eq_of_ties {left right : List Symbol} (leftOrdered : Ordered left)
    (rightOrdered : Ordered right)
    (ties : ∀ position, declaredAt left position = declaredAt right position) : left = right := by
  induction left generalizing right with
  | nil =>
    apply Eq.symm
    apply List.eq_nil_iff_forall_not_mem.2
    intro symbol member
    exact List.not_mem_nil ((mem_iff_of_ties ties symbol).2 member)
  | cons first left ih =>
    have members := mem_iff_of_ties ties
    obtain _ | ⟨second, right⟩ := right
    · exact absurd ((members first).1 List.mem_cons_self) List.not_mem_nil
    -- each head stands in the other list, so neither is behind the other
    have tied : first.position = second.position :=
      Position.le_antisymm (leftOrdered.head_le ((members second).2 List.mem_cons_self))
        (rightOrdered.head_le ((members first).1 List.mem_cons_self))
    simp only [declaredAt_cons] at ties
    obtain ⟨rfl, _⟩ : first = second ∧
        declaredAt left second.position = declaredAt right second.position := by
      simpa [tied] using ties second.position
    congr 1
    refine ih (List.pairwise_cons.1 leftOrdered).2 (List.pairwise_cons.1 rightOrdered).2 ?_
    intro position
    by_cases here : first.position = position <;> simpa [here] using ties position

/-- A list has one stable sort. -/
theorem IsStableSort.unique {first second symbols : List Symbol} (left : IsStableSort first symbols)
    (right : IsStableSort second symbols) : first = second :=
  left.ordered.eq_of_ties right.ordered fun position =>
    (left.ties position).trans (right.ties position).symm

end Symbol

namespace SymbolIndex

theorem build_perm (symbols : List Symbol) : (build symbols).symbols.Perm symbols :=
  List.mergeSort_perm symbols precedes

theorem precedes_of_tied {first second : Symbol} (names : first.name = second.name)
    (positions : first.position = second.position) : precedes first second = true := by
  rw [precedes, if_pos positions, names]
  simpa using Text.precedes_total second.name second.name

/-- Symbols that precede each other stand in one place under one name. -/
theorem tied_of_precedes {first second : Symbol} (left : precedes first second = true)
    (right : precedes second first = true) :
    first.name = second.name ∧ first.position = second.position := by
  have positions : first.position = second.position :=
    Position.le_antisymm (position_le_of_precedes left) (position_le_of_precedes right)
  rw [precedes, if_pos positions] at left
  rw [precedes, if_pos positions.symm] at right
  exact ⟨Text.precedes_antisymm left right, positions⟩

/-- Symbols that precede each other are indexed in the order of discovery. -/
theorem filter_build {tied : Symbol → Bool} (precede : ∀ first second, tied first = true →
    tied second = true → precedes first second = true) (symbols : List Symbol) :
    (build symbols).symbols.filter tied = symbols.filter tied := by
  have sorted : (symbols.filter tied).Pairwise fun first second =>
      precedes first second = true := by
    apply List.pairwise_of_forall_mem_list
    intro first firstMember second secondMember
    exact precede first second (List.mem_filter.1 firstMember).2 (List.mem_filter.1 secondMember).2
  have within : (symbols.filter tied).Sublist (build symbols).symbols :=
    List.sublist_mergeSort precedes_trans precedes_total sorted List.filter_sublist
  have kept := within.filter tied
  simp only [List.filter_filter, Bool.and_self] at kept
  exact (kept.eq_of_length ((build_perm symbols).filter tied).length_eq.symm).symm

/-- Symbols of one name at one position are indexed in the order of discovery. -/
theorem declaredAt_bucket_build (symbols : List Symbol) (name : Text) (position : Position) :
    Symbol.declaredAt ((build symbols).bucket name) position =
      Symbol.declaredAt (Symbol.named symbols name) position := by
  simp only [Symbol.declaredAt, Symbol.named, bucket, List.filter_filter]
  apply filter_build
  intro first second firstTied secondTied
  simp only [Bool.and_eq_true, beq_iff_eq] at firstTied secondTied
  exact precedes_of_tied (firstTied.2.trans secondTied.2.symm)
    (firstTied.1.trans secondTied.1.symm)

/-- A bucket is a stable sort of the symbols of its name. -/
theorem isStableSort_bucket_build (symbols : List Symbol) (name : Text) :
    Symbol.IsStableSort ((build symbols).bucket name) (Symbol.named symbols name) where
  perm := (build_perm symbols).filter _
  ordered := ((build_pairwise symbols).imp position_le_of_precedes).filter _
  ties := declaredAt_bucket_build symbols name

/-- The order of discovery does not matter where the symbols of a name stand apart. -/
theorem build_eq_of_perm {symbols reordered : List Symbol} (perm : reordered.Perm symbols)
    (apart : ∀ first ∈ symbols, ∀ second ∈ symbols, first ≠ second → first.name = second.name →
      first.position ≠ second.position) :
    build reordered = build symbols := by
  have indexed : (build reordered).symbols.Perm (build symbols).symbols :=
    (build_perm reordered).trans (perm.trans (build_perm symbols).symm)
  have equal : (build reordered).symbols = (build symbols).symbols := by
    refine indexed.eq_of_pairwise ?_ (build_pairwise reordered) (build_pairwise symbols)
    intro first second firstMember secondMember left right
    obtain ⟨names, positions⟩ := tied_of_precedes left right
    by_contra different
    exact apart first (perm.subset ((build_perm reordered).subset firstMember)) second
      ((build_perm symbols).subset secondMember) different names positions
  exact congrArg mk equal

/-- The symbols of an index are shared out among its buckets. -/
theorem sum_length_bucket (index : SymbolIndex) :
    ∑ name ∈ (index.symbols.map Symbol.name).toFinset, (index.bucket name).length =
      index.symbolCount := by
  rw [symbolCount, ← List.length_map Symbol.name, ← List.sum_toFinset_count_eq_length]
  apply Finset.sum_congr rfl
  intro name _
  unfold List.count
  rw [bucket, ← List.countP_eq_length_filter, List.countP_map]
  exact List.countP_congr fun symbol _ => by simp

theorem nameCount_eq_card (index : SymbolIndex) :
    index.nameCount = (index.symbols.map Symbol.name).toFinset.card := by
  rw [List.card_toFinset (index.symbols.map Symbol.name)]
  exact (eraseDups_perm_dedup (index.symbols.map Symbol.name)).length_eq

theorem toFinset_names_build (symbols : List Symbol) :
    ((build symbols).symbols.map Symbol.name).toFinset = (symbols.map Symbol.name).toFinset :=
  List.toFinset_eq_of_perm _ _ ((build_perm symbols).map _)

/-- **The index holds the given symbols and nothing else.** Each bucket is the one stable sort of
the symbols of its name, the buckets share all symbols out among the distinct names, and the order
of discovery leaves no trace where the symbols of a name stand apart.  Tracking usages in any index
changes nothing but the references of the first symbols of buckets, which get the usages of their
name that they did not have, each once, behind the references they had. -/
theorem buckets_hold_all_symbols (symbols : List Symbol) :
    (∀ name sorted, Symbol.IsStableSort sorted (Symbol.named symbols name) ↔
      sorted = (build symbols).bucket name) ∧
    ((build symbols).symbolCount = symbols.length ∧
      ∑ name ∈ (symbols.map Symbol.name).toFinset, ((build symbols).bucket name).length =
        symbols.length) ∧
    (build symbols).nameCount = (symbols.map Symbol.name).toFinset.card ∧
    (∀ reordered : List Symbol, reordered.Perm symbols →
      (∀ first ∈ symbols, ∀ second ∈ symbols, first ≠ second → first.name = second.name →
        first.position ≠ second.position) →
      build reordered = build symbols) ∧
    ∀ (index : SymbolIndex) (fragments : List Fragment),
      ((index.trackReferences fragments).symbols.map Symbol.unreferenced =
        index.symbols.map Symbol.unreferenced) ∧
      (∀ name, (index.trackReferences fragments).bucket name =
        (index.bucket name).modifyHead fun first =>
          { first with
            references := first.references ++ newReferences (usages fragments) first }) ∧
      ∀ symbol, (newReferences (usages fragments) symbol).Nodup ∧
        ∀ position, position ∈ newReferences (usages fragments) symbol ↔
          (symbol.name, position) ∈ usages fragments ∧ position ∉ symbol.references := by
  have stable := isStableSort_bucket_build symbols
  have count : (build symbols).symbolCount = symbols.length := (build_perm symbols).length_eq
  refine ⟨?_, ⟨count, ?_⟩, ?_, fun _ => build_eq_of_perm, ?_⟩
  · intro name sorted
    exact ⟨fun sort => sort.unique (stable name), fun same => same ▸ stable name⟩
  · rw [← count, ← sum_length_bucket, toFinset_names_build]
  · rw [nameCount_eq_card, toFinset_names_build]
  · intro index fragments
    exact ⟨map_trackReferences Symbol.unreferenced (fun _ _ => rfl) index fragments,
      bucket_trackReferences index fragments,
      fun symbol => ⟨nodup_newReferences _ symbol, fun _ => mem_newReferences⟩⟩

/-- Two names share a position here, and the symbols of one name come last to first. -/
theorem buckets_hold_all_symbols_in_any_order :
    let declared : Char → Nat → Nat → Symbol := fun name line character =>
      ⟨[name], .mutable, .declared, none, ⟨line, character⟩, [⟨line, character⟩], none⟩
    let found := [declared 'x' 4 2, declared 'y' 1 3, declared 'x' 1 9, declared 'x' 1 3]
    let reordered := [declared 'x' 1 9, declared 'x' 1 3, declared 'x' 4 2, declared 'y' 1 3]
    reordered.Perm found ∧
      (∀ first ∈ found, ∀ second ∈ found, first ≠ second → first.name = second.name →
        first.position ≠ second.position) ∧
      build reordered = build found := by
  intro declared found reordered
  have perm : reordered.Perm found := by decide
  have apart : ∀ first ∈ found, ∀ second ∈ found, first ≠ second → first.name = second.name →
      first.position ≠ second.position := by decide
  obtain ⟨_, _, _, same, _⟩ := buckets_hold_all_symbols found
  exact ⟨perm, apart, same reordered perm apart⟩

end SymbolIndex

end TemplateNav
