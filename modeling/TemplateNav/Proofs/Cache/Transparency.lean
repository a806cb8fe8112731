import TemplateNav.Proofs.Cache.Agreement

/-!
# A cache changes no answer

Clients of a cache may look up, store, drop, sweep and reconfigure in any order
and at any time.  As long as a document and revision always come with the same
text, both maps agree with these texts after every operation, so whatever is asked
of the cache is answered as if everything were computed anew.
-/

namespace TemplateNav

namespace Cache

/-- What may be asked of a cache, with the reading of the clock where it is read. -/
inductive Operation where
  /-- The analysis of a document; its fragments are looked up at one time, its index at another. -/
  | analyze (uri : Uri) (revision : Int) (text : Text) (parsedAt indexedAt : Nat)
  | fragments (uri : Uri) (revision : Int) (text : Text) (now : Nat)
  | symbols (uri : Uri) (revision : Int) (text : Text) (now : Nat)
  | invalidate (uri : Uri)
  | invalidateAll
  | sweep (now : Nat)
  | reconfigure (limits : CacheLimits) (thresholds : Thresholds)

/-- What an operation returns about a document. -/
inductive Value where
  | analysis (analysis : Analysis)
  | fragments (fragments : List Fragment)
  | symbols (index : SymbolIndex)
  | none
  deriving DecidableEq

namespace Operation

/-- Documents come with the texts that `textOf` gives for their revisions. -/
def Submits (textOf : Uri → Int → Text) : Operation → Prop
  | analyze uri revision text _ _ => text = textOf uri revision
  | fragments uri revision text _ => text = textOf uri revision
  | symbols uri revision text _ => text = textOf uri revision
  | _ => True

/-- What an operation returns where nothing is ever stored. -/
def computed : Operation → Value
  | analyze _ _ text _ _ => .analysis (Analysis.ofText text)
  | fragments _ _ text _ => .fragments (Fragment.extract text)
  | symbols _ _ text _ => .symbols (Analysis.indexOf (Fragment.extract text))
  | _ => .none

end Operation

/-- Carries out one operation. -/
def perform (cache : Cache) : Operation → Value × Cache
  | .analyze uri revision text parsedAt indexedAt =>
    let (analysis, cache) := cache.analyzeBetween parsedAt indexedAt uri revision text
    (.analysis analysis, cache)
  | .fragments uri revision text now =>
    let (fragments, cache) := cache.fetchFragments now uri revision fun _ => Fragment.extract text
    (.fragments fragments, cache)
  | .symbols uri revision text now =>
    let (index, cache) := cache.fetchSymbols now uri revision fun _ =>
      Analysis.indexOf (Fragment.extract text)
    (.symbols index, cache)
  | .invalidate uri => (.none, cache.invalidate uri)
  | .invalidateAll => (.none, cache.invalidateAll)
  | .sweep now => (.none, (cache.sweep now).1)
  | .reconfigure limits thresholds => (.none, cache.reconfigure limits thresholds)

/-- The cache after some operations. -/
def afterAll (cache : Cache) (operations : List Operation) : Cache :=
  operations.foldl (fun cache operation => (cache.perform operation).2) cache

/-- What the operations of a run return, one after the other. -/
def values (cache : Cache) : List Operation → List Value
  | [] => []
  | operation :: rest => (cache.perform operation).1 :: (cache.perform operation).2.values rest

theorem agreesOn_new (limits : CacheLimits) (thresholds : Thresholds)
    (isKnown : Uri → Int → Text → Prop) : (new limits thresholds).AgreesOn isKnown :=
  ⟨fun _ member => (List.not_mem_nil member).elim, fun _ member => (List.not_mem_nil member).elim⟩

variable {cache : Cache} {textOf : Uri → Int → Text}

/-- One operation returns what would be computed and leaves both maps in agreement. -/
theorem AgreesOn.perform
    (agrees : cache.AgreesOn fun uri revision text => text = textOf uri revision)
    {operation : Operation} (submits : operation.Submits textOf) :
    (cache.perform operation).1 = operation.computed ∧
      (cache.perform operation).2.AgreesOn fun uri revision text => text = textOf uri revision := by
  cases operation with
  | analyze uri revision text parsedAt indexedAt =>
    have single : ∀ other, other = textOf uri revision → other = text :=
      fun other same => same.trans submits.symm
    obtain ⟨same, kept⟩ := agrees.analyzeBetween submits single parsedAt indexedAt
    exact ⟨congrArg Value.analysis same, kept⟩
  | fragments uri revision text now =>
    have single : ∀ other, other = textOf uri revision → other = text :=
      fun other same => same.trans submits.symm
    obtain ⟨same, kept⟩ := agrees.fetchFragments submits single now
    exact ⟨congrArg Value.fragments same, kept⟩
  | symbols uri revision text now =>
    have single : ∀ other, other = textOf uri revision → other = text :=
      fun other same => same.trans submits.symm
    obtain ⟨same, kept⟩ := agrees.fetchSymbols submits single now
    exact ⟨congrArg Value.symbols same, kept⟩
  | invalidate uri => exact ⟨rfl, agrees.invalidate_of_elsewhere fun _ _ _ _ known => known⟩
  | invalidateAll =>
    exact ⟨rfl, agrees.fragments.of_shrinks (RevisionMap.shrinks_empty _),
      agrees.symbols.of_shrinks (RevisionMap.shrinks_empty _)⟩
  | sweep now =>
    exact ⟨rfl, agrees.fragments.of_shrinks (RevisionMap.shrinks_restrict _ _),
      agrees.symbols.of_shrinks (RevisionMap.shrinks_restrict _ _)⟩
  | reconfigure limits thresholds => exact ⟨rfl, agrees.fragments, agrees.symbols⟩

/-- A run returns what would be computed and leaves both maps in agreement. -/
theorem AgreesOn.run
    (agrees : cache.AgreesOn fun uri revision text => text = textOf uri revision)
    {operations : List Operation} (submits : ∀ operation ∈ operations, operation.Submits textOf) :
    cache.values operations = operations.map Operation.computed ∧
      (cache.afterAll operations).AgreesOn fun uri revision text => text = textOf uri revision := by
  induction operations generalizing cache with
  | nil => exact ⟨rfl, agrees⟩
  | cons operation rest ih =>
    obtain ⟨first, others⟩ := List.forall_mem_cons.1 submits
    obtain ⟨same, kept⟩ := agrees.perform first
    obtain ⟨later, stillKept⟩ := ih kept others
    rw [values, same, later]
    exact ⟨rfl, stillKept⟩

/-- If every document and revision always comes with one text, then every run from an empty cache
returns what would be computed without one, however the clock moves, and so does the next
analysis. -/
theorem values_eq_map_computed (limits : CacheLimits) (thresholds : Thresholds)
    {operations : List Operation} (submits : ∀ operation ∈ operations, operation.Submits textOf) :
    (new limits thresholds).values operations = operations.map Operation.computed ∧
      ∀ uri revision now, (((new limits thresholds).afterAll operations).analyze now uri revision
        (textOf uri revision)).1 = Analysis.ofText (textOf uri revision) := by
  obtain ⟨same, agrees⟩ := (agreesOn_new limits thresholds _).run submits
  refine ⟨same, ?_⟩
  intro uri revision now
  exact (agrees.analyze rfl (fun _ known => known) now).1

/-- First only the index is stored, then both, and then the index has expired and the fragments have
not, so each map is hit beside a miss of the other. -/
theorem values_eq_map_computed_of_half_stored :
    let uri : Uri := ⟨"file:///a.ejs"⟩
    let text : Text := ['<', '%', ' ', 'a', '=', '>', 'a', ' ', '%', '>']
    let operations : List Operation :=
      [.symbols uri 1 text 0, .analyze uri 1 text 5 5, .reconfigure ⟨1, 3, 1⟩ .standard,
        .analyze uri 1 text 8 9]
    (∀ operation ∈ operations, operation.Submits fun _ _ => text) ∧
      ((new .standard .standard).afterAll operations).tally = ⟨2, 3, 0, 1⟩ ∧
      (new .standard .standard).values operations =
        [.symbols (Analysis.ofText text).index, .analysis (Analysis.ofText text), .none,
          .analysis (Analysis.ofText text)] := by
  intro uri text operations
  have submits : ∀ operation ∈ operations, operation.Submits fun _ _ => text := by
    simp [operations, Operation.Submits]
  exact ⟨submits, by decide +kernel, (values_eq_map_computed .standard .standard submits).1⟩

end Cache

end TemplateNav
