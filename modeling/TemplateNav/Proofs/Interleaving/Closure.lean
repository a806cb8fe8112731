import TemplateNav.Proofs.Interleaving.Basic
import TemplateNav.Uri.Parse

/-!
# Closed documents leave nothing stored

A query stores what it computes and looks only afterwards whether its document
is open; a handler that closes a document forgets it before it drops the entries.
So whenever an entry belongs to no open document, somebody is still on the way
who will drop it, whatever else happens in between.
-/

namespace TemplateNav

/-- There is an entry for a document. -/
def RevisionMap.Has {α : Type} (map : RevisionMap α) (uri : Uri) : Prop :=
  ∃ entry ∈ map.entries, entry.uri = uri

namespace RevisionMap

variable {α : Type} {map : RevisionMap α} {uri : Uri}

theorem Has.of_shrinks {other : RevisionMap α} (has : other.Has uri) (shrinks : map.Shrinks other) :
    map.Has uri := by
  obtain ⟨entry, member, same⟩ := has
  exact ⟨entry, shrinks entry member, same⟩

theorem not_has_erase (map : RevisionMap α) (uri : Uri) : ¬ (map.erase uri).Has uri := by
  rintro ⟨entry, member, same⟩
  exact uri_ne_of_mem_erase member same

theorem Has.of_insert {entry : Entry α} {capacity : Nat}
    (has : (map.insert entry capacity).1.Has uri) : map.Has uri ∨ entry.uri = uri := by
  obtain ⟨other, member, same⟩ := has
  rcases mem_of_mem_insert member with rfl | ⟨old, _⟩
  · exact .inr same
  · exact .inl ⟨other, old, same⟩

theorem find?_eq_none_of_not_has (absent : ¬ map.Has uri) : map.find? uri = none := by
  apply List.find?_eq_none.2
  intro entry member
  have different : entry.uri ≠ uri := fun same => absent ⟨entry, member, same⟩
  simpa using different

end RevisionMap

namespace Interleaving

/-- Whether the document is still to be looked for. -/
def Stage.WillLook : Stage → Prop
  | started | missedFragments _ _ | parsed _ | missedSymbols _ _ _ | analyzed _ => True
  | _ => False

theorem Stage.willLook_behindFragments (now : Nat) (limits : CacheLimits)
    (found : Option (List Fragment)) : (behindFragments now limits found).WillLook := by
  cases found with
  | none => exact trivial
  | some fragments => exact trivial

theorem Stage.willLook_behindSymbols (fragments : List Fragment) (now : Nat) (limits : CacheLimits)
    (found : Option SymbolIndex) : (behindSymbols fragments now limits found).WillLook := by
  cases found with
  | none => exact trivial
  | some index => exact trivial

namespace Thread

/-- Whether the thread is a query that will look for its document. -/
def WillLook : Thread → Prop
  | working _ _ stage => stage.WillLook
  | _ => False

/-- The thread is sure to have an effect on a document, unless it finds the document open. -/
def WillHave (thread : Thread) (effect : Effect) (uri : Uri) : Prop :=
  thread.uri = uri ∧ (effect ∈ thread.remaining ∨ thread.WillLook)

variable {thread : Thread} {drop : Effect} {uri : Uri}

/-- A look ends with the document open or with its entries to be dropped. -/
theorem WillLook.advance (will : thread.WillLook) (dropped : drop ∈ Effect.dropping)
    (session : Session) : (∃ next ∈ (thread.advance session).next, next.WillHave drop thread.uri) ∨
      (session.document? thread.uri).isSome := by
  cases thread with
  | begun query ticket => exact will.elim
  | handler uri effects => exact will.elim
  | working task isAnswered stage =>
    cases stage with
    | waiting => exact will.elim
    | leaving analysis effects => exact will.elim
    | started => exact .inl ⟨_, rfl, rfl, .inr (Stage.willLook_behindFragments _ _ _)⟩
    | missedFragments now limits => exact .inl ⟨_, rfl, rfl, .inr trivial⟩
    | parsed fragments => exact .inl ⟨_, rfl, rfl, .inr (Stage.willLook_behindSymbols _ _ _ _)⟩
    | missedSymbols fragments now limits => exact .inl ⟨_, rfl, rfl, .inr trivial⟩
    | analyzed analysis =>
      by_cases isOpen : (session.document? task.query.uri).isSome
      · exact .inr isOpen
      · refine .inl ⟨_, rfl, rfl, .inl ?_⟩
        simpa [remaining, Stage.remaining, isOpen] using dropped

/-- What a thread is sure to do, it does with its next access or is still sure to do, unless the
document is open. -/
theorem WillHave.advance (will : thread.WillHave drop uri) (dropped : drop ∈ Effect.dropping)
    (session : Session) : (∃ next ∈ (thread.advance session).next, next.WillHave drop uri) ∨
      (∃ rest, thread.remaining = drop :: rest) ∨ (session.document? uri).isSome := by
  obtain ⟨rfl, listed | look⟩ := will
  · obtain ⟨effect, rest, remaining⟩ := List.exists_cons_of_ne_nil (List.ne_nil_of_mem listed)
    by_cases same : drop = effect
    · exact .inr (.inl ⟨rest, same ▸ remaining⟩)
    · rw [remaining] at listed
      have later := (List.mem_cons.1 listed).resolve_left same
      obtain ⟨_, _, ⟨rfl, _⟩ | ⟨next, continued, sameUri, left, _⟩⟩ :=
        advance_of_cons remaining session
      · cases later
      · exact .inl ⟨next, continued, sameUri, .inl (left ▸ later)⟩
  · rcases look.advance dropped session with still | isOpen
    · exact .inl still
    · exact .inr (.inr isOpen)

/-- Whoever forgets a document is sure to drop its entries. -/
theorem document?_advance (onCourse : thread.OnCourse) (dropped : drop ∈ Effect.dropping)
    {session : Session} (closed : (thread.advance session).session.document? uri = none) :
    session.document? uri = none ∨
      ∃ next ∈ (thread.advance session).next, next.WillHave drop uri := by
  have access := access_advance session thread
  generalize (thread.advance session).session = later at closed access
  cases access with
  | retained idle retains => exact .inl ((retains.document? uri).symm.trans closed)
  | storedFragments stage => exact .inl closed
  | storedSymbols stage => exact .inl closed
  | @effect effect rest remaining =>
    cases effect with
    | cancel => exact .inl closed
    | dropFragments => exact .inl closed
    | dropSymbols => exact .inl closed
    | write document =>
      by_cases same : uri = thread.uri
      · rw [same, Effect.apply, Session.document?_putDocument_self] at closed
        cases closed
      · rw [Effect.apply, Session.document?_putDocument_of_ne session same] at closed
        exact .inl closed
    | forget =>
      by_cases same : uri = thread.uri
      · have left := onCourse.eq_dropping_of_forget remaining
        obtain ⟨_, _, ⟨empty, _⟩ | ⟨next, continued, sameUri, rest, _⟩⟩ :=
          advance_of_cons remaining session
        · rw [left] at empty
          cases empty
        · exact .inr ⟨next, continued, sameUri.trans same.symm, .inl (rest ▸ left ▸ dropped)⟩
      · rw [Effect.apply, Session.document?_dropDocument_of_ne session same] at closed
        exact .inl closed

theorem has_fragments_advance {session : Session}
    (has : (thread.advance session).session.cache.fragments.Has uri) :
    session.cache.fragments.Has uri ∨
      ∃ next ∈ (thread.advance session).next, next.WillHave .dropFragments uri := by
  rcases fragments_advance session thread with
    shrinks | ⟨task, isAnswered, now, limits, rfl, stored⟩
  · exact .inl (has.of_shrinks shrinks)
  · rw [stored] at has
    rcases has.of_insert with old | rfl
    · exact .inl old
    · exact .inr ⟨_, rfl, rfl, .inr trivial⟩

theorem has_symbols_advance {session : Session}
    (has : (thread.advance session).session.cache.symbols.Has uri) :
    session.cache.symbols.Has uri ∨
      ∃ next ∈ (thread.advance session).next, next.WillHave .dropSymbols uri := by
  rcases symbols_advance session thread with
    shrinks | ⟨task, isAnswered, fragments, now, limits, rfl, stored⟩
  · exact .inl (has.of_shrinks shrinks)
  · rw [stored] at has
    rcases has.of_insert with old | rfl
    · exact .inl old
    · exact .inr ⟨_, rfl, rfl, .inr trivial⟩

end Thread

namespace State

variable {state : State} {drop : Effect} {has : Session → Uri → Prop}

/-- For every document that is not open, but that there is something for in the session, a thread is
sure to have an effect. -/
def Guarded (state : State) (drop : Effect) (has : Session → Uri → Prop) : Prop :=
  ∀ uri, state.session.document? uri = none → has state.session uri →
    ∃ thread ∈ state.threads, thread.WillHave drop uri

theorem Guarded.of_retains {session : Session} {threads : List Thread} {delivered : List Delivery}
    (guarded : state.Guarded drop has) (retains : state.session.Retains session)
    (dropsOnly : ∀ uri, has session uri → has state.session uri)
    (kept : ∀ uri, ∀ thread ∈ state.threads, thread.WillHave drop uri →
      ∃ other ∈ threads, other.WillHave drop uri) :
    Guarded ⟨session, threads, delivered⟩ drop has := by
  intro uri closed present
  have closedBefore := (retains.document? uri).symm.trans closed
  obtain ⟨thread, member, will⟩ := guarded uri closedBefore (dropsOnly uri present)
  exact kept uri thread member will

/-- An access of one thread leaves the others on their way. -/
theorem Guarded.advance {left right : List Thread} {thread : Thread}
    (guarded : state.Guarded drop has) (dropped : drop ∈ Effect.dropping)
    (threads : state.threads = left ++ thread :: right) (onCourse : thread.OnCourse)
    (stored : ∀ uri, has (thread.advance state.session).session uri → has state.session uri ∨
      ∃ next ∈ (thread.advance state.session).next, next.WillHave drop uri)
    (gone : ∀ rest, thread.remaining = drop :: rest →
      ¬ has (thread.advance state.session).session thread.uri) :
    (state.between left right (thread.advance state.session)).Guarded drop has := by
  intro uri closed present
  have follow : (∃ next ∈ (thread.advance state.session).next, next.WillHave drop uri) →
      ∃ other ∈ (state.between left right (thread.advance state.session)).threads,
        other.WillHave drop uri := by
    rintro ⟨next, member, will⟩
    exact ⟨next, by simp [between, Option.mem_def.1 member], will⟩
  rcases Thread.document?_advance onCourse dropped closed with closedBefore | continues
  · rcases stored uri present with presentBefore | continues
    · obtain ⟨other, member, will⟩ := guarded uri closedBefore presentBefore
      rw [threads, List.mem_append, List.mem_cons] at member
      rcases member with before | rfl | behind
      · exact ⟨other, by simp [between, before], will⟩
      · -- The thread that was sure to drop the entry goes on, has just dropped it, or is free to
        -- leave it because it saw the document open.
        rcases will.advance dropped state.session with continues | ⟨rest, remaining⟩ | isOpen
        · exact follow continues
        · exact absurd (will.1 ▸ present) (gone rest remaining)
        · rw [closedBefore] at isOpen
          cases isOpen
      · exact ⟨other, by simp [between, behind], will⟩
    · exact follow continues
  · exact follow continues

/-- Everybody keeps to the way of a handler, and entries of closed documents are on the way out. -/
structure Tidy (state : State) : Prop where
  onCourse : ∀ thread ∈ state.threads, thread.OnCourse
  fragments : state.Guarded .dropFragments fun session uri => session.cache.fragments.Has uri
  symbols : state.Guarded .dropSymbols fun session uri => session.cache.symbols.Has uri

theorem tidy_initial (readUri : UriReader) : Tidy (initial readUri) where
  onCourse := by simp [initial]
  fragments := by
    rintro uri closed ⟨entry, member, same⟩
    cases member
  symbols := by
    rintro uri closed ⟨entry, member, same⟩
    cases member

theorem Tidy.of_retains {session : Session} {threads : List Thread} {delivered : List Delivery}
    (tidy : Tidy state) (retains : state.session.Retains session)
    (onCourse : ∀ thread ∈ threads, thread.OnCourse)
    (kept : ∀ drop uri, ∀ thread ∈ state.threads, thread.WillHave drop uri →
      ∃ other ∈ threads, other.WillHave drop uri) :
    Tidy ⟨session, threads, delivered⟩ where
  onCourse := onCourse
  fragments := tidy.fragments.of_retains retains
    (fun _ present => present.of_shrinks retains.fragments) (kept .dropFragments)
  symbols := tidy.symbols.of_retains retains
    (fun _ present => present.of_shrinks retains.symbols) (kept .dropSymbols)

/-- Every action keeps entries of closed documents on the way out. -/
theorem tidy_step (tidy : Tidy state) (action : Action) : Tidy (state.step action) := by
  have outcome := outcome_step state action
  generalize state.step action = after at outcome
  cases outcome with
  | aside retains =>
    exact tidy.of_retains retains tidy.onCourse fun _ _ thread member will => ⟨thread, member, will⟩
  | @begun session thread retains begins =>
    apply tidy.of_retains retains
    · intro other member
      rcases List.mem_append.1 member with old | new
      · exact tidy.onCourse other old
      · rw [List.mem_singleton.1 new]
        exact Thread.onCourse_of_beginsWith begins
    · intro drop uri other member will
      exact ⟨other, List.mem_append_left _ member, will⟩
  | @expired session left right task stage threads retains =>
    have onCourse := tidy.onCourse
    rw [threads] at onCourse
    apply tidy.of_retains retains
    · intro other member
      rw [List.mem_append, List.mem_cons] at member
      rcases member with before | rfl | behind
      · exact onCourse other (by simp [before])
      · exact onCourse (.working task false stage) (by simp)
      · exact onCourse other (by simp [behind])
    · intro drop uri other member will
      rw [threads, List.mem_append, List.mem_cons] at member
      rcases member with before | rfl | behind
      · exact ⟨other, by simp [before], will⟩
      · exact ⟨.working task true stage, by simp, will⟩
      · exact ⟨other, by simp [behind], will⟩
  | @advanced left right thread threads =>
    have onCourse := tidy.onCourse
    rw [threads] at onCourse
    have own : thread.OnCourse := onCourse thread (by simp)
    refine ⟨?_, ?_, ?_⟩
    · intro other member
      simp only [between, List.mem_append, Option.mem_toList] at member
      rcases member with (before | next) | behind
      · exact onCourse other (by simp [before])
      · exact own.advance next
      · exact onCourse other (by simp [behind])
    · apply tidy.fragments.advance (by decide) threads own
      · exact fun _ present => Thread.has_fragments_advance present
      · intro rest remaining
        rw [(Thread.advance_of_cons remaining state.session).1]
        exact RevisionMap.not_has_erase _ _
    · apply tidy.symbols.advance (by decide) threads own
      · exact fun _ present => Thread.has_symbols_advance present
      · intro rest remaining
        rw [(Thread.advance_of_cons remaining state.session).1]
        exact RevisionMap.not_has_erase _ _

theorem tidy_run (tidy : Tidy state) (actions : List Action) : Tidy (state.run actions) := by
  induction actions generalizing state with
  | nil => exact tidy
  | cons action rest ih => exact ih (tidy_step tidy action)

/-- Once a document is closed and nothing about it is under way, neither map holds an entry for
it. -/
theorem closed_document_has_no_entries (readUri : UriReader) (actions : List Action) (uri : Uri)
    (closed : ((initial readUri).run actions).session.document? uri = none)
    (quiet : ∀ thread ∈ ((initial readUri).run actions).threads, thread.uri ≠ uri) :
    ((initial readUri).run actions).session.cache.fragments.find? uri = none ∧
      ((initial readUri).run actions).session.cache.symbols.find? uri = none := by
  have tidy := tidy_run (tidy_initial readUri) actions
  constructor
  · apply RevisionMap.find?_eq_none_of_not_has
    intro present
    obtain ⟨thread, member, will⟩ := tidy.fragments uri closed present
    exact quiet thread member will.1
  · apply RevisionMap.find?_eq_none_of_not_has
    intro present
    obtain ⟨thread, member, will⟩ := tidy.symbols uri closed present
    exact quiet thread member will.1

/-- A document that is closed while a query about it is at work: the query stores its entries after
the handler has dropped the others, and takes them back. -/
theorem closed_document_has_no_entries_after_late_query :
    let uri : Uri := ⟨"file:///a.ejs"⟩
    let actions : List Action :=
      [.openDocument uri ⟨1, ['<', '%', 'a', '%', '>']⟩] ++ List.replicate 4 (.advance 0) ++
        [.query ⟨.hover, uri, ⟨0, 2⟩⟩, .advance 0, .advance 0, .closeDocument uri] ++
        List.replicate 4 (.advance 1) ++ List.replicate 4 (.advance 0)
    let later := actions ++ List.replicate 4 (.advance 0)
    (((initial Uri.read).run actions).session.cache.fragments.find? uri).isSome ∧
      ((initial Uri.read).run later).session.document? uri = none ∧
      (∀ thread ∈ ((initial Uri.read).run later).threads, thread.uri ≠ uri) ∧
      ((initial Uri.read).run later).session.cache.fragments.find? uri = none ∧
      ((initial Uri.read).run later).session.cache.symbols.find? uri = none := by
  intro uri actions later
  have stored : (((initial Uri.read).run actions).session.cache.fragments.find? uri).isSome := by
    decide +kernel
  have closed : ((initial Uri.read).run later).session.document? uri = none := by decide +kernel
  have quiet : ∀ thread ∈ ((initial Uri.read).run later).threads, thread.uri ≠ uri := by
    decide +kernel
  exact ⟨stored, closed, quiet, closed_document_has_no_entries Uri.read later uri closed quiet⟩

end State

end Interleaving

end TemplateNav
