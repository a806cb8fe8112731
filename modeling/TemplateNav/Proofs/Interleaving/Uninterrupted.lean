import TemplateNav.Proofs.Interleaving.Basic

/-!
# Threads that are not interrupted

The accesses of a handler, one right after the other, make up the opening or
closing of a document, and those of a query make up its work and the end of it.
-/

namespace TemplateNav

theorem Tally.add_assoc (first second third : Tally) :
    (first.add second).add third = first.add (second.add third) := by
  simp [Tally.add, Nat.add_assoc]

/-- Fetching is a look-up, and storing behind it where nothing was found. -/
theorem RevisionMap.fetch_eq {α : Type} (map : RevisionMap α) (limits : CacheLimits) (now : Nat)
    (uri : Uri) (revision : Int) (compute : Unit → α) :
    map.fetch limits now uri revision compute =
      let found := map.lookup uri revision now limits.timeToLive
      match found.value? with
      | some value => ⟨value, map.behind uri found, found.tally⟩
      | none =>
        let stored := (map.behind uri found).insert ⟨uri, revision, compute (), now⟩ limits.capacity
        ⟨compute (), stored.1, found.tally.add ⟨0, 0, stored.2, 0⟩⟩ := by
  simp only [fetch]
  cases map.lookup uri revision now limits.timeToLive with
  | hit value => rfl
  | miss => simp [Lookup.value?, Lookup.tally, behind, Tally.add]
  | expired => simp [Lookup.value?, Lookup.tally, behind, Tally.add]

namespace Cache

variable {cache looked : Cache} {now : Nat} {uri : Uri} {revision : Int}

theorem fetchFragments_of_found {fragments : List Fragment} (compute : Unit → List Fragment)
    (found : cache.lookupFragments now uri revision = (some fragments, looked)) :
    cache.fetchFragments now uri revision compute = (fragments, looked) := by
  obtain ⟨value, rfl⟩ := Prod.mk.inj found
  simp [fetchFragments, RevisionMap.fetch_eq, value]

theorem fetchFragments_of_missed (compute : Unit → List Fragment)
    (missed : cache.lookupFragments now uri revision = (none, looked)) :
    cache.fetchFragments now uri revision compute =
      (compute (), looked.storeFragments ⟨uri, revision, compute (), now⟩ cache.limits) := by
  obtain ⟨value, rfl⟩ := Prod.mk.inj missed
  simp [fetchFragments, RevisionMap.fetch_eq, storeFragments, value, Tally.add_assoc]

theorem fetchSymbols_of_found {index : SymbolIndex} (compute : Unit → SymbolIndex)
    (found : cache.lookupSymbols now uri revision = (some index, looked)) :
    cache.fetchSymbols now uri revision compute = (index, looked) := by
  obtain ⟨value, rfl⟩ := Prod.mk.inj found
  simp [fetchSymbols, RevisionMap.fetch_eq, value]

theorem fetchSymbols_of_missed (compute : Unit → SymbolIndex)
    (missed : cache.lookupSymbols now uri revision = (none, looked)) :
    cache.fetchSymbols now uri revision compute =
      (compute (), looked.storeSymbols ⟨uri, revision, compute (), now⟩ cache.limits) := by
  obtain ⟨value, rfl⟩ := Prod.mk.inj missed
  simp [fetchSymbols, RevisionMap.fetch_eq, storeSymbols, value, Tally.add_assoc]

end Cache

namespace Interleaving

namespace State

theorem step_advance {state : State} {left right : List Thread} {thread : Thread}
    (threads : state.threads = left ++ thread :: right) :
    state.step (.advance left.length) =
      state.between left right (thread.advance state.session) := by
  have found : state.threads[left.length]? = some thread := by simp [threads]
  simp only [step, found]
  exact proceed_of_split threads _

/-- The last thread of the first state alone leads to the second one. -/
def LeadsTo (left : List Thread) (state after : State) : Prop :=
  ∃ count, state.run (List.replicate count (.advance left.length)) = after

variable {left : List Thread} {state middle after : State} {session : Session} {task : Task}
  {isAnswered : Bool} {delivered : List Delivery}

theorem LeadsTo.trans (first : LeadsTo left state middle) (second : LeadsTo left middle after) :
    LeadsTo left state after := by
  obtain ⟨count, rfl⟩ := first
  obtain ⟨more, rfl⟩ := second
  exact ⟨count + more, by rw [← List.replicate_append_replicate, run_append]⟩

theorem leadsTo_advance (left : List Thread) (session : Session) (thread : Thread)
    (delivered : List Delivery) :
    LeadsTo left ⟨session, left ++ [thread], delivered⟩ ⟨(thread.advance session).session,
      left ++ (thread.advance session).next.toList,
      delivered ++ (thread.advance session).delivery.toList⟩ := by
  refine ⟨1, ?_⟩
  have moved := step_advance (show (⟨session, left ++ [thread], delivered⟩ : State).threads =
    left ++ thread :: [] from rfl)
  rw [List.replicate_one, run, List.foldl_cons, List.foldl_nil, moved]
  simp [between]

theorem leadsTo_next {thread next : Thread} {later : Session}
    (advanced : thread.advance session = ⟨later, some next, none⟩) :
    LeadsTo left ⟨session, left ++ [thread], delivered⟩ ⟨later, left ++ [next], delivered⟩ := by
  have moved := leadsTo_advance left session thread delivered
  rw [advanced] at moved
  simpa using moved

theorem leadsTo_handler (left : List Thread) (session : Session) (uri : Uri) (effect : Effect)
    (rest : List Effect) (delivered : List Delivery) :
    LeadsTo left ⟨session, left ++ [.handler uri (effect :: rest)], delivered⟩
      ⟨(effect :: rest).foldl (Effect.apply uri) session, left, delivered⟩ := by
  induction rest generalizing session effect with
  | nil =>
    have moved := leadsTo_advance left session (.handler uri [effect]) delivered
    simpa [Thread.advance] using moved
  | cons second rest ih =>
    have moved : LeadsTo left
        ⟨session, left ++ [.handler uri (effect :: second :: rest)], delivered⟩
        ⟨effect.apply uri session, left ++ [.handler uri (second :: rest)], delivered⟩ :=
      leadsTo_next rfl
    exact moved.trans (ih _ _)

/-- A handler that is not interrupted opens a document as a session does. -/
theorem leadsTo_openDocument (left : List Thread) (session : Session) (uri : Uri)
    (document : Document) (delivered : List Delivery) :
    LeadsTo left ⟨session, left ++ [.handler uri (Effect.opening document)], delivered⟩
      ⟨session.openDocument uri document, left, delivered⟩ :=
  leadsTo_handler left session uri .cancel _ delivered

/-- A handler that is not interrupted closes a document as a session does. -/
theorem leadsTo_closeDocument (left : List Thread) (session : Session) (uri : Uri)
    (delivered : List Delivery) :
    LeadsTo left ⟨session, left ++ [.handler uri Effect.closing], delivered⟩
      ⟨session.closeDocument uri, left, delivered⟩ :=
  leadsTo_handler left session uri .cancel _ delivered

theorem leadsTo_fragments :
    LeadsTo left ⟨session, left ++ [.working task isAnswered .started], delivered⟩
      ⟨{ session with cache := (session.cache.fetchFragments session.clock task.query.uri
          task.document.revision fun _ => Fragment.extract task.document.text).2 },
        left ++ [.working task isAnswered (.parsed (session.cache.fetchFragments session.clock
          task.query.uri task.document.revision fun _ =>
            Fragment.extract task.document.text).1)], delivered⟩ := by
  rcases looked : session.cache.lookupFragments session.clock task.query.uri
      task.document.revision with ⟨_ | fragments, cache⟩
  · have moved : LeadsTo left ⟨session, left ++ [.working task isAnswered .started], delivered⟩
        ⟨{ session with cache := cache }, left ++ [.working task isAnswered
          (.missedFragments session.clock session.cache.limits)], delivered⟩ :=
      leadsTo_next (by simp only [Thread.advance, Stage.advance, looked, Stage.behindFragments])
    rw [Cache.fetchFragments_of_missed _ looked]
    exact moved.trans (leadsTo_next rfl)
  · rw [Cache.fetchFragments_of_found _ looked]
    exact leadsTo_next (by simp only [Thread.advance, Stage.advance, looked, Stage.behindFragments])

theorem leadsTo_symbols (fragments : List Fragment) :
    LeadsTo left ⟨session, left ++ [.working task isAnswered (.parsed fragments)], delivered⟩
      ⟨{ session with cache := (session.cache.fetchSymbols session.clock task.query.uri
          task.document.revision fun _ => Analysis.indexOf fragments).2 },
        left ++ [.working task isAnswered (.analyzed ⟨fragments, (session.cache.fetchSymbols
          session.clock task.query.uri task.document.revision fun _ =>
            Analysis.indexOf fragments).1⟩)], delivered⟩ := by
  rcases looked : session.cache.lookupSymbols session.clock task.query.uri
      task.document.revision with ⟨_ | index, cache⟩
  · have moved : LeadsTo left
        ⟨session, left ++ [.working task isAnswered (.parsed fragments)], delivered⟩
        ⟨{ session with cache := cache }, left ++ [.working task isAnswered
          (.missedSymbols fragments session.clock session.cache.limits)], delivered⟩ :=
      leadsTo_next (by simp only [Thread.advance, Stage.advance, looked, Stage.behindSymbols])
    rw [Cache.fetchSymbols_of_missed _ looked]
    exact moved.trans (leadsTo_next rfl)
  · rw [Cache.fetchSymbols_of_found _ looked]
    exact leadsTo_next (by simp only [Thread.advance, Stage.advance, looked, Stage.behindSymbols])

theorem leadsTo_leaving (analysis : Analysis) :
    LeadsTo left ⟨session, left ++ [.working task isAnswered (.analyzed analysis)], delivered⟩
      ⟨session.dropIfClosed task.query.uri,
        left ++ [.working task isAnswered (.leaving analysis [])], delivered⟩ := by
  unfold Session.dropIfClosed
  by_cases isOpen : (session.document? task.query.uri).isSome
  · rw [if_pos isOpen]
    exact leadsTo_next (by simp only [Thread.advance, Stage.advance, if_pos isOpen])
  · have looked : LeadsTo left
        ⟨session, left ++ [.working task isAnswered (.analyzed analysis)], delivered⟩
        ⟨session, left ++ [.working task isAnswered (.leaving analysis Effect.dropping)],
          delivered⟩ :=
      leadsTo_next (by simp only [Thread.advance, Stage.advance, if_neg isOpen])
    rw [if_neg isOpen]
    exact looked.trans ((leadsTo_next rfl).trans (leadsTo_next rfl))

/-- A query that is not interrupted does its work and ends as in a session. -/
theorem leadsTo_perform (left : List Thread) (session : Session) (task : Task)
    (delivered : List Delivery) :
    LeadsTo left ⟨session, left ++ [.working task false .started], delivered⟩
      ⟨((session.perform task).1.settle task (.finished (session.perform task).2)).1, left,
        delivered ++ [⟨task, (session.perform task).2⟩]⟩ := by
  refine leadsTo_fragments.trans ((leadsTo_symbols _).trans ((leadsTo_leaving _).trans ?_))
  have ended := leadsTo_advance left (session.perform task).1
    (.working task false (.leaving (session.cache.analyze session.clock task.query.uri
      task.document.revision task.document.text).1 [])) delivered
  simp only [Thread.advance, Stage.advance, Bool.false_eq_true, ↓reduceIte, Option.toList_some,
    Option.toList_none, List.append_nil] at ended
  exact ended

end State

end Interleaving

end TemplateNav
