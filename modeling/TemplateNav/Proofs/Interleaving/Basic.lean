import TemplateNav.Proofs.Session.Frame

/-!
# Queries and handlers that overlap

A session carries out one request after the other.  A server under load does
not: each lock is held for one access only, so between two accesses of one query
or handler any others may come.  Here the work on a session is cut into these
accesses.  A handler is a list of effects, a query goes through stages, and a run
is a list of actions that says who comes next.  Taken without interruption the
pieces are the operations of the session again.
-/

namespace TemplateNav

/-- The value that a look-up found. -/
def Lookup.value? {α : Type} : Lookup α → Option α
  | hit value => some value
  | _ => none

/-- What a look-up counts. -/
def Lookup.tally {α : Type} : Lookup α → Tally
  | hit _ => ⟨1, 0, 0, 0⟩
  | miss => ⟨0, 1, 0, 0⟩
  | expired => ⟨0, 1, 0, 1⟩

/-- The map behind a look-up, which drops an expired entry. -/
def RevisionMap.behind {α : Type} (map : RevisionMap α) (uri : Uri) : Lookup α → RevisionMap α
  | .expired => map.erase uri
  | _ => map

theorem RevisionMap.shrinks_behind {α : Type} (map : RevisionMap α) (uri : Uri)
    (found : Lookup α) : map.Shrinks (map.behind uri found) := by
  cases found with
  | hit value => exact .refl map
  | miss => exact .refl map
  | expired => exact shrinks_restrict map _

namespace Cache

/-- Looks up fragments without computing any. -/
def lookupFragments (cache : Cache) (now : Nat) (uri : Uri) (revision : Int) :
    Option (List Fragment) × Cache :=
  let found := cache.fragments.lookup uri revision now cache.limits.timeToLive
  (found.value?, { cache with
    fragments := cache.fragments.behind uri found
    tally := cache.tally.add found.tally })

/-- Stores fragments under limits that were read before. -/
def storeFragments (cache : Cache) (entry : Entry (List Fragment)) (limits : CacheLimits) : Cache :=
  let (map, evictions) := cache.fragments.insert entry limits.capacity
  { cache with fragments := map, tally := cache.tally.add ⟨0, 0, evictions, 0⟩ }

/-- Looks up a symbol index without computing one. -/
def lookupSymbols (cache : Cache) (now : Nat) (uri : Uri) (revision : Int) :
    Option SymbolIndex × Cache :=
  let found := cache.symbols.lookup uri revision now cache.limits.timeToLive
  (found.value?, { cache with
    symbols := cache.symbols.behind uri found
    tally := cache.tally.add found.tally })

/-- Stores a symbol index under limits that were read before. -/
def storeSymbols (cache : Cache) (entry : Entry SymbolIndex) (limits : CacheLimits) : Cache :=
  let (map, evictions) := cache.symbols.insert entry limits.capacity
  { cache with symbols := map, tally := cache.tally.add ⟨0, 0, evictions, 0⟩ }

end Cache

namespace Interleaving

/-- One access on the way of a handler. -/
inductive Effect where
  | cancel
  | dropFragments
  | dropSymbols
  | write (document : Document)
  | forget
  deriving DecidableEq

namespace Effect

/-- What an effect does for a document. -/
def apply (uri : Uri) (session : Session) : Effect → Session
  | cancel => { session with tracker := session.tracker.cancelDocument uri }
  | dropFragments =>
    { session with
      cache := { session.cache with fragments := session.cache.fragments.erase uri } }
  | dropSymbols =>
    { session with cache := { session.cache with symbols := session.cache.symbols.erase uri } }
  | write document => session.putDocument uri document
  | forget => session.dropDocument uri

/-- The way of a handler that opens or replaces a document. -/
def opening (document : Document) : List Effect :=
  [cancel, dropFragments, dropSymbols, write document]

/-- The way of a handler that closes a document. -/
def closing : List Effect :=
  [cancel, forget, dropFragments, dropSymbols]

/-- What is left to do for a document that was closed while it was analyzed. -/
def dropping : List Effect :=
  [dropFragments, dropSymbols]

end Effect

/-- How far the work of a query is. -/
inductive Stage where
  /-- The work has not begun and may still be cancelled. -/
  | waiting
  | started
  /-- There were no fragments; time and limits are those of the look-up. -/
  | missedFragments (now : Nat) (limits : CacheLimits)
  | parsed (fragments : List Fragment)
  /-- There was no index. -/
  | missedSymbols (fragments : List Fragment) (now : Nat) (limits : CacheLimits)
  | analyzed (analysis : Analysis)
  /-- The document was looked for, and what remains is to be done before the answer. -/
  | leaving (analysis : Analysis) (remaining : List Effect)

namespace Stage

/-- Where a query goes on after it has looked for fragments. -/
def behindFragments (now : Nat) (limits : CacheLimits) : Option (List Fragment) → Stage
  | some fragments => parsed fragments
  | none => missedFragments now limits

/-- Where a query goes on after it has looked for an index. -/
def behindSymbols (fragments : List Fragment) (now : Nat) (limits : CacheLimits) :
    Option SymbolIndex → Stage
  | some index => analyzed ⟨fragments, index⟩
  | none => missedSymbols fragments now limits

/-- Whether the analysis is complete, so that no entry is looked for or stored any more. -/
def isComplete : Stage → Bool
  | analyzed _ | leaving _ _ => true
  | _ => false

/-- The effects that are left. -/
def remaining : Stage → List Effect
  | leaving _ remaining => remaining
  | _ => []

@[simp] theorem remaining_behindFragments (now : Nat) (limits : CacheLimits)
    (found : Option (List Fragment)) : (behindFragments now limits found).remaining = [] := by
  cases found with
  | none => rfl
  | some fragments => rfl

@[simp] theorem remaining_behindSymbols (fragments : List Fragment) (now : Nat)
    (limits : CacheLimits) (found : Option SymbolIndex) :
    (behindSymbols fragments now limits found).remaining = [] := by
  cases found with
  | none => rfl
  | some index => rfl

end Stage

/-- The entry for the fragments of what a task has read. -/
def fragmentsEntry (task : Task) (now : Nat) : Entry (List Fragment) :=
  ⟨task.query.uri, task.document.revision, Fragment.extract task.document.text, now⟩

/-- The entry for the index of what a task has read. -/
def symbolsEntry (task : Task) (fragments : List Fragment) (now : Nat) : Entry SymbolIndex :=
  ⟨task.query.uri, task.document.revision, Analysis.indexOf fragments, now⟩

/-- A query or a handler that is under way. -/
inductive Thread where
  /-- A query that has a ticket and has not read its document. -/
  | begun (query : Query) (ticket : Nat)
  /-- A query at work on what it has read; `isAnswered` if it went over its budget. -/
  | working (task : Task) (isAnswered : Bool) (stage : Stage)
  | handler (uri : Uri) (remaining : List Effect)

/-- The answer that a query has delivered. -/
structure Delivery where
  task : Task
  answer : Option Answer

/-- What one access of a thread brings about. -/
structure Progress where
  session : Session
  next : Option Thread
  delivery : Option Delivery

/-- One access of a query at work. -/
def Stage.advance (session : Session) (task : Task) (isAnswered : Bool) : Stage → Progress
  | waiting =>
    if session.tracker.isCancelled task.ticket then
      ⟨if isAnswered then session else (session.settle task .cancelled).1, none, none⟩
    else
      ⟨session, some (.working task isAnswered .started), none⟩
  | started =>
    let (found, cache) :=
      session.cache.lookupFragments session.clock task.query.uri task.document.revision
    let stage := behindFragments session.clock session.cache.limits found
    ⟨{ session with cache := cache }, some (.working task isAnswered stage), none⟩
  | missedFragments now limits =>
    let entry := fragmentsEntry task now
    ⟨{ session with cache := session.cache.storeFragments entry limits },
      some (.working task isAnswered (.parsed entry.value)), none⟩
  | parsed fragments =>
    let (found, cache) :=
      session.cache.lookupSymbols session.clock task.query.uri task.document.revision
    let stage := behindSymbols fragments session.clock session.cache.limits found
    ⟨{ session with cache := cache }, some (.working task isAnswered stage), none⟩
  | missedSymbols fragments now limits =>
    let entry := symbolsEntry task fragments now
    ⟨{ session with cache := session.cache.storeSymbols entry limits },
      some (.working task isAnswered (.analyzed ⟨fragments, entry.value⟩)), none⟩
  | analyzed analysis =>
    let remaining :=
      if (session.document? task.query.uri).isSome then [] else Effect.dropping
    ⟨session, some (.working task isAnswered (.leaving analysis remaining)), none⟩
  | leaving analysis [] =>
    if isAnswered then ⟨session, none, none⟩
    else
      let answer := analysis.answer? task.document.text task.query
      let (session, verdict) := session.settle task (.finished answer)
      ⟨session, none, some ⟨task, verdict.answer⟩⟩
  | leaving analysis (effect :: rest) =>
    ⟨effect.apply task.query.uri session,
      some (.working task isAnswered (.leaving analysis rest)), none⟩

/-- One access of a thread. -/
def Thread.advance (session : Session) : Thread → Progress
  | begun query ticket =>
    match session.document? query.uri with
    | none =>
      ⟨{ session with tracker := session.tracker.finish query.uri query.kind ticket }, none, none⟩
    | some document =>
      let task := ⟨query, ticket, document, session.clock, session.settings.queryTimeout⟩
      ⟨session, some (.working task false .waiting), none⟩
  | working task isAnswered stage => stage.advance session task isAnswered
  | handler _ [] => ⟨session, none, none⟩
  | handler uri [effect] => ⟨effect.apply uri session, none, none⟩
  | handler uri (effect :: rest) => ⟨effect.apply uri session, some (.handler uri rest), none⟩

/-- Who comes next. -/
inductive Action where
  /-- A query begins. -/
  | query (query : Query)
  /-- A handler for a document that is opened or changed begins. -/
  | openDocument (uri : Uri) (document : Document)
  /-- A handler for a document that is closed begins. -/
  | closeDocument (uri : Uri)
  /-- A thread makes its next access. -/
  | advance (index : Nat)
  /-- A query is answered because its budget is used up; its work goes on. -/
  | expire (index : Nat)
  /-- Another request is carried out after a pause. -/
  | serve (pause : Nat) (request : Request)
  /-- Entries of either map are dropped, as a sweep does that has come to one map only. -/
  | discard (fragments symbols : List Uri)

/-- Whether a request touches neither documents nor queries. -/
def isAside : Request → Bool
  | .connect _ | .ready | .shutdown | .configure _ | .command _ _ | .wait _ => true
  | _ => false

/-- A session and what is under way on it. -/
structure State where
  session : Session
  threads : List Thread
  delivered : List Delivery

namespace State

/-- A new session with nothing under way. -/
def initial (readUri : UriReader) : State := ⟨.new readUri, [], []⟩

/-- Puts what a thread has become in its place. -/
def proceed (state : State) (index : Nat) (progress : Progress) : State where
  session := progress.session
  threads := state.threads.take index ++ progress.next.toList ++ state.threads.drop (index + 1)
  delivered := state.delivered ++ progress.delivery.toList

/-- Carries out an action; one that nobody can take changes nothing. -/
def step (state : State) : Action → State
  | .query query =>
    let (ticket, tracker) := state.session.tracker.start query.uri query.kind
    { state with
      session := { state.session with tracker := tracker }
      threads := state.threads ++ [.begun query ticket] }
  | .openDocument uri document =>
    { state with threads := state.threads ++ [.handler uri (Effect.opening document)] }
  | .closeDocument uri =>
    { state with threads := state.threads ++ [.handler uri Effect.closing] }
  | .advance index =>
    match state.threads[index]? with
    | none => state
    | some thread => state.proceed index (thread.advance state.session)
  | .expire index =>
    match state.threads[index]? with
    | some (.working task false stage) =>
      if task.startedAt + task.budget ≤ state.session.clock then
        state.proceed index
          ⟨(state.session.settle task .overBudget).1, some (.working task true stage), none⟩
      else state
    | _ => state
  | .serve pause request =>
    if isAside request then
      { state with session := (state.session.handle pause request).1 }
    else state
  | .discard fragments symbols =>
    let cache := { state.session.cache with
      fragments := state.session.cache.fragments.restrict fun entry =>
        !fragments.contains entry.uri
      symbols := state.session.cache.symbols.restrict fun entry => !symbols.contains entry.uri }
    { state with session := { state.session with cache := cache } }

/-- The state after a list of actions. -/
def run (state : State) (actions : List Action) : State :=
  actions.foldl step state

theorem run_append (state : State) (first second : List Action) :
    state.run (first ++ second) = (state.run first).run second :=
  List.foldl_append

theorem exists_split {threads : List Thread} {index : Nat} {thread : Thread}
    (found : threads[index]? = some thread) :
    ∃ left right, threads = left ++ thread :: right ∧ left.length = index := by
  obtain ⟨bound, same⟩ := List.getElem?_eq_some_iff.1 found
  refine ⟨threads.take index, threads.drop (index + 1), ?_, List.length_take_of_le (by omega)⟩
  rw [← same, ← List.drop_eq_getElem_cons bound, List.take_append_drop]

/-- The state in which a thread between others has come further. -/
def between (state : State) (left right : List Thread) (progress : Progress) : State where
  session := progress.session
  threads := left ++ progress.next.toList ++ right
  delivered := state.delivered ++ progress.delivery.toList

theorem proceed_of_split {state : State} {left right : List Thread} {thread : Thread}
    (threads : state.threads = left ++ thread :: right) (progress : Progress) :
    state.proceed left.length progress = state.between left right progress := by
  simp [proceed, between, threads]

end State

namespace Thread

/-- The document that a thread is about. -/
def uri : Thread → Uri
  | begun query _ => query.uri
  | working task _ _ => task.query.uri
  | handler uri _ => uri

/-- What a query has read, as long as it is going to look for entries or to store some. -/
def document? : Thread → Option Document
  | working task _ stage => if stage.isComplete then none else some task.document
  | _ => none

/-- The effects that a thread is sure to have. -/
def remaining : Thread → List Effect
  | begun _ _ => []
  | working _ _ stage => stage.remaining
  | handler _ remaining => remaining

/-- What remains to be done is the rest of the way of a handler. -/
def OnCourse (thread : Thread) : Prop :=
  (∃ document, thread.remaining <:+ Effect.opening document) ∨ thread.remaining <:+ Effect.closing

/-- A thread as it is when it begins with an action. -/
def BeginsWith (thread : Thread) : Action → Prop
  | .query query => ∃ ticket, thread = .begun query ticket
  | .openDocument uri document => thread = .handler uri (Effect.opening document)
  | .closeDocument uri => thread = .handler uri Effect.closing
  | _ => False

variable {thread next : Thread} {effect : Effect} {rest : List Effect}

theorem eq_document_of_working {task : Task} {isAnswered : Bool} {stage : Stage}
    {document : Document} (found : (working task isAnswered stage).document? = some document) :
    task.document = document := by
  simp only [document?] at found
  split at found
  · cases found
  · exact Option.some.inj found

theorem OnCourse.of_isSuffix (onCourse : thread.OnCourse)
    (suffix : next.remaining <:+ thread.remaining) : next.OnCourse := by
  rcases onCourse with ⟨document, opening⟩ | closing
  · exact .inl ⟨document, suffix.trans opening⟩
  · exact .inr (suffix.trans closing)

/-- A document is written last. -/
theorem OnCourse.eq_nil_of_write {document : Document} (onCourse : thread.OnCourse)
    (remaining : thread.remaining = .write document :: rest) : rest = [] := by
  rcases onCourse with ⟨opened, opening⟩ | closing
  · rw [remaining] at opening
    have last : document = opened ∧ rest = [] := by
      simpa [Effect.opening, List.suffix_cons_iff] using opening
    exact last.2
  · rw [remaining] at closing
    simp [Effect.closing, List.suffix_cons_iff] at closing

/-- Behind a document that is forgotten its entries are dropped. -/
theorem OnCourse.eq_dropping_of_forget (onCourse : thread.OnCourse)
    (remaining : thread.remaining = .forget :: rest) : rest = Effect.dropping := by
  rcases onCourse with ⟨_, opening⟩ | closing
  · rw [remaining] at opening
    simp [Effect.opening, List.suffix_cons_iff] at opening
  · rw [remaining] at closing
    simpa [Effect.closing, Effect.dropping, List.suffix_cons_iff] using closing

theorem onCourse_of_beginsWith {action : Action} (begins : thread.BeginsWith action) :
    thread.OnCourse := by
  cases action with
  | query query =>
    obtain ⟨ticket, rfl⟩ := begins
    exact .inr List.nil_suffix
  | openDocument uri document =>
    obtain rfl := begins
    exact .inl ⟨document, List.suffix_rfl⟩
  | closeDocument uri =>
    obtain rfl := begins
    exact .inr List.suffix_rfl
  | advance index => exact begins.elim
  | expire index => exact begins.elim
  | serve pause request => exact begins.elim
  | discard fragments symbols => exact begins.elim

/-- A thread with effects left has the first of them. -/
theorem advance_of_cons (remaining : thread.remaining = effect :: rest) (session : Session) :
    (thread.advance session).session = effect.apply thread.uri session ∧
      (thread.advance session).delivery = none ∧
      (rest = [] ∧ (thread.advance session).next = none ∨
        ∃ next, (thread.advance session).next = some next ∧ next.uri = thread.uri ∧
          next.remaining = rest ∧ next.document? = thread.document?) := by
  cases thread with
  | begun query ticket => cases remaining
  | working task isAnswered stage =>
    cases stage with
    | leaving analysis effects =>
      obtain rfl : effects = effect :: rest := remaining
      exact ⟨rfl, rfl, .inr ⟨_, rfl, rfl, rfl, rfl⟩⟩
    | waiting => cases remaining
    | started => cases remaining
    | missedFragments now limits => cases remaining
    | parsed fragments => cases remaining
    | missedSymbols fragments now limits => cases remaining
    | analyzed analysis => cases remaining
  | handler uri effects =>
    obtain rfl : effects = effect :: rest := remaining
    cases rest with
    | nil => exact ⟨rfl, rfl, .inl ⟨rfl, rfl⟩⟩
    | cons second rest => exact ⟨rfl, rfl, .inr ⟨_, rfl, rfl, rfl, rfl⟩⟩

/-- What one access of a thread can do to a session: nothing new, the first effect that is left, or
store what a query has missed. -/
inductive Access (session : Session) (thread : Thread) : Session → Prop
  | retained {after : Session} (idle : thread.remaining = []) (retains : session.Retains after) :
      Access session thread after
  | effect {effect : Effect} {rest : List Effect} (remaining : thread.remaining = effect :: rest) :
      Access session thread (effect.apply thread.uri session)
  | storedFragments {task : Task} {isAnswered : Bool} {now : Nat} {limits : CacheLimits}
      (stage : thread = .working task isAnswered (.missedFragments now limits)) :
      Access session thread
        { session with cache := session.cache.storeFragments (fragmentsEntry task now) limits }
  | storedSymbols {task : Task} {isAnswered : Bool} {fragments : List Fragment} {now : Nat}
      {limits : CacheLimits}
      (stage : thread = .working task isAnswered (.missedSymbols fragments now limits)) :
      Access session thread
        { session with
          cache := session.cache.storeSymbols (symbolsEntry task fragments now) limits }

theorem access_advance (session : Session) (thread : Thread) :
    Access session thread (thread.advance session).session := by
  cases remaining : thread.remaining with
  | cons effect rest =>
    rw [(advance_of_cons remaining session).1]
    exact .effect remaining
  | nil =>
    cases thread with
    | begun query ticket =>
      apply Access.retained remaining
      simp only [advance]
      split
      · exact .of_same rfl rfl rfl
      · exact .refl session
    | working task isAnswered stage =>
      cases stage with
      | waiting =>
        apply Access.retained remaining
        simp only [advance, Stage.advance]
        split
        · split
          · exact .refl session
          · exact Session.retains_settle _ _ _
        · exact .refl session
      | started =>
        exact .retained remaining ⟨rfl, RevisionMap.shrinks_behind _ _ _, .refl _⟩
      | missedFragments now limits => exact .storedFragments rfl
      | parsed fragments =>
        exact .retained remaining ⟨rfl, .refl _, RevisionMap.shrinks_behind _ _ _⟩
      | missedSymbols fragments now limits => exact .storedSymbols rfl
      | analyzed analysis => exact .retained remaining (.refl session)
      | leaving analysis effects =>
        apply Access.retained remaining
        obtain rfl : effects = [] := remaining
        simp only [advance, Stage.advance]
        split
        · exact .refl session
        · exact Session.retains_settle _ _ _
    | handler uri effects =>
      obtain rfl : effects = [] := remaining
      exact .retained rfl (.refl session)

/-- Fragments are stored by a query that has missed them, and by nobody else. -/
theorem fragments_advance (session : Session) (thread : Thread) :
    session.cache.fragments.Shrinks (thread.advance session).session.cache.fragments ∨
      ∃ task isAnswered now limits,
        thread = .working task isAnswered (.missedFragments now limits) ∧
        (thread.advance session).session.cache.fragments =
          (session.cache.fragments.insert (fragmentsEntry task now) limits.capacity).1 := by
  have access := access_advance session thread
  generalize (thread.advance session).session = later at access
  cases access with
  | retained idle retains => exact .inl retains.fragments
  | storedSymbols stage => exact .inl (.refl _)
  | storedFragments stage => exact .inr ⟨_, _, _, _, stage, rfl⟩
  | @effect effect rest remaining =>
    cases effect with
    | dropFragments => exact .inl (RevisionMap.shrinks_restrict _ _)
    | cancel => exact .inl (.refl _)
    | dropSymbols => exact .inl (.refl _)
    | write document => exact .inl (.refl _)
    | forget => exact .inl (.refl _)

/-- An index is stored by a query that has missed it, and by nobody else. -/
theorem symbols_advance (session : Session) (thread : Thread) :
    session.cache.symbols.Shrinks (thread.advance session).session.cache.symbols ∨
      ∃ task isAnswered fragments now limits,
        thread = .working task isAnswered (.missedSymbols fragments now limits) ∧
        (thread.advance session).session.cache.symbols =
          (session.cache.symbols.insert (symbolsEntry task fragments now) limits.capacity).1 := by
  have access := access_advance session thread
  generalize (thread.advance session).session = later at access
  cases access with
  | retained idle retains => exact .inl retains.symbols
  | storedFragments stage => exact .inl (.refl _)
  | storedSymbols stage => exact .inr ⟨_, _, _, _, _, stage, rfl⟩
  | @effect effect rest remaining =>
    cases effect with
    | dropSymbols => exact .inl (RevisionMap.shrinks_restrict _ _)
    | cancel => exact .inl (.refl _)
    | dropFragments => exact .inl (.refl _)
    | write document => exact .inl (.refl _)
    | forget => exact .inl (.refl _)

/-- A thread without effects left gets new ones only if it finds its document closed, and reads
nothing but its document. -/
theorem next_of_nil (idle : thread.remaining = []) {session : Session}
    (member : next ∈ (thread.advance session).next) :
    next.uri = thread.uri ∧ next.remaining <:+ Effect.dropping ∧
      ∀ document, next.document? = some document →
        thread.document? = some document ∨ session.document? thread.uri = some document := by
  cases thread with
  | begun query ticket =>
    simp only [advance] at member
    split at member
    · cases member
    · next document found =>
      obtain rfl := Option.some.inj member
      exact ⟨rfl, List.nil_suffix, fun _ read => .inr (read ▸ found)⟩
  | working task isAnswered stage =>
    cases stage with
    | waiting =>
      simp only [advance, Stage.advance] at member
      split at member
      · cases member
      · obtain rfl := Option.some.inj member
        exact ⟨rfl, List.nil_suffix, fun _ read => .inl read⟩
    | started =>
      obtain rfl := Option.some.inj member
      refine ⟨rfl, by simp [Thread.remaining], fun _ read => .inl ?_⟩
      exact congrArg some (eq_document_of_working read)
    | missedFragments now limits =>
      obtain rfl := Option.some.inj member
      exact ⟨rfl, List.nil_suffix, fun _ read => .inl read⟩
    | parsed fragments =>
      obtain rfl := Option.some.inj member
      refine ⟨rfl, by simp [Thread.remaining], fun _ read => .inl ?_⟩
      exact congrArg some (eq_document_of_working read)
    | missedSymbols fragments now limits =>
      obtain rfl := Option.some.inj member
      exact ⟨rfl, List.nil_suffix, nofun⟩
    | analyzed analysis =>
      obtain rfl := Option.some.inj member
      refine ⟨rfl, ?_, nofun⟩
      simp only [Thread.remaining, Stage.remaining]
      split
      · exact List.nil_suffix
      · exact List.suffix_rfl
    | leaving analysis effects =>
      obtain rfl : effects = [] := idle
      simp only [advance, Stage.advance] at member
      split at member
      · cases member
      · cases member
  | handler uri effects =>
    obtain rfl : effects = [] := idle
    cases member

theorem OnCourse.advance (onCourse : thread.OnCourse) {session : Session}
    (member : next ∈ (thread.advance session).next) : next.OnCourse := by
  cases remaining : thread.remaining with
  | nil =>
    have suffix := (next_of_nil remaining member).2.1
    exact .inr (suffix.trans ⟨[.cancel, .forget], rfl⟩)
  | cons effect rest =>
    obtain ⟨_, _, ⟨_, ended⟩ | ⟨follower, continued, _, left, _⟩⟩ :=
      advance_of_cons remaining session
    · rw [ended] at member
      cases member
    · rw [continued] at member
      obtain rfl := Option.some.inj member
      apply onCourse.of_isSuffix
      rw [left, remaining]
      exact List.suffix_cons effect rest

end Thread

namespace State

theorem retains_handle (session : Session) (pause : Nat) {request : Request}
    (aside : isAside request = true) : session.Retains (session.handle pause request).1 := by
  refine (Session.retains_elapse session pause).trans ?_
  cases request with
  | connect options => exact Session.retains_applySettings _ _
  | ready => exact Session.retains_startSweeper _
  | shutdown => exact Session.retains_shutdown _
  | configure settings => exact Session.retains_configure _ _
  | command name arguments => exact Session.retains_execute _ _ _
  | wait duration =>
    exact (Session.retains_elapse _ duration).trans (Session.retains_expireOverdue _)
  | openDocument uri document => cases aside
  | changeDocument uri revision texts => cases aside
  | closeDocument uri => cases aside
  | query query cost fault => cases aside
  | start id query => cases aside
  | release => cases aside

/-- What an action can do: something aside from documents and queries, begin a thread, let one make
its next access, or answer a query that goes on. -/
inductive Outcome (state : State) (action : Action) : State → Prop
  | aside {session : Session} (retains : state.session.Retains session) :
      Outcome state action { state with session := session }
  | begun {session : Session} {thread : Thread} (retains : state.session.Retains session)
      (begins : thread.BeginsWith action) :
      Outcome state action ⟨session, state.threads ++ [thread], state.delivered⟩
  | advanced {left right : List Thread} {thread : Thread}
      (threads : state.threads = left ++ thread :: right) :
      Outcome state action (state.between left right (thread.advance state.session))
  | expired {session : Session} {left right : List Thread} {task : Task} {stage : Stage}
      (threads : state.threads = left ++ .working task false stage :: right)
      (retains : state.session.Retains session) :
      Outcome state action ⟨session, left ++ .working task true stage :: right, state.delivered⟩

theorem outcome_step (state : State) (action : Action) :
    Outcome state action (state.step action) := by
  have idle : Outcome state action state := .aside (.refl _)
  cases action with
  | query query => exact .begun (.of_same rfl rfl rfl) ⟨_, rfl⟩
  | openDocument uri document => exact .begun (.refl _) rfl
  | closeDocument uri => exact .begun (.refl _) rfl
  | advance index =>
    simp only [step]
    split
    · exact idle
    · next thread found =>
      obtain ⟨left, right, threads, rfl⟩ := exists_split found
      rw [proceed_of_split threads]
      exact .advanced threads
  | expire index =>
    simp only [step]
    split
    · next task stage found =>
      split
      · obtain ⟨left, right, threads, rfl⟩ := exists_split found
        rw [proceed_of_split threads]
        have settled : Outcome state (.expire left.length) _ :=
          .expired threads (Session.retains_settle _ task .overBudget)
        simpa [between] using settled
      · exact idle
    · exact idle
  | serve pause request =>
    simp only [step]
    split
    · next aside => exact .aside (retains_handle _ pause aside)
    · exact idle
  | discard fragments symbols =>
    exact .aside ⟨rfl, RevisionMap.shrinks_restrict _ _, RevisionMap.shrinks_restrict _ _⟩

end State

end Interleaving

end TemplateNav
