import TemplateNav.Proofs.Interleaving.Freshness
import TemplateNav.Proofs.Interleaving.Uninterrupted
import TemplateNav.Proofs.Query.Tickets
import TemplateNav.Uri.Parse

/-!
# Documents that are opened again

Clients may begin to count revisions anew when they open a document again.  If
they do so while a query is at work on the old document, the query stores the
analysis of the old text under a revision that now stands for the new one, and
finds the document open.  The next query answers the new text from the analysis
of the old one.  So queries answer from what they have read as long as no revision
in use is given to another text, and a client that gives one to two texts cannot
count on it.
-/

namespace TemplateNav

namespace RevisionMap

variable {α : Type}

/-- What was just stored is found. -/
theorem lookup_insert (map : RevisionMap α) (entry : Entry α) (capacity timeToLive : Nat) :
    (map.insert entry capacity).1.lookup entry.uri entry.revision entry.populatedAt timeToLive =
      .hit entry.value := by
  have last : ∀ others : List (Entry α), (∀ other ∈ others, other.uri ≠ entry.uri) →
      (others ++ [entry]).find? (fun other => decide (other.uri = entry.uri)) = some entry := by
    intro others different
    have absent : others.find? (fun other => decide (other.uri = entry.uri)) = none := by
      simpa using different
    simp [List.find?_append, absent]
  have found : (map.insert entry capacity).1.find? entry.uri = some entry := by
    simp only [insert]
    split
    · exact last _ fun _ member => uri_ne_of_mem_erase member
    · exact last _ fun _ member => uri_ne_of_mem_erase (List.mem_filter.1 member).1
  simp [lookup, found, Entry.age]

theorem find?_erase (map : RevisionMap α) (uri : Uri) : (map.erase uri).find? uri = none := by
  apply List.find?_eq_none.2
  intro entry member
  simpa using uri_ne_of_mem_erase member

theorem lookup_of_absent {map : RevisionMap α} {uri : Uri} (absent : map.find? uri = none)
    (revision : Int) (now timeToLive : Nat) : map.lookup uri revision now timeToLive = .miss := by
  rw [lookup, absent]

end RevisionMap

namespace Session

/-- The analysis of a text is stored for a document and revision. -/
structure Stores (session : Session) (uri : Uri) (revision : Int) (text : Text) : Prop where
  fragments : session.cache.fragments.lookup uri revision session.clock
    session.cache.limits.timeToLive = .hit (Fragment.extract text)
  symbols : session.cache.symbols.lookup uri revision session.clock
    session.cache.limits.timeToLive = .hit (Analysis.indexOf (Fragment.extract text))

variable {session : Session} {task : Task}

theorem Stores.of_same {later : Session} {uri : Uri} {revision : Int} {text : Text}
    (stores : session.Stores uri revision text) (sameCache : later.cache = session.cache)
    (sameClock : later.clock = session.clock) : later.Stores uri revision text := by
  constructor
  · rw [sameCache, sameClock]
    exact stores.fragments
  · rw [sameCache, sameClock]
    exact stores.symbols

/-- A query finds what is stored, whatever text it has read. -/
theorem Stores.perform {text : Text}
    (stores : session.Stores task.query.uri task.document.revision text) :
    (session.perform task).2 = (Analysis.ofText text).answer? task.document.text task.query := by
  simp only [Session.perform, Cache.analyze, Cache.fetchFragments, Cache.fetchSymbols,
    RevisionMap.fetch, stores.fragments, stores.symbols]
  rfl

/-- Where nothing is stored, a query stores the analysis of the text it has read if the document is
open with whatever text. -/
theorem stores_perform (isOpen : (session.document? task.query.uri).isSome = true)
    (noFragments : session.cache.fragments.find? task.query.uri = none)
    (noSymbols : session.cache.symbols.find? task.query.uri = none) :
    (session.perform task).1.Stores task.query.uri task.document.revision task.document.text ∧
      (session.perform task).1.documents = session.documents ∧
      (session.perform task).1.tracker = session.tracker := by
  have stillOpen : (session.documents.lookup task.query.uri).isSome = true := isOpen
  simp only [Session.perform, dropIfClosed, document?, stillOpen, ↓reduceIte, Cache.analyze,
    Cache.fetchFragments, Cache.fetchSymbols, RevisionMap.fetch,
    RevisionMap.lookup_of_absent noFragments, RevisionMap.lookup_of_absent noSymbols]
  refine ⟨⟨?_, ?_⟩, trivial, trivial⟩
  · exact RevisionMap.lookup_insert _ ⟨_, _, _, _⟩ _ _
  · exact RevisionMap.lookup_insert _ ⟨_, _, _, _⟩ _ _

end Session

namespace Interleaving

/-- Whether the client tells that a document is opened, changed or closed. -/
def Action.isNotice : Action → Bool
  | .openDocument _ _ | .closeDocument _ => true
  | _ => false

/-- Two elements that follow each other in a list part it in three. -/
theorem exists_split_of_sublist {α : Type} {first second : α} {list : List α}
    (sublist : List.Sublist [first, second] list) :
    ∃ before between behind, list = before ++ first :: (between ++ second :: behind) := by
  obtain ⟨left, right, rfl, member, rest⟩ := List.cons_sublist_iff.1 sublist
  obtain ⟨before, between, rfl⟩ := List.append_of_mem member
  obtain ⟨more, behind, rfl⟩ := List.append_of_mem (rest.subset List.mem_cons_self)
  exact ⟨before, between ++ more, behind, by simp⟩

namespace State

theorem admitsAll_append {state : State} {actions more : List Action} :
    state.AdmitsAll (actions ++ more) ↔
      state.AdmitsAll actions ∧ (state.run actions).AdmitsAll more := by
  induction actions generalizing state with
  | nil => exact (true_and _).to_iff.symm
  | cons action rest ih =>
    rw [List.cons_append, AdmitsAll, ih, AdmitsAll, and_assoc]
    rfl

theorem admitsAll_of_no_notice {actions : List Action} (state : State)
    (silent : ∀ action ∈ actions, action.isNotice = false) : state.AdmitsAll actions := by
  induction actions generalizing state with
  | nil => exact trivial
  | cons action rest ih =>
    refine ⟨?_, ih _ fun other member => silent other (List.mem_cons_of_mem _ member)⟩
    have quiet := silent action List.mem_cons_self
    cases action with
    | openDocument uri document => cases quiet
    | query query => exact trivial
    | closeDocument uri => exact trivial
    | advance index => exact trivial
    | expire index => exact trivial
    | serve pause request => exact trivial
    | discard fragments symbols => exact trivial

/-- A document that is closed may be opened with any revision once nothing about it is under way. -/
theorem admits_of_quiet {state : State} {uri : Uri} (closed : state.session.document? uri = none)
    (quiet : ∀ thread ∈ state.threads, thread.uri ≠ uri) (document : Document) :
    state.Admits (.openDocument uri document) := by
  rintro text (isOpen | ⟨thread, member, held, _⟩)
  · rw [Session.Holds, closed] at isOpen
    cases isOpen
  · exact absurd held.1 (quiet thread member)

/-- A run with the given notices of the client leads from one state to another. -/
def Reaches (notices : List Action) (state after : State) : Prop :=
  ∃ actions, actions.filter Action.isNotice = notices ∧ state.run actions = after

variable {notices more : List Action} {left : List Thread} {state middle after : State}
  {session : Session} {query : Query} {document : Document} {delivered : List Delivery}

theorem Reaches.trans (first : Reaches notices state middle) (second : Reaches more middle after) :
    Reaches (notices ++ more) state after := by
  obtain ⟨actions, rfl, rfl⟩ := first
  obtain ⟨others, rfl, rfl⟩ := second
  exact ⟨actions ++ others, List.filter_append .., run_append ..⟩

theorem LeadsTo.reaches (leads : LeadsTo left state after) : Reaches [] state after := by
  obtain ⟨count, rfl⟩ := leads
  exact ⟨_, by simp [Action.isNotice], rfl⟩

theorem reaches_openDocument (left : List Thread) (session : Session) (uri : Uri)
    (document : Document) (delivered : List Delivery) :
    Reaches [.openDocument uri document] ⟨session, left, delivered⟩
      ⟨session.openDocument uri document, left, delivered⟩ := by
  have announced : Reaches [.openDocument uri document] ⟨session, left, delivered⟩
      ⟨session, left ++ [.handler uri (Effect.opening document)], delivered⟩ :=
    ⟨[.openDocument uri document], rfl, rfl⟩
  exact announced.trans (leadsTo_openDocument left session uri document delivered).reaches

theorem reaches_closeDocument (left : List Thread) (session : Session) (uri : Uri)
    (delivered : List Delivery) :
    Reaches [.closeDocument uri] ⟨session, left, delivered⟩
      ⟨session.closeDocument uri, left, delivered⟩ := by
  have announced : Reaches [.closeDocument uri] ⟨session, left, delivered⟩
      ⟨session, left ++ [.handler uri Effect.closing], delivered⟩ :=
    ⟨[.closeDocument uri], rfl, rfl⟩
  exact announced.trans (leadsTo_closeDocument left session uri delivered).reaches

/-- A query about an open document begins, reads the document and starts its work. -/
theorem reaches_started (isOpen : session.document? query.uri = some document)
    (bounded : session.tracker.Bounded) (delivered : List Delivery) :
    ∃ later task, Reaches [] ⟨session, [], delivered⟩
        ⟨later, [.working task false .started], delivered⟩ ∧
      task.query = query ∧ task.document = document ∧ later.tracker.Bounded ∧
      later.cache = session.cache ∧ later.clock = session.clock := by
  have uncancelled := bounded.isCancelled_start query.uri query.kind
  have found : Session.document? { session with
      tracker := (session.tracker.start query.uri query.kind).2 } query.uri = some document :=
    isOpen
  refine ⟨{ session with tracker := (session.tracker.start query.uri query.kind).2 },
    ⟨query, (session.tracker.start query.uri query.kind).1, document, session.clock,
      session.settings.queryTimeout⟩, ⟨[.query query, .advance 0, .advance 0], rfl, ?_⟩, rfl, rfl,
    bounded.start _ _, rfl, rfl⟩
  simp [run, step, proceed, Thread.advance, Stage.advance, found, uncancelled]

/-- A query whose document is opened anew while it is at work stores the analysis of what it has
read before. -/
theorem reaches_stored (session : Session) (task : Task) (document : Document)
    (delivered : List Delivery) (bounded : session.tracker.Bounded) :
    ∃ later before,
      Reaches [] ⟨session.openDocument task.query.uri document, [.working task false .started],
        delivered⟩ ⟨later, [], before⟩ ∧
      later.Stores task.query.uri task.document.revision task.document.text ∧
      later.document? task.query.uri = some document ∧ later.tracker.Bounded := by
  let opened := session.openDocument task.query.uri document
  have isOpen : opened.document? task.query.uri = some document :=
    Session.document?_putDocument_self _ _ _
  have found : (opened.document? task.query.uri).isSome = true := by rw [isOpen, Option.isSome_some]
  obtain ⟨stores, documents, tracker⟩ := Session.stores_perform found
    (RevisionMap.find?_erase _ _) (RevisionMap.find?_erase _ _)
  refine ⟨_, _, (leadsTo_perform [] opened task delivered).reaches,
    ⟨stores.fragments, stores.symbols⟩, ?_, ?_⟩
  · have kept := (Session.retains_settle (opened.perform task).1 task
      (.finished (opened.perform task).2)).document? task.query.uri
    rw [kept, Session.document?, documents]
    exact isOpen
  · have performed : (opened.perform task).1.tracker.Bounded := by
      rw [tracker]
      exact bounded.cancelWhere _
    exact performed.finish _ _ _

/-- A query answers from what is stored under the revision it has read. -/
theorem reaches_stale {revision : Int} {first second : Text}
    (stores : session.Stores query.uri revision first)
    (isOpen : session.document? query.uri = some ⟨revision, second⟩)
    (bounded : session.tracker.Bounded) :
    ∃ later delivery, Reaches [] ⟨session, [], delivered⟩ ⟨later, [], delivered ++ [delivery]⟩ ∧
      delivery.task.query = query ∧ delivery.task.document = ⟨revision, second⟩ ∧
      delivery.answer = (Analysis.ofText first).answer? second query := by
  obtain ⟨reading, task, begun, rfl, read, _, sameCache, sameClock⟩ :=
    reaches_started isOpen bounded delivered
  have found : reading.Stores task.query.uri task.document.revision first := by
    rw [read]
    exact stores.of_same sameCache sameClock
  refine ⟨_, _, begun.trans (leadsTo_perform [] reading task delivered).reaches, rfl, read, ?_⟩
  rw [found.perform, read]

/-- Whatever a client tells about documents, the handlers may take it up in order. -/
theorem reaches_notices (left : List Thread) (session : Session) (delivered : List Delivery)
    (notices : List Action) (areNotices : ∀ notice ∈ notices, notice.isNotice = true) :
    ∃ later, Reaches notices ⟨session, left, delivered⟩ ⟨later, left, delivered⟩ ∧
      (session.tracker.Bounded → later.tracker.Bounded) := by
  induction notices generalizing session with
  | nil => exact ⟨session, ⟨[], rfl, rfl⟩, id⟩
  | cons notice rest ih =>
    have others : ∀ other ∈ rest, other.isNotice = true :=
      fun other member => areNotices other (List.mem_cons_of_mem _ member)
    cases notice with
    | openDocument uri document =>
      obtain ⟨later, reached, bounded⟩ := ih (session.openDocument uri document) others
      exact ⟨later, (reaches_openDocument left session uri document delivered).trans reached,
        fun before => bounded (before.cancelWhere _)⟩
    | closeDocument uri =>
      obtain ⟨later, reached, bounded⟩ := ih (session.closeDocument uri) others
      exact ⟨later, (reaches_closeDocument left session uri delivered).trans reached,
        fun before => bounded (before.cancelWhere _)⟩
    | query query => cases areNotices _ List.mem_cons_self
    | advance index => cases areNotices _ List.mem_cons_self
    | expire index => cases areNotices _ List.mem_cons_self
    | serve pause request => cases areNotices _ List.mem_cons_self
    | discard fragments symbols => cases areNotices _ List.mem_cons_self

/-- If a client tells two texts under one revision, a query that works on the first one until the
second one is there makes a later query answer the second text from the analysis of the first. -/
theorem exists_stale_delivery (readUri : UriReader)
    (areNotices : ∀ notice ∈ notices, notice.isNotice = true)
    {revision : Int} {first second : Text}
    (reused : List.Sublist [.openDocument query.uri ⟨revision, first⟩,
      .openDocument query.uri ⟨revision, second⟩] notices) :
    ∃ after, Reaches notices (initial readUri) after ∧
      ∃ delivery ∈ after.delivered, delivery.task.query = query ∧
        delivery.task.document = ⟨revision, second⟩ ∧
        delivery.answer = (Analysis.ofText first).answer? second query := by
  obtain ⟨before, between, behind, rfl⟩ := exists_split_of_sublist reused
  obtain ⟨early, toEarly, earlyBounded⟩ :=
    reaches_notices [] (.new readUri) [] before
      fun notice member => areNotices notice (by simp [member])
  have opened := reaches_openDocument [] early query.uri ⟨revision, first⟩ []
  obtain ⟨reading, old, begun, rfl, read, readingBounded, _⟩ := reaches_started
    (Session.document?_putDocument_self (early.disturb query.uri) query.uri ⟨revision, first⟩)
    ((earlyBounded Tracker.bounded_new).cancelWhere _) []
  -- The other notices come while the query is at work.
  obtain ⟨waiting, toWaiting, waitingBounded⟩ :=
    reaches_notices [.working old false .started] reading [] between
      fun notice member => areNotices notice (by simp [member])
  have reopened := reaches_openDocument [.working old false .started] waiting old.query.uri
    ⟨revision, second⟩ []
  obtain ⟨stored, answered, toStored, stores, isOpen, storedBounded⟩ :=
    reaches_stored waiting old ⟨revision, second⟩ [] (waitingBounded readingBounded)
  rw [read] at stores
  obtain ⟨stale, delivery, toStale, asked, document, answer⟩ :=
    reaches_stale stores isOpen storedBounded
  obtain ⟨last, toLast, _⟩ := reaches_notices [] stale (answered ++ [delivery]) behind
    fun notice member => areNotices notice (by simp [member])
  refine ⟨_, toEarly.trans (opened.trans (begun.trans (toWaiting.trans (reopened.trans
    (toStored.trans (toStale.trans toLast)))))), delivery, ?_, asked, document, answer⟩
  exact List.mem_append_right _ (List.mem_singleton_self _)

/-- Queries answer from the text they have read if no document is opened or changed to another text
under a revision that is in use, in particular if no revision is given to two texts.  Where a client
gives a revision to two texts, they may be mixed up with the same notices in another run. -/
theorem overlapping_queries_answer_what_they_read (readUri : UriReader) (actions : List Action) :
    ((initial readUri).AdmitsAll actions → ∀ delivery ∈ ((initial readUri).run actions).delivered,
      delivery.IsFresh) ∧
    (NeverReuses actions → (initial readUri).AdmitsAll actions) ∧
    ∀ (query : Query) (revision : Int) (first second : Text),
      List.Sublist [.openDocument query.uri ⟨revision, first⟩,
        .openDocument query.uri ⟨revision, second⟩] actions →
      ∃ others, others.filter Action.isNotice = actions.filter Action.isNotice ∧
        ∃ delivery ∈ ((initial readUri).run others).delivered,
          delivery.task.query = query ∧ delivery.task.document = ⟨revision, second⟩ ∧
            delivery.answer = (Analysis.ofText first).answer? second query := by
  refine ⟨fun admitted => (fresh_run (fresh_initial readUri) admitted).delivered, ?_, ?_⟩
  · intro neverReuses
    have unused : ∀ uri revision text, (initial readUri).Knows none uri revision text →
        Action.openDocument uri ⟨revision, text⟩ ∈ [] := by
      rintro uri revision text (isOpen | ⟨thread, member, _⟩)
      · cases isOpen
      · cases member
    exact admitsAll_of_neverReuses (fresh_initial readUri) unused neverReuses
  · intro query revision first second reused
    obtain ⟨_, ⟨others, notices, rfl⟩, stale⟩ := exists_stale_delivery readUri
      (fun _ member => (List.mem_filter.1 member).2) (reused.filter Action.isNotice)
    exact ⟨others, notices, stale⟩

/-- A document is opened again with its old revision: after the last query about it is done, the
next one answers the new text, and while a query is at work, the next one may answer the old
text. -/
theorem overlapping_queries_answer_what_they_read_when_quiet :
    let uri : Uri := ⟨"file:///a.ejs"⟩
    let query : Query := ⟨.definition, uri, ⟨0, 7⟩⟩
    let first : Text := ['<', '%', ' ', 'a', '=', '>', 'a', ' ', '%', '>']
    let second : Text := ['<', '%', ' ', ' ', 'a', '=', '>', 'a', ' ', '%', '>']
    let asked : List Action :=
      List.replicate 4 (.advance 0) ++ .query query :: List.replicate 8 (.advance 0)
    let closed : List Action := .openDocument uri ⟨1, first⟩ :: asked ++
      .closeDocument uri :: List.replicate 4 (.advance 0)
    let actions : List Action := closed ++ .openDocument uri ⟨1, second⟩ :: asked
    ((initial Uri.read).run actions).delivered.length = 2 ∧
      (∀ delivery ∈ ((initial Uri.read).run actions).delivered, delivery.IsFresh) ∧
      ∃ hurried : List Action,
        hurried.filter Action.isNotice = actions.filter Action.isNotice ∧
        ∃ delivery ∈ ((initial Uri.read).run hurried).delivered, ¬ delivery.IsFresh := by
  intro uri query first second asked closed actions
  have done : ((initial Uri.read).run actions).delivered.length = 2 := by decide +kernel
  have different : (Analysis.ofText first).answer? second query ≠
      (Analysis.ofText second).answer? second query := by decide +kernel
  obtain ⟨fresh, _, stale⟩ := overlapping_queries_answer_what_they_read Uri.read actions
  have openedOnce : NeverReuses closed := by
    have single (other : Uri) (revision : Int) (text : Text)
        (announced : .openDocument other ⟨revision, text⟩ ∈ closed) : text = first := by
      have announcement : other = uri ∧ revision = 1 ∧ text = first := by
        simpa [closed, asked] using announced
      exact announcement.2.2
    intro other revision text another announced reannounced
    rw [single _ _ _ announced, single _ _ _ reannounced]
  have admitted : (initial Uri.read).AdmitsAll actions := by
    refine admitsAll_append.2 ⟨?_, admits_of_quiet ?_ ?_ _, ?_⟩
    · exact (overlapping_queries_answer_what_they_read Uri.read closed).2.1 openedOnce
    · decide +kernel
    · decide +kernel
    · exact admitsAll_of_no_notice _ (by simp [asked, Action.isNotice])
  obtain ⟨hurried, notices, delivery, member, asked, read, answer⟩ :=
    stale query 1 first second (.cons_cons _ (List.singleton_sublist.2 (by simp [query])))
  refine ⟨done, fresh admitted, hurried, notices, delivery, member, ?_⟩
  rw [Delivery.IsFresh, asked, read, answer]
  exact different

end State

end Interleaving

end TemplateNav
