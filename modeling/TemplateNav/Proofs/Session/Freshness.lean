import TemplateNav.Proofs.Navigation.ClientNumbers
import TemplateNav.Proofs.Session.Frame
import TemplateNav.Uri.Parse

/-!
# Answers of a sequential session

What a client may expect of its server depends on two things it knows itself: the
settings in force and the texts of the documents it has open.  As long as
requests are carried out one after the other, the session behind them never
answers from anything else: its cache agrees with the open documents before and
after every request, whatever was stored, expired, evicted or dropped.
-/

namespace TemplateNav

/-- What a client knows of its server: the settings in force and the texts of open documents. -/
structure ClientView where
  settings : Settings
  text? : Uri → Option Text

namespace ClientView

/-- The view of a client that has sent nothing. -/
def initial : ClientView := ⟨.standard, fun _ => none⟩

/-- A document has another text, or none any more. -/
def withText (view : ClientView) (uri : Uri) (text : Option Text) : ClientView :=
  { view with text? := fun other => if other = uri then text else view.text? other }

/-- Readable settings are in force from now on. -/
def configured (view : ClientView) : Json → ClientView
  | .null => view
  | json =>
    match Settings.decode json with
    | .ok settings => { view with settings := settings }
    | .error _ => view

/-- The view after a request. -/
def step (view : ClientView) : Request → ClientView
  | .connect options => view.configured (options.getD .null)
  | .configure settings => view.configured settings
  | .openDocument uri document => view.withText uri (some document.text)
  | .changeDocument uri _ texts =>
    match texts.getLast? with
    | none => view
    | some text => view.withText uri (some text)
  | .closeDocument uri => view.withText uri none
  | _ => view

/-- The view after requests, each with the pause before it. -/
def after (view : ClientView) (history : List (Nat × Request)) : ClientView :=
  history.foldl (fun view entry => view.step entry.2) view

/-- The answer to a query: that of the document's text, unless the query takes longer than its
budget or breaks off. -/
def answer? (view : ClientView) (query : Query) (cost : Nat) (fault : Option String) :
    Option Answer :=
  if view.settings.queryTimeout < cost ∨ fault.isSome then none
  else (view.text? query.uri).bind fun text => (Analysis.ofText text).answer? text query

@[simp] theorem text?_withText_self (view : ClientView) (uri : Uri) (text : Option Text) :
    (view.withText uri text).text? uri = text :=
  if_pos rfl

theorem text?_withText_of_ne (view : ClientView) {uri other : Uri} (different : other ≠ uri)
    (text : Option Text) : (view.withText uri text).text? other = view.text? other :=
  if_neg different

end ClientView

/-- Whether a request is carried out to its end before the next one. -/
def Request.IsSequential : Request → Prop
  | .start _ _ => False
  | _ => True

namespace Session

/-- The session after requests, each with the pause before it. -/
def after (session : Session) (history : List (Nat × Request)) : Session :=
  history.foldl (fun session entry => (session.handle entry.1 entry.2).1) session

/-- Documents, settings and backlog are unchanged, and the cache still agrees with the open
documents. -/
structure Keeps (before after : Session) : Prop where
  settings : after.settings = before.settings
  documents : after.documents = before.documents
  backlog : after.backlog = before.backlog
  cache : before.cache.AgreesOn before.Holds → after.cache.AgreesOn before.Holds

namespace Keeps

theorem document? {before after : Session} (keeps : Keeps before after) (uri : Uri) :
    after.document? uri = before.document? uri := by
  unfold Session.document?
  rw [keeps.documents]

theorem holds {before after : Session} (keeps : Keeps before after) :
    after.Holds = before.Holds := by
  funext uri revision text
  unfold Holds
  rw [keeps.document?]

theorem trans {first second third : Session} (left : Keeps first second)
    (right : Keeps second third) : Keeps first third where
  settings := right.settings.trans left.settings
  documents := right.documents.trans left.documents
  backlog := right.backlog.trans left.backlog
  cache := fun agrees => left.holds ▸ right.cache (left.holds ▸ left.cache agrees)

theorem of_retains {before after : Session} (retains : Retains before after)
    (settings : after.settings = before.settings) (backlog : after.backlog = before.backlog) :
    Keeps before after :=
  ⟨settings, retains.documents, backlog, retains.agreesOn⟩

end Keeps

theorem keeps_elapse (session : Session) (duration : Nat) :
    Keeps session (session.elapse duration) :=
  .of_retains (retains_elapse session duration) rfl rfl

theorem keeps_stopSweeper (session : Session) : Keeps session session.stopSweeper := by
  unfold stopSweeper
  split
  · exact ⟨rfl, rfl, rfl, id⟩
  · exact ⟨rfl, rfl, rfl, id⟩

theorem keeps_startSweeper (session : Session) : Keeps session session.startSweeper :=
  (keeps_stopSweeper session).trans ⟨rfl, rfl, rfl, id⟩

theorem keeps_settle (session : Session) (task : Task) (outcome : Outcome) :
    Keeps session (session.settle task outcome).1 := by
  have same : (session.settle task outcome).1.settings = session.settings ∧
      (session.settle task outcome).1.backlog = session.backlog := by
    cases outcome with
    | cancelled => exact ⟨rfl, rfl⟩
    | finished answer => exact ⟨rfl, rfl⟩
    | overBudget => exact ⟨rfl, rfl⟩
    | failed fault => exact ⟨rfl, rfl⟩
  exact .of_retains (retains_settle session task outcome) same.1 same.2

/-- The work of a query about an open document gives the answer of its text. -/
theorem keeps_perform {session : Session} {task : Task}
    (isOpen : session.document? task.query.uri = some task.document) :
    Keeps session (session.perform task).1 ∧
      (session.cache.AgreesOn session.Holds → (session.perform task).2 =
        (Analysis.ofText task.document.text).answer? task.document.text task.query) := by
  have single : ∀ other, session.Holds task.query.uri task.document.revision other →
      other = task.document.text := by
    intro other known
    have same : task.document = ⟨task.document.revision, other⟩ :=
      Option.some.inj (isOpen.symm.trans known)
    exact (congrArg Document.text same).symm
  have analyzed (agrees : session.cache.AgreesOn session.Holds) :=
    agrees.analyze isOpen single session.clock
  simp only [perform, dropIfClosed]
  have stillOpen : session.documents.lookup task.query.uri = some task.document := isOpen
  rw [document?, stillOpen, Option.isSome_some, if_pos rfl]
  refine ⟨⟨rfl, rfl, rfl, fun agrees => (analyzed agrees).2⟩, ?_⟩
  intro agrees
  rw [(analyzed agrees).1]

/-- The verdict on a query about an open document is the answer of its text, unless the work takes
longer than the budget or breaks off. -/
theorem keeps_runTask (session : Session) (task : Task)
    (isOpen : session.document? task.query.uri = some task.document) (cost : Nat)
    (fault : Option String) :
    Keeps session (session.runTask task cost fault).1 ∧
      (session.cache.AgreesOn session.Holds → (session.runTask task cost fault).2.answer =
        if task.budget < cost ∨ fault.isSome then none
        else (Analysis.ofText task.document.text).answer? task.document.text task.query) := by
  unfold runTask
  by_cases late : task.budget < cost
  · have expired := (keeps_elapse session task.budget).trans (keeps_settle _ task .overBudget)
    have worked := expired.trans (keeps_elapse _ (cost - task.budget))
    rw [if_pos late, if_pos (.inl late)]
    cases fault with
    | some fault => exact ⟨worked, fun _ => rfl⟩
    | none =>
      have stillOpen := (worked.document? task.query.uri).trans isOpen
      exact ⟨worked.trans (keeps_perform stillOpen).1, fun _ => rfl⟩
  · have waited := keeps_elapse session cost
    rw [if_neg late]
    cases fault with
    | some fault =>
      refine ⟨waited.trans (keeps_settle _ _ _), fun _ => ?_⟩
      rw [if_pos (.inr rfl)]
      rfl
    | none =>
      have stillOpen := (waited.document? task.query.uri).trans isOpen
      refine ⟨(waited.trans (keeps_perform stillOpen).1).trans (keeps_settle _ _ _), ?_⟩
      intro agrees
      rw [if_neg (by simp [late])]
      exact (keeps_perform stillOpen).2 (waited.holds ▸ waited.cache agrees)

theorem keeps_runQuery (session : Session) (query : Query) (cost : Nat) (fault : Option String) :
    Keeps session (session.runQuery query cost fault).1 ∧
      (session.cache.AgreesOn session.Holds → (session.runQuery query cost fault).2.answer =
        if session.settings.queryTimeout < cost ∨ fault.isSome then none
        else (session.document? query.uri).bind fun document =>
          (Analysis.ofText document.text).answer? document.text query) := by
  unfold runQuery accept
  cases found : session.document? query.uri with
  | none => exact ⟨⟨rfl, rfl, rfl, id⟩, fun _ => by simp⟩
  | some document =>
    let begun := { session with tracker := (session.tracker.start query.uri query.kind).2 }
    have keeps : Keeps session begun := ⟨rfl, rfl, rfl, id⟩
    have run := keeps_runTask begun ⟨query, (session.tracker.start query.uri query.kind).1,
      document, session.clock, session.settings.queryTimeout⟩ found cost fault
    exact ⟨keeps.trans run.1, run.2⟩

/-- The session answers for what its client knows: same settings and texts, a cache that agrees with
the open documents, and nothing left at the worker. -/
structure Reflects (session : Session) (view : ClientView) : Prop where
  settings : session.settings = view.settings
  texts : ∀ uri, (session.document? uri).map Document.text = view.text? uri
  cache : session.cache.AgreesOn session.Holds
  idle : session.backlog = []

namespace Reflects

theorem initial (readUri : UriReader) : Reflects (new readUri) .initial := by
  refine ⟨rfl, fun _ => rfl, ⟨?_, ?_⟩, rfl⟩
  · intro entry member
    cases member
  · intro entry member
    cases member

variable {session : Session} {view : ClientView}

theorem of_keeps {after : Session} (reflects : Reflects session view)
    (keeps : Keeps session after) : Reflects after view where
  settings := keeps.settings.trans reflects.settings
  texts := by
    intro uri
    rw [keeps.document?]
    exact reflects.texts uri
  cache := keeps.holds ▸ keeps.cache reflects.cache
  idle := keeps.backlog.trans reflects.idle

/-- A session whose document is dropped from the cache and then replaced or forgotten. -/
theorem of_disturb (reflects : Reflects session view) (after : Session) (uri : Uri)
    (settings : after.settings = session.settings) (backlog : after.backlog = session.backlog)
    (cache : after.cache = session.cache.invalidate uri)
    (elsewhere : ∀ other, other ≠ uri → after.document? other = session.document? other) :
    Reflects after (view.withText uri ((after.document? uri).map Document.text)) where
  settings := settings.trans reflects.settings
  texts := by
    intro other
    by_cases same : other = uri
    · rw [same, ClientView.text?_withText_self]
    · rw [ClientView.text?_withText_of_ne view same, elsewhere other same]
      exact reflects.texts other
  cache := by
    rw [cache]
    apply reflects.cache.invalidate_of_elsewhere
    intro other revision text different known
    exact (elsewhere other different).symm.trans known
  idle := backlog.trans reflects.idle

theorem openDocument (reflects : Reflects session view) (uri : Uri) (document : Document) :
    Reflects (session.openDocument uri document) (view.withText uri (some document.text)) := by
  have opened := reflects.of_disturb (session.openDocument uri document) uri rfl rfl rfl
    fun other different => document?_putDocument_of_ne (session.disturb uri) different document
  rwa [Session.openDocument, document?_putDocument_self] at opened

theorem closeDocument (reflects : Reflects session view) (uri : Uri) :
    Reflects (session.closeDocument uri) (view.withText uri none) := by
  have closed := reflects.of_disturb (session.closeDocument uri) uri rfl rfl rfl
    fun other different => document?_dropDocument_of_ne (session.disturb uri) different
  rwa [Session.closeDocument, document?_dropDocument_self] at closed

theorem changeDocument (reflects : Reflects session view) (uri : Uri) (revision : Int)
    (texts : List Text) :
    Reflects (session.changeDocument uri revision texts)
      (view.step (.changeDocument uri revision texts)) := by
  simp only [Session.changeDocument, ClientView.step]
  cases texts.getLast? with
  | none => exact reflects
  | some text => exact reflects.openDocument uri ⟨revision, text⟩

theorem applySettings (reflects : Reflects session view) (json : Json) :
    Reflects (session.applySettings json).1 (view.configured json) := by
  by_cases absent : json = .null
  · rw [absent]
    exact reflects
  · simp only [Session.applySettings, ClientView.configured]
    cases Settings.decode json with
    | ok settings =>
      exact ⟨rfl, reflects.texts, ⟨reflects.cache.fragments, reflects.cache.symbols⟩, reflects.idle⟩
    | error error => exact reflects

end Reflects

/-- A request keeps the session at what its client knows. -/
theorem reflects_step {session : Session} {view : ClientView} (reflects : Reflects session view)
    {request : Request} (sequential : request.IsSequential) :
    Reflects (session.step request).1 (view.step request) := by
  cases request with
  | connect options => exact reflects.applySettings _
  | ready => exact reflects.of_keeps (keeps_startSweeper session)
  | shutdown => exact reflects.of_keeps ((keeps_stopSweeper session).trans ⟨rfl, rfl, rfl, id⟩)
  | configure settings =>
    have applied := reflects.applySettings settings
    simp only [step, configure]
    split
    · exact applied.of_keeps (keeps_startSweeper _)
    · exact applied
  | openDocument uri document => exact reflects.openDocument uri document
  | changeDocument uri revision texts => exact reflects.changeDocument uri revision texts
  | closeDocument uri => exact reflects.closeDocument uri
  | command name arguments =>
    exact reflects.of_keeps (.of_retains (retains_execute session name arguments) rfl rfl)
  | query query cost fault => exact reflects.of_keeps (keeps_runQuery session query cost fault).1
  | start id query => exact sequential.elim
  | wait duration =>
    -- Nothing is at the worker, so nobody is over time and nothing is left to run.
    have waited := reflects.of_keeps (keeps_elapse session duration)
    simp only [step, expireOverdue, waited.idle, List.filter_nil, List.map_nil, settleAll]
    exact waited.of_keeps ⟨rfl, rfl, waited.idle.symm, id⟩
  | release =>
    simp only [step, release, reflects.idle, runJobs, List.filter_nil, settleAll]
    exact reflects.of_keeps ⟨rfl, rfl, reflects.idle.symm, id⟩

theorem reflects_handle {session : Session} {view : ClientView} (reflects : Reflects session view)
    (pause : Nat) {request : Request} (sequential : request.IsSequential) :
    Reflects (session.handle pause request).1 (view.step request) :=
  reflects_step (reflects.of_keeps (keeps_elapse session pause)) sequential

theorem reflects_after {session : Session} {view : ClientView} (reflects : Reflects session view)
    {history : List (Nat × Request)}
    (sequential : ∀ entry ∈ history, entry.2.IsSequential) :
    Reflects (session.after history) (view.after history) := by
  induction history generalizing session view with
  | nil => exact reflects
  | cons entry rest ih =>
    apply ih (reflects_handle reflects entry.1 (sequential entry List.mem_cons_self))
    intro other member
    exact sequential other (List.mem_cons_of_mem _ member)

/-- The reply to a query is the answer that the client's view gives. -/
theorem Reflects.reply_query {session : Session} {view : ClientView}
    (reflects : Reflects session view) (pause : Nat) (query : Query) (cost : Nat)
    (fault : Option String) :
    (session.handle pause (.query query cost fault)).2.reply =
      .answer (view.answer? query cost fault) := by
  have current := reflects.of_keeps (keeps_elapse session pause)
  have answered := (keeps_runQuery (session.elapse pause) query cost fault).2 current.cache
  simp only [handle, step, answered, current.settings, ClientView.answer?]
  rw [← current.texts query.uri, Option.bind_map]
  rfl

/-- Queries leave no trace in what a client may expect. -/
theorem answer?_after_query (history between : List (Nat × Request)) (pause : Nat) (query : Query)
    (cost : Nat) (fault : Option String) :
    ClientView.initial.after (history ++ (pause, .query query cost fault) :: between) =
      ClientView.initial.after (history ++ between) := by
  simp [ClientView.after, ClientView.step]

/-- In a run of requests carried out one after the other, a query within its budget is answered from
the text that its client gave last, and one over its budget is not answered and leaves the later
answers as they are. -/
theorem query_answers_latest_text (readUri : UriReader) {history : List (Nat × Request)}
    (sequential : ∀ entry ∈ history, entry.2.IsSequential) (pause : Nat) (query : Query)
    (cost : Nat) :
    let view := ClientView.initial.after history
    let session := (new readUri).after history
    (cost ≤ view.settings.queryTimeout → ∃ answer,
      (session.handle pause (.query query cost none)).2.reply = .answer answer ∧
      answer = ((view.text? query.uri).bind fun text =>
        (Analysis.ofText text).answer? text query) ∧
      ∀ text, view.text? query.uri = some text → Lines.FitsClient text →
        answer.map Answer.finding = (Analysis.ofText text).finding? text query) ∧
    (view.settings.queryTimeout < cost → ∀ fault,
      (session.handle pause (.query query cost fault)).2.reply = .answer none ∧
      ∀ between, (∀ entry ∈ between, entry.2.IsSequential) →
        ∀ laterPause later laterCost laterFault,
          (((new readUri).after (history ++ (pause, .query query cost fault) :: between)).handle
            laterPause (.query later laterCost laterFault)).2.reply =
          (((new readUri).after (history ++ between)).handle
            laterPause (.query later laterCost laterFault)).2.reply) := by
  intro view session
  have reflects := reflects_after (Reflects.initial readUri) sequential
  constructor
  · intro within
    refine ⟨view.answer? query cost none, reflects.reply_query pause query cost none, ?_, ?_⟩
    · simp [ClientView.answer?, Nat.not_lt.2 within]
    · intro text current fits
      rw [← Analysis.map_finding_answer? fits]
      simp [ClientView.answer?, Nat.not_lt.2 within, current]
  · intro late fault
    refine ⟨?_, ?_⟩
    · rw [reflects.reply_query, ClientView.answer?, if_pos (.inl late)]
    · -- Both runs leave the client with the same view, and the view alone decides the answer.
      intro between sequentialBetween laterPause later laterCost laterFault
      have queryFirst : ∀ entry ∈ (pause, Request.query query cost fault) :: between,
          entry.2.IsSequential :=
        List.forall_mem_cons.2 ⟨trivial, sequentialBetween⟩
      have withQuery := reflects_after (Reflects.initial readUri)
        (List.forall_mem_append.2 ⟨sequential, queryFirst⟩)
      have without := reflects_after (Reflects.initial readUri)
        (List.forall_mem_append.2 ⟨sequential, sequentialBetween⟩)
      rw [withQuery.reply_query, without.reply_query, answer?_after_query]

/-- A document that is changed under the revision it had, after a query that stored the analysis of
its first text. -/
theorem query_answers_latest_text_of_repeated_revision :
    let uri : Uri := ⟨"file:///a.ejs"⟩
    let query : Query := ⟨.definition, uri, ⟨0, 7⟩⟩
    let first : Text := ['<', '%', ' ', 'a', '=', '>', 'a', ' ', '%', '>']
    let second : Text := ['<', '%', ' ', ' ', 'a', '=', '>', 'a', ' ', '%', '>']
    let history : List (Nat × Request) :=
      [(1, .openDocument uri ⟨1, first⟩), (1, .query query 2 none),
        (1, .changeDocument uri 1 [second])]
    let session := (new Uri.read).after history
    (∀ entry ∈ history, entry.2.IsSequential) ∧
      (∃ answer, (session.handle 1 (.query query 2 none)).2.reply = .answer answer ∧
        answer = some (.definition uri ⟨⟨0, 4⟩, ⟨0, 5⟩⟩) ∧
        answer.map Answer.finding = (Analysis.ofText second).finding? second query) ∧
      (session.handle 1 (.query query 501 none)).2.reply = .answer none := by
  intro uri query first second history session
  have sequential : ∀ entry ∈ history, entry.2.IsSequential := by
    simp [history, Request.IsSequential]
  have within : 2 ≤ (ClientView.initial.after history).settings.queryTimeout := by decide
  have late : (ClientView.initial.after history).settings.queryTimeout < 501 := by decide
  have fits : Lines.FitsClient second := ⟨by decide, by decide⟩
  have text : (ClientView.initial.after history).text? query.uri = some second := rfl
  have found : (Analysis.ofText second).answer? second query =
      some (.definition uri ⟨⟨0, 4⟩, ⟨0, 5⟩⟩) := by decide +kernel
  obtain ⟨answer, reply, latest, told⟩ :=
    (query_answers_latest_text Uri.read sequential 1 query 2).1 within
  rw [text, Option.bind_some, found] at latest
  exact ⟨sequential, ⟨answer, reply, latest, told second text fits⟩,
    ((query_answers_latest_text Uri.read sequential 1 query 501).2 late none).1⟩

end Session

end TemplateNav
