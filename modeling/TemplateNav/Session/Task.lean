import TemplateNav.Session.Basic

/-!
# The course of a query

A query is accepted with the state that its document has at that moment.  Its
work looks the analysis up in the cache, or computes it there, and drops the
entries again if the document is not open any more.  The query ends with an
answer, over its budget, with a fault, or cancelled; only a cancelled one leaves
no latency sample.
-/

namespace TemplateNav

/-- How a query ends. -/
inductive Outcome where
  | finished (answer : Option Answer)
  | cancelled
  | overBudget
  | failed (fault : String)

/-- What a session says at the end of a query. -/
structure Verdict where
  answer : Option Answer
  messages : List Message

namespace Session

/-- Accepts a query; it has a task if its document is open. -/
def accept (session : Session) (query : Query) : Session × Option Task :=
  let (ticket, tracker) := session.tracker.start query.uri query.kind
  match session.document? query.uri with
  | none => ({ session with tracker := tracker.finish query.uri query.kind ticket }, none)
  | some document =>
    ({ session with tracker := tracker },
      some ⟨query, ticket, document, session.clock, session.settings.queryTimeout⟩)

/-- Drops the cache entries of a document that is not open. -/
def dropIfClosed (session : Session) (uri : Uri) : Session :=
  if (session.document? uri).isSome then session
  else { session with cache := session.cache.invalidate uri }

/-- Does the work of a task. -/
def perform (session : Session) (task : Task) : Session × Option Answer :=
  let (analysis, cache) :=
    session.cache.analyze session.clock task.query.uri task.document.revision task.document.text
  (({ session with cache := cache } : Session).dropIfClosed task.query.uri,
    analysis.answer? task.document.text task.query)

/-- Records how long a query took.  The client hears of it when navigation becomes slow, and again
only after it was fast in between. -/
def recordLatency (session : Session) (kind : QueryKind) (duration : Nat) :
    Session × List Message :=
  let cache := session.cache.recordLatency ⟨kind.label, duration * 1000000⟩
  let isSlow := !cache.latency.isAcceptable
  ({ session with cache := cache, isSlow := isSlow },
    if isSlow && !session.isSlow then
      [.slow cache.latency.average (cache.latency.percentile 95.0)]
    else [])

/-- Ends a query. -/
def settle (session : Session) (task : Task) (outcome : Outcome) : Session × Verdict :=
  let query := task.query
  let session := { session with
    tracker := session.tracker.finish query.uri query.kind task.ticket }
  let duration := session.clock - task.startedAt
  match outcome with
  | .cancelled => (session, ⟨none, []⟩)
  | .finished answer =>
    let (session, messages) := session.recordLatency query.kind duration
    (session, ⟨answer, messages⟩)
  | .overBudget =>
    let (session, messages) := session.recordLatency query.kind duration
    (session, ⟨none, messages ++ [.overBudget query.kind query.uri task.budget]⟩)
  | .failed fault =>
    let (session, messages) := session.recordLatency query.kind duration
    (session, ⟨none, messages ++ [.failed query.kind query.uri fault]⟩)

/-- Runs an accepted query to its end, where the work takes `cost` milliseconds and may break off
with a fault.  A query that is over its budget is answered at once; its work goes on. -/
def runTask (session : Session) (task : Task) (cost : Nat) (fault : Option String) :
    Session × Verdict :=
  if task.budget < cost then
    let (session, verdict) := (session.elapse task.budget).settle task .overBudget
    let session := session.elapse (cost - task.budget)
    match fault with
    | some _ => (session, verdict)
    | none => ((session.perform task).1, verdict)
  else
    let session := session.elapse cost
    match fault with
    | some fault => session.settle task (.failed fault)
    | none =>
      let (session, answer) := session.perform task
      session.settle task (.finished answer)

/-- Runs a query to its end. -/
def runQuery (session : Session) (query : Query) (cost : Nat) (fault : Option String) :
    Session × Verdict :=
  match session.accept query with
  | (session, none) => (session, ⟨none, []⟩)
  | (session, some task) => session.runTask task cost fault

end Session

end TemplateNav
