import TemplateNav.Session.Backlog

/-!
# Requests of a client

A session is a machine: each request changes it and is replied to, with messages
on the way.  Time passes between requests.
-/

namespace TemplateNav

/-- What a client sends. -/
inductive Request where
  /-- The first request, with settings if the client has any. -/
  | connect (options : Option Json)
  /-- The client is ready: the sweeper starts. -/
  | ready
  | shutdown
  | configure (settings : Json)
  | openDocument (uri : Uri) (document : Document)
  /-- A new revision; of several texts the last counts. -/
  | changeDocument (uri : Uri) (revision : Int) (texts : List Text)
  | closeDocument (uri : Uri)
  | command (name : String) (arguments : List Json)
  /-- A query that is run to its end, with the time its work takes and the fault it runs into. -/
  | query (query : Query) (cost : Nat) (fault : Option String)
  /-- A query that is left at the worker. -/
  | start (id : Int) (query : Query)
  /-- Milliseconds pass; queries that are over their budget then are to be answered. -/
  | wait (duration : Nat)
  /-- The worker is to run everything it holds. -/
  | release

/-- What a server tells a client that connects. -/
structure Greeting where
  name : String
  version : String
  /-- The queries it answers. -/
  queries : List QueryKind
  /-- The commands it runs. -/
  commands : List String
  /-- Whether changes carry the whole text. -/
  takesWholeTexts : Bool

/-- The greeting of this server. -/
def Greeting.standard : Greeting where
  name := "ejs-lsp"
  version := "0.3.0"
  queries := [.definition, .hover, .highlight]
  commands := Command.all
  takesWholeTexts := true

/-- The reply to a request. -/
inductive Reply where
  | done
  | greeting (greeting : Greeting)
  | command (result : Except CommandError CommandAnswer)
  | answer (answer : Option Answer)
  /-- The query is at the worker. -/
  | pending
  /-- The queries that ended, in the order they started. -/
  | ended (ended : List Ended)

/-- A reply and the messages sent before it. -/
structure Response where
  reply : Reply
  messages : List Message

namespace Session

/-- Takes over settings; the absence of any changes nothing, and neither do unreadable ones. -/
def applySettings (session : Session) : Json → Session × List Message
  | .null => (session, [])
  | json =>
    match Settings.decode json with
    | .ok settings =>
      ({ session with
        settings := settings
        cache := session.cache.reconfigure settings.cacheLimits settings.thresholds }, [])
    | .error error => (session, [.refused error])

/-- Takes over settings, and restarts a running sweeper if its interval changed. -/
def configure (session : Session) (json : Json) : Session × List Message :=
  let (configured, messages) := session.applySettings json
  if session.sweeper.isSome &&
      configured.cache.limits.sweepInterval ≠ session.cache.limits.sweepInterval then
    (configured.startSweeper, messages)
  else
    (configured, messages)

/-- Cancels the queries of a document and drops its cache entries. -/
def disturb (session : Session) (uri : Uri) : Session :=
  { session with
    tracker := session.tracker.cancelDocument uri
    cache := session.cache.invalidate uri }

/-- Opens or replaces a document. -/
def openDocument (session : Session) (uri : Uri) (document : Document) : Session :=
  (session.disturb uri).putDocument uri document

/-- Replaces a document by the last of several texts, if there is one. -/
def changeDocument (session : Session) (uri : Uri) (revision : Int) (texts : List Text) : Session :=
  match texts.getLast? with
  | none => session
  | some text => session.openDocument uri ⟨revision, text⟩

/-- Closes a document. -/
def closeDocument (session : Session) (uri : Uri) : Session :=
  (session.disturb uri).dropDocument uri

/-- Stops the sweeper and cancels all queries. -/
def shutdown (session : Session) : Session :=
  { session.stopSweeper with tracker := session.tracker.cancelAll }

/-- Carries out a request. -/
def step (session : Session) : Request → Session × Response
  | .connect options =>
    let (session, messages) := session.applySettings (options.getD .null)
    (session, ⟨.greeting .standard, messages⟩)
  | .ready => (session.startSweeper, ⟨.done, []⟩)
  | .shutdown => (session.shutdown, ⟨.done, []⟩)
  | .configure settings =>
    let (session, messages) := session.configure settings
    (session, ⟨.done, messages⟩)
  | .openDocument uri document => (session.openDocument uri document, ⟨.done, []⟩)
  | .changeDocument uri revision texts =>
    (session.changeDocument uri revision texts, ⟨.done, []⟩)
  | .closeDocument uri => (session.closeDocument uri, ⟨.done, []⟩)
  | .command name arguments =>
    let (result, cache) := session.cache.execute session.readUri name arguments
    ({ session with cache := cache }, ⟨.command result, []⟩)
  | .query query cost fault =>
    let (session, verdict) := session.runQuery query cost fault
    (session, ⟨.answer verdict.answer, verdict.messages⟩)
  | .start id query =>
    match session.enqueue id query with
    | (session, none) => (session, ⟨.answer none, []⟩)
    | (session, some _) => (session, ⟨.pending, []⟩)
  | .wait duration =>
    let (session, verdicts) := (session.elapse duration).expireOverdue
    (session, ⟨.ended verdicts.ended, verdicts.messages⟩)
  | .release =>
    let (session, verdicts) := session.release
    (session, ⟨.ended verdicts.ended, verdicts.messages⟩)

/-- Carries out a request that comes after a pause in milliseconds. -/
def handle (session : Session) (pause : Nat) (request : Request) : Session × Response :=
  (session.elapse pause).step request

end Session

end TemplateNav
