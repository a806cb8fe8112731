import TemplateNav.Session.Answer
import TemplateNav.Session.Message

/-!
# Sessions

A session holds the open documents of one client, the analysis cache, the live
queries and the work that waits for the one worker.  It is given the reader of
the addresses that its client writes in commands.  Its clock counts
milliseconds.  A sweeper that was started runs until it is cancelled: expired
cache entries are swept whenever the clock moves to its next tick or beyond it.
The session knows the sweeper that it started last, to cancel it.
-/

namespace TemplateNav

/-- An open document: the revision that its client gave, and its text. -/
structure Document where
  revision : Int
  text : Text
  deriving DecidableEq

/-- A sweep that comes back after each interval, in milliseconds, until it is cancelled. -/
structure Sweeper where
  interval : Nat
  nextTick : Nat
  isCancelled : Bool
  deriving DecidableEq

namespace Sweeper

/-- A sweeper that starts now. -/
def starting (now interval : Nat) : Sweeper :=
  ⟨interval, now + interval, false⟩

/-- The sweeper once it is cancelled. -/
def cancelled (sweeper : Sweeper) : Sweeper :=
  { sweeper with isCancelled := true }

/-- Whether the sweeper runs and its tick has come. -/
def isDue (sweeper : Sweeper) (now : Nat) : Bool :=
  !sweeper.isCancelled && sweeper.nextTick ≤ now

/-- The sweeper behind the ticks up to now, however many passed. -/
def passed (sweeper : Sweeper) (now : Nat) : Sweeper :=
  if sweeper.isDue now then
    { sweeper with
      nextTick := sweeper.nextTick +
        ((now - sweeper.nextTick) / sweeper.interval + 1) * sweeper.interval }
  else
    sweeper

/-- The cache after the sweep of a sweeper that is due. -/
def swept (sweeper : Sweeper) (cache : Cache) (now : Nat) : Cache :=
  if sweeper.isDue now then (cache.sweep now).1 else cache

end Sweeper

/-- The work of one query: what is asked, about which state of the document, since when, and how
long it may take. -/
structure Task where
  query : Query
  ticket : Nat
  document : Document
  startedAt : Nat
  budget : Nat

/-- A task that holds the worker or waits for it. -/
structure Job where
  /-- The client's number for the query. -/
  id : Int
  task : Task
  isAnswered : Bool

/-- The state of a server with one client. -/
structure Session where
  readUri : UriReader
  /-- Milliseconds since the session began. -/
  clock : Nat
  settings : Settings
  cache : Cache
  documents : List (Uri × Document)
  tracker : Tracker
  /-- All sweepers that were started, the first one first. -/
  sweepers : List Sweeper
  /-- The number of the sweeper that is to be cancelled before another starts. -/
  sweeper : Option Nat
  /-- Whether navigation was slow at the last sample. -/
  isSlow : Bool
  /-- The tasks at the worker; the first of them is running. -/
  backlog : List Job

namespace Session

/-- A session without documents. -/
def new (readUri : UriReader) : Session where
  readUri := readUri
  clock := 0
  settings := .standard
  cache := .standard
  documents := []
  tracker := .new
  sweepers := []
  sweeper := none
  isSlow := false
  backlog := []

/-- The document at an address, if it is open. -/
def document? (session : Session) (uri : Uri) : Option Document :=
  session.documents.lookup uri

/-- Opens a document, or replaces the one that is open. -/
def putDocument (session : Session) (uri : Uri) (document : Document) : Session :=
  { session with
    documents := (uri, document) :: session.documents.filter fun entry => entry.1 ≠ uri }

/-- Forgets a document. -/
def dropDocument (session : Session) (uri : Uri) : Session :=
  { session with documents := session.documents.filter fun entry => entry.1 ≠ uri }

/-- Sweeps the cache for each sweeper whose tick has come. -/
def sweepIfDue (session : Session) : Session :=
  { session with
    cache := session.sweepers.foldl (fun cache sweeper => sweeper.swept cache session.clock)
      session.cache
    sweepers := session.sweepers.map fun sweeper => sweeper.passed session.clock }

/-- Lets time pass, and sweeps once if a tick has come by then. -/
def elapse (session : Session) (duration : Nat) : Session :=
  ({ session with clock := session.clock + duration } : Session).sweepIfDue

/-- Cancels the sweeper that was started last. -/
def stopSweeper (session : Session) : Session :=
  match session.sweeper with
  | none => session
  | some number =>
    { session with
      sweepers := session.sweepers.modify number Sweeper.cancelled
      sweeper := none }

/-- Starts a sweeper in place of the last one. -/
def startSweeper (session : Session) : Session :=
  let stopped := session.stopSweeper
  { stopped with
    sweepers := stopped.sweepers ++ [.starting session.clock session.cache.limits.sweepInterval]
    sweeper := some stopped.sweepers.length }

theorem document?_putDocument_self (session : Session) (uri : Uri) (document : Document) :
    (session.putDocument uri document).document? uri = some document := by
  simp [putDocument, document?]

theorem document?_dropDocument_self (session : Session) (uri : Uri) :
    (session.dropDocument uri).document? uri = none := by
  simp only [dropDocument, document?, List.lookup_eq_none_iff, List.mem_filter]
  intro entry member
  have different : entry.1 ≠ uri := by simpa using member.2
  simpa using different.symm

end Session

end TemplateNav
