import TemplateNav.Uri.Basic

/-!
# Live queries

For each document and kind of query at most one query is live: the last one
begun.  Beginning the next one cancels it, and so do changes of its document.  A
query that is cancelled before it runs does not run.
-/

namespace TemplateNav

/-- What is asked about a cursor. -/
inductive QueryKind where
  | definition
  | hover
  | highlight
  deriving DecidableEq

/-- The word for a kind of query. -/
def QueryKind.label : QueryKind → String
  | definition => "definition"
  | hover => "hover"
  | highlight => "highlight"

/-- A query that has begun and has neither finished nor been cancelled. -/
structure LiveQuery where
  uri : Uri
  kind : QueryKind
  ticket : Nat
  deriving DecidableEq

/-- The live queries, and the tickets that were cancelled.  Tickets count up from zero. -/
structure Tracker where
  nextTicket : Nat
  live : List LiveQuery
  cancelled : List Nat
  deriving DecidableEq

namespace Tracker

/-- Nothing has begun. -/
def new : Tracker := ⟨0, [], []⟩

/-- Drops the live queries of a class and cancels their tickets. -/
def cancelWhere (tracker : Tracker) (isHit : LiveQuery → Bool) : Tracker :=
  { tracker with
    live := tracker.live.filter fun query => !isHit query
    cancelled := tracker.cancelled ++ (tracker.live.filter isHit).map LiveQuery.ticket }

/-- Begins a query in place of the live one of its document and kind, which is cancelled. -/
def start (tracker : Tracker) (uri : Uri) (kind : QueryKind) : Nat × Tracker :=
  let tracker := tracker.cancelWhere fun query => query.uri = uri && query.kind = kind
  (tracker.nextTicket,
    { tracker with
      nextTicket := tracker.nextTicket + 1
      live := tracker.live ++ [⟨uri, kind, tracker.nextTicket⟩] })

/-- Ends a query; one that is not live any more, or has another document or kind, changes
nothing. -/
def finish (tracker : Tracker) (uri : Uri) (kind : QueryKind) (ticket : Nat) : Tracker :=
  { tracker with live := tracker.live.filter fun query => query ≠ ⟨uri, kind, ticket⟩ }

/-- Cancels the live queries of a document. -/
def cancelDocument (tracker : Tracker) (uri : Uri) : Tracker :=
  tracker.cancelWhere fun query => query.uri = uri

/-- Cancels all live queries. -/
def cancelAll (tracker : Tracker) : Tracker :=
  tracker.cancelWhere fun _ => true

/-- The number of live queries. -/
def pending (tracker : Tracker) : Nat :=
  tracker.live.length

/-- Whether a ticket was cancelled. -/
def isCancelled (tracker : Tracker) (ticket : Nat) : Bool :=
  tracker.cancelled.contains ticket

end Tracker

end TemplateNav
