import Mathlib.Data.Set.Card
import TemplateNav.Proofs.Query.Tickets

/-!
# Live queries and their history

A query is live from its start until something ends it: the next query of its
document and kind, the end of its own course, or a cancellation of its document or
of everything.  A tracker keeps neither the past nor the queries that are over, and
yet its live queries and its cancelled tickets are at every moment those that the
whole history gives.
-/

namespace TemplateNav

namespace Tracker

/-- What may happen to a tracker. -/
inductive Event where
  | start (uri : Uri) (kind : QueryKind)
  /-- A query ends its course and says which document, kind and ticket it has. -/
  | finish (uri : Uri) (kind : QueryKind) (ticket : Nat)
  | cancelDocument (uri : Uri)
  | cancelAll
  deriving DecidableEq

namespace Event

/-- Whether an event begins a query. -/
def isStart : Event → Bool
  | start _ _ => true
  | _ => false

/-- An event that cancels a query, if the query is live. -/
def Cancels (event : Event) (query : LiveQuery) : Prop :=
  event = start query.uri query.kind ∨ event = cancelDocument query.uri ∨ event = cancelAll

/-- An event behind which a query is no longer live. -/
def Ends (event : Event) (query : LiveQuery) : Prop :=
  event.Cancels query ∨ event = finish query.uri query.kind query.ticket

/-- The number of queries begun in a history; the next one has it as its ticket. -/
def begun (events : List Event) : Nat :=
  events.countP isStart

@[simp] theorem begun_append (earlier later : List Event) :
    begun (earlier ++ later) = begun earlier + begun later :=
  List.countP_append

@[simp] theorem begun_start (uri : Uri) (kind : QueryKind) (later : List Event) :
    begun (start uri kind :: later) = begun later + 1 :=
  List.countP_cons_of_pos rfl

end Event

open Event (begun)

/-- The query began, with the ticket that was next, and nothing has ended it since. -/
def LiveAfter (events : List Event) (query : LiveQuery) : Prop :=
  ∃ earlier later, events = earlier ++ .start query.uri query.kind :: later ∧
    begun earlier = query.ticket ∧ ∀ event ∈ later, ¬ event.Ends query

/-- The query with the ticket was live at the moment of an event that cancels it. -/
def CancelledDuring (events : List Event) (ticket : Nat) : Prop :=
  ∃ earlier event later, events = earlier ++ event :: later ∧
    ∃ query, LiveAfter earlier query ∧ event.Cancels query ∧ query.ticket = ticket

/-- The tracker behind one event. -/
def apply (tracker : Tracker) : Event → Tracker
  | .start uri kind => (tracker.start uri kind).2
  | .finish uri kind ticket => tracker.finish uri kind ticket
  | .cancelDocument uri => tracker.cancelDocument uri
  | .cancelAll => tracker.cancelAll

/-- The tracker behind a history. -/
def after (events : List Event) : Tracker :=
  events.foldl apply new

theorem after_concat (events : List Event) (event : Event) :
    after (events ++ [event]) = (after events).apply event :=
  List.foldl_append

section History

variable {events : List Event} {event : Event} {query : LiveQuery}

/-- Of two places in a history one comes first, unless they are the same. -/
theorem split_cases {first second : Event} {before behind earlier later : List Event}
    (same : before ++ first :: behind = earlier ++ second :: later) :
    (before = earlier ∧ first = second ∧ behind = later) ∨
      (∃ between, earlier = before ++ first :: between ∧ behind = between ++ second :: later) ∨
      ∃ between, before = earlier ++ second :: between ∧ later = between ++ first :: behind := by
  rcases List.append_eq_append_iff.1 same with ⟨between, rfl, rest⟩ | ⟨between, rfl, rest⟩
  · cases between with
    | nil =>
      obtain ⟨rfl, rfl⟩ := List.cons.inj rest
      exact .inl ⟨by simp, rfl, rfl⟩
    | cons next between =>
      obtain ⟨rfl, rfl⟩ := List.cons.inj rest
      exact .inr (.inl ⟨between, rfl, rfl⟩)
  · cases between with
    | nil =>
      obtain ⟨rfl, rfl⟩ := List.cons.inj rest
      exact .inl ⟨by simp, rfl, rfl⟩
    | cons next between =>
      obtain ⟨rfl, rfl⟩ := List.cons.inj rest
      exact .inr (.inr ⟨between, rfl, rfl⟩)

/-- A ticket tells where in the history its query began. -/
theorem start_unique {uri other : Uri} {kind otherKind : QueryKind}
    {before behind earlier later : List Event}
    (same : before ++ .start uri kind :: behind = earlier ++ .start other otherKind :: later)
    (ticket : begun before = begun earlier) :
    uri = other ∧ kind = otherKind ∧ behind = later := by
  rcases split_cases same with ⟨_, starts, rest⟩ | ⟨between, rfl, _⟩ | ⟨between, rfl, _⟩
  · obtain ⟨rfl, rfl⟩ := Event.start.inj starts
    exact ⟨rfl, rfl, rest⟩
  · simp at ticket
  · simp at ticket

theorem liveAfter_concat :
    LiveAfter (events ++ [event]) query ↔
      (LiveAfter events query ∧ ¬ event.Ends query) ∨
        (event = .start query.uri query.kind ∧ query.ticket = begun events) := by
  constructor
  · rintro ⟨earlier, later, split, ticket, lasting⟩
    rcases List.eq_nil_or_concat later with rfl | ⟨later, last, rfl⟩
    · obtain ⟨rfl, starts⟩ := List.append_inj' split rfl
      exact .inr ⟨List.singleton_inj.1 starts, ticket.symm⟩
    · rw [List.concat_eq_append, ← List.cons_append, ← List.append_assoc] at split
      obtain ⟨rfl, same⟩ := List.append_inj' split rfl
      obtain rfl := List.singleton_inj.1 same
      refine .inl ⟨⟨earlier, later, rfl, ticket, ?_⟩, lasting event (by simp)⟩
      exact fun other member => lasting other (by simp [member])
  · rintro (⟨⟨earlier, later, rfl, ticket, lasting⟩, survived⟩ | ⟨rfl, ticket⟩)
    · refine ⟨earlier, later ++ [event], by simp, ticket, ?_⟩
      intro other member
      rcases List.mem_append.1 member with before | last
      · exact lasting other before
      · rwa [List.mem_singleton.1 last]
    · exact ⟨events, [], rfl, ticket.symm, by simp⟩

theorem cancelledDuring_concat {ticket : Nat} :
    CancelledDuring (events ++ [event]) ticket ↔
      CancelledDuring events ticket ∨
        ∃ query, LiveAfter events query ∧ event.Cancels query ∧ query.ticket = ticket := by
  constructor
  · rintro ⟨earlier, canceller, later, split, hit⟩
    rcases List.eq_nil_or_concat later with rfl | ⟨later, last, rfl⟩
    · obtain ⟨rfl, same⟩ := List.append_inj' split rfl
      obtain rfl := List.singleton_inj.1 same
      exact .inr hit
    · rw [List.concat_eq_append, ← List.cons_append, ← List.append_assoc] at split
      obtain ⟨rfl, _⟩ := List.append_inj' split rfl
      exact .inl ⟨earlier, canceller, later, rfl, hit⟩
  · rintro (⟨earlier, canceller, later, rfl, hit⟩ | hit)
    · exact ⟨earlier, canceller, later ++ [event], by simp, hit⟩
    · exact ⟨events, event, [], rfl, hit⟩

theorem LiveAfter.eq_of_ticket {other : LiveQuery} (live : LiveAfter events query)
    (otherLive : LiveAfter events other) (ticket : query.ticket = other.ticket) :
    query = other := by
  obtain ⟨before, behind, rfl, begunBefore, _⟩ := live
  obtain ⟨earlier, later, same, begunEarlier, _⟩ := otherLive
  obtain ⟨uri, kind, _⟩ := start_unique same (by rw [begunBefore, begunEarlier, ticket])
  cases query
  cases other
  exact (LiveQuery.mk.injEq ..).mpr ⟨uri, kind, ticket⟩

/-- One of two live queries of one document and kind would have taken the place of the other. -/
theorem LiveAfter.eq_of_key {other : LiveQuery} (live : LiveAfter events query)
    (otherLive : LiveAfter events other) (uri : query.uri = other.uri)
    (kind : query.kind = other.kind) : query = other := by
  obtain ⟨before, behind, rfl, begunBefore, lasting⟩ := live
  obtain ⟨earlier, later, same, begunEarlier, otherLasting⟩ := otherLive
  rcases split_cases same with ⟨rfl, _, _⟩ | ⟨between, _, rfl⟩ | ⟨between, _, rfl⟩
  · cases query
    cases other
    exact (LiveQuery.mk.injEq ..).mpr ⟨uri, kind, begunBefore.symm.trans begunEarlier⟩
  · have ends : (Event.start other.uri other.kind).Ends query := .inl (.inl (by rw [uri, kind]))
    exact absurd ends (lasting _ (by simp))
  · have ends : (Event.start query.uri query.kind).Ends other := .inl (.inl (by rw [uri, kind]))
    exact absurd ends (otherLasting _ (by simp))

theorem LiveAfter.not_cancelledDuring (live : LiveAfter events query) :
    ¬ CancelledDuring events query.ticket := by
  rintro ⟨_, canceller, rest, rfl, other, ⟨earlier, later, rfl, begunEarlier, _⟩, cancels, ticket⟩
  obtain ⟨before, behind, split, begunBefore, lasting⟩ := live
  rw [List.append_assoc, List.cons_append] at split
  obtain ⟨uri, kind, rfl⟩ :=
    start_unique split (by rw [begunEarlier, begunBefore, ticket])
  refine lasting canceller (by simp) (.inl ?_)
  rw [Event.Cancels, uri, kind] at cancels
  exact cancels

end History

section Step

variable {tracker : Tracker} {query : LiveQuery}

theorem mem_live_cancelWhere {isHit : LiveQuery → Bool} :
    query ∈ (tracker.cancelWhere isHit).live ↔ query ∈ tracker.live ∧ isHit query = false := by
  simp [cancelWhere]

theorem mem_cancelled_cancelWhere {isHit : LiveQuery → Bool} {ticket : Nat} :
    ticket ∈ (tracker.cancelWhere isHit).cancelled ↔
      ticket ∈ tracker.cancelled ∨
        ∃ query ∈ tracker.live, isHit query = true ∧ query.ticket = ticket := by
  simp [cancelWhere, and_assoc]

theorem nextTicket_apply (event : Event) :
    (tracker.apply event).nextTicket = tracker.nextTicket + begun [event] := by
  cases event <;> rfl

/-- An event leaves the live queries that it does not end, and a start adds its own. -/
theorem mem_live_apply (event : Event) :
    query ∈ (tracker.apply event).live ↔
      (query ∈ tracker.live ∧ ¬ event.Ends query) ∨
        (event = .start query.uri query.kind ∧ query.ticket = tracker.nextTicket) := by
  cases event with
  | start uri kind =>
    have added : query = ⟨uri, kind, tracker.nextTicket⟩ ↔
        Event.start uri kind = .start query.uri query.kind ∧
          query.ticket = tracker.nextTicket := by
      cases query
      simp only [LiveQuery.mk.injEq, Event.start.injEq]
      grind
    simp only [apply, start, List.mem_append, mem_live_cancelWhere, List.mem_singleton]
    rw [show (tracker.cancelWhere _).nextTicket = tracker.nextTicket from rfl, added]
    simp only [Event.Ends, Event.Cancels, Event.start.injEq, reduceCtorEq, or_false,
      Bool.and_eq_false_iff, decide_eq_false_iff_not]
    grind
  | finish uri kind ticket =>
    have own : query = ⟨uri, kind, ticket⟩ ↔
        Event.finish uri kind ticket = .finish query.uri query.kind query.ticket := by
      cases query
      simp only [LiveQuery.mk.injEq, Event.finish.injEq]
      grind
    simp only [apply, finish, List.mem_filter, decide_eq_true_eq, ne_eq, own, Event.Ends,
      Event.Cancels, reduceCtorEq, false_or, or_false, false_and]
  | cancelDocument uri =>
    simp only [apply, cancelDocument, mem_live_cancelWhere, Event.Ends, Event.Cancels,
      Event.cancelDocument.injEq, reduceCtorEq, false_or, or_false, decide_eq_false_iff_not,
      false_and]
    grind
  | cancelAll => simp [apply, cancelAll, mem_live_cancelWhere, Event.Ends, Event.Cancels]

theorem mem_cancelled_apply (event : Event) {ticket : Nat} :
    ticket ∈ (tracker.apply event).cancelled ↔
      ticket ∈ tracker.cancelled ∨
        ∃ query ∈ tracker.live, event.Cancels query ∧ query.ticket = ticket := by
  cases event with
  | start uri kind =>
    simp only [apply, start, mem_cancelled_cancelWhere, Event.Cancels, Event.start.injEq,
      reduceCtorEq, or_false, Bool.and_eq_true, decide_eq_true_eq]
    grind
  | finish uri kind other => simp [apply, finish, Event.Cancels]
  | cancelDocument uri =>
    simp only [apply, cancelDocument, mem_cancelled_cancelWhere, Event.Cancels,
      Event.cancelDocument.injEq, reduceCtorEq, false_or, or_false, decide_eq_true_eq]
    grind
  | cancelAll => simp [apply, cancelAll, mem_cancelled_cancelWhere, Event.Cancels]

theorem Bounded.apply (bounded : Bounded tracker) (event : Event) :
    Bounded (tracker.apply event) := by
  cases event with
  | start uri kind => exact bounded.start uri kind
  | finish uri kind ticket => exact bounded.finish uri kind ticket
  | cancelDocument uri => exact bounded.cancelWhere _
  | cancelAll => exact bounded.cancelWhere _

theorem nodup_apply (bounded : Bounded tracker) (distinct : tracker.live.Nodup) (event : Event) :
    (tracker.apply event).live.Nodup := by
  cases event with
  | start uri kind =>
    refine List.nodup_append.2 ⟨distinct.filter _, by simp, ?_⟩
    intro earlier member last new same
    -- The ticket of the new query is not among those given out before.
    have older := bounded.live earlier (List.mem_filter.1 member).1
    rw [same, List.mem_singleton.1 new] at older
    exact Nat.lt_irrefl _ older
  | finish uri kind ticket => exact distinct.filter _
  | cancelDocument uri => exact distinct.filter _
  | cancelAll => exact distinct.filter _

end Step

/-- A tracker that holds what a history gives. -/
structure Follows (tracker : Tracker) (events : List Event) : Prop where
  bounded : Bounded tracker
  next : tracker.nextTicket = begun events
  live : ∀ query, query ∈ tracker.live ↔ LiveAfter events query
  cancelled : ∀ ticket, ticket ∈ tracker.cancelled ↔ CancelledDuring events ticket
  distinct : tracker.live.Nodup

theorem follows_new : Follows new [] where
  bounded := bounded_new
  next := rfl
  live query := by simp [new, LiveAfter]
  cancelled ticket := by simp [new, CancelledDuring]
  distinct := List.nodup_nil

theorem Follows.apply {tracker : Tracker} {events : List Event} (follows : Follows tracker events)
    (event : Event) : Follows (tracker.apply event) (events ++ [event]) where
  bounded := follows.bounded.apply event
  next := by rw [nextTicket_apply, follows.next, Event.begun_append]
  live query := by rw [mem_live_apply, liveAfter_concat, follows.live, follows.next]
  cancelled ticket := by
    simp only [mem_cancelled_apply, cancelledDuring_concat, follows.cancelled, follows.live]
  distinct := nodup_apply follows.bounded follows.distinct event

theorem follows_after (events : List Event) : Follows (after events) events := by
  induction events using List.reverseRecOn with
  | nil => exact follows_new
  | append_singleton events event ih =>
    rw [after_concat]
    exact ih.apply event

namespace Follows

variable {tracker : Tracker} {events : List Event}

theorem isCancelled_iff (follows : Follows tracker events) (ticket : Nat) :
    tracker.isCancelled ticket = true ↔ CancelledDuring events ticket := by
  rw [isCancelled, List.contains_iff_mem, follows.cancelled]

theorem finish_of_not_live (follows : Follows tracker events) {query : LiveQuery}
    (dead : ¬ LiveAfter events query) :
    tracker.finish query.uri query.kind query.ticket = tracker := by
  have kept : tracker.live.filter (fun other => decide (other ≠ query)) = tracker.live := by
    apply List.filter_eq_self.2
    intro other member
    apply decide_eq_true
    rintro rfl
    exact dead ((follows.live other).1 member)
  rw [finish, kept]

/-- Live queries have different tickets, so counting the ones counts the others. -/
theorem pending_eq (follows : Follows tracker events) :
    tracker.pending = {ticket | ∃ query, LiveAfter events query ∧ query.ticket = ticket}.ncard := by
  have distinct : (tracker.live.map LiveQuery.ticket).Nodup := by
    apply follows.distinct.map_on
    intro query member other otherMember ticket
    exact ((follows.live query).1 member).eq_of_ticket ((follows.live other).1 otherMember) ticket
  have tickets : {ticket | ∃ query, LiveAfter events query ∧ query.ticket = ticket} =
      ((tracker.live.map LiveQuery.ticket).toFinset : Set Nat) := by
    ext ticket
    simp [follows.live]
  rw [tickets, Set.ncard_coe_finset, List.toFinset_card_of_nodup distinct, List.length_map, pending]

end Follows

/-- Behind every history the live queries are those that have begun and that nothing has ended
since, and the cancelled tickets those that were live when something cancelled them.  So no live
ticket is cancelled, the end of a query that is not live changes nothing, a document has at most
one live query of a kind, and the live tickets are as many as are pending. -/
theorem tickets_follow_history (events : List Event) :
    (∀ uri kind, ((after events).start uri kind).1 = begun events) ∧
    (∀ query, query ∈ (after events).live ↔ LiveAfter events query) ∧
    (∀ ticket, (after events).isCancelled ticket = true ↔ CancelledDuring events ticket) ∧
    (∀ query, LiveAfter events query → (after events).isCancelled query.ticket = false) ∧
    (∀ uri kind ticket, ¬ LiveAfter events ⟨uri, kind, ticket⟩ →
      (after events).finish uri kind ticket = after events) ∧
    (∀ first second, LiveAfter events first → LiveAfter events second →
      first.uri = second.uri → first.kind = second.kind → first = second) ∧
    (after events).pending =
      {ticket | ∃ query, LiveAfter events query ∧ query.ticket = ticket}.ncard := by
  have follows := follows_after events
  refine ⟨fun _ _ => follows.next, follows.live, follows.isCancelled_iff, ?_, ?_, ?_,
    follows.pending_eq⟩
  · intro query live
    rw [Bool.eq_false_iff, ne_eq, follows.isCancelled_iff]
    exact live.not_cancelledDuring
  · intro uri kind ticket dead
    exact follows.finish_of_not_live dead
  · intro first second live otherLive uri kind
    exact live.eq_of_key otherLive uri kind

/-- A query is superseded and cancelled, and then ends its course under its own and under another
document while its successor is live. -/
theorem tickets_follow_history_behind_late_finish :
    let uri : Uri := ⟨"file:///a.ejs"⟩
    let other : Uri := ⟨"file:///b.ejs"⟩
    let events : List Event := [.start uri .hover, .start other .hover, .start uri .hover,
      .cancelDocument other, .finish uri .hover 0, .finish other .hover 2]
    LiveAfter events ⟨uri, .hover, 2⟩ ∧ ¬ LiveAfter events ⟨uri, .hover, 0⟩ ∧
      CancelledDuring events 0 ∧ CancelledDuring events 1 ∧
      (after events).isCancelled 2 = false ∧
      (after events).finish uri .hover 0 = after events ∧
      {ticket | ∃ query, LiveAfter events query ∧ query.ticket = ticket}.ncard = 1 := by
  intro uri other events
  obtain ⟨_, live, cancelled, clean, unchanged, _, counted⟩ := tickets_follow_history events
  have newer : LiveAfter events ⟨uri, .hover, 2⟩ := (live _).1 (by decide +kernel)
  have older : ¬ LiveAfter events ⟨uri, .hover, 0⟩ := mt (live _).2 (by decide +kernel)
  exact ⟨newer, older, (cancelled 0).1 (by decide +kernel), (cancelled 1).1 (by decide +kernel),
    clean _ newer, unchanged _ _ _ older, counted.symm.trans (by decide +kernel)⟩

end Tracker

end TemplateNav
