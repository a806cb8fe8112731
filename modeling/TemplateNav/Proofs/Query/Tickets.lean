import TemplateNav.Query.Tracker

/-!
# Tickets

Tickets are given out in order, so a query that has just begun has a ticket that
nobody has cancelled.
-/

namespace TemplateNav

namespace Tracker

variable {tracker : Tracker}

/-- Every ticket in a tracker was given out before the next one. -/
structure Bounded (tracker : Tracker) : Prop where
  live : ∀ query ∈ tracker.live, query.ticket < tracker.nextTicket
  cancelled : ∀ ticket ∈ tracker.cancelled, ticket < tracker.nextTicket

theorem bounded_new : Bounded new where
  live := by simp [new]
  cancelled := by simp [new]

theorem Bounded.cancelWhere (bounded : Bounded tracker) (isHit : LiveQuery → Bool) :
    Bounded (tracker.cancelWhere isHit) where
  live := by
    intro query member
    exact bounded.live query (List.mem_filter.1 member).1
  cancelled := by
    intro ticket member
    rcases List.mem_append.1 member with before | hit
    · exact bounded.cancelled ticket before
    · obtain ⟨query, listed, rfl⟩ := List.mem_map.1 hit
      exact bounded.live query (List.mem_filter.1 listed).1

theorem Bounded.finish (bounded : Bounded tracker) (uri : Uri) (kind : QueryKind) (ticket : Nat) :
    Bounded (tracker.finish uri kind ticket) where
  live := by
    intro query member
    exact bounded.live query (List.mem_filter.1 member).1
  cancelled := bounded.cancelled

theorem Bounded.start (bounded : Bounded tracker) (uri : Uri) (kind : QueryKind) :
    Bounded (tracker.start uri kind).2 := by
  have superseded := bounded.cancelWhere fun query => query.uri = uri && query.kind = kind
  constructor
  · intro query member
    rcases List.mem_append.1 member with before | last
    · exact Nat.lt_succ_of_lt (superseded.live query before)
    · rw [List.mem_singleton.1 last]
      exact Nat.lt_succ_self _
  · intro ticket member
    exact Nat.lt_succ_of_lt (superseded.cancelled ticket member)

/-- A query that has just begun is not cancelled. -/
theorem Bounded.isCancelled_start (bounded : Bounded tracker) (uri : Uri) (kind : QueryKind) :
    (tracker.start uri kind).2.isCancelled (tracker.start uri kind).1 = false := by
  have superseded := bounded.cancelWhere fun query => query.uri = uri && query.kind = kind
  rw [isCancelled, List.contains_eq_mem, decide_eq_false_iff_not]
  intro member
  exact Nat.lt_irrefl _ (superseded.cancelled _ member)

end Tracker

end TemplateNav
