import TemplateNav.Proofs.Interleaving.Basic

/-!
# Answers of overlapping queries

A query answers from the text it has read as long as every revision of a document
that is still in use stands for one text.  A text is in use while its document is
open, while a query that has read it may still look for entries or store some, or
while a handler is going to write it.  An entry that is stored under a revision
then agrees with everybody who may find it.
-/

namespace TemplateNav

namespace Interleaving

namespace Thread

/-- The thread works on the text of a document, or is going to write it. -/
def Holds (thread : Thread) (uri : Uri) (revision : Int) (text : Text) : Prop :=
  thread.uri = uri ∧
    (thread.document? = some ⟨revision, text⟩ ∨ .write ⟨revision, text⟩ ∈ thread.remaining)

/-- The thread holds a text, and will not drop what is stored for it before. -/
def Trusts (thread : Thread) (drop : Option Effect) (uri : Uri) (revision : Int) (text : Text) :
    Prop :=
  thread.Holds uri revision text ∧ ∀ effect ∈ drop, effect ∉ thread.remaining

variable {thread next : Thread} {drop : Option Effect} {session : Session} {uri : Uri}
  {revision : Int} {text : Text}

/-- A document that is open behind an access was open before, or the thread wrote it. -/
theorem holds_advance (onCourse : thread.OnCourse)
    (drops : ∀ effect ∈ drop, effect ∈ Effect.dropping)
    (isOpen : (thread.advance session).session.Holds uri revision text) :
    session.Holds uri revision text ∨ thread.Trusts drop uri revision text := by
  have access := access_advance session thread
  generalize (thread.advance session).session = later at isOpen access
  cases access with
  | retained idle retains => exact .inl ((retains.document? uri).symm.trans isOpen)
  | storedFragments stage => exact .inl isOpen
  | storedSymbols stage => exact .inl isOpen
  | @effect effect rest remaining =>
    cases effect with
    | cancel => exact .inl isOpen
    | dropFragments => exact .inl isOpen
    | dropSymbols => exact .inl isOpen
    | write document =>
      by_cases same : uri = thread.uri
      · rw [same, Session.Holds, Effect.apply, Session.document?_putDocument_self] at isOpen
        obtain rfl := Option.some.inj isOpen
        refine .inr ⟨⟨same.symm, .inr (by simp [remaining])⟩, ?_⟩
        intro effect member
        have dropped := drops effect member
        rw [remaining, onCourse.eq_nil_of_write remaining, List.mem_singleton]
        rintro rfl
        simp [Effect.dropping] at dropped
      · rw [Session.Holds, Effect.apply, Session.document?_putDocument_of_ne session same] at isOpen
        exact .inl isOpen
    | forget =>
      by_cases same : uri = thread.uri
      · rw [same, Session.Holds, Effect.apply, Session.document?_dropDocument_self] at isOpen
        cases isOpen
      · have kept := Session.document?_dropDocument_of_ne session same
        exact .inl (kept.symm.trans isOpen)

/-- With an access, a thread comes to trust only in what was open or in what it held, of which it
has just dropped the entry. -/
theorem trusts_advance (member : next ∈ (thread.advance session).next)
    (trusts : next.Trusts drop uri revision text) :
    session.Holds uri revision text ∨ thread.Trusts drop uri revision text ∨
      uri = thread.uri ∧ ∃ effect ∈ drop, ∃ rest, thread.remaining = effect :: rest := by
  obtain ⟨⟨rfl, held⟩, undropped⟩ := trusts
  cases remaining : thread.remaining with
  | nil =>
    obtain ⟨sameUri, suffix, reads⟩ := next_of_nil remaining member
    -- Without effects left it can only have read what it holds.
    have unwritten : Effect.write ⟨revision, text⟩ ∉ next.remaining := by
      intro listed
      have dropped := suffix.subset listed
      simp [Effect.dropping] at dropped
    rcases reads _ (held.resolve_right unwritten) with own | found
    · exact .inr (.inl ⟨⟨sameUri.symm, .inl own⟩, by simp [remaining]⟩)
    · have isOpen : session.Holds thread.uri revision text := found
      exact .inl (sameUri ▸ isOpen)
  | cons effect rest =>
    obtain ⟨_, _, ⟨_, ended⟩ | ⟨follower, continued, sameUri, left, sameDocument⟩⟩ :=
      advance_of_cons remaining session
    · rw [ended] at member
      cases member
    · rw [continued] at member
      obtain rfl := Option.some.inj member
      by_cases now : effect ∈ drop
      · exact .inr (.inr ⟨sameUri, effect, now, rest, rfl⟩)
      · refine .inr (.inl ⟨⟨sameUri.symm, ?_⟩, ?_⟩)
        · rcases held with read | listed
          · exact .inl (sameDocument ▸ read)
          · exact .inr (remaining ▸ List.mem_cons_of_mem _ (left ▸ listed))
        · intro other dropped
          rw [remaining, List.mem_cons, not_or]
          refine ⟨?_, left ▸ undropped other dropped⟩
          rintro rfl
          exact now dropped

end Thread

/-- What a query has computed so far comes from a text. -/
def Stage.ComesFrom (text : Text) : Stage → Prop
  | parsed fragments => fragments = Fragment.extract text
  | missedSymbols fragments _ _ => fragments = Fragment.extract text
  | analyzed analysis => analysis = Analysis.ofText text
  | leaving analysis _ => analysis = Analysis.ofText text
  | _ => True

/-- What a query at work has computed so far comes from the text it has read. -/
def Thread.IsFaithful : Thread → Prop
  | .working task _ stage => stage.ComesFrom task.document.text
  | _ => True

theorem Thread.isFaithful_of_beginsWith {thread : Thread} {action : Action}
    (begins : thread.BeginsWith action) : thread.IsFaithful := by
  cases thread with
  | begun query ticket => exact trivial
  | handler uri effects => exact trivial
  | working task isAnswered stage => cases action <;> simp [BeginsWith] at begins

/-- The answer is that of the text that the query has read. -/
def Delivery.IsFresh (delivery : Delivery) : Prop :=
  delivery.answer = (Analysis.ofText delivery.task.document.text).answer?
    delivery.task.document.text delivery.task.query

namespace State

/-- A text is in use for a document and revision: the document is open with it, or a thread holds
it.  With a kind of entry to drop, only threads count that will not drop such an entry. -/
def Knows (state : State) (drop : Option Effect) (uri : Uri) (revision : Int) (text : Text) :
    Prop :=
  state.session.Holds uri revision text ∨
    ∃ thread ∈ state.threads, thread.Trusts drop uri revision text

/-- One text is in use for each revision of a document; entries and computations agree with it. -/
structure Fresh (state : State) : Prop where
  onCourse : ∀ thread ∈ state.threads, thread.OnCourse
  single : ∀ uri revision text other, state.Knows none uri revision text →
    state.Knows none uri revision other → text = other
  fragments : state.session.cache.fragments.AgreesOn Fragment.extract
    (state.Knows (some .dropFragments))
  symbols : state.session.cache.symbols.AgreesOn
    (fun text => Analysis.indexOf (Fragment.extract text)) (state.Knows (some .dropSymbols))
  faithful : ∀ thread ∈ state.threads, thread.IsFaithful
  delivered : ∀ delivery ∈ state.delivered, delivery.IsFresh

variable {state : State} {drop : Option Effect} {uri : Uri} {revision : Int} {text : Text}

theorem Knows.of_drop (known : state.Knows drop uri revision text) :
    state.Knows none uri revision text := by
  rcases known with isOpen | ⟨thread, member, held, _⟩
  · exact .inl isOpen
  · exact .inr ⟨thread, member, held, by simp⟩

/-- An access brings no text into use, except that entries just dropped may be stored again. -/
theorem knows_of_advance {left right : List Thread} {thread : Thread}
    (threads : state.threads = left ++ thread :: right) (onCourse : thread.OnCourse)
    (drops : ∀ effect ∈ drop, effect ∈ Effect.dropping)
    (known : (state.between left right (thread.advance state.session)).Knows drop uri revision
      text) :
    state.Knows drop uri revision text ∨
      uri = thread.uri ∧ ∃ effect ∈ drop, ∃ rest, thread.remaining = effect :: rest := by
  have own : thread ∈ state.threads := by simp [threads]
  rcases known with isOpen | ⟨other, member, trusts⟩
  · rcases Thread.holds_advance onCourse drops isOpen with before | wrote
    · exact .inl (.inl before)
    · exact .inl (.inr ⟨thread, own, wrote⟩)
  · simp only [between, List.mem_append, Option.mem_toList] at member
    rcases member with (before | next) | behind
    · exact .inl (.inr ⟨other, by simp [threads, before], trusts⟩)
    · rcases Thread.trusts_advance next trusts with isOpen | held | dropped
      · exact .inl (.inl isOpen)
      · exact .inl (.inr ⟨thread, own, held⟩)
      · exact .inr dropped
    · exact .inl (.inr ⟨other, by simp [threads, behind], trusts⟩)

/-- What a query has missed it stores for the one text that is in use. -/
theorem Fresh.eq_of_task (fresh : Fresh state) {task : Task} {isAnswered : Bool} {stage : Stage}
    (member : .working task isAnswered stage ∈ state.threads)
    (reads : (Thread.working task isAnswered stage).document? = some task.document)
    (known : state.Knows drop task.query.uri task.document.revision text) :
    text = task.document.text := by
  apply fresh.single _ _ _ _ known.of_drop
  exact .inr ⟨_, member, ⟨rfl, .inl reads⟩, by simp⟩

/-- A map goes on agreeing with the texts in use if the entry of whoever drops it is gone, and if
what is stored is right. -/
theorem agreesOn_advance {α : Type} {map after : RevisionMap α} {compute : Text → α}
    {effect : Effect} {left right : List Thread} {thread : Thread}
    (agrees : map.AgreesOn compute (state.Knows (some effect)))
    (threads : state.threads = left ++ thread :: right) (onCourse : thread.OnCourse)
    (drops : effect ∈ Effect.dropping)
    (gone : ∀ rest, thread.remaining = effect :: rest → after = map.erase thread.uri)
    (stored : map.Shrinks after ∨ ∃ entry capacity, after = (map.insert entry capacity).1 ∧
      ∀ text, state.Knows (some effect) entry.uri entry.revision text →
        entry.value = compute text) :
    after.AgreesOn compute
      ((state.between left right (thread.advance state.session)).Knows (some effect)) := by
  have dropped : ∀ other ∈ some effect, other ∈ Effect.dropping := by
    rintro other ⟨rfl⟩
    exact drops
  -- Whoever drops its entry begins to count for the map, but has no entry there by then.
  by_cases now : ∃ rest, thread.remaining = effect :: rest
  · obtain ⟨rest, remaining⟩ := now
    rw [gone rest remaining]
    apply agrees.erase_of_elsewhere
    intro other revision text different known
    rcases knows_of_advance threads onCourse dropped known with before | ⟨same, _⟩
    · exact before
    · exact absurd same different
  · have inUse : ∀ uri revision text,
        (state.between left right (thread.advance state.session)).Knows (some effect) uri revision
          text → state.Knows (some effect) uri revision text := by
      intro uri revision text known
      rcases knows_of_advance threads onCourse dropped known with before | ⟨_, other, ⟨rfl⟩, first⟩
      · exact before
      · exact absurd first now
    rcases stored with shrinks | ⟨entry, capacity, rfl, correct⟩
    · exact (agrees.of_known inUse).of_shrinks shrinks
    · apply (agrees.of_known inUse).insert
      intro text known
      exact correct text (inUse _ _ _ known)

variable {left right : List Thread} {thread : Thread}

theorem Fresh.fragments_advance (fresh : Fresh state)
    (threads : state.threads = left ++ thread :: right) :
    (thread.advance state.session).session.cache.fragments.AgreesOn Fragment.extract
      ((state.between left right (thread.advance state.session)).Knows (some .dropFragments)) := by
  have own : thread ∈ state.threads := by simp [threads]
  apply agreesOn_advance fresh.fragments threads (fresh.onCourse thread own) (by decide)
  · intro rest remaining
    rw [(Thread.advance_of_cons remaining state.session).1]
    rfl
  · rcases Thread.fragments_advance state.session thread with
      shrinks | ⟨task, isAnswered, now, limits, rfl, stored⟩
    · exact .inl shrinks
    · refine .inr ⟨_, _, stored, ?_⟩
      intro text known
      rw [fresh.eq_of_task own rfl known]
      rfl

theorem Fresh.symbols_advance (fresh : Fresh state)
    (threads : state.threads = left ++ thread :: right) :
    (thread.advance state.session).session.cache.symbols.AgreesOn
      (fun text => Analysis.indexOf (Fragment.extract text))
      ((state.between left right (thread.advance state.session)).Knows (some .dropSymbols)) := by
  have own : thread ∈ state.threads := by simp [threads]
  apply agreesOn_advance fresh.symbols threads (fresh.onCourse thread own) (by decide)
  · intro rest remaining
    rw [(Thread.advance_of_cons remaining state.session).1]
    rfl
  · rcases Thread.symbols_advance state.session thread with
      shrinks | ⟨task, isAnswered, fragments, now, limits, rfl, stored⟩
    · exact .inl shrinks
    · refine .inr ⟨_, _, stored, ?_⟩
      intro text known
      have computed : fragments = Fragment.extract task.document.text := fresh.faithful _ own
      rw [fresh.eq_of_task own rfl known, ← computed]
      rfl

/-- What a query finds or computes comes from the text it has read. -/
theorem Fresh.faithful_advance (fresh : Fresh state) (member : thread ∈ state.threads)
    {next : Thread} (follows : next ∈ (thread.advance state.session).next) : next.IsFaithful := by
  have faithful := fresh.faithful thread member
  cases thread with
  | begun query ticket =>
    simp only [Thread.advance] at follows
    split at follows
    · cases follows
    · obtain rfl := Option.some.inj follows
      exact trivial
  | handler uri effects =>
    rcases effects with _ | ⟨effect, _ | ⟨second, rest⟩⟩
    · cases follows
    · cases follows
    · obtain rfl := Option.some.inj follows
      exact trivial
  | working task isAnswered stage =>
    have known (drop : Effect) (idle : stage.remaining = [])
        (reads : (Thread.working task isAnswered stage).document? = some task.document) :
        state.Knows (some drop) task.query.uri task.document.revision task.document.text :=
      .inr ⟨_, member, ⟨rfl, .inl reads⟩, by simp [Thread.remaining, idle]⟩
    cases stage with
    | waiting =>
      simp only [Thread.advance, Stage.advance] at follows
      split at follows
      · cases follows
      · obtain rfl := Option.some.inj follows
        exact trivial
    | started =>
      obtain rfl := Option.some.inj follows
      cases found : state.session.cache.fragments.lookup task.query.uri task.document.revision
          state.session.clock state.session.cache.limits.timeToLive with
      | hit value =>
        simp only [Lookup.value?, Stage.behindFragments]
        exact fresh.fragments.lookup (known _ rfl rfl) found
      | miss => exact trivial
      | expired => exact trivial
    | missedFragments now limits =>
      obtain rfl := Option.some.inj follows
      rfl
    | parsed fragments =>
      obtain rfl : fragments = Fragment.extract task.document.text := faithful
      obtain rfl := Option.some.inj follows
      cases found : state.session.cache.symbols.lookup task.query.uri task.document.revision
          state.session.clock state.session.cache.limits.timeToLive with
      | hit value =>
        obtain rfl := fresh.symbols.lookup (known _ rfl rfl) found
        rfl
      | miss => rfl
      | expired => rfl
    | missedSymbols fragments now limits =>
      obtain rfl : fragments = Fragment.extract task.document.text := faithful
      obtain rfl := Option.some.inj follows
      rfl
    | analyzed analysis =>
      obtain rfl := Option.some.inj follows
      exact faithful
    | leaving analysis effects =>
      cases effects with
      | nil =>
        simp only [Thread.advance, Stage.advance] at follows
        split at follows
        · cases follows
        · cases follows
      | cons effect rest =>
        obtain rfl := Option.some.inj follows
        exact faithful

/-- A query delivers the answer of the text it has read. -/
theorem Fresh.delivered_advance (fresh : Fresh state) (member : thread ∈ state.threads)
    {delivery : Delivery} (delivers : delivery ∈ (thread.advance state.session).delivery) :
    delivery.IsFresh := by
  have faithful := fresh.faithful thread member
  cases remaining : thread.remaining with
  | cons effect rest =>
    rw [(Thread.advance_of_cons remaining state.session).2.1] at delivers
    cases delivers
  | nil =>
    cases thread with
    | begun query ticket =>
      simp only [Thread.advance] at delivers
      split at delivers
      · cases delivers
      · cases delivers
    | handler uri effects =>
      obtain rfl : effects = [] := remaining
      cases delivers
    | working task isAnswered stage =>
      cases stage with
      | waiting =>
        simp only [Thread.advance, Stage.advance] at delivers
        split at delivers
        · cases delivers
        · cases delivers
      | started => cases delivers
      | missedFragments now limits => cases delivers
      | parsed fragments => cases delivers
      | missedSymbols fragments now limits => cases delivers
      | analyzed analysis => cases delivers
      | leaving analysis effects =>
        obtain rfl : effects = [] := remaining
        obtain rfl : analysis = Analysis.ofText task.document.text := faithful
        simp only [Thread.advance, Stage.advance] at delivers
        split at delivers
        · cases delivers
        · obtain rfl := Option.some.inj delivers
          rfl

/-- A document may be opened or changed if no other text is in use for its revision. -/
def Admits (state : State) : Action → Prop
  | .openDocument uri document =>
    ∀ text, state.Knows none uri document.revision text → text = document.text
  | _ => True

/-- Every action of a run is admitted when it comes. -/
def AdmitsAll (state : State) : List Action → Prop
  | [] => True
  | action :: rest => state.Admits action ∧ (state.step action).AdmitsAll rest

/-- No revision of a document is given to two texts. -/
def NeverReuses (actions : List Action) : Prop :=
  ∀ uri revision text other, .openDocument uri ⟨revision, text⟩ ∈ actions →
    .openDocument uri ⟨revision, other⟩ ∈ actions → text = other

/-- A thread that begins holds nothing but the document it is going to write, and will drop the
entries for it first. -/
theorem eq_openDocument_of_beginsWith {action : Action} (begins : thread.BeginsWith action)
    (trusts : thread.Trusts drop uri revision text) :
    action = .openDocument uri ⟨revision, text⟩ ∧ ∀ effect ∈ drop, effect ∉ Effect.dropping := by
  obtain ⟨⟨rfl, held⟩, undropped⟩ := trusts
  cases action with
  | query query =>
    obtain ⟨ticket, rfl⟩ := begins
    simp [Thread.document?, Thread.remaining] at held
  | openDocument uri document =>
    obtain rfl := begins
    obtain rfl : ⟨revision, text⟩ = document := by
      simpa [Thread.document?, Thread.remaining, Effect.opening] using held
    refine ⟨rfl, ?_⟩
    intro effect member dropped
    apply undropped effect member
    simp only [Effect.dropping, List.mem_cons, List.not_mem_nil, or_false] at dropped
    rcases dropped with rfl | rfl
    · simp [Thread.remaining, Effect.opening]
    · simp [Thread.remaining, Effect.opening]
  | closeDocument uri =>
    obtain rfl := begins
    simp [Thread.document?, Thread.remaining, Effect.closing] at held
  | advance index => exact begins.elim
  | expire index => exact begins.elim
  | serve pause request => exact begins.elim
  | discard fragments symbols => exact begins.elim

theorem fresh_initial (readUri : UriReader) : Fresh (initial readUri) where
  onCourse := by simp [initial]
  single := by
    rintro uri revision text other (isOpen | ⟨thread, member, _⟩) _
    · cases isOpen
    · cases member
  fragments := by
    intro entry member
    cases member
  symbols := by
    intro entry member
    cases member
  faithful := by simp [initial]
  delivered := by simp [initial]

/-- A state stays fresh where nothing is stored and no text comes into use that entries could
contradict. -/
theorem Fresh.of_retains {session : Session} {threads : List Thread} (fresh : Fresh state)
    (retains : state.session.Retains session)
    (onCourse : ∀ thread ∈ threads, thread.OnCourse)
    (faithful : ∀ thread ∈ threads, thread.IsFaithful)
    (single : ∀ uri revision text other,
      Knows ⟨session, threads, state.delivered⟩ none uri revision text →
      Knows ⟨session, threads, state.delivered⟩ none uri revision other → text = other)
    (inUse : ∀ effect ∈ Effect.dropping, ∀ uri revision text,
      Knows ⟨session, threads, state.delivered⟩ (some effect) uri revision text →
      state.Knows (some effect) uri revision text) :
    Fresh ⟨session, threads, state.delivered⟩ where
  onCourse := onCourse
  single := single
  fragments := (fresh.fragments.of_known (inUse _ (by decide))).of_shrinks retains.fragments
  symbols := (fresh.symbols.of_known (inUse _ (by decide))).of_shrinks retains.symbols
  faithful := faithful
  delivered := fresh.delivered

theorem knows_of_aside {session : Session} (retains : state.session.Retains session)
    (known : Knows { state with session := session } drop uri revision text) :
    state.Knows drop uri revision text :=
  known.imp_left (retains.document? uri).symm.trans

theorem knows_of_begin {session : Session} {action : Action}
    (retains : state.session.Retains session) (begins : thread.BeginsWith action)
    (known : Knows ⟨session, state.threads ++ [thread], state.delivered⟩ drop uri revision text) :
    state.Knows drop uri revision text ∨
      action = .openDocument uri ⟨revision, text⟩ ∧ ∀ effect ∈ drop, effect ∉ Effect.dropping := by
  rcases known with isOpen | ⟨other, member, trusts⟩
  · exact .inl (.inl ((retains.document? uri).symm.trans isOpen))
  · rcases List.mem_append.1 member with old | new
    · exact .inl (.inr ⟨other, old, trusts⟩)
    · rw [List.mem_singleton.1 new] at trusts
      exact .inr (eq_openDocument_of_beginsWith begins trusts)

/-- A query that is answered before its work is done goes on as it was. -/
theorem exists_before_expire {task : Task} {stage : Stage} {other : Thread}
    (threads : state.threads = left ++ .working task false stage :: right)
    (member : other ∈ left ++ .working task true stage :: right) :
    ∃ old ∈ state.threads, old.uri = other.uri ∧ old.document? = other.document? ∧
      old.remaining = other.remaining ∧ (old.IsFaithful → other.IsFaithful) := by
  rw [List.mem_append, List.mem_cons] at member
  rcases member with first | rfl | last
  · exact ⟨other, by simp [threads, first], rfl, rfl, rfl, id⟩
  · exact ⟨.working task false stage, by simp [threads], rfl, rfl, rfl, id⟩
  · exact ⟨other, by simp [threads, last], rfl, rfl, rfl, id⟩

theorem knows_of_expire {session : Session} {task : Task} {stage : Stage}
    (threads : state.threads = left ++ .working task false stage :: right)
    (retains : state.session.Retains session)
    (known : Knows ⟨session, left ++ .working task true stage :: right, state.delivered⟩ drop uri
      revision text) : state.Knows drop uri revision text := by
  rcases known with isOpen | ⟨other, member, trusts⟩
  · exact .inl ((retains.document? uri).symm.trans isOpen)
  · obtain ⟨old, listed, sameUri, sameDocument, sameRemaining, _⟩ :=
      exists_before_expire threads member
    refine .inr ⟨old, listed, ?_⟩
    unfold Thread.Trusts Thread.Holds
    rw [sameUri, sameDocument, sameRemaining]
    exact trusts

/-- A text comes into use only when its document is opened or changed. -/
theorem knows_of_step (onCourse : ∀ thread ∈ state.threads, thread.OnCourse) {action : Action}
    (known : (state.step action).Knows none uri revision text) :
    state.Knows none uri revision text ∨ action = .openDocument uri ⟨revision, text⟩ := by
  have outcome := outcome_step state action
  generalize state.step action = after at outcome known
  cases outcome with
  | aside retains => exact .inl (knows_of_aside retains known)
  | begun retains begins => exact (knows_of_begin retains begins known).imp_right And.left
  | expired threads retains => exact .inl (knows_of_expire threads retains known)
  | @advanced left right thread threads =>
    have own : thread ∈ state.threads := by simp [threads]
    rcases knows_of_advance threads (onCourse thread own) (by simp) known with
      before | ⟨_, effect, member, _⟩
    · exact .inl before
    · cases member

theorem Fresh.begin {session : Session} {action : Action} (fresh : Fresh state)
    (retains : state.session.Retains session) (begins : thread.BeginsWith action)
    (admitted : state.Admits action) :
    Fresh ⟨session, state.threads ++ [thread], state.delivered⟩ := by
  apply fresh.of_retains retains
  · intro other member
    rcases List.mem_append.1 member with old | new
    · exact fresh.onCourse other old
    · rw [List.mem_singleton.1 new]
      exact Thread.onCourse_of_beginsWith begins
  · intro other member
    rcases List.mem_append.1 member with old | new
    · exact fresh.faithful other old
    · rw [List.mem_singleton.1 new]
      exact Thread.isFaithful_of_beginsWith begins
  · intro uri revision text other known otherKnown
    rcases knows_of_begin retains begins known with old | ⟨rfl, _⟩
    · rcases knows_of_begin retains begins otherKnown with otherOld | ⟨rfl, _⟩
      · exact fresh.single _ _ _ _ old otherOld
      · exact admitted text old
    · rcases knows_of_begin retains begins otherKnown with otherOld | ⟨same, _⟩
      · exact (admitted other otherOld).symm
      · simpa using same
  · intro effect dropped uri revision text known
    rcases knows_of_begin retains begins known with old | ⟨_, undropped⟩
    · exact old
    · exact absurd dropped (undropped effect rfl)

theorem Fresh.expire {session : Session} {task : Task} {stage : Stage} (fresh : Fresh state)
    (threads : state.threads = left ++ .working task false stage :: right)
    (retains : state.session.Retains session) :
    Fresh ⟨session, left ++ .working task true stage :: right, state.delivered⟩ := by
  apply fresh.of_retains retains
  · intro other member
    obtain ⟨old, listed, _, _, sameRemaining, _⟩ := exists_before_expire threads member
    exact (fresh.onCourse old listed).of_isSuffix (sameRemaining ▸ List.suffix_rfl)
  · intro other member
    obtain ⟨old, listed, _, _, _, kept⟩ := exists_before_expire threads member
    exact kept (fresh.faithful old listed)
  · intro uri revision text other known otherKnown
    exact fresh.single _ _ _ _ (knows_of_expire threads retains known)
      (knows_of_expire threads retains otherKnown)
  · intro effect _ uri revision text known
    exact knows_of_expire threads retains known

theorem Fresh.advance (fresh : Fresh state) (threads : state.threads = left ++ thread :: right) :
    Fresh (state.between left right (thread.advance state.session)) := by
  have own : thread ∈ state.threads := by simp [threads]
  have cases_of_mem (other : Thread)
      (member : other ∈ (state.between left right (thread.advance state.session)).threads) :
      other ∈ state.threads ∨ other ∈ (thread.advance state.session).next := by
    simp only [between, List.mem_append, Option.mem_toList] at member
    rcases member with (first | next) | last
    · exact .inl (by simp [threads, first])
    · exact .inr next
    · exact .inl (by simp [threads, last])
  refine ⟨?_, ?_, fresh.fragments_advance threads, fresh.symbols_advance threads, ?_, ?_⟩
  · intro other member
    rcases cases_of_mem other member with old | next
    · exact fresh.onCourse other old
    · exact (fresh.onCourse thread own).advance next
  · intro uri revision text other known otherKnown
    have inUse {text : Text} (known : (state.between left right
        (thread.advance state.session)).Knows none uri revision text) :
        state.Knows none uri revision text := by
      rcases knows_of_advance threads (fresh.onCourse thread own) (by simp) known with
        before | ⟨_, effect, member, _⟩
      · exact before
      · cases member
    exact fresh.single _ _ _ _ (inUse known) (inUse otherKnown)
  · intro other member
    rcases cases_of_mem other member with old | next
    · exact fresh.faithful other old
    · exact fresh.faithful_advance own next
  · intro delivery member
    rcases List.mem_append.1 member with old | new
    · exact fresh.delivered delivery old
    · exact fresh.delivered_advance own (Option.mem_toList.1 new)

/-- Every admitted action keeps a state fresh. -/
theorem fresh_step (fresh : Fresh state) {action : Action} (admitted : state.Admits action) :
    Fresh (state.step action) := by
  have outcome := outcome_step state action
  generalize state.step action = after at outcome
  cases outcome with
  | aside retains =>
    apply fresh.of_retains retains fresh.onCourse fresh.faithful
    · intro uri revision text other known otherKnown
      exact fresh.single _ _ _ _ (knows_of_aside retains known)
        (knows_of_aside retains otherKnown)
    · intro effect _ uri revision text known
      exact knows_of_aside retains known
  | begun retains begins => exact fresh.begin retains begins admitted
  | advanced threads => exact fresh.advance threads
  | expired threads retains => exact fresh.expire threads retains

theorem fresh_run (fresh : Fresh state) {actions : List Action}
    (admitted : state.AdmitsAll actions) : Fresh (state.run actions) := by
  induction actions generalizing state with
  | nil => exact fresh
  | cons action rest ih => exact ih (fresh_step fresh admitted.1) admitted.2

/-- Documents may be opened and changed freely as long as no revision is given to two texts. -/
theorem admitsAll_of_neverReuses {past actions : List Action} (fresh : Fresh state)
    (announced : ∀ uri revision text, state.Knows none uri revision text →
      .openDocument uri ⟨revision, text⟩ ∈ past)
    (neverReuses : NeverReuses (past ++ actions)) : state.AdmitsAll actions := by
  induction actions generalizing state past with
  | nil => exact trivial
  | cons action rest ih =>
    have admitted : state.Admits action := by
      cases action with
      | openDocument uri document =>
        intro text known
        have before := announced _ _ _ known
        exact neverReuses uri document.revision text document.text (by simp [before]) (by simp)
      | query query => exact trivial
      | closeDocument uri => exact trivial
      | advance index => exact trivial
      | expire index => exact trivial
      | serve pause request => exact trivial
      | discard fragments symbols => exact trivial
    have announcedNow : ∀ uri revision text, (state.step action).Knows none uri revision text →
        .openDocument uri ⟨revision, text⟩ ∈ past ++ [action] := by
      intro uri revision text known
      rcases knows_of_step fresh.onCourse known with old | rfl
      · exact List.mem_append_left _ (announced _ _ _ old)
      · simp
    refine ⟨admitted, ih (fresh_step fresh admitted) announcedNow ?_⟩
    rwa [List.append_assoc, List.singleton_append]

end State

end Interleaving

end TemplateNav
