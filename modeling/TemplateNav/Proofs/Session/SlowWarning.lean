import TemplateNav.Proofs.Latency.Window
import TemplateNav.Proofs.Session.Configuration

/-!
# When a client hears that navigation is slow

In a session that carries out one request after the other, every query about an open
document leaves one latency sample and nothing else leaves any.  The session remembers how
the last sample left the monitor, and its client is warned at a sample that leaves it slow
unless the one before did so too.  New thresholds change how the samples are judged, but
not what the session remembers.
-/

namespace TemplateNav

/-- The warning that navigation is slow. -/
def Message.isSlow : Message → Bool
  | .slow .. => true
  | _ => false

/-- The sample that a request leaves, as far as its client can tell: one for each query about an
open document, which takes no longer than its budget. -/
def Request.sample? (view : ClientView) : Request → Option Sample
  | .query asked cost _ => (view.text? asked.uri).map fun _ =>
      ⟨asked.kind.label, min cost view.settings.queryTimeout * 1000000⟩
  | _ => none

/-- The settings in a value, unless it is absent or cannot be read. -/
def Settings.given? : Json → Option Settings
  | .null => none
  | json => (decode json).toOption

/-- The settings that a request brings into force. -/
def Request.settings? : Request → Option Settings
  | .connect options => Settings.given? (options.getD .null)
  | .configure json => Settings.given? json
  | _ => none

/-- The monitor behind a request that leaves no sample. -/
def LatencyMonitor.reconfigured (monitor : LatencyMonitor) (settings : Option Settings) :
    LatencyMonitor :=
  settings.elim monitor fun settings => monitor.setThresholds settings.thresholds

/-- Every percentile of one sample is that sample. -/
theorem LatencyMonitor.percentile_singleton (thresholds : Thresholds) (sample : Sample)
    (percent : Float) : (mk thresholds [sample]).percentile percent = sample.millis := by
  have only (rank : Nat) : min (max rank 1) 1 - 1 = 0 := by omega
  simp only [percentile, List.map_cons, List.map_nil, List.mergeSort_singleton,
    List.length_singleton, only]
  rfl

/-- A run up to its last query that left a sample. -/
inductive LastSample : List (Nat × Request) → List (Nat × Request) → Prop where
  | here {history : List (Nat × Request)} {pause : Nat} {request : Request}
      (sampled : (request.sample? (ClientView.initial.after history)).isSome = true) :
      LastSample (history ++ [(pause, request)]) (history ++ [(pause, request)])
  | later {history upTo : List (Nat × Request)} {pause : Nat} {request : Request}
      (last : LastSample history upTo)
      (unsampled : request.sample? (ClientView.initial.after history) = none) :
      LastSample (history ++ [(pause, request)]) upTo

theorem lastSample_concat_iff {history upTo : List (Nat × Request)} {pause : Nat}
    {request : Request} :
    LastSample (history ++ [(pause, request)]) upTo ↔
      if (request.sample? (ClientView.initial.after history)).isSome then
        upTo = history ++ [(pause, request)]
      else LastSample history upTo := by
  constructor
  · intro last
    generalize whole : history ++ [(pause, request)] = run at last
    cases last with
    | here sampled =>
      obtain ⟨rfl, same⟩ := List.append_inj' whole rfl
      obtain ⟨rfl, rfl⟩ := Prod.mk.inj (List.singleton_inj.1 same)
      rw [if_pos sampled]
    | later last unsampled =>
      obtain ⟨rfl, same⟩ := List.append_inj' whole rfl
      obtain ⟨rfl, rfl⟩ := Prod.mk.inj (List.singleton_inj.1 same)
      rwa [unsampled, Option.isSome_none, if_neg Bool.false_ne_true]
  · split
    · next sampled =>
      rintro rfl
      exact .here sampled
    · next unsampled => exact fun last => .later last (by simpa using unsampled)

theorem not_lastSample_nil {upTo : List (Nat × Request)} : ¬ LastSample [] upTo := by
  intro last
  generalize whole : [] = run at last
  cases last with
  | here _ => simp at whole
  | later _ _ => simp at whole

namespace Session

/-- Neither the samples and thresholds nor what is remembered of them change. -/
structure Quiet (before after : Session) : Prop where
  latency : after.cache.latency = before.cache.latency
  isSlow : after.isSlow = before.isSlow

namespace Quiet

theorem refl (session : Session) : Quiet session session :=
  ⟨rfl, rfl⟩

theorem trans {first second third : Session} (left : Quiet first second)
    (right : Quiet second third) : Quiet first third :=
  ⟨right.latency.trans left.latency, right.isSlow.trans left.isSlow⟩

end Quiet

theorem quiet_elapse (session : Session) (duration : Nat) :
    Quiet session (session.elapse duration) :=
  ⟨(Sweeper.swept_all session.sweepers session.cache (session.clock + duration)).2, rfl⟩

theorem quiet_stopSweeper (session : Session) : Quiet session session.stopSweeper := by
  unfold stopSweeper
  split
  · exact .refl session
  · exact ⟨rfl, rfl⟩

theorem quiet_startSweeper (session : Session) : Quiet session session.startSweeper :=
  (quiet_stopSweeper session).trans ⟨rfl, rfl⟩

theorem quiet_perform (session : Session) (task : Task) :
    Quiet session (session.perform task).1 := by
  simp only [perform, dropIfClosed]
  split
  · exact ⟨rfl, rfl⟩
  · exact ⟨rfl, rfl⟩

theorem quiet_execute (session : Session) (command : String) (arguments : List Json) :
    Quiet session { session with
      cache := (session.cache.execute session.readUri command arguments).2 } := by
  rcases session.cache.execute_cases session.readUri command arguments with same | all | ⟨uri, one⟩
  · rw [same]
    exact .refl session
  · rw [all]
    exact ⟨rfl, rfl⟩
  · rw [one]
    exact ⟨rfl, rfl⟩

theorem quiet_changeDocument (session : Session) (uri : Uri) (revision : Int)
    (texts : List Text) : Quiet session (session.changeDocument uri revision texts) := by
  unfold changeDocument
  split
  · exact .refl session
  · exact ⟨rfl, rfl⟩

/-- One sample is added; the session remembers how it leaves the monitor, and warns of it if it is
slow then and was not before. -/
structure Samples (before : Session) (sample : Sample) (after : Session)
    (messages : List Message) : Prop where
  latency : after.cache.latency = before.cache.latency.record sample
  isSlow : after.isSlow = !after.cache.latency.isAcceptable
  warns : after.isSlow = true → before.isSlow = false → messages.filter Message.isSlow =
    [.slow after.cache.latency.average (after.cache.latency.percentile 95.0)]
  silent : after.isSlow = false ∨ before.isSlow = true → messages.filter Message.isSlow = []

namespace Samples

variable {before middle after : Session} {sample : Sample} {messages : List Message}

theorem of_quiet (quiet : Quiet before middle) (samples : Samples middle sample after messages) :
    Samples before sample after messages :=
  ⟨quiet.latency ▸ samples.latency, samples.isSlow, quiet.isSlow ▸ samples.warns,
    quiet.isSlow ▸ samples.silent⟩

theorem quiet (samples : Samples before sample middle messages) (quiet : Quiet middle after) :
    Samples before sample after messages := by
  obtain ⟨latency, isSlow, warns, silent⟩ := samples
  rw [← quiet.latency] at latency isSlow warns
  rw [← quiet.isSlow] at isSlow warns silent
  exact ⟨latency, isSlow, warns, silent⟩

theorem append (samples : Samples before sample after messages) {message : Message}
    (other : message.isSlow = false) : Samples before sample after (messages ++ [message]) := by
  have same : (messages ++ [message]).filter Message.isSlow = messages.filter Message.isSlow := by
    simp [List.filter_append, other]
  exact ⟨samples.latency, samples.isSlow, same ▸ samples.warns, same ▸ samples.silent⟩

end Samples

theorem samples_recordLatency (session : Session) (kind : QueryKind) (duration : Nat) :
    Samples session ⟨kind.label, duration * 1000000⟩ (session.recordLatency kind duration).1
      (session.recordLatency kind duration).2 := by
  refine ⟨rfl, rfl, fun becomes fast => ?_, fun stays => ?_⟩
  · have edge : ((session.recordLatency kind duration).1.isSlow && !session.isSlow) = true := by
      rw [becomes, fast]
      rfl
    exact congrArg (List.filter Message.isSlow) (if_pos edge)
  · have level : ¬ ((session.recordLatency kind duration).1.isSlow && !session.isSlow) = true := by
      rcases stays with same | same <;> simp [same]
    exact congrArg (List.filter Message.isSlow) (if_neg level)

/-- A query that is not cancelled ends with a sample of the time since it started. -/
theorem samples_settle (session : Session) (task : Task) {outcome : Outcome}
    (ran : outcome ≠ .cancelled) :
    Samples session ⟨task.query.kind.label, (session.clock - task.startedAt) * 1000000⟩
      (session.settle task outcome).1 (session.settle task outcome).2.messages := by
  have ended : Quiet session { session with
      tracker := session.tracker.finish task.query.uri task.query.kind task.ticket } := ⟨rfl, rfl⟩
  have sampled := (samples_recordLatency { session with
      tracker := session.tracker.finish task.query.uri task.query.kind task.ticket }
    task.query.kind (session.clock - task.startedAt)).of_quiet ended
  cases outcome with
  | cancelled => exact absurd rfl ran
  | finished answer => exact sampled
  | overBudget => exact sampled.append rfl
  | failed fault => exact sampled.append rfl

theorem clock_perform (session : Session) (task : Task) :
    (session.perform task).1.clock = session.clock := by
  simp only [perform, dropIfClosed]
  split
  · rfl
  · rfl

/-- A query that starts now takes as long as its work, or as its budget. -/
theorem samples_runTask (session : Session) (task : Task) (now : task.startedAt = session.clock)
    (cost : Nat) (fault : Option String) :
    Samples session ⟨task.query.kind.label, min cost task.budget * 1000000⟩
      (session.runTask task cost fault).1 (session.runTask task cost fault).2.messages := by
  unfold runTask
  by_cases late : task.budget < cost
  · have ran : Outcome.overBudget ≠ .cancelled := nofun
    have sampled := (samples_settle (session.elapse task.budget) task ran).of_quiet
      (quiet_elapse session task.budget)
    have duration : (session.elapse task.budget).clock - task.startedAt = min cost task.budget := by
      have moved : (session.elapse task.budget).clock = session.clock + task.budget := rfl
      omega
    rw [duration] at sampled
    have worked := sampled.quiet (quiet_elapse _ (cost - task.budget))
    rw [if_pos late]
    cases fault with
    | some fault => exact worked
    | none => exact worked.quiet (quiet_perform _ task)
  · have duration : (session.elapse cost).clock - task.startedAt = min cost task.budget := by
      have moved : (session.elapse cost).clock = session.clock + cost := rfl
      omega
    rw [if_neg late]
    cases fault with
    | some fault =>
      have ran : Outcome.failed fault ≠ .cancelled := nofun
      have sampled := samples_settle (session.elapse cost) task ran
      rw [duration] at sampled
      exact sampled.of_quiet (quiet_elapse session cost)
    | none =>
      have ran : Outcome.finished ((session.elapse cost).perform task).2 ≠ .cancelled := nofun
      have sampled := samples_settle ((session.elapse cost).perform task).1 task ran
      rw [clock_perform, duration] at sampled
      exact sampled.of_quiet ((quiet_elapse session cost).trans (quiet_perform _ task))

theorem samples_runQuery {session : Session} {query : Query} {document : Document}
    (isOpen : session.document? query.uri = some document) (cost : Nat) (fault : Option String) :
    Samples session ⟨query.kind.label, min cost session.settings.queryTimeout * 1000000⟩
      (session.runQuery query cost fault).1 (session.runQuery query cost fault).2.messages := by
  let begun := { session with tracker := (session.tracker.start query.uri query.kind).2 }
  have quiet : Quiet session begun := ⟨rfl, rfl⟩
  have sampled := samples_runTask begun ⟨query, (session.tracker.start query.uri query.kind).1,
    document, session.clock, session.settings.queryTimeout⟩ rfl cost fault
  simp only [runQuery, accept, isOpen]
  exact sampled.of_quiet quiet

/-- No sample is added, and nothing is said of how slow navigation is; settings that are taken
apply to the monitor, but not to what is remembered of it. -/
structure Unsampled (before : Session) (settings : Option Settings) (after : Session)
    (messages : List Message) : Prop where
  latency : after.cache.latency = before.cache.latency.reconfigured settings
  isSlow : after.isSlow = before.isSlow
  silent : messages.filter Message.isSlow = []

theorem unsampled_applySettings (session : Session) (json : Json) :
    Unsampled session (Settings.given? json) (session.applySettings json).1
      (session.applySettings json).2 := by
  by_cases absent : json = .null
  · rw [absent]
    exact ⟨rfl, rfl, rfl⟩
  · simp only [applySettings, Settings.given?]
    cases Settings.decode json with
    | ok settings => exact ⟨rfl, rfl, rfl⟩
    | error error => exact ⟨rfl, rfl, rfl⟩

section Step

variable {session : Session} {view : ClientView} {request : Request}

theorem samples_step (reflects : Reflects session view) {sample : Sample}
    (sampled : request.sample? view = some sample) :
    Samples session sample (session.step request).1 (session.step request).2.messages := by
  cases request with
  | query query cost fault =>
    obtain ⟨text, given, rfl⟩ := Option.map_eq_some_iff.1 sampled
    rw [← reflects.texts query.uri] at given
    obtain ⟨document, isOpen, _⟩ := Option.map_eq_some_iff.1 given
    rw [← reflects.settings]
    exact samples_runQuery isOpen cost fault
  | _ => cases sampled

theorem unsampled_step (reflects : Reflects session view) (sequential : request.IsSequential)
    (unsampled : request.sample? view = none) :
    Unsampled session request.settings? (session.step request).1
      (session.step request).2.messages := by
  cases request with
  | connect options => exact unsampled_applySettings session (options.getD .null)
  | ready =>
    have started := quiet_startSweeper session
    exact ⟨started.latency, started.isSlow, rfl⟩
  | shutdown =>
    have stopped := quiet_stopSweeper session
    exact ⟨stopped.latency, stopped.isSlow, rfl⟩
  | configure settings =>
    have applied := unsampled_applySettings session settings
    simp only [step, configure]
    split
    · have started := quiet_startSweeper (session.applySettings settings).1
      exact ⟨started.latency.trans applied.latency, started.isSlow.trans applied.isSlow,
        applied.silent⟩
    · exact applied
  | openDocument uri document => exact ⟨rfl, rfl, rfl⟩
  | changeDocument uri revision texts =>
    have changed := quiet_changeDocument session uri revision texts
    exact ⟨changed.latency, changed.isSlow, rfl⟩
  | closeDocument uri => exact ⟨rfl, rfl, rfl⟩
  | command name arguments =>
    have executed := quiet_execute session name arguments
    exact ⟨executed.latency, executed.isSlow, rfl⟩
  | query query cost fault =>
    have closed : session.document? query.uri = none := by
      have unknown := Option.map_eq_none_iff.1 unsampled
      rwa [← reflects.texts query.uri, Option.map_eq_none_iff] at unknown
    simp only [step, runQuery, accept, closed]
    exact ⟨rfl, rfl, rfl⟩
  | start id query => exact sequential.elim
  | wait duration =>
    -- Nothing is at the worker, so nobody is over time and nothing is left to run.
    have waited := quiet_elapse session duration
    have idle : (session.elapse duration).backlog = [] := reflects.idle
    simp only [step, expireOverdue, idle, List.filter_nil, List.map_nil, settleAll]
    exact ⟨waited.latency, waited.isSlow, rfl⟩
  | release =>
    simp only [step, release, reflects.idle, runJobs, List.filter_nil, settleAll]
    exact ⟨rfl, rfl, rfl⟩

end Step

/-- No query of a run left a sample, or the last one that did left the monitor acceptable. -/
def WasFast (readUri : UriReader) (history : List (Nat × Request)) : Prop :=
  (∀ upTo, ¬ LastSample history upTo) ∨
    ∃ upTo, LastSample history upTo ∧ ((new readUri).after upTo).cache.latency.isAcceptable = true

section WasFast

variable {readUri : UriReader} {history : List (Nat × Request)} {pause : Nat} {request : Request}

theorem wasFast_nil : WasFast readUri [] :=
  .inl fun _ => not_lastSample_nil

theorem wasFast_concat_of_sampled {sample : Sample}
    (sampled : request.sample? (ClientView.initial.after history) = some sample) :
    WasFast readUri (history ++ [(pause, request)]) ↔
      ((new readUri).after (history ++ [(pause, request)])).cache.latency.isAcceptable = true := by
  have last (upTo : List (Nat × Request)) : LastSample (history ++ [(pause, request)]) upTo ↔
      upTo = history ++ [(pause, request)] := by
    rw [lastSample_concat_iff, sampled, Option.isSome_some, if_pos rfl]
  simp [WasFast, last]

theorem wasFast_concat_of_unsampled
    (unsampled : request.sample? (ClientView.initial.after history) = none) :
    WasFast readUri (history ++ [(pause, request)]) ↔ WasFast readUri history := by
  simp [WasFast, lastSample_concat_iff, unsampled]

end WasFast

theorem after_concat (session : Session) (history : List (Nat × Request)) (pause : Nat)
    (request : Request) : session.after (history ++ [(pause, request)]) =
      ((session.after history).handle pause request).1 :=
  List.foldl_append

/-- The session remembers how the last sample of a run left the monitor: a request leaves it with
the memory of its own sample, or with that of an earlier one. -/
theorem isSlow_eq_false_iff (readUri : UriReader) {history : List (Nat × Request)}
    (sequential : ∀ entry ∈ history, entry.2.IsSequential) :
    ((new readUri).after history).isSlow = false ↔ WasFast readUri history := by
  induction history using List.reverseRecOn with
  | nil => exact iff_of_true rfl wasFast_nil
  | append_singleton history entry ih =>
    obtain ⟨pause, request⟩ := entry
    obtain ⟨earlier, last⟩ := List.forall_mem_append.1 sequential
    have next : request.IsSequential := last _ (List.mem_singleton_self _)
    have elapsed := quiet_elapse ((new readUri).after history) pause
    have current := (reflects_after (Reflects.initial readUri) earlier).of_keeps
      (keeps_elapse ((new readUri).after history) pause)
    cases taken : request.sample? (ClientView.initial.after history) with
    | some sample =>
      have sampled := samples_step current taken
      rw [wasFast_concat_of_sampled taken, after_concat, handle, sampled.isSlow,
        Bool.not_eq_false']
    | none =>
      have unsampled := unsampled_step current next taken
      rw [wasFast_concat_of_unsampled taken, ← ih earlier, after_concat, handle,
        unsampled.isSlow, elapsed.isSlow]

/-- **A client is warned when navigation becomes slow.** In a run of requests carried out one after
the other, a query about an open document adds one sample of its kind to the samples in the window,
and the client is warned of it exactly if the monitor is not acceptable then, but was behind the
last sample before or there was none.  Any other request adds no sample and sends no warning; it
leaves the monitor as it is, unless it brings settings, whose thresholds hold then and whose window
may drop samples. -/
theorem warned_when_navigation_becomes_slow (readUri : UriReader)
    {history : List (Nat × Request)} (sequential : ∀ entry ∈ history, entry.2.IsSequential)
    (pause : Nat) (request : Request) (next : request.IsSequential) :
    let before := ((new readUri).after history).cache.latency
    let handled := ((new readUri).after history).handle pause request
    let after := handled.1.cache.latency
    let warnings := handled.2.messages.filter Message.isSlow
    match request.sample? (ClientView.initial.after history) with
    | some sample =>
      after.thresholds = before.thresholds ∧
      after.samples = (before.samples ++ [sample]).rtake (max 1 before.thresholds.window) ∧
      (after.isAcceptable = false ∧ WasFast readUri history →
        warnings = [.slow after.average (after.percentile 95.0)]) ∧
      (¬ (after.isAcceptable = false ∧ WasFast readUri history) → warnings = [])
    | none =>
      warnings = [] ∧
      match request.settings? with
      | some settings =>
        after.thresholds = settings.thresholds ∧
        after.samples = before.samples.rtake (max 1 settings.thresholds.window)
      | none => after = before := by
  intro before handled after warnings
  have elapsed := quiet_elapse ((new readUri).after history) pause
  have current := (reflects_after (Reflects.initial readUri) sequential).of_keeps
    (keeps_elapse ((new readUri).after history) pause)
  have remembered := isSlow_eq_false_iff readUri sequential
  cases taken : request.sample? (ClientView.initial.after history) with
  | some sample =>
    have sampled := (samples_step current taken).of_quiet elapsed
    have recorded : after = before.record sample := sampled.latency
    refine ⟨?_, ?_, ?_, fun level => sampled.silent ?_⟩
    · rw [recorded]
      rfl
    · rw [recorded, LatencyMonitor.samples_record]
    · rintro ⟨slow, fast⟩
      refine sampled.warns ?_ (remembered.2 fast)
      rw [sampled.isSlow, Bool.not_eq_true']
      exact slow
    · rw [sampled.isSlow, Bool.not_eq_false',
        ← Bool.not_eq_false ((new readUri).after history).isSlow, remembered, ← Bool.not_eq_false]
      exact Classical.not_and_iff_not_or_not.1 level
  | none =>
    have unsampled := unsampled_step current next taken
    have latency := unsampled.latency
    rw [elapsed.latency] at latency
    have changed : after = before.reconfigured request.settings? := latency
    refine ⟨unsampled.silent, ?_⟩
    cases brought : request.settings? with
    | none => rw [changed, brought, LatencyMonitor.reconfigured, Option.elim_none]
    | some settings =>
      rw [changed, brought, LatencyMonitor.reconfigured, Option.elim_some]
      exact ⟨rfl, LatencyMonitor.samples_setThresholds before settings.thresholds⟩

/-- Two queries about an open document, both over their budget: each leaves a sample with the time
of its budget, and the client is warned of the first one only.  A query about another document
leaves no sample. -/
theorem warned_when_navigation_becomes_slow_at_first :
    let uri : Uri := ⟨"file:///a.ejs"⟩
    let opened : List (Nat × Request) := [(1, .openDocument uri ⟨1, []⟩)]
    let late : Request := .query ⟨.hover, uri, ⟨0, 0⟩⟩ 900 none
    let unknown : Request := .query ⟨.hover, ⟨"file:///b.ejs"⟩, ⟨0, 0⟩⟩ 2 none
    let sample : Sample := ⟨"hover", 500000000⟩
    let first := ((new Uri.read).after opened).handle 1 late
    let second := ((new Uri.read).after (opened ++ [(1, late)])).handle 1 late
    let other := ((new Uri.read).after opened).handle 1 unknown
    first.1.cache.latency.samples = [sample] ∧
      first.2.messages.filter Message.isSlow = [.slow 500.0 500.0] ∧
      second.1.cache.latency.samples = [sample, sample] ∧
      second.2.messages.filter Message.isSlow = [] ∧
      other.1.cache.latency.samples = [] ∧ other.2.messages.filter Message.isSlow = [] := by
  intro uri opened late unknown sample first second other
  have sequential : ∀ entry ∈ opened, entry.2.IsSequential := by
    simp [opened, Request.IsSequential]
  have sequentialAgain : ∀ entry ∈ opened ++ [(1, late)], entry.2.IsSequential := by
    simp [opened, late, Request.IsSequential]
  have sampled : late.sample? (ClientView.initial.after opened) = some sample := by decide
  have sampledAgain :
      late.sample? (ClientView.initial.after (opened ++ [(1, late)])) = some sample := by decide
  have unsampled : unknown.sample? (ClientView.initial.after opened) = none := by decide
  have unset : unknown.settings? = none := rfl
  have firstQuery := warned_when_navigation_becomes_slow Uri.read sequential 1 late trivial
  have secondQuery := warned_when_navigation_becomes_slow Uri.read sequentialAgain 1 late trivial
  have otherQuery := warned_when_navigation_becomes_slow Uri.read sequential 1 unknown trivial
  simp only [sampled] at firstQuery
  simp only [sampledAgain] at secondQuery
  simp only [unsampled, unset] at otherQuery
  obtain ⟨thresholds, recorded, warned, _⟩ := firstQuery
  obtain ⟨_, recordedAgain, _, silent⟩ := secondQuery
  have monitor : first.1.cache.latency = ⟨.standard, [sample]⟩ := by
    change LatencyMonitor.mk first.1.cache.latency.thresholds first.1.cache.latency.samples = _
    rw [thresholds, recorded]
    rfl
  have slow : first.1.cache.latency.isAcceptable = false := by
    rw [monitor]
    decide +kernel
  have fast : WasFast Uri.read ([] ++ opened) := (wasFast_concat_of_unsampled rfl).2 wasFast_nil
  have notFast : ¬ WasFast Uri.read (opened ++ [(1, late)]) := by
    rw [wasFast_concat_of_sampled sampled, after_concat, Bool.not_eq_true]
    exact slow
  have average : first.1.cache.latency.average = 500.0 := by
    rw [monitor]
    decide +kernel
  have percentile : first.1.cache.latency.percentile 95.0 = 500.0 := by
    rw [monitor, LatencyMonitor.percentile_singleton]
    decide +kernel
  refine ⟨recorded, ?_, ?_, silent fun edge => notFast edge.2, ?_, otherQuery.1⟩
  · rw [warned ⟨slow, fast⟩, average, percentile]
  · have before : ((new Uri.read).after (opened ++ [(1, late)])).cache.latency =
        first.1.cache.latency := by
      rw [after_concat]
    rw [recordedAgain, before, monitor]
    rfl
  · rw [otherQuery.2]
    rfl

end Session

end TemplateNav
