import TemplateNav.Proofs.Session.Freshness

/-!
# Settings in force

One setting is kept in several places: in the settings of a session, in the limits
and thresholds of its cache, and in the interval of a sweeper that runs.  Along
every run that begins with its only connection these agree: whatever the client
configures, and however often it starts and shuts down, at most one sweeper runs,
and at the interval that the cache has now.

Most requests spare all of this.  What is left is to see how settings are taken
over, and how a sweeper takes the place of another.
-/

namespace TemplateNav

/-- A request that connects a client. -/
def Request.IsConnect : Request → Prop
  | .connect _ => True
  | _ => False

/-- A request about documents, queries or the cache, and about no settings or sweepers. -/
def Request.IsOrdinary : Request → Prop
  | .connect _ | .ready | .shutdown | .configure _ => False
  | _ => True

namespace Settings

theorem one_le_capacity (settings : Settings) : 1 ≤ settings.cacheLimits.capacity :=
  Nat.le_max_right _ _

theorem one_le_window (settings : Settings) : 1 ≤ settings.thresholds.window :=
  Nat.le_max_right _ _

theorem one_second_le_sweepInterval (settings : Settings) :
    1000 ≤ settings.cacheLimits.sweepInterval :=
  Nat.le_mul_of_pos_left 1000 (Nat.le_max_right _ _)

theorem one_le_queryTimeout (settings : Settings) : 1 ≤ settings.queryTimeout :=
  Nat.le_max_right _ _

end Settings

namespace Sweeper

@[simp] theorem isCancelled_passed (sweeper : Sweeper) (now : Nat) :
    (sweeper.passed now).isCancelled = sweeper.isCancelled := by
  unfold passed
  split
  · rfl
  · rfl

@[simp] theorem interval_passed (sweeper : Sweeper) (now : Nat) :
    (sweeper.passed now).interval = sweeper.interval := by
  unfold passed
  split
  · rfl
  · rfl

/-- A sweep leaves limits and latency alone. -/
theorem swept_all (sweepers : List Sweeper) (cache : Cache) (now : Nat) :
    let after := sweepers.foldl (fun cache sweeper => sweeper.swept cache now) cache
    after.limits = cache.limits ∧ after.latency = cache.latency := by
  induction sweepers generalizing cache with
  | nil => exact ⟨rfl, rfl⟩
  | cons sweeper others ih =>
    have first : (sweeper.swept cache now).limits = cache.limits ∧
        (sweeper.swept cache now).latency = cache.latency := by
      unfold swept
      split
      · exact ⟨rfl, rfl⟩
      · exact ⟨rfl, rfl⟩
    exact ⟨(ih _).1.trans first.1, (ih _).2.trans first.2⟩

/-- The sweepers that run, given the number of the one to be cancelled: none, or only this one,
which was started last and keeps the interval. -/
inductive Attended (interval : Nat) : List Sweeper → Option Nat → Prop where
  | idle {ended : List Sweeper} (stopped : ∀ sweeper ∈ ended, sweeper.isCancelled = true) :
      Attended interval ended none
  | running {ended : List Sweeper} {last : Sweeper}
      (stopped : ∀ sweeper ∈ ended, sweeper.isCancelled = true) (runs : last.isCancelled = false)
      (paced : last.interval = interval) : Attended interval (ended ++ [last]) (some ended.length)

namespace Attended

variable {interval : Nat} {sweepers : List Sweeper} {number : Option Nat}

theorem passed (attended : Attended interval sweepers number) (now : Nat) :
    Attended interval (sweepers.map fun sweeper => sweeper.passed now) number := by
  cases attended with
  | idle stopped => exact .idle (by simpa using stopped)
  | @running ended last stopped runs paced =>
    rw [List.map_append, ← List.length_map fun sweeper : Sweeper => sweeper.passed now]
    refine .running ?_ (by simpa using runs) (by simpa using paced)
    simpa using stopped

theorem stopped (attended : Attended interval sweepers none) :
    ∀ sweeper ∈ sweepers, sweeper.isCancelled = true := by
  cases attended with
  | idle stopped => exact stopped

/-- To cancel the sweeper with this number is to cancel all that run. -/
theorem cancel {last : Nat} (attended : Attended interval sweepers (some last)) :
    ∀ sweeper ∈ sweepers.modify last cancelled, sweeper.isCancelled = true := by
  cases attended with
  | @running ended sweeper stopped runs paced =>
    have replaced : (ended ++ [sweeper]).modify ended.length Sweeper.cancelled =
        ended ++ [sweeper.cancelled] := by
      rw [List.modify_eq_take_drop, List.take_left, List.drop_left]
      rfl
    rw [replaced]
    exact List.forall_mem_append.2 ⟨stopped, List.forall_mem_singleton.2 rfl⟩

end Attended

end Sweeper

namespace Session

/-- The sweepers that are not cancelled. -/
def running (session : Session) : List Sweeper :=
  session.sweepers.filter fun sweeper => !sweeper.isCancelled

/-- What settings reach in a session, and its sweepers. -/
structure Regime where
  settings : Settings
  limits : CacheLimits
  thresholds : Thresholds
  sweepers : List Sweeper
  sweeper : Option Nat

/-- What the settings of a session reach now. -/
def regime (session : Session) : Regime where
  settings := session.settings
  limits := session.cache.limits
  thresholds := session.cache.latency.thresholds
  sweepers := session.sweepers
  sweeper := session.sweeper

/-- Neither settings nor what follows from them change, and the same sweeper runs. -/
structure Spares (before after : Session) : Prop where
  settings : after.settings = before.settings
  limits : after.cache.limits = before.cache.limits
  thresholds : after.cache.latency.thresholds = before.cache.latency.thresholds
  sweeper : after.sweeper = before.sweeper
  attended : ∀ interval, Sweeper.Attended interval before.sweepers before.sweeper →
    Sweeper.Attended interval after.sweepers after.sweeper

namespace Spares

theorem of_same {before after : Session} (same : after.regime = before.regime) :
    Spares before after := by
  have sweepers : after.sweepers = before.sweepers := congrArg Regime.sweepers same
  have sweeper : after.sweeper = before.sweeper := congrArg Regime.sweeper same
  refine ⟨congrArg Regime.settings same, congrArg Regime.limits same,
    congrArg Regime.thresholds same, sweeper, fun interval attended => ?_⟩
  rwa [sweepers, sweeper]

theorem refl (session : Session) : Spares session session :=
  .of_same rfl

theorem trans {first second third : Session} (left : Spares first second)
    (right : Spares second third) : Spares first third where
  settings := right.settings.trans left.settings
  limits := right.limits.trans left.limits
  thresholds := right.thresholds.trans left.thresholds
  sweeper := right.sweeper.trans left.sweeper
  attended := fun interval attended => right.attended interval (left.attended interval attended)

end Spares

theorem spares_elapse (session : Session) (duration : Nat) :
    Spares session (session.elapse duration) := by
  have swept := Sweeper.swept_all session.sweepers session.cache (session.clock + duration)
  exact ⟨rfl, swept.1, congrArg LatencyMonitor.thresholds swept.2, rfl,
    fun _ attended => attended.passed _⟩

theorem spares_settle (session : Session) (task : Task) (outcome : Outcome) :
    Spares session (session.settle task outcome).1 := by
  cases outcome with
  | cancelled => exact .of_same rfl
  | finished answer => exact .of_same rfl
  | overBudget => exact .of_same rfl
  | failed fault => exact .of_same rfl

theorem spares_settleAll (session : Session) (outcomes : List (Job × Outcome)) :
    Spares session (session.settleAll outcomes).1 := by
  induction outcomes generalizing session with
  | nil => exact .refl session
  | cons outcome rest ih => exact (spares_settle session outcome.1.task outcome.2).trans (ih _)

theorem spares_perform (session : Session) (task : Task) :
    Spares session (session.perform task).1 := by
  simp only [perform, dropIfClosed]
  split
  · exact .of_same rfl
  · exact .of_same rfl

theorem spares_runTask (session : Session) (task : Task) (cost : Nat) (fault : Option String) :
    Spares session (session.runTask task cost fault).1 := by
  unfold runTask
  split
  · have expired := (spares_elapse session task.budget).trans (spares_settle _ task .overBudget)
    have worked := expired.trans (spares_elapse _ (cost - task.budget))
    cases fault with
    | some fault => exact worked
    | none => exact worked.trans (spares_perform _ task)
  · have waited := spares_elapse session cost
    cases fault with
    | some fault => exact waited.trans (spares_settle _ task _)
    | none => exact (waited.trans (spares_perform _ task)).trans (spares_settle _ task _)

theorem spares_accept (session : Session) (query : Query) :
    Spares session (session.accept query).1 := by
  unfold accept
  cases session.document? query.uri with
  | none => exact .of_same rfl
  | some document => exact .of_same rfl

theorem spares_runQuery (session : Session) (query : Query) (cost : Nat) (fault : Option String) :
    Spares session (session.runQuery query cost fault).1 := by
  have accepted := spares_accept session query
  unfold runQuery
  split
  · next found => rwa [found] at accepted
  · next found =>
    rw [found] at accepted
    exact accepted.trans (spares_runTask _ _ cost fault)

theorem spares_enqueue (session : Session) (id : Int) (query : Query) :
    Spares session (session.enqueue id query).1 := by
  have accepted := spares_accept session query
  unfold enqueue
  split
  · next found => rwa [found] at accepted
  · next found =>
    rw [found] at accepted
    exact accepted.trans (.of_same rfl)

theorem spares_expireOverdue (session : Session) : Spares session session.expireOverdue.1 := by
  have marked : Spares session { session with
      backlog := session.backlog.map fun job =>
        if session.isOverdue job then { job with isAnswered := true } else job } :=
    .of_same rfl
  exact marked.trans (spares_settleAll _ _)

theorem spares_runJobs (session : Session) (isRunning : Bool) (jobs : List Job) :
    Spares session (session.runJobs isRunning jobs).1 := by
  induction jobs generalizing session isRunning with
  | nil => exact .refl session
  | cons job rest ih =>
    unfold runJobs
    split
    · exact ih session false
    · exact (spares_perform session job.task).trans (ih _ false)

theorem spares_release (session : Session) : Spares session session.release.1 := by
  have ran := spares_runJobs session true session.backlog
  have emptied : Spares session { (session.runJobs true session.backlog).1 with backlog := [] } :=
    ran.trans (.of_same rfl)
  exact emptied.trans (spares_settleAll _ _)

theorem spares_execute (session : Session) (command : String) (arguments : List Json) :
    Spares session { session with
      cache := (session.cache.execute session.readUri command arguments).2 } := by
  rcases session.cache.execute_cases session.readUri command arguments with same | all | ⟨uri, one⟩
  · rw [same]
    exact .refl session
  · rw [all]
    exact .of_same rfl
  · rw [one]
    exact .of_same rfl

theorem spares_changeDocument (session : Session) (uri : Uri) (revision : Int)
    (texts : List Text) : Spares session (session.changeDocument uri revision texts) := by
  unfold changeDocument
  split
  · exact .refl session
  · exact .of_same rfl

theorem spares_step (session : Session) {request : Request} (ordinary : request.IsOrdinary) :
    Spares session (session.step request).1 := by
  cases request with
  | connect options => exact ordinary.elim
  | ready => exact ordinary.elim
  | shutdown => exact ordinary.elim
  | configure settings => exact ordinary.elim
  | openDocument uri document => exact .of_same rfl
  | changeDocument uri revision texts => exact spares_changeDocument session uri revision texts
  | closeDocument uri => exact .of_same rfl
  | command name arguments => exact spares_execute session name arguments
  | query query cost fault => exact spares_runQuery session query cost fault
  | start id query =>
    have enqueued := spares_enqueue session id query
    simp only [step]
    split
    · next found => rwa [found] at enqueued
    · next found => rwa [found] at enqueued
  | wait duration => exact (spares_elapse session duration).trans (spares_expireOverdue _)
  | release => exact spares_release session

@[simp] theorem settings_stopSweeper (session : Session) :
    session.stopSweeper.settings = session.settings := by
  unfold stopSweeper
  split
  · rfl
  · rfl

@[simp] theorem cache_stopSweeper (session : Session) :
    session.stopSweeper.cache = session.cache := by
  unfold stopSweeper
  split
  · rfl
  · rfl

@[simp] theorem sweeper_stopSweeper (session : Session) : session.stopSweeper.sweeper = none := by
  unfold stopSweeper
  split
  · assumption
  · rfl

theorem stopped_stopSweeper {session : Session} {interval : Nat}
    (attended : Sweeper.Attended interval session.sweepers session.sweeper) :
    ∀ sweeper ∈ session.stopSweeper.sweepers, sweeper.isCancelled = true := by
  unfold stopSweeper
  split
  · next none =>
    rw [none] at attended
    exact attended.stopped
  · next number known =>
    rw [known] at attended
    exact attended.cancel

/-- Settings are taken over without a look at the sweepers. -/
theorem sweepers_applySettings (session : Session) (json : Json) :
    (session.applySettings json).1.sweepers = session.sweepers ∧
      (session.applySettings json).1.sweeper = session.sweeper := by
  unfold applySettings
  split
  · exact ⟨rfl, rfl⟩
  · split
    · exact ⟨rfl, rfl⟩
    · exact ⟨rfl, rfl⟩

/-- Limits and thresholds are those of the settings in force, and a sweeper that runs keeps the
interval that the cache has. -/
structure Coherent (session : Session) : Prop where
  limits : session.cache.limits = session.settings.cacheLimits
  thresholds : session.cache.latency.thresholds = session.settings.thresholds
  attended : Sweeper.Attended session.cache.limits.sweepInterval session.sweepers session.sweeper

namespace Coherent

theorem initial (readUri : UriReader) : Coherent (new readUri) := by
  have limits : Cache.standard.limits = Settings.standard.cacheLimits := rfl
  have thresholds : Cache.standard.latency.thresholds = Settings.standard.thresholds := rfl
  exact ⟨limits, thresholds, .idle nofun⟩

variable {session : Session}

theorem of_spares {after : Session} (coherent : Coherent session) (spares : Spares session after) :
    Coherent after where
  limits := by rw [spares.limits, spares.settings, coherent.limits]
  thresholds := by rw [spares.thresholds, spares.settings, coherent.thresholds]
  attended := by
    rw [spares.limits]
    exact spares.attended _ coherent.attended

theorem stopSweeper (coherent : Coherent session) : Coherent session.stopSweeper where
  limits := by simpa using coherent.limits
  thresholds := by simpa using coherent.thresholds
  attended := by
    rw [sweeper_stopSweeper]
    exact .idle (Session.stopped_stopSweeper coherent.attended)

/-- Whatever interval the sweeper before it has, the one that is started keeps that of the cache. -/
theorem startSweeper (limits : session.cache.limits = session.settings.cacheLimits)
    (thresholds : session.cache.latency.thresholds = session.settings.thresholds) {interval : Nat}
    (attended : Sweeper.Attended interval session.sweepers session.sweeper) :
    Coherent session.startSweeper := by
  have cache : session.startSweeper.cache = session.cache := cache_stopSweeper session
  have settings : session.startSweeper.settings = session.settings := settings_stopSweeper session
  refine ⟨by rw [cache, settings, limits], by rw [cache, settings, thresholds], ?_⟩
  rw [cache]
  exact .running (stopped_stopSweeper attended) rfl rfl

/-- Limits and thresholds follow the settings that are taken over. -/
theorem applySettings (coherent : Coherent session) (json : Json) :
    let after := (session.applySettings json).1
    after.cache.limits = after.settings.cacheLimits ∧
      after.cache.latency.thresholds = after.settings.thresholds := by
  unfold Session.applySettings
  split
  · exact ⟨coherent.limits, coherent.thresholds⟩
  · split
    · exact ⟨rfl, rfl⟩
    · exact ⟨coherent.limits, coherent.thresholds⟩

theorem connect (coherent : Coherent session) (idle : session.sweeper = none) (json : Json) :
    Coherent (session.applySettings json).1 := by
  obtain ⟨limits, thresholds⟩ := coherent.applySettings json
  obtain ⟨sweepers, sweeper⟩ := sweepers_applySettings session json
  have stopped := (idle ▸ coherent.attended).stopped
  refine ⟨limits, thresholds, ?_⟩
  rw [sweepers, sweeper, idle]
  exact .idle stopped

/-- A sweeper that runs is restarted unless it keeps the interval that is configured. -/
theorem configure (coherent : Coherent session) (json : Json) :
    Coherent (session.configure json).1 := by
  obtain ⟨limits, thresholds⟩ := coherent.applySettings json
  obtain ⟨sweepers, sweeper⟩ := sweepers_applySettings session json
  have attended : Sweeper.Attended session.cache.limits.sweepInterval
      (session.applySettings json).1.sweepers (session.applySettings json).1.sweeper := by
    rw [sweepers, sweeper]
    exact coherent.attended
  simp only [Session.configure]
  split
  · exact .startSweeper limits thresholds attended
  · next stays =>
    cases known : session.sweeper with
    | none => exact coherent.connect known json
    | some number =>
      rw [known] at stays
      simp only [Option.isSome_some, Bool.true_and, decide_eq_true_eq, Decidable.not_not] at stays
      exact ⟨limits, thresholds, stays ▸ attended⟩

theorem running_cases (coherent : Coherent session) :
    session.sweeper.isSome = false ∧ session.running = [] ∨
      session.sweeper.isSome = true ∧
        ∃ last, session.running = [last] ∧
          last.interval = session.cache.limits.sweepInterval := by
  have attended := coherent.attended
  unfold running
  generalize session.sweepers = sweepers, session.sweeper = number at attended ⊢
  cases attended with
  | idle stopped => exact .inl ⟨rfl, by simpa using stopped⟩
  | @running ended last stopped runs paced =>
    refine .inr ⟨rfl, last, ?_, paced⟩
    rw [List.filter_append, List.filter_eq_nil_iff.2 (by simpa using stopped)]
    simp [runs]

end Coherent

/-- The client said that it is ready, and asked for no shutdown since. -/
def IsReady (history : List (Nat × Request)) : Prop :=
  ∃ before pause since, history = before ++ (pause, .ready) :: since ∧
    ∀ entry ∈ since, entry.2 ≠ .shutdown

theorem isReady_concat {history : List (Nat × Request)} {pause : Nat} {request : Request} :
    IsReady (history ++ [(pause, request)]) ↔
      request = .ready ∨ request ≠ .shutdown ∧ IsReady history := by
  constructor
  · rintro ⟨before, moment, since, split, quiet⟩
    rcases List.eq_nil_or_concat since with rfl | ⟨since, last, rfl⟩
    · obtain ⟨-, same⟩ := List.append_inj' split rfl
      exact .inl (congrArg Prod.snd (List.singleton_inj.1 same))
    · rw [List.concat_eq_append, ← List.cons_append, ← List.append_assoc] at split
      obtain ⟨earlier, same⟩ := List.append_inj' split rfl
      obtain rfl := List.singleton_inj.1 same
      exact .inr ⟨quiet (pause, request) (by simp), before, moment, since, earlier,
        fun entry listed => quiet entry (by simp [listed])⟩
  · rintro (rfl | ⟨stays, before, moment, since, rfl, quiet⟩)
    · exact ⟨history, pause, [], rfl, nofun⟩
    · refine ⟨before, moment, since ++ [(pause, request)], by simp, ?_⟩
      exact List.forall_mem_append.2 ⟨quiet, List.forall_mem_singleton.2 stays⟩

theorem isSome_sweeper_configure (session : Session) (json : Json) :
    (session.configure json).1.sweeper.isSome = session.sweeper.isSome := by
  simp only [configure]
  split
  · next restarts => exact (Bool.and_eq_true_iff.1 restarts).1.symm
  · rw [(sweepers_applySettings session json).2]

/-- The session is coherent, and knows a sweeper as long as its client is ready. -/
structure Follows (session : Session) (history : List (Nat × Request)) : Prop where
  coherent : Coherent session
  ready : session.sweeper.isSome = true ↔ IsReady history

namespace Follows

variable {session : Session} {history : List (Nat × Request)} {pause : Nat} {request : Request}

theorem of_spares {after : Session} (follows : Follows session history)
    (spares : Spares session after) (starts : request ≠ .ready) (stops : request ≠ .shutdown) :
    Follows after (history ++ [(pause, request)]) where
  coherent := follows.coherent.of_spares spares
  ready := by simp [isReady_concat, starts, stops, spares.sweeper, follows.ready]

/-- One request, where the client is connected already. -/
theorem step (follows : Follows session history) (connected : ¬ request.IsConnect) :
    Follows (session.step request).1 (history ++ [(pause, request)]) := by
  cases request with
  | connect options => exact absurd trivial connected
  | ready =>
    have coherent := follows.coherent
    refine ⟨.startSweeper coherent.limits coherent.thresholds coherent.attended, ?_⟩
    simp [isReady_concat, Session.step, startSweeper]
  | shutdown =>
    refine ⟨follows.coherent.stopSweeper.of_spares (.of_same rfl), ?_⟩
    simp [isReady_concat, Session.step, shutdown]
  | configure settings =>
    refine ⟨follows.coherent.configure settings, ?_⟩
    simp [isReady_concat, Session.step, isSome_sweeper_configure, follows.ready]
  | _ => exact follows.of_spares (spares_step session trivial) (by simp) (by simp)

theorem handle (follows : Follows session history) (connected : ¬ request.IsConnect) :
    Follows (session.handle pause request).1 (history ++ [(pause, request)]) := by
  have elapsed := spares_elapse session pause
  have current : Follows (session.elapse pause) history :=
    ⟨follows.coherent.of_spares elapsed, by rw [elapsed.sweeper, follows.ready]⟩
  exact current.step connected

theorem connect (readUri : UriReader) (pause : Nat) (options : Option Json) :
    Follows ((new readUri).handle pause (.connect options)).1 [(pause, .connect options)] := by
  have coherent := (Coherent.initial readUri).of_spares (spares_elapse _ pause)
  have idle : ((new readUri).handle pause (.connect options)).1.sweeper = none :=
    (sweepers_applySettings ((new readUri).elapse pause) (options.getD .null)).2
  have unready : ¬ IsReady [] := by simp [IsReady]
  refine ⟨coherent.connect rfl _, ?_⟩
  rw [idle, ← List.nil_append [(pause, Request.connect options)], isReady_concat]
  simp [unready]

/-- A whole run behind the connection. -/
theorem after (follows : Follows session history) {requests : List (Nat × Request)}
    (once : ∀ entry ∈ requests, ¬ entry.2.IsConnect) :
    Follows (session.after requests) (history ++ requests) := by
  induction requests generalizing session history with
  | nil =>
    rw [List.append_nil]
    exact follows
  | cons entry rest ih =>
    obtain ⟨connected, later⟩ := List.forall_mem_cons.1 once
    rw [List.append_cons]
    exact ih (follows.handle connected) later

end Follows

/-- What settings promise at a point of a run: the cache and the latency monitor go by them, within
their bounds, and exactly while the client is ready a sweeper runs, alone and at the cache's
interval. -/
structure Obeys (session : Session) (history : List (Nat × Request)) : Prop where
  limits : session.cache.limits = session.settings.cacheLimits
  thresholds : session.cache.latency.thresholds = session.settings.thresholds
  capacity : 1 ≤ session.cache.limits.capacity
  window : 1 ≤ session.cache.latency.thresholds.window
  sweepInterval : 1000 ≤ session.cache.limits.sweepInterval
  budget : 1 ≤ session.settings.queryTimeout
  runs : session.running ≠ [] ↔ IsReady history
  single : session.running.length ≤ 1
  paced : ∀ sweeper ∈ session.running, sweeper.interval = session.cache.limits.sweepInterval

theorem Follows.obeys {session : Session} {history : List (Nat × Request)}
    (follows : Follows session history) : Obeys session history := by
  have ⟨limits, thresholds, _⟩ := follows.coherent
  have sweeping : (session.running ≠ [] ↔ IsReady history) ∧ session.running.length ≤ 1 ∧
      ∀ sweeper ∈ session.running, sweeper.interval = session.cache.limits.sweepInterval := by
    rw [← follows.ready]
    rcases follows.coherent.running_cases with ⟨idle, none⟩ | ⟨known, last, alone, paced⟩
    · simp [idle, none]
    · simp [known, alone, paced]
  exact ⟨limits, thresholds, limits ▸ session.settings.one_le_capacity,
    thresholds ▸ session.settings.one_le_window,
    limits ▸ session.settings.one_second_le_sweepInterval, session.settings.one_le_queryTimeout,
    sweeping.1, sweeping.2.1, sweeping.2.2⟩

/-- How settings are taken: without any nothing happens, unreadable ones only bring a warning, and
readable ones are in force from then on. -/
structure Takes (before : Session) (json : Json) (after : Session) (messages : List Message) :
    Prop where
  absent : json = .null → after = before ∧ messages = []
  unreadable : json ≠ .null → ∀ error, Settings.decode json = .error error →
    after = before ∧ ∃ warning : Message, messages = [warning] ∧ warning.severity = .warning
  readable : json ≠ .null → ∀ settings, Settings.decode json = .ok settings →
    after.settings = settings ∧ messages = []

theorem takes_applySettings (session : Session) (json : Json) :
    Takes session json (session.applySettings json).1 (session.applySettings json).2 := by
  unfold applySettings
  split
  · exact ⟨fun _ => ⟨rfl, rfl⟩, fun given => absurd rfl given, fun given => absurd rfl given⟩
  · next given =>
    cases decoded : Settings.decode json with
    | ok settings =>
      refine ⟨fun absent => absurd absent given, fun _ error refused => ?_, fun _ other read => ?_⟩
      · cases decoded.symm.trans refused
      · exact ⟨Except.ok.inj (decoded.symm.trans read), rfl⟩
    | error error =>
      refine ⟨fun absent => absurd absent given, fun _ _ _ => ?_, fun _ settings read => ?_⟩
      · exact ⟨rfl, .refused error, rfl, rfl⟩
      · cases decoded.symm.trans read

/-- The restart of a sweeper adds no message, and there is none where nothing changed. -/
theorem takes_configure (session : Session) (json : Json) :
    Takes session json (session.configure json).1 (session.configure json).2 := by
  have taken := takes_applySettings session json
  have messages : (session.configure json).2 = (session.applySettings json).2 := by
    simp only [configure]
    split
    · rfl
    · rfl
  have settings : (session.configure json).1.settings =
      (session.applySettings json).1.settings := by
    simp only [configure]
    split
    · exact settings_stopSweeper _
    · rfl
  have unchanged (same : (session.applySettings json).1 = session) :
      (session.configure json).1 = session := by
    simp [configure, same]
  rw [messages]
  refine ⟨fun absent => ?_, fun given error refused => ?_, fun given configured read => ?_⟩
  · exact ⟨unchanged (taken.absent absent).1, (taken.absent absent).2⟩
  · obtain ⟨same, warned⟩ := taken.unreadable given error refused
    exact ⟨unchanged same, warned⟩
  · obtain ⟨inForce, silent⟩ := taken.readable given configured read
    exact ⟨settings.trans inForce, silent⟩

/-- Along every run that begins with its only connection the session obeys the settings in force;
it takes settings as it should, with the first request and at every later point. -/
theorem obeys_settings_in_force (readUri : UriReader) {pause : Nat} {options : Option Json}
    {requests : List (Nat × Request)} (once : ∀ entry ∈ requests, ¬ entry.2.IsConnect) :
    let history := (pause, Request.connect options) :: requests
    let session := (new readUri).after history
    let connected := (new readUri).handle pause (.connect options)
    Obeys session history ∧
      Takes ((new readUri).elapse pause) (options.getD .null) connected.1 connected.2.messages ∧
      ∀ later json, Takes (session.elapse later) json
        (session.handle later (.configure json)).1
        (session.handle later (.configure json)).2.messages := by
  refine ⟨((Follows.connect readUri pause options).after once).obeys, ?_, fun later json => ?_⟩
  · exact takes_applySettings ((new readUri).elapse pause) (options.getD .null)
  · exact takes_configure _ json

/-- Three sweepers were started, of which the last one runs, at the interval configured last; there
is no room for less than one entry and no window of less than one sample, the thresholds are those
configured, and a truth value is no settings. -/
theorem obeys_settings_in_force_after_restarts :
    let settings : Json := .ofMembers [("ejs", .ofMembers [
      ("cache", .ofMembers [("capacity", .integer 0), ("sweepIntervalSeconds", .integer 5)]),
      ("performance", .ofMembers [("warningThresholdMs", .integer 20),
        ("hardThresholdMs", .integer 80), ("sampleWindow", .integer 0)])])]
    let requests : List (Nat × Request) := [(1, .ready), (2, .ready), (3, .configure settings)]
    let history := (1, Request.connect none) :: requests
    let session := (new Uri.read).after history
    (∀ entry ∈ requests, ¬ entry.2.IsConnect) ∧
      session.sweepers.map Sweeper.isCancelled = [true, true, false] ∧
      session.running = [⟨5000, 5007, false⟩] ∧ session.cache.limits = ⟨1, 300000, 5000⟩ ∧
      session.cache.latency.thresholds = ⟨20000000, 80000000, 1⟩ ∧ Obeys session history ∧
      (session.handle 1 (.configure (.bool true))).1 = session.elapse 1 ∧
      ∃ warning : Message, warning.severity = .warning ∧
        (session.handle 1 (.configure (.bool true))).2.messages = [warning] := by
  intro settings requests history session
  have once : ∀ entry ∈ requests, ¬ entry.2.IsConnect := by
    simp [requests, Request.IsConnect]
  obtain ⟨obeys, _, takes⟩ := @obeys_settings_in_force Uri.read 1 none requests once
  obtain ⟨same, warning, sent, severity⟩ := (takes 1 (.bool true)).unreadable nofun _ rfl
  exact ⟨once, by decide +kernel, by decide +kernel, by decide +kernel, by decide +kernel, obeys,
    same, warning, severity, sent⟩

end Session

end TemplateNav
