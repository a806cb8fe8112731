import Mathlib.Algebra.BigOperators.Group.List.Lemmas
import Mathlib.Algebra.GroupWithZero.Nat
import Mathlib.Data.List.DropRight
import TemplateNav.Latency.Report
import TemplateNav.Proofs.Deduplication

/-!
# Which samples a monitor keeps

A monitor drops its oldest samples when they are out of the window, and the window may
shrink, grow again and be zero at any time.  What is left is always an end of the history,
and how long that end is follows from the windows alone: a sample that was dropped never
comes back.  The summaries of a report share the samples of that end out among the labels.
-/

namespace TemplateNav

namespace LatencyMonitor

/-- What may happen to a monitor. -/
inductive Event where
  | record (sample : Sample)
  | setThresholds (thresholds : Thresholds)

/-- The sample that an event adds to the history. -/
def Event.sample? : Event → Option Sample
  | record sample => some sample
  | setThresholds _ => none

/-- All samples of a history, the oldest first. -/
def recorded (events : List Event) : List Sample :=
  events.filterMap Event.sample?

/-- How many samples are left of `length` ones under a window of the given size, when the events
have happened. -/
def kept (window length : Nat) : List Event → Nat
  | [] => length
  | .record _ :: later => kept window (min (length + 1) (max 1 window)) later
  | .setThresholds thresholds :: later =>
    kept thresholds.window (min length (max 1 thresholds.window)) later

/-- The monitor behind an event. -/
def apply (monitor : LatencyMonitor) : Event → LatencyMonitor
  | .record sample => monitor.record sample
  | .setThresholds thresholds => monitor.setThresholds thresholds

/-- The monitor behind a history. -/
def after (monitor : LatencyMonitor) (events : List Event) : LatencyMonitor :=
  events.foldl apply monitor

section Steps

variable (monitor : LatencyMonitor)

theorem samples_trim :
    monitor.trim.samples = monitor.samples.rtake (max 1 monitor.thresholds.window) := by
  rw [Nat.max_comm]
  rfl

theorem samples_record (sample : Sample) : (monitor.record sample).samples =
    (monitor.samples ++ [sample]).rtake (max 1 monitor.thresholds.window) :=
  samples_trim _

theorem samples_setThresholds (thresholds : Thresholds) :
    (monitor.setThresholds thresholds).samples =
      monitor.samples.rtake (max 1 thresholds.window) :=
  samples_trim _

theorem samples_trim_isSuffix : monitor.trim.samples <:+ monitor.samples := by
  rw [samples_trim]
  exact List.drop_suffix _ _

theorem length_samples_trim :
    monitor.trim.samples.length = min monitor.samples.length (max 1 monitor.thresholds.window) := by
  rw [samples_trim, List.rtake, List.length_drop]
  omega

theorem samples_apply_isSuffix (event : Event) :
    (monitor.apply event).samples <:+ monitor.samples ++ event.sample?.toList := by
  cases event with
  | record sample => exact samples_trim_isSuffix _
  | setThresholds thresholds =>
    rw [Event.sample?, Option.toList_none, List.append_nil]
    exact samples_trim_isSuffix { monitor with thresholds := thresholds }

theorem kept_cons (event : Event) (later : List Event) :
    kept monitor.thresholds.window monitor.samples.length (event :: later) =
      kept (monitor.apply event).thresholds.window (monitor.apply event).samples.length later := by
  cases event with
  | record sample =>
    rw [kept, apply, record, length_samples_trim, List.length_append, List.length_singleton]
    rfl
  | setThresholds thresholds =>
    rw [kept, apply, setThresholds, length_samples_trim]
    rfl

end Steps

/-- Behind a history a monitor keeps the end of what it had and of what was recorded. -/
theorem samples_after_isSuffix (monitor : LatencyMonitor) (events : List Event) :
    (monitor.after events).samples <:+ monitor.samples ++ recorded events := by
  induction events generalizing monitor with
  | nil =>
    rw [recorded, List.filterMap_nil, List.append_nil]
    exact List.suffix_refl _
  | cons event later ih =>
    have grown : recorded (event :: later) = event.sample?.toList ++ recorded later := by
      cases event <;> rfl
    rw [grown, ← List.append_assoc]
    obtain ⟨dropped, split⟩ := monitor.samples_apply_isSuffix event
    rw [← split, List.append_assoc]
    exact (ih (monitor.apply event)).trans (List.suffix_append dropped _)

theorem length_samples_after (monitor : LatencyMonitor) (events : List Event) :
    (monitor.after events).samples.length =
      kept monitor.thresholds.window monitor.samples.length events := by
  induction events generalizing monitor with
  | nil => rfl
  | cons event later ih =>
    rw [kept_cons]
    exact ih (monitor.apply event)

end LatencyMonitor

theorem OperationSummary.count_foldl_add (summary : OperationSummary) (samples : List Sample) :
    (samples.foldl add summary).count = summary.count + samples.length := by
  induction samples generalizing summary with
  | nil => rfl
  | cons sample later ih =>
    rw [List.foldl_cons, ih, List.length_cons]
    simp only [add]
    omega

namespace LatencyMonitor

theorem labels_perm_dedup (monitor : LatencyMonitor) :
    monitor.labels.Perm (monitor.samples.map Sample.label).dedup :=
  (List.mergeSort_perm _ _).trans (eraseDups_perm_dedup _)

theorem map_fst_operations (monitor : LatencyMonitor) :
    monitor.operations.map Prod.fst = monitor.labels := by
  rw [operations, List.map_map]
  exact List.map_id _

/-- A summary counts the samples of its label. -/
theorem count_of_mem_operations {monitor : LatencyMonitor} {operation : String × OperationSummary}
    (member : operation ∈ monitor.operations) :
    operation.2.count = (monitor.samples.map Sample.label).count operation.1 := by
  obtain ⟨label, _, rfl⟩ := List.mem_map.1 member
  rw [OperationSummary.count_foldl_add, ← List.countP_eq_length_filter, List.count, List.countP_map]
  exact Nat.zero_add _

theorem sum_counts_operations (monitor : LatencyMonitor) :
    (monitor.operations.map fun operation => operation.2.count).sum = monitor.samples.length := by
  have counts : (monitor.operations.map fun operation => operation.2.count) =
      monitor.labels.map fun label => (monitor.samples.map Sample.label).count label := by
    rw [← map_fst_operations, List.map_map]
    exact List.map_congr_left fun operation member => count_of_mem_operations member
  rw [counts, (monitor.labels_perm_dedup.map _).sum_eq, List.sum_map_count_dedup_eq_length,
    List.length_map]

/-- **A monitor keeps the end of its history.** Behind every history of samples and changed
thresholds the samples of a new monitor are the latest ones, as many as the windows have left.  A
report has one summary for each of their labels, which counts the samples of that label, and the
counts add up to the number of samples. -/
theorem window_keeps_latest_samples (thresholds : Thresholds) (events : List Event) :
    let monitor := (new thresholds).after events
    let length := kept thresholds.window 0 events
    let latest := (recorded events).rtake length
    (monitor.samples = latest ∧ latest.length = length) ∧
    (monitor.report.operations.map Prod.fst).Nodup ∧
    (∀ label, label ∈ monitor.report.operations.map Prod.fst ↔ label ∈ latest.map Sample.label) ∧
    (∀ operation ∈ monitor.report.operations,
      operation.2.count = (latest.map Sample.label).count operation.1) ∧
    (monitor.report.operations.map fun operation => operation.2.count).sum =
      monitor.report.sampleCount ∧ monitor.report.sampleCount = length := by
  intro monitor length latest
  have size : monitor.samples.length = length := length_samples_after (new thresholds) events
  have keeps : monitor.samples = latest := by
    have ends : monitor.samples <:+ recorded events := samples_after_isSuffix _ events
    rw [List.suffix_iff_eq_drop.1 ends, size]
    rfl
  have labels := monitor.labels_perm_dedup
  rw [keeps] at labels
  refine ⟨⟨keeps, keeps ▸ size⟩, ?_, ?_, ?_, monitor.sum_counts_operations, size⟩
  · change (monitor.operations.map Prod.fst).Nodup
    rw [map_fst_operations]
    exact labels.nodup_iff.2 (List.nodup_dedup _)
  · intro label
    change label ∈ monitor.operations.map Prod.fst ↔ _
    rw [map_fst_operations, labels.mem_iff, List.mem_dedup]
  · intro operation member
    rw [← keeps]
    exact count_of_mem_operations member

/-- The window is two, then zero and then three: the second sample does not come back. -/
theorem window_keeps_latest_samples_when_regrown :
    let windowed : Nat → Thresholds := fun window => ⟨100, 500, window⟩
    let sample : String → Sample := fun label => ⟨label, 10⟩
    let events : List Event := [.record (sample "a"), .record (sample "b"), .record (sample "c"),
      .setThresholds (windowed 0), .setThresholds (windowed 3), .record (sample "a"),
      .record (sample "a")]
    let monitor := (new (windowed 2)).after events
    monitor.samples = [sample "c", sample "a", sample "a"] ∧
      (monitor.report.operations.map Prod.fst).Nodup ∧
      (∃ operation ∈ monitor.report.operations, operation.1 = "a" ∧ operation.2.count = 2) ∧
      (monitor.report.operations.map fun operation => operation.2.count).sum = 3 := by
  intro windowed sample events monitor
  obtain ⟨⟨keeps, _⟩, distinct, listed, counts, total, size⟩ :=
    window_keeps_latest_samples (windowed 2) events
  obtain ⟨operation, member, label⟩ := List.mem_map.1 ((listed "a").2 (by decide))
  refine ⟨keeps.trans (by decide), distinct, ⟨operation, member, label, ?_⟩, total.trans size⟩
  rw [counts operation member, label]
  decide

end LatencyMonitor

end TemplateNav
