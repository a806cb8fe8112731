import TemplateNav.Decimal.Binary
import TemplateNav.Settings.Basic

/-!
# Latency of queries

A monitor keeps the most recent samples and judges them: how many are over the
hard threshold, how their average compares with the warning threshold, and how
their 95th percentile compares with the hard one.
-/

namespace TemplateNav

/-- Nanoseconds as milliseconds. -/
def milliseconds (nanoseconds : Nat) : Float :=
  nearestFloat nanoseconds / 1000000.0

/-- The time that one query took. -/
structure Sample where
  label : String
  nanoseconds : Nat
  deriving DecidableEq

/-- A sample in milliseconds. -/
def Sample.millis (sample : Sample) : Float :=
  milliseconds sample.nanoseconds

/-- The recent samples, the oldest first, and how they are judged. -/
structure LatencyMonitor where
  thresholds : Thresholds
  samples : List Sample

namespace LatencyMonitor

/-- A monitor without samples. -/
def new (thresholds : Thresholds) : LatencyMonitor :=
  ⟨thresholds, []⟩

/-- The last `count` entries of a list. -/
def keepLast {α : Type} (count : Nat) (list : List α) : List α :=
  list.drop (list.length - count)

/-- Drops the samples that are out of the window, which holds at least one. -/
def trim (monitor : LatencyMonitor) : LatencyMonitor :=
  { monitor with samples := keepLast (max monitor.thresholds.window 1) monitor.samples }

/-- Adds a sample. -/
def record (monitor : LatencyMonitor) (sample : Sample) : LatencyMonitor :=
  trim { monitor with samples := monitor.samples ++ [sample] }

/-- Changes the thresholds; a smaller window drops samples at once. -/
def setThresholds (monitor : LatencyMonitor) (thresholds : Thresholds) : LatencyMonitor :=
  trim { monitor with thresholds := thresholds }

/-- The number of samples as a floating-point number. -/
def sampleCount (monitor : LatencyMonitor) : Float :=
  nearestFloat monitor.samples.length

/-- The average in milliseconds, zero without samples. -/
def average (monitor : LatencyMonitor) : Float :=
  if monitor.samples.isEmpty then 0.0
  else
    monitor.samples.foldl (fun total sample => total + sample.millis) 0.0 / monitor.sampleCount

/-- The percentile by nearest rank, in milliseconds; zero without samples.  Ranks outside the
samples mean the first or the last one. -/
def percentile (monitor : LatencyMonitor) (percent : Float) : Float :=
  let sorted := (monitor.samples.map Sample.nanoseconds).mergeSort fun first second =>
    decide (first ≤ second)
  let rank := ((percent / 100.0) * monitor.sampleCount).ceil.toUInt64.toNat
  let index := min (max rank 1) sorted.length - 1
  (sorted[index]?.map milliseconds).getD 0.0

/-- The number of samples over a threshold. -/
def countOver (monitor : LatencyMonitor) (threshold : Nat) : Nat :=
  monitor.samples.countP fun sample => sample.millis > milliseconds threshold

/-- The number of samples over the warning threshold. -/
def warningCount (monitor : LatencyMonitor) : Nat :=
  monitor.countOver monitor.thresholds.warning

/-- The number of samples over the hard threshold. -/
def hardCount (monitor : LatencyMonitor) : Nat :=
  monitor.countOver monitor.thresholds.hard

/-- The share of samples over the hard threshold. -/
def hardRate (monitor : LatencyMonitor) : Float :=
  nearestFloat monitor.hardCount / monitor.sampleCount

/-- The largest acceptable share of samples over the hard threshold. -/
def acceptableHardRate : Float := 0.05

/-- Whether navigation is fast enough; without samples it is. -/
def isAcceptable (monitor : LatencyMonitor) : Bool :=
  monitor.samples.isEmpty ||
    (monitor.hardRate ≤ acceptableHardRate &&
      monitor.average ≤ milliseconds monitor.thresholds.warning &&
      monitor.percentile 95.0 ≤ milliseconds monitor.thresholds.hard)

end LatencyMonitor

end TemplateNav
