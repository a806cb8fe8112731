import TemplateNav.Decimal.Fixed
import TemplateNav.Latency.Monitor

/-!
# Latency reports

A report sums up the samples of a monitor, for all queries and for each label,
and says what could be done about slow ones.
-/

namespace TemplateNav

/-- The samples of one label. -/
structure OperationSummary where
  count : Nat
  averageMs : Float
  maxMs : Float

namespace OperationSummary

/-- No samples. -/
def empty : OperationSummary := ⟨0, 0.0, 0.0⟩

/-- Adds one sample; the average is updated from the one before. -/
def add (summary : OperationSummary) (sample : Sample) : OperationSummary :=
  let total := summary.averageMs * nearestFloat summary.count + sample.millis
  ⟨summary.count + 1, total / nearestFloat (summary.count + 1),
    if summary.maxMs < sample.millis then sample.millis else summary.maxMs⟩

end OperationSummary

/-- What a monitor's samples say. -/
structure LatencyReport where
  sampleCount : Nat
  averageMs : Float
  p95Ms : Float
  p99Ms : Float
  warningCount : Nat
  hardCount : Nat
  isAcceptable : Bool
  /-- A summary for each label, ordered by label. -/
  operations : List (String × OperationSummary)
  recommendations : List String

namespace LatencyMonitor

/-- The labels of the samples, in order and each once. -/
def labels (monitor : LatencyMonitor) : List String :=
  (monitor.samples.map Sample.label).eraseDups.mergeSort fun first second =>
    decide (first ≤ second)

/-- A summary for each label. -/
def operations (monitor : LatencyMonitor) : List (String × OperationSummary) :=
  monitor.labels.map fun label =>
    (label, (monitor.samples.filter fun sample => sample.label == label).foldl
      OperationSummary.add .empty)

/-- What could be done about slow queries. -/
def recommendations (monitor : LatencyMonitor) : List String :=
  let warning := milliseconds monitor.thresholds.warning
  let hard := milliseconds monitor.thresholds.hard
  let average := monitor.average
  let p95 := monitor.percentile 95.0
  if monitor.samples.isEmpty then []
  else
    (if average > warning then
      ["Average query time " ++ Decimal.fixed 1 average ++ "ms exceeds " ++
        Decimal.fixed 0 warning ++ "ms; consider splitting large templates."]
    else []) ++
    (if p95 > hard then
      ["95th percentile " ++ Decimal.fixed 1 p95 ++ "ms exceeds " ++ Decimal.fixed 0 hard ++
        "ms; raise the cache capacity or TTL so repeat queries hit."]
    else []) ++
    (if monitor.hardRate > acceptableHardRate then
      [Decimal.fixed 0 (monitor.hardRate * 100.0) ++ "% of queries exceeded " ++
        Decimal.fixed 0 hard ++ "ms; navigation may be timing out."]
    else [])

/-- The report of a monitor. -/
def report (monitor : LatencyMonitor) : LatencyReport where
  sampleCount := monitor.samples.length
  averageMs := monitor.average
  p95Ms := monitor.percentile 95.0
  p99Ms := monitor.percentile 99.0
  warningCount := monitor.warningCount
  hardCount := monitor.hardCount
  isAcceptable := monitor.isAcceptable
  operations := monitor.operations
  recommendations := monitor.recommendations

end LatencyMonitor

end TemplateNav
