import Fanout.Keyed
import Fanout.Log

/-! What a component tells about itself: counters, gauges and log records. -/
namespace Fanout

/-- Samples by name. One is there as soon as it has been touched. -/
structure Metrics where
  samples : List (String × Nat) := []

namespace Metrics

def increment (m : Metrics) (name : String) (n : Nat := 1) : Metrics :=
  ⟨Keyed.put name ((Keyed.get? name m.samples).getD 0 + n) m.samples⟩

def set (m : Metrics) (name : String) (value : Nat) : Metrics :=
  ⟨Keyed.put name value m.samples⟩

/-- Adds up the samples of two sources. -/
def add (m n : Metrics) : Metrics := n.samples.foldl (fun m (name, value) => m.increment name value) m

end Metrics

structure Telemetry where
  metrics : Metrics := {}
  records : List LogRecord := []

namespace Telemetry

def count (t : Telemetry) (name : String) : Telemetry :=
  { t with metrics := t.metrics.increment name }

def gauge (t : Telemetry) (name : String) (value : Nat) : Telemetry :=
  { t with metrics := t.metrics.set name value }

def log (t : Telemetry) (r : LogRecord) : Telemetry := { t with records := t.records ++ [r] }

/-- Hands over the records so far. -/
def takeRecords (t : Telemetry) : List LogRecord × Telemetry :=
  (t.records, { t with records := [] })

end Telemetry

end Fanout
