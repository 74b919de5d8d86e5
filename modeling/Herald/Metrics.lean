import Herald.Decimal.Binary
import Herald.Table
import Herald.Text.Digest

/-!
# Metrics

Counters of what the logging stack did: records by level name, the outcomes of
remote shipping, and escalations by kind, delivered or missed. A counter that
has a label exists once something was counted under the label; the three remote
counters always exist.

A labelled counter is found by the digest of its label, not by the label. Labels
of one digest share a counter, which is shown under the label that was counted
first.

Counters are unbounded here. They are exposed as 64-bit words that have passed
through a float, and so to 53 significant bits.
-/

namespace Herald

/-- A counter with the label that it is shown under. -/
structure Counter where
  label : String
  count : Nat
deriving DecidableEq

/-- Counters by the digests of their labels. -/
abbrev Tally := Table UInt64 Counter

namespace Tally

/-- The count under a label. -/
def count (t : Tally) (label : String) : Nat :=
  ((Table.get? t (Text.digest label)).map Counter.count).getD 0

/-- Counts once more under a label; the counter keeps the label it was made with. -/
def bump (t : Tally) (label : String) : Tally :=
  let c := (Table.get? t (Text.digest label)).getD ⟨label, 0⟩
  Table.set t (Text.digest label) { c with count := c.count + 1 }

/-- One more is counted under a label and under all others of its digest. -/
theorem count_bump (t : Tally) (label other : String) :
    count (bump t label) other
      = count t other + if Text.digest label = Text.digest other then 1 else 0 := by
  unfold bump count
  rw [Table.get?_set]
  by_cases h : Text.digest label = Text.digest other
  · rw [← h]
    cases Table.get? t (Text.digest label) <;> simp
  · simp [h]

end Tally

/-- The counters of one manager. -/
structure Metrics where
  /-- Records that passed their logger's threshold, by level name. -/
  records : Tally := []
  published : Nat := 0
  failed : Nat := 0
  dropped : Nat := 0
  /-- Escalations an application received, by kind. -/
  escalated : Tally := []
  /-- Escalations without an application to receive them, by kind. -/
  missed : Tally := []

namespace Metrics

/-- One value of a metric; `label` is absent when the metric has none. -/
structure Sample where
  label : Option String
  value : UInt64

/-- A metric with its explanation and its values. -/
structure Family where
  name : String
  help : String
  samples : List Sample

/-- A count as it is exposed: as a word, then as the nearest float, then as a word again. -/
def exposed (n : Nat) : UInt64 :=
  UInt64.ofNat (min (Decimal.nearestWhole (n % 1 <<< 64)) (1 <<< 64 - 1))

private def labelled (t : Tally) : List Sample :=
  t.map fun b => ⟨some b.2.label, exposed b.2.count⟩

private def single (n : Nat) : List Sample := [⟨none, exposed n⟩]

/-- All metrics by name, those without a value left out. -/
def families (m : Metrics) : List Family :=
  [ ⟨"tidings_escalations_missed_total",
      "Total number of escalations with no host application running", labelled m.missed⟩,
    ⟨"tidings_escalations_total",
      "Total number of escalations handed to the host application", labelled m.escalated⟩,
    ⟨"tidings_log_records_total", "Total number of log records emitted", labelled m.records⟩,
    ⟨"tidings_remote_dropped_total",
      "Total number of records dropped before reaching the transport", single m.dropped⟩,
    ⟨"tidings_remote_failed_total",
      "Total number of remote publish attempts that failed", single m.failed⟩,
    ⟨"tidings_remote_published_total",
      "Total number of records published to the remote transport", single m.published⟩ ].filter
    fun f => !f.samples.isEmpty

end Metrics

end Herald
