import Herald.Decimal.Fixed
import Herald.Remote.Sink

/-!
# The shipping report

The counts of a remote sink, one to a line, and the share that was delivered if
anything was queued at all.
-/

namespace Herald

/-- How much of what was queued has been published, in percent. -/
def deliveryRate (queued published : UInt64) : Float :=
  published.toFloat / queued.toFloat * 100

/-- The lines of the report. -/
def reportLines (queued published failed dropped : UInt64) : List String :=
  ["=== Remote Sink Statistics ===", s!"Queued: {queued}", s!"Published: {published}",
   s!"Failed: {failed}", s!"Dropped: {dropped}"]
    ++ if 0 < queued then
        [s!"Delivery rate: {Decimal.fixed 2 (deliveryRate queued published)}%"]
      else []

/-- The report of a sink's counts, as 64-bit words. -/
def Remote.Stats.report (t : Remote.Stats) : List String :=
  reportLines (UInt64.ofNat t.queued) (UInt64.ofNat t.published) (UInt64.ofNat t.failed)
    (UInt64.ofNat t.dropped)

end Herald
