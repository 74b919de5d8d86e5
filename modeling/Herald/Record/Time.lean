/-!
# Time since the epoch

A time stamp is a float of seconds: the whole seconds and the nanoseconds beyond
them are rounded each on its own, and their sum once more. A time before the epoch
is stamped as the epoch.
-/

namespace Herald

/-- A length of time: whole seconds and the nanoseconds beyond them. -/
structure Duration where
  seconds : UInt64
  nanoseconds : UInt32
  subsecond : nanoseconds.toNat < 1000000000

namespace Duration

/-- That many nanoseconds. -/
def ofNanoseconds (n : Nat) : Duration where
  seconds := UInt64.ofNat (n / 1000000000)
  nanoseconds := UInt32.ofNat (n % 1000000000)
  subsecond := by
    have h : n % 1000000000 < 1000000000 := Nat.mod_lt _ (by decide)
    rw [UInt32.toNat_ofNat']
    exact Nat.lt_of_le_of_lt (Nat.mod_le _ _) h

/-- The seconds as a float. -/
def toSeconds (d : Duration) : Float := d.seconds.toFloat + d.nanoseconds.toFloat / 1000000000

end Duration

/-- The time stamp of a time this long after the epoch, or of one before it. -/
def unixSeconds : Option Duration → Float
  | some sinceEpoch => sinceEpoch.toSeconds
  | none => 0

/-- How long after the epoch a time is that many nanoseconds after it, if it is not before it. -/
def sinceEpoch? : Int → Option Duration
  | .ofNat n => some (Duration.ofNanoseconds n)
  | .negSucc _ => none

end Herald
