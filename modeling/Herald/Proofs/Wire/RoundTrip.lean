import Herald.Proofs.Json.Context
import Herald.Proofs.Record.Time
import Herald.Proofs.Wire.Config
import Herald.Proofs.Wire.Message
import Herald.Proofs.Wire.Warning

/-!
# Messages, warnings and configurations round trip

A message that is published is decoded as itself, whatever characters its texts are
made of, so two messages with the same bytes are the same message. The same is true of
the JSON text of a warning and of a configuration; as no two of them share their text, a
missing text is never taken for an empty one.

The reader of floats is not exact for every float, and the time of a message has to be
one for which it is: read on its own, what is printed of it gives that very float. That
this carries over to the time as a member of the object is the point where `LocalRead`
is needed. Times are finite whenever they come from the clock.
-/

namespace Herald

open Json Wire

theorem Wire.readsBack_self {x : Float} (hback : float (writeTime x) = .ok (x, [])) :
    ReadsBack x x := by
  intro rest hr
  have h := localRead_numberAs (fun n => some n.toFloat) hback hr.stopsNumber
  rwa [List.nil_append] at h

namespace Message

theorem decode_encode_self {m : Message}
    (hback : float (writeTime m.timestamp) = .ok (m.timestamp, [])) :
    decode m.encode = .ok m :=
  decode_encode (startsValue_of_numberAs hback) (readsBack_self hback)

/-- **Messages round trip**, so no two of them share their bytes; and the clock meets
the precondition of a finite time. -/
theorem round_trips :
    (∀ m : Message, m.timestamp.isFinite = true →
      float (writeTime m.timestamp) = .ok (m.timestamp, []) →
      decode m.encode = .ok m) ∧
    (∀ m m' : Message, m.timestamp.isFinite = true → m'.timestamp.isFinite = true →
      float (writeTime m.timestamp) = .ok (m.timestamp, []) →
      float (writeTime m'.timestamp) = .ok (m'.timestamp, []) →
      m ≠ m' → m.encode ≠ m'.encode) ∧
    (∀ (t : Option Duration) (r : Record) (rendered : String),
      (ofRecord (unixSeconds t) r rendered).timestamp.isFinite = true) := by
  refine ⟨fun m _ hback => decode_encode_self hback, ?_, fun t r rendered => isFinite_unixSeconds t⟩
  intro m m' _ _ hback hback' hne hsame
  -- the same bytes would be decoded as both
  have hdecoded : decode m.encode = .ok m' := by
    rw [hsame]
    exact decode_encode_self hback'
  rw [decode_encode_self hback] at hdecoded
  exact hne (Except.ok.inj hdecoded)

/-- A text with quotes, a backslash, control characters, JSON and a character beyond 16 bits. -/
def awkward : Message :=
  ⟨1700000000.25, "\"a\\\n\x01 \x7b\"msg\":1\x7d ü😀", 4294967295, "WARN\tING", ""⟩

def awkwardLater : Message := { awkward with timestamp := 1700000000.5 }

theorem round_trips_awkward :
    decode awkward.encode = .ok awkward ∧ awkward.encode ≠ awkwardLater.encode ∧
      (ofRecord (unixSeconds none) ⟨⟨0, "", ""⟩, .warning, "WARNING", "x", "a", .unknown⟩
        "x").timestamp.isFinite = true := by
  have hback : float (writeTime awkward.timestamp) = .ok (awkward.timestamp, []) := by
    decide +kernel
  have hbackLater :
      float (writeTime awkwardLater.timestamp) = .ok (awkwardLater.timestamp, []) := by
    decide +kernel
  obtain ⟨hself, hdistinct, hfinite⟩ := round_trips
  exact ⟨hself awkward (by decide +kernel) hback,
    hdistinct awkward awkwardLater (by decide +kernel) (by decide +kernel) hback hbackLater
      (by decide +kernel),
    hfinite none _ _⟩

end Message

namespace Wire

theorem ofJson_toJson_self {w : Warning}
    (hback : float (writeTime w.timestamp) = .ok (w.timestamp, [])) :
    Warning.ofJson w.toJson = .ok w :=
  Warning.ofJson_toJson (startsValue_of_numberAs hback) (readsBack_self hback)

/--
**Warnings and configurations round trip.**

The JSON text of a warning with a finite time that is read back is read as that warning,
and the JSON text of any configuration as that configuration. So warnings that differ,
be it only in a stack that one of them lacks and the other has empty, have different
texts, and so have configurations that differ.
-/
theorem warnings_and_configs_round_trip :
    (∀ w : Warning, w.timestamp.isFinite = true →
        float (writeTime w.timestamp) = .ok (w.timestamp, []) →
        Warning.ofJson w.toJson = .ok w)
      ∧ (∀ c : Config, Config.ofJson c.toJson = .ok c)
      ∧ (∀ w w' : Warning, w.timestamp.isFinite = true → w'.timestamp.isFinite = true →
          float (writeTime w.timestamp) = .ok (w.timestamp, []) →
          float (writeTime w'.timestamp) = .ok (w'.timestamp, []) →
          w ≠ w' → w.toJson ≠ w'.toJson)
      ∧ ∀ c c' : Config, c ≠ c' → c.toJson ≠ c'.toJson := by
  refine ⟨fun w _ hback => ofJson_toJson_self hback, Config.ofJson_toJson, ?_, ?_⟩
  · intro w w' _ _ hback hback' hne hsame
    have hread := ofJson_toJson_self hback'
    rw [← hsame, ofJson_toJson_self hback] at hread
    exact hne (Except.ok.inj hread)
  · intro c c' hne hsame
    have hread := c'.ofJson_toJson
    rw [← hsame, Config.ofJson_toJson] at hread
    exact hne (Except.ok.inj hread)

/-- A warning without a stack, in which a text looks like the member that is missing. -/
def stackless : Warning :=
  ⟨1700000000.25, "a.b", ⟨"src/\"x\".rs", 4294967295, "f\",\"stack\":\"", none⟩, "\u0000 ü😀"⟩

/-- The same with a stack that is empty. -/
def emptyStack : Warning :=
  { stackless with caller := { stackless.caller with stack := some "" } }

/-- No identifier, an empty topic, and the largest queue. -/
def extreme : Config :=
  { rootLevel := "\""
    remote := ⟨true, some "", none, 18446744073709551615⟩
    console := ⟨"", true⟩ }

/-- The same without a topic. -/
def topicless : Config := { extreme with remote := { extreme.remote with topic := none } }

theorem warnings_and_configs_round_trip_extreme :
    Warning.ofJson stackless.toJson = .ok stackless ∧ stackless.toJson ≠ emptyStack.toJson
      ∧ Config.ofJson extreme.toJson = .ok extreme ∧ extreme.toJson ≠ topicless.toJson := by
  have hfinite : stackless.timestamp.isFinite = true := by decide +kernel
  have hback : float (writeTime stackless.timestamp) = .ok (stackless.timestamp, []) := by
    decide +kernel
  obtain ⟨hwarning, hconfig, hwarnings, hconfigs⟩ := warnings_and_configs_round_trip
  exact ⟨hwarning stackless hfinite hback,
    hwarnings stackless emptyStack hfinite hfinite hback hback (by decide +kernel),
    hconfig extreme, hconfigs extreme topicless (by decide)⟩

end Wire

end Herald
