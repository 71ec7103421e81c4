/-!
# Instants and spans

An instant is a signed 64-bit number of seconds since the epoch; a span is an unsigned
64-bit number of seconds, as it stands in a configuration. The one operation that joins
them moves an instant into the past and stays at the ends of the range instead of
wrapping around.
-/

namespace Alerting

/-- Seconds since 1970-01-01T00:00:00Z. -/
abbrev Instant := Int64

/-- A configured duration in seconds. -/
abbrev Seconds := UInt64

/-- A duration other than zero is positive. -/
theorem Seconds.pos_of_ne_zero {seconds : Seconds} (nonzero : seconds ≠ 0) : 0 < seconds :=
  UInt64.pos_iff_ne_zero.2 nonzero

/-- A duration of at most the largest signed word keeps its value as a signed word. -/
theorem Seconds.toInt_toInt64 {seconds : Seconds}
    (fits : (seconds.toNat : Int) ≤ Int64.maxValue.toInt) :
    seconds.toInt64.toInt = seconds.toNat := by
  have largest : Int64.maxValue.toInt = 9223372036854775807 := rfl
  rw [Int64.toInt, UInt64.toBitVec_toInt64, BitVec.toInt_eq_toNat_of_lt]
  · rw [UInt64.toNat_toBitVec]
  · rw [UInt64.toNat_toBitVec]
    omega

namespace Instant

/-- The signed distance from `earlier` to `later`, clamped to the range of 64-bit words. -/
def since (later earlier : Instant) : Int64 :=
  Int64.ofIntClamp (later.toInt - earlier.toInt)

/--
The instant `span` seconds before `now`, clamped to the range of instants. A span
beyond the largest signed word counts as the negative number with the same bits.
-/
def ago (now : Instant) (span : Seconds) : Instant :=
  now.since span.toInt64

end Instant

end Alerting
