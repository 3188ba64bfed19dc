import FlowPeers.PeerStatus
import Mathlib.Tactic.Common

/-!
# When a status is overdue

A status is overdue when more than the interval has passed since the last refresh, in exact time
(`PeerStatus.IsOverdue`). The clock counts milliseconds and the interval nanoseconds; that
`PeerStatus.isStale` compares whole milliseconds, and counts no time at all if the clock went
backwards, makes no difference (`PeerStatus.isStale_iff`).

Both sides of the comparison fit into machine words: the time that has passed into 64 bits
(`PeerStatus.elapsed`) and the milliseconds of an interval, whose seconds have 64 bits themselves,
into 128 (`Duration.Words.millis`).
-/

namespace FlowPeers

/-! ## Durations in words -/

namespace Duration

/-- A duration as it is kept in words. -/
structure Words where
  /-- The whole seconds. -/
  seconds : UInt64
  /-- The nanoseconds beyond them. -/
  nanos : UInt32
  /-- They are less than a second. -/
  nanos_lt : nanos.toNat < 1000000000

namespace Words

/-- The duration that is kept. -/
def toDuration (w : Words) : Duration :=
  ⟨w.seconds.toNat * 1000000000 + w.nanos.toNat⟩

/-- Its whole milliseconds. -/
def millis (w : Words) : BitVec 128 :=
  w.seconds.toBitVec.setWidth 128 * 1000 + (w.nanos / 1000000).toBitVec.setWidth 128

theorem toNat_millis (w : Words) : w.millis.toNat = w.toDuration.toMillis := by
  have hseconds := w.seconds.toNat_lt
  have hnanos := w.nanos_lt
  have hquotient : (w.nanos / 1000000).toNat = w.nanos.toNat / 1000000 := UInt32.toNat_div ..
  have hthousand : (1000 : BitVec 128).toNat = 1000 := rfl
  rw [millis, BitVec.toNat_add, BitVec.toNat_mul, BitVec.toNat_setWidth_of_le (by decide),
    BitVec.toNat_setWidth_of_le (by decide), UInt64.toNat_toBitVec, UInt32.toNat_toBitVec,
    hquotient, hthousand, toMillis, toDuration]
  dsimp only
  omega

end Words

end Duration

namespace PeerStatus

variable {status : PeerStatus} {now : UInt64} {interval : Duration}

/-- Whether more than the interval has passed since the last refresh. The clock counts milliseconds
and the interval nanoseconds. -/
def IsOverdue (status : PeerStatus) (now : UInt64) (interval : Duration) : Prop :=
  status.lastUpdate.toNat * 1000000 + interval.nanos < now.toNat * 1000000

/-- That the interval is taken in whole milliseconds makes no difference, nor does it that no time
is counted if the last refresh is yet to come. -/
theorem isStale_iff : status.isStale now interval = true ↔ status.IsOverdue now interval := by
  rw [isStale, decide_eq_true_iff, Duration.toMillis, IsOverdue]
  omega

/-- What is overdue remains so later, with a shorter interval, and for an earlier refresh. -/
theorem IsOverdue.mono (h : status.IsOverdue now interval) {status' : PeerStatus} {now' : UInt64}
    {interval' : Duration} (hlast : status'.lastUpdate ≤ status.lastUpdate) (hnow : now ≤ now')
    (hinterval : interval'.nanos ≤ interval.nanos) : status'.IsOverdue now' interval' :=
  calc status'.lastUpdate.toNat * 1000000 + interval'.nanos
      ≤ status.lastUpdate.toNat * 1000000 + interval.nanos :=
        Nat.add_le_add (Nat.mul_le_mul_right _ (UInt64.le_iff_toNat_le.1 hlast)) hinterval
    _ < now.toNat * 1000000 := h
    _ ≤ now'.toNat * 1000000 := Nat.mul_le_mul_right _ (UInt64.le_iff_toNat_le.1 hnow)

/-- The milliseconds since the last refresh, and zero if the clock went backwards. -/
def elapsed (status : PeerStatus) (now : UInt64) : UInt64 :=
  if status.lastUpdate ≤ now then now - status.lastUpdate else 0

theorem toNat_elapsed (status : PeerStatus) (now : UInt64) :
    (status.elapsed now).toNat = now.toNat - status.lastUpdate.toNat := by
  rw [elapsed]
  split
  · next hle => exact UInt64.toNat_sub_of_le _ _ hle
  · next hlt =>
    rw [UInt64.le_iff_toNat_le] at hlt
    rw [UInt64.toNat_zero]
    omega

/-- The comparison in words, none of which overflows. -/
theorem isStale_iff_words (w : Duration.Words) :
    status.isStale now w.toDuration = true ↔
      w.millis < (status.elapsed now).toBitVec.setWidth 128 := by
  rw [isStale, decide_eq_true_iff, BitVec.lt_def, w.toNat_millis,
    BitVec.toNat_setWidth_of_le (by decide), UInt64.toNat_toBitVec, toNat_elapsed]

/-- **Staleness is exact.** For every time of the last refresh, every time of the clock, and every
interval down to the nanosecond, however long:

* a status is stale exactly if the clock is past the last refresh and the time between the two, as
  an unbounded number of nanoseconds, is more than the interval;
* for every interval whose seconds fit into 64 bits the comparison of the elapsed milliseconds, in
  64 bits, and the whole milliseconds of the interval, in 128 bits, has the same answer;
* what is stale is so at every later time, with every shorter interval, and if the last refresh was
  earlier. -/
theorem staleness_is_exact (status : PeerStatus) (now : UInt64) :
    (∀ interval : Duration, status.isStale now interval = true ↔
      status.lastUpdate < now ∧
        (interval.nanos : Int) < ((now.toNat : Int) - status.lastUpdate.toNat) * 1000000) ∧
    (∀ w : Duration.Words, status.isStale now w.toDuration = true ↔
      w.millis < (status.elapsed now).toBitVec.setWidth 128) ∧
    ∀ interval, status.isStale now interval = true →
      (∀ later, now ≤ later → status.isStale later interval = true) ∧
      (∀ shorter : Duration, shorter.nanos ≤ interval.nanos →
        status.isStale now shorter = true) ∧
      ∀ earlier, earlier ≤ status.lastUpdate →
        { status with lastUpdate := earlier }.isStale now interval = true := by
  refine ⟨fun interval => ?_, isStale_iff_words, fun interval hstale => ?_⟩
  · rw [isStale_iff, IsOverdue, UInt64.lt_iff_toNat_lt]
    omega
  · have hoverdue := isStale_iff.1 hstale
    refine ⟨fun later hlater => ?_, fun shorter hshorter => ?_, fun earlier hearlier => ?_⟩
    · exact isStale_iff.2 (hoverdue.mono (UInt64.le_refl _) hlater (Nat.le_refl _))
    · exact isStale_iff.2 (hoverdue.mono (UInt64.le_refl _) (UInt64.le_refl _) hshorter)
    · exact isStale_iff.2 (hoverdue.mono hearlier (UInt64.le_refl _) (Nat.le_refl _))

/-- After 5001 ms an interval that is one nanosecond shorter has passed, and one of just 5001 ms has
not. -/
theorem stale_by_one_nanosecond :
    let status : PeerStatus := ⟨[], 10000⟩
    let interval : Duration := ⟨5000999999⟩
    status.isStale 15001 interval = true ∧ status.isStale 15001 ⟨5001000000⟩ = false ∧
    status.isStale 18446744073709551615 interval = true ∧
    status.isStale 15001 (.ofSeconds 5) = true ∧
    { status with lastUpdate := 9999 }.isStale 15001 interval = true := by
  intro status interval
  obtain ⟨hexact, -, hmono⟩ := staleness_is_exact status 15001
  have hstale : status.isStale 15001 interval = true := (hexact interval).2 (by decide)
  obtain ⟨hlater, hshorter, hearlier⟩ := hmono interval hstale
  refine ⟨hstale, ?_, hlater _ (by decide), hshorter _ (by decide), hearlier _ (by decide)⟩
  rw [Bool.eq_false_iff, Ne, hexact]
  decide

end PeerStatus

end FlowPeers
