import EventPlatform.Clock.ClockSync

/-! # How far off the clock estimate is

A sample errs by half the difference of the two one-way delays, so by at most
half its round trip.  The median inherits any bound that most accepted samples
respect. -/

namespace EventPlatform.Clock

open EventPlatform.Lib

/-! ## One exchange -/

/-- A request and its answer.  `sendMs` is the server's time when the client
    sends; the monotonic clock has an origin of its own. -/
structure Exchange where
  sendMs : ℚ
  requestDelayMs : ℚ
  responseDelayMs : ℚ
  monotonicOrigin : ℚ
  requestNonneg : 0 ≤ requestDelayMs
  responseNonneg : 0 ≤ responseDelayMs

def Exchange.serverMs (e : Exchange) : ℚ := e.sendMs + e.requestDelayMs

def Exchange.receiveMs (e : Exchange) : ℚ := e.serverMs + e.responseDelayMs

/-- The client's wall clock is behind the server's by `trueOffset`, and both of
    its clocks run at the server's rate. -/
def Exchange.sample (e : Exchange) (trueOffset : ℚ) : ClockSample :=
  makeSample (e.sendMs - trueOffset) e.serverMs (e.receiveMs - trueOffset)
    (e.monotonicOrigin + e.sendMs / 1000) (e.monotonicOrigin + e.receiveMs / 1000)

theorem Exchange.sample_rtt (e : Exchange) (trueOffset : ℚ) :
    (e.sample trueOffset).rttMs = e.requestDelayMs + e.responseDelayMs := by
  have request := e.requestNonneg
  have response := e.responseNonneg
  have elapsed : (e.monotonicOrigin + e.receiveMs / 1000 - (e.monotonicOrigin + e.sendMs / 1000)) *
      1000 = e.requestDelayMs + e.responseDelayMs := by
    simp only [receiveMs, serverMs]
    ring
  show max 0 _ = _
  rw [elapsed]
  exact max_eq_right (by linarith)

/-- Unequal delays shift the offset by half their difference. -/
theorem Exchange.sample_offset (e : Exchange) (trueOffset : ℚ) :
    (e.sample trueOffset).offsetMs = trueOffset + (e.requestDelayMs - e.responseDelayMs) / 2 := by
  show e.serverMs - (e.sendMs - trueOffset + (e.receiveMs - trueOffset)) / 2 = _
  simp only [receiveMs, serverMs]
  ring

theorem Exchange.sample_error (e : Exchange) (trueOffset : ℚ) :
    |(e.sample trueOffset).offsetMs - trueOffset| ≤ (e.sample trueOffset).rttMs / 2 := by
  have request := e.requestNonneg
  have response := e.responseNonneg
  rw [e.sample_offset, e.sample_rtt, abs_le]
  constructor <;> linarith

/-! ## The estimate -/

/-- More than half of the accepted samples within `e` pull the estimate within `e`. -/
theorem ClockSyncState.offset_close {st : ClockSyncState} {trueOffset e : ℚ}
    (most : st.samples.length <
      2 * st.samples.countP (fun s => |s.offsetMs - trueOffset| ≤ e)) (minimumSamples : Nat) :
    ∃ offset, (st.finalize minimumSamples).offsetMs = some offset ∧ |offset - trueOffset| ≤ e := by
  have some_ : st.samples ≠ [] := by
    intro empty
    simp [empty] at most
  refine ⟨_, finalize_offset some_ minimumSamples, abs_median_sub_le ?_⟩
  rwa [List.length_map, List.countP_map]

theorem exists_largest_rtt {samples : List ClockSample} (some_ : samples ≠ []) :
    ∃ s ∈ samples, ∀ s' ∈ samples, s'.rttMs ≤ s.rttMs := by
  have nonempty : samples.toFinset.Nonempty := List.toFinset_nonempty_iff samples |>.mpr some_
  obtain ⟨s, member, largest⟩ := samples.toFinset.exists_max_image (·.rttMs) nonempty
  simp only [List.mem_toFinset] at member largest
  exact ⟨s, member, largest⟩

/-- After a batch of exchanges the estimate errs by at most half the largest
    accepted round trip, and a majority of good samples outvotes the others,
    whatever these are. -/
theorem offset_error (trueOffset : ℚ) (minimumSamples : Nat) :
    (∀ batch : List (Exchange × ℚ),
      let added := ClockSyncState.fresh.addAll (batch.map fun x => (x.1.sample trueOffset, x.2))
      added.samples ≠ [] → ∃ offset, (added.finalize minimumSamples).offsetMs = some offset ∧
        ∃ s ∈ added.samples, (∀ s' ∈ added.samples, s'.rttMs ≤ s.rttMs) ∧
          |offset - trueOffset| ≤ s.rttMs / 2) ∧
    ∀ (calls : List (ClockSample × ℚ)) (e : ℚ),
      let added := ClockSyncState.fresh.addAll calls
      added.samples.length < 2 * added.samples.countP (fun s => |s.offsetMs - trueOffset| ≤ e) →
        ∃ offset, (added.finalize minimumSamples).offsetMs = some offset ∧
          |offset - trueOffset| ≤ e := by
  refine ⟨?_, ?_⟩
  · intro batch added some_
    obtain ⟨s, member, largest⟩ := exists_largest_rtt some_
    have each : ∀ s' ∈ added.samples, |s'.offsetMs - trueOffset| ≤ s.rttMs / 2 := by
      intro s' inside
      have fromBatch : ∃ x ∈ batch, x.1.sample trueOffset = s' := by
        rw [ClockSyncState.addAll_samples] at inside
        obtain ⟨call, accepted, rfl⟩ := List.mem_map.mp inside
        obtain ⟨x, inBatch, rfl⟩ := List.mem_map.mp (List.mem_of_mem_filter accepted)
        exact ⟨x, inBatch, rfl⟩
      obtain ⟨x, _, rfl⟩ := fromBatch
      have error := x.1.sample_error trueOffset
      have shorter := largest _ inside
      linarith
    -- every sample is good, which is a majority
    have all : added.samples.countP (fun s' => |s'.offsetMs - trueOffset| ≤ s.rttMs / 2) =
        added.samples.length := by
      rw [List.countP_eq_length]
      simpa using each
    have positive := List.length_pos_iff.mpr some_
    obtain ⟨offset, isOffset, close⟩ :=
      added.offset_close (by omega : added.samples.length < 2 * added.samples.countP
        fun s' => |s'.offsetMs - trueOffset| ≤ s.rttMs / 2) minimumSamples
    exact ⟨offset, isOffset, s, member, largest, close⟩
  · intro calls e added most
    exact added.offset_close most minimumSamples

def exchangeOf (requestDelayMs responseDelayMs : Nat) : Exchange where
  sendMs := 1700000000000
  requestDelayMs := requestDelayMs
  responseDelayMs := responseDelayMs
  monotonicOrigin := 10
  requestNonneg := Nat.cast_nonneg _
  responseNonneg := Nat.cast_nonneg _

/-- Five exchanges with unequal delays, one of them too slow to be accepted. -/
def unevenDelays : List (Exchange × ℚ) :=
  [(30, 10), (5, 45), (20, 20), (3000, 10), (8, 12)].map fun delays => (exchangeOf delays.1 delays.2, maxRttDefault)

def unevenBatch : ClockSyncState :=
  ClockSyncState.fresh.addAll (unevenDelays.map fun x => (x.1.sample 125, x.2))

/-- A sample with a round trip of 50 ms and the given offset. -/
def sampleWithOffset (offset : ℚ) : ClockSample := makeSample 0 (25 + offset) 50 10 (10 + 1 / 20)

def slowOutlier : List (ClockSample × ℚ) :=
  [100, 110, 105, 1000, 95].map fun offset => (sampleWithOffset offset, maxRttDefault)

/-- Unequal delays, and four good samples against one outlier. -/
theorem offset_error_slowOutlier :
    (∃ offset, (unevenBatch.finalize minimumSamplesDefault).offsetMs = some offset ∧
      ∃ s ∈ unevenBatch.samples, (∀ s' ∈ unevenBatch.samples, s'.rttMs ≤ s.rttMs) ∧ |offset - 125| ≤ s.rttMs / 2) ∧
    ∃ offset, ((ClockSyncState.fresh.addAll slowOutlier).finalize minimumSamplesDefault).offsetMs = some offset ∧
      |offset - 105| ≤ 10 :=
  ⟨(offset_error 125 minimumSamplesDefault).1 unevenDelays (by decide +kernel),
    (offset_error 105 minimumSamplesDefault).2 slowOutlier 10 (by decide +kernel)⟩

-- the slow one is left out, and the largest round trip of the others is 50 ms
example : unevenBatch.samples.map (·.rttMs) = [40, 50, 40, 20] := by decide +kernel

/-! ## The estimated server time -/

/-- Rounding to whole milliseconds adds at most half a millisecond. -/
theorem ClockSyncState.estimatedServerTimeMs_error {st : ClockSyncState} {trueOffset e offset : ℚ}
    (isOffset : st.offsetMs = some offset) (close : |offset - trueOffset| ≤ e)
    (clientTimeMs : Int) :
    ∃ estimate, st.estimatedServerTimeMs clientTimeMs = some estimate ∧
      |(estimate : ℚ) - (clientTimeMs + trueOffset)| ≤ e + 1 / 2 := by
  refine ⟨_, by rw [estimatedServerTimeMs, isOffset, Option.map_some], ?_⟩
  have rounded := abs_roundHalfEven_sub_le ((clientTimeMs : ℚ) + offset)
  rw [abs_le] at rounded close ⊢
  constructor <;> linarith

end EventPlatform.Clock
