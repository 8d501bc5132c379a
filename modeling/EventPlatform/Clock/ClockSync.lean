import EventPlatform.Lib.Double
import EventPlatform.Lib.Median

/-! # Server clock estimation

One exchange gives a sample: the round trip measured on the monotonic clock and
the offset under the assumption of equal delays.  Samples with a long round trip
are dropped, and the estimate is the median of the rest.  Times are exact
rationals here; the source computes them in floating point. -/

namespace EventPlatform.Clock

open EventPlatform.Lib

structure ClockSample where
  clientSendMs : ℚ
  serverMs : ℚ
  clientReceiveMs : ℚ
  rttMs : ℚ
  offsetMs : ℚ
deriving DecidableEq

/-- The monotonic readings are in seconds, the wall clock ones in milliseconds. -/
def makeSample (clientSendMs serverMs clientReceiveMs monotonicSend monotonicReceive : ℚ) :
    ClockSample where
  clientSendMs := clientSendMs
  serverMs := serverMs
  clientReceiveMs := clientReceiveMs
  rttMs := max 0 ((monotonicReceive - monotonicSend) * 1000)
  offsetMs := serverMs - (clientSendMs + clientReceiveMs) / 2

inductive ClockStatus where
  | unsynchronised
  | synchronised
  | insufficient
deriving DecidableEq

structure ClockSyncState where
  samples : List ClockSample
  offsetMs : Option ℚ
  rttMs : Option ℚ
  status : ClockStatus
deriving DecidableEq

def ClockSyncState.fresh : ClockSyncState := ⟨[], none, none, .unsynchronised⟩

def maxRttDefault : ℚ := 2000

/-- Whether the sample was taken, and the state after it. -/
def ClockSyncState.add (st : ClockSyncState) (sample : ClockSample) (maxRttMs : ℚ) :
    Bool × ClockSyncState :=
  if sample.rttMs < 0 ∨ maxRttMs < sample.rttMs then (false, st)
  else (true, { st with samples := st.samples ++ [sample] })

def minimumSamplesDefault : Nat := 3

def ClockSyncState.finalize (st : ClockSyncState) (minimumSamples : Nat) : ClockSyncState :=
  if st.samples = [] then
    { st with status := .unsynchronised, offsetMs := none, rttMs := none }
  else
    { st with
      offsetMs := some (median (st.samples.map (·.offsetMs)))
      rttMs := some (median (st.samples.map (·.rttMs)))
      status := if minimumSamples ≤ st.samples.length then .synchronised else .insufficient }

/-- The caller's clock reading is passed in. -/
def ClockSyncState.estimatedServerTimeMs (st : ClockSyncState) (clientTimeMs : Int) : Option Int :=
  st.offsetMs.map fun offset => roundHalfEven (clientTimeMs + offset)

/-! ## The accepted samples -/

def accepts (sample : ClockSample) (maxRttMs : ℚ) : Bool :=
  0 ≤ sample.rttMs ∧ sample.rttMs ≤ maxRttMs

/-- A batch of calls of `add`, each with its own limit. -/
def ClockSyncState.addAll (st : ClockSyncState) (calls : List (ClockSample × ℚ)) :
    ClockSyncState :=
  calls.foldl (fun st call => (st.add call.1 call.2).2) st

theorem ClockSyncState.add_samples (st : ClockSyncState) (sample : ClockSample) (maxRttMs : ℚ) :
    (st.add sample maxRttMs).2.samples =
      st.samples ++ if accepts sample maxRttMs then [sample] else [] := by
  simp only [add, accepts]
  by_cases rejected : sample.rttMs < 0 ∨ maxRttMs < sample.rttMs
  · have unaccepted : ¬ (0 ≤ sample.rttMs ∧ sample.rttMs ≤ maxRttMs) := by
      rwa [not_and_or, not_le, not_le]
    simp [rejected, unaccepted]
  · have accepted : 0 ≤ sample.rttMs ∧ sample.rttMs ≤ maxRttMs := by
      rwa [not_or, not_lt, not_lt] at rejected
    simp [rejected, accepted]

theorem ClockSyncState.addAll_samples (st : ClockSyncState) (calls : List (ClockSample × ℚ)) :
    (st.addAll calls).samples =
      st.samples ++ (calls.filter fun call => accepts call.1 call.2).map (·.1) := by
  induction calls generalizing st with
  | nil => simp [addAll]
  | cons call calls ih =>
    show (((st.add call.1 call.2).2).addAll calls).samples = _
    rw [ih, add_samples, List.filter_cons]
    cases accepts call.1 call.2 <;> simp

@[simp] theorem ClockSyncState.finalize_samples (st : ClockSyncState) (minimumSamples : Nat) :
    (st.finalize minimumSamples).samples = st.samples := by
  simp only [finalize]
  split <;> rfl

theorem ClockSyncState.finalize_offset {st : ClockSyncState} (some_ : st.samples ≠ [])
    (minimumSamples : Nat) :
    (st.finalize minimumSamples).offsetMs = some (median (st.samples.map (·.offsetMs))) := by
  rw [finalize, if_neg some_]

end EventPlatform.Clock
