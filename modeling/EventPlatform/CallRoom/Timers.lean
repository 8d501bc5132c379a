import EventPlatform.CallRoom.Page
import EventPlatform.Clock.ClockSyncClient

/-! # The timers of the server and of the page

Both add the offset to the client's clock and round to whole milliseconds.  Python rounds a
tie to the even neighbour and JavaScript rounds it up, and offsets are halves whenever a
round trip takes an odd number of milliseconds. -/

namespace EventPlatform.CallRoom

open EventPlatform.Lib EventPlatform.Clock

/-! ## The timers -/

/-- `compute_remaining_ms` -/
def computeRemainingMs (roundEndTs : Int) (offsetMs : ℚ) (clientNowMs : Int) : Int :=
  let estimatedServerNow := roundHalfEven (clientNowMs + offsetMs)
  max 0 (roundEndTs - estimatedServerNow)

/-- `computeRemainingMs` of the page -/
def CallRoomPage.computeRemainingMs (roundEndTs : Int) (offsetMs : ℚ) (clientNowMs : Int) : Int :=
  let estimatedServerNow := mathRound (clientNowMs + offsetMs)
  max 0 (roundEndTs - estimatedServerNow)

/-- One offset gives the server and the page one server time and one time left. -/
structure TimersAgree (roundEndTs clientNowMs : Int) (offsetMs : ℚ) : Prop where
  remaining : computeRemainingMs roundEndTs offsetMs clientNowMs =
    CallRoomPage.computeRemainingMs roundEndTs offsetMs clientNowMs
  serverTime : ∀ (st : ClockSyncState) (client : ClockSyncClient), st.offsetMs = some offsetMs →
    client.offsetMs = some offsetMs → st.estimatedServerTimeMs clientNowMs = client.estimatedServerNowMs clientNowMs

/-! ## Rounding -/

/-- Half-way between an even number and the next. -/
def EvenTie (x : ℚ) : Prop := x - ⌊x⌋ = 1 / 2 ∧ ⌊x⌋ % 2 = 0

instance (x : ℚ) : Decidable (EvenTie x) := inferInstanceAs (Decidable (_ ∧ _))

theorem mathRound_eq_floor (x : ℚ) : mathRound x = if x - ⌊x⌋ < 1 / 2 then ⌊x⌋ else ⌊x⌋ + 1 := by
  have low := Int.floor_le x
  have high := Int.lt_floor_add_one x
  rw [mathRound, Int.floor_eq_iff]
  split <;> push_cast <;> constructor <;> linarith

/-- The two ways of rounding part at half-way from an even number to the next, and only there. -/
theorem mathRound_eq (x : ℚ) : mathRound x = if EvenTie x then roundHalfEven x + 1 else roundHalfEven x := by
  rw [mathRound_eq_floor, roundHalfEven]
  by_cases below : x - ⌊x⌋ < 1 / 2
  · have noTie : ¬ EvenTie x := fun tie => by linarith [tie.1]
    rw [if_pos below, if_neg noTie]
    simp only [if_pos below]
  · by_cases above : 1 / 2 < x - ⌊x⌋
    · have noTie : ¬ EvenTie x := fun tie => by linarith [tie.1]
      rw [if_neg below, if_neg noTie]
      simp only [if_neg below, if_pos above]
    · have half : x - ⌊x⌋ = 1 / 2 := le_antisymm (not_lt.mp above) (not_lt.mp below)
      simp only [if_neg below, if_neg above]
      by_cases even : ⌊x⌋ % 2 = 0
      · rw [if_pos ⟨half, even⟩, if_pos even]
      · rw [if_neg fun tie : EvenTie x => even tie.2, if_neg even]

theorem mathRound_eq_roundHalfEven_iff (x : ℚ) : mathRound x = roundHalfEven x ↔ ¬ EvenTie x := by
  rw [mathRound_eq]
  split
  next tie => exact iff_of_false (by omega) (not_not.mpr tie)
  next noTie => exact iff_of_true rfl noTie

/-! ## Where the timers part -/

/-- The timers agree exactly when the client's clock and the offset do not add up to half-way
    from an even number to the next. -/
theorem timersAgree_iff (roundEndTs clientNowMs : Int) (offsetMs : ℚ) :
    TimersAgree roundEndTs clientNowMs offsetMs ↔ ¬ EvenTie (clientNowMs + offsetMs) := by
  rw [← mathRound_eq_roundHalfEven_iff]
  constructor
  · intro agree
    have same := agree.serverTime { ClockSyncState.fresh with offsetMs := some offsetMs }
      { ClockSyncClient.fresh with offsetMs := some offsetMs } rfl rfl
    simp only [ClockSyncState.estimatedServerTimeMs, ClockSyncClient.estimatedServerNowMs, Option.map_some,
      Option.some.injEq] at same
    exact same.symm
  · intro same
    refine ⟨?_, fun st client isOffset isOffset' => ?_⟩
    · simp only [computeRemainingMs, CallRoomPage.computeRemainingMs, same]
    · rw [ClockSyncState.estimatedServerTimeMs, ClockSyncClient.estimatedServerNowMs, isOffset, isOffset',
        Option.map_some, Option.map_some, same]

/-- Of the two estimates alone, the time left hides a difference once the round is over. -/
theorem computeRemainingMs_eq_iff (roundEndTs clientNowMs : Int) (offsetMs : ℚ) :
    computeRemainingMs roundEndTs offsetMs clientNowMs =
        CallRoomPage.computeRemainingMs roundEndTs offsetMs clientNowMs ↔
      ¬ EvenTie (clientNowMs + offsetMs) ∨ roundEndTs ≤ roundHalfEven (clientNowMs + offsetMs) := by
  have rounded := mathRound_eq (clientNowMs + offsetMs)
  simp only [computeRemainingMs, CallRoomPage.computeRemainingMs]
  by_cases tie : EvenTie (clientNowMs + offsetMs)
  · rw [if_pos tie] at rounded
    simp only [rounded, tie, not_true_eq_false, false_or]
    omega
  · rw [if_neg tie] at rounded
    simp only [rounded, tie, not_false_eq_true, true_or]

/-! ## Offsets of samples -/

/-- With timestamps in whole milliseconds a sample is off by halves. -/
theorem makeSample_offset_half (clientSendMs serverMs clientReceiveMs : Int) (monotonicSend monotonicReceive : ℚ) :
    (makeSample clientSendMs serverMs clientReceiveMs monotonicSend monotonicReceive).offsetMs =
      (2 * serverMs - (clientSendMs + clientReceiveMs) : Int) / 2 := by
  simp only [makeSample]
  push_cast
  ring

/-- The median of such samples is off by quarters. -/
theorem median_quarter {offsets : List ℚ} (halves : ∀ x ∈ offsets, ∃ m : Int, x = m / 2) :
    ∃ k : Int, median offsets = k / 4 := by
  have each : ∀ i, ∃ m : Int, (offsets.insertionSort (· ≤ ·)).getD i 0 = m / 2 := by
    intro i
    by_cases inside : i < (offsets.insertionSort (· ≤ ·)).length
    · rw [List.getD_eq_getElem _ _ inside]
      exact halves _ ((List.perm_insertionSort _ _).mem_iff.mp (List.getElem_mem inside))
    · rw [List.getD_eq_default _ _ (Nat.not_lt.mp inside)]
      exact ⟨0, by simp⟩
  simp only [median]
  split
  · obtain ⟨m, same⟩ := each ((offsets.insertionSort (· ≤ ·)).length / 2)
    refine ⟨2 * m, ?_⟩
    rw [same]
    push_cast
    ring
  · obtain ⟨m, same⟩ := each ((offsets.insertionSort (· ≤ ·)).length / 2 - 1)
    obtain ⟨m', same'⟩ := each ((offsets.insertionSort (· ≤ ·)).length / 2)
    refine ⟨m + m', ?_⟩
    rw [same, same']
    push_cast
    ring

theorem evenTie_quarter (clientNowMs k : Int) :
    EvenTie (clientNowMs + (k : ℚ) / 4) ↔ k % 4 = 2 ∧ (clientNowMs + k / 4) % 2 = 0 := by
  have split : (k : ℚ) = 4 * (k / 4 : Int) + (k % 4 : Int) := by exact_mod_cast (Int.mul_ediv_add_emod k 4).symm
  have low : (0 : ℚ) ≤ (k % 4 : Int) := by exact_mod_cast Int.emod_nonneg k (by decide)
  have high : ((k % 4 : Int) : ℚ) ≤ 3 := by
    have below := Int.emod_lt_of_pos k (by decide : (0 : Int) < 4)
    exact_mod_cast (by omega : k % 4 ≤ 3)
  have whole : ⌊(clientNowMs : ℚ) + (k : ℚ) / 4⌋ = clientNowMs + k / 4 := by
    rw [Int.floor_eq_iff]
    push_cast
    constructor <;> linarith
  have half : (clientNowMs : ℚ) + (k : ℚ) / 4 - ((clientNowMs + k / 4 : Int) : ℚ) = (k % 4 : Int) / 4 := by
    push_cast
    linarith
  rw [EvenTie, whole, half]
  refine and_congr ⟨fun tie => ?_, fun tie => ?_⟩ Iff.rfl
  · have two : ((k % 4 : Int) : ℚ) = 2 := by linarith
    exact_mod_cast two
  · rw [tie]
    norm_num

/-- For the quarters that a median can yield: the timers part at the halves with an even
    number below. -/
theorem timersAgree_quarter (roundEndTs clientNowMs k : Int) :
    TimersAgree roundEndTs clientNowMs (k / 4) ↔ ¬ (k % 4 = 2 ∧ (clientNowMs + k / 4) % 2 = 0) := by
  rw [timersAgree_iff, evenTie_quarter]

/-- Three samples with a round trip of one millisecond: the server is half a millisecond ahead,
    and the page has a millisecond less than the server. -/
theorem timers_part_by_one :
    let samples := List.replicate 3 (makeSample 1000 1001 1001 10 (10 + 1 / 1000))
    median (samples.map (·.offsetMs)) = 1 / 2 ∧ ¬ TimersAgree 5000 2000 (1 / 2) ∧
      computeRemainingMs 5000 (1 / 2) 2000 = 3000 ∧ CallRoomPage.computeRemainingMs 5000 (1 / 2) 2000 = 2999 := by
  intro samples
  refine ⟨by decide +kernel, fun agree => ?_, by decide +kernel, by decide +kernel⟩
  have same := agree.remaining
  exact absurd same (by decide +kernel)

end EventPlatform.CallRoom
