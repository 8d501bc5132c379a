import EventPlatform.Lib.Double

/-! # Compensated summation

Python's `sum` of floats adds up on the side what each rounding has lost, and adds that in the end.
Of numbers between zero and one it is as close as if every number had been rounded a few times. -/

namespace EventPlatform.Lib

/-- The sum so far, and what has been lost. -/
structure RunningSum where
  total : ℚ
  lost : ℚ

namespace RunningSum

/-- The greater of the two summands shows what the sum has lost of the smaller one. -/
def add (s : RunningSum) (x : ℚ) : RunningSum :=
  let t := toDouble (s.total + x)
  let lost :=
    if |x| ≤ |s.total| then toDouble (toDouble (s.total - t) + x)
    else toDouble (toDouble (x - t) + s.total)
  ⟨t, toDouble (s.lost + lost)⟩

def result (s : RunningSum) : ℚ := if s.lost = 0 then s.total else toDouble (s.total + s.lost)

end RunningSum

/-- `sum` -/
def floatSum : List ℚ → ℚ
  | [] => 0
  | x :: rest => (rest.foldl RunningSum.add ⟨x, 0⟩).result

/-! ## What is lost -/

/-- The loss itself is known up to three roundings. -/
theorem lost_close {big small t : ℚ} (nonneg : 0 ≤ small) (atMostOne : small ≤ 1)
    (loss : |big + small - t| ≤ 1 / 2 ^ 27) :
    |toDouble (toDouble (big - t) + small) - (big + small - t)| ≤ 3 / 2 ^ 53 := by
  have tiny := minNormal_le
  have loss' := abs_le.mp loss
  have rest : |big - t| ≤ 2 := by
    rw [abs_le]
    constructor <;> linarith [loss'.1, loss'.2]
  have first := abs_le.mp (abs_toDouble_sub_le rest (by linarith))
  have rest' : |toDouble (big - t) + small| ≤ 1 := by
    rw [abs_le]
    constructor <;> linarith [loss'.1, loss'.2, first.1, first.2]
  have second := abs_le.mp (abs_toDouble_sub_le rest' (by linarith))
  rw [abs_le]
  constructor <;> linarith [first.1, first.2, second.1, second.2]

namespace RunningSum

/-- After `k` numbers between zero and one, of the sum `exact`. -/
structure Tracks (k : Nat) (exact : ℚ) (s : RunningSum) : Prop where
  nonneg : 0 ≤ s.total
  total : s.total ≤ k
  lost : |s.lost| ≤ k / 2 ^ 25
  close : |s.total + s.lost - exact| ≤ 6 * k / 2 ^ 53

variable {k : Nat} {exact x : ℚ} {s : RunningSum}

theorem Tracks.first (nonneg : 0 ≤ x) (atMostOne : x ≤ 1) : Tracks 1 x ⟨x, 0⟩ where
  nonneg := nonneg
  total := by simpa using atMostOne
  lost := by norm_num
  close := by norm_num

/-- One addition rounds once. -/
theorem Tracks.total_add (tracks : s.Tracks k exact) (few : k + 1 ≤ 2 ^ 26) (nonneg : 0 ≤ x) (atMostOne : x ≤ 1) :
    0 ≤ (s.add x).total ∧ (s.add x).total ≤ (k + 1 : Nat) ∧ |s.total + x - (s.add x).total| ≤ 1 / 2 ^ 27 := by
  have few' : (k : ℚ) + 1 ≤ 2 ^ 26 := by exact_mod_cast few
  have below : s.total + x ≤ (k + 1 : Nat) := by
    push_cast
    linarith [tracks.total]
  obtain ⟨total_nonneg, total_le, close⟩ :=
    toDouble_close (add_nonneg tracks.nonneg nonneg) below (Nat.succ_le_succ k.zero_le) (by omega)
  refine ⟨total_nonneg, total_le, ?_⟩
  rw [abs_sub_comm]
  refine close.trans ?_
  push_cast
  linarith

/-- What is added to the losses is the loss of the addition, whichever summand is the greater one. -/
theorem Tracks.lost_add (tracks : s.Tracks k exact) (few : k + 1 ≤ 2 ^ 26) (nonneg : 0 ≤ x) (atMostOne : x ≤ 1) :
    ∃ lost, (s.add x).lost = toDouble (s.lost + lost) ∧ |lost - (s.total + x - (s.add x).total)| ≤ 3 / 2 ^ 53 := by
  have loss : |s.total + x - toDouble (s.total + x)| ≤ 1 / 2 ^ 27 := (tracks.total_add few nonneg atMostOne).2.2
  by_cases greater : |x| ≤ |s.total|
  · exact ⟨_, by simp only [RunningSum.add, if_pos greater], lost_close nonneg atMostOne loss⟩
  · have less : s.total ≤ 1 := by
      rw [abs_of_nonneg nonneg, abs_of_nonneg tracks.nonneg] at greater
      linarith
    refine ⟨toDouble (toDouble (x - toDouble (s.total + x)) + s.total),
      by simp only [RunningSum.add, if_neg greater], ?_⟩
    show |_ - (s.total + x - toDouble (s.total + x))| ≤ _
    rw [add_comm s.total x] at loss ⊢
    exact lost_close tracks.nonneg less loss

theorem Tracks.add (tracks : s.Tracks k exact) (few : k + 1 ≤ 2 ^ 26) (nonneg : 0 ≤ x) (atMostOne : x ≤ 1) :
    (s.add x).Tracks (k + 1) (exact + x) := by
  have tiny := minNormal_le
  have known : (0 : ℚ) ≤ k := Nat.cast_nonneg k
  have few' : (k : ℚ) + 1 ≤ 2 ^ 26 := by exact_mod_cast few
  obtain ⟨total_nonneg, total_le, loss⟩ := tracks.total_add few nonneg atMostOne
  obtain ⟨lost, same, close⟩ := tracks.lost_add few nonneg atMostOne
  have loss := abs_le.mp loss
  have close := abs_le.mp close
  have before := abs_le.mp tracks.lost
  have small : |s.lost + lost| ≤ ((k : ℚ) + 1 / 2) / 2 ^ 25 := by
    rw [abs_le]
    constructor <;> linarith [before.1, before.2, loss.1, loss.2, close.1, close.2]
  have carried := abs_le.mp (abs_toDouble_sub_le small (by linarith))
  have small := abs_le.mp small
  have drift := abs_le.mp tracks.close
  refine ⟨total_nonneg, total_le, ?_, ?_⟩
  · rw [same, abs_le]
    push_cast
    constructor <;> linarith [small.1, small.2, carried.1, carried.2]
  · rw [same, abs_le]
    push_cast
    constructor <;> linarith [close.1, close.2, carried.1, carried.2, drift.1, drift.2]

theorem Tracks.foldl (tracks : s.Tracks k exact) {rest : List ℚ} (few : k + rest.length ≤ 2 ^ 26)
    (bounded : ∀ x ∈ rest, 0 ≤ x ∧ x ≤ 1) :
    (rest.foldl RunningSum.add s).Tracks (k + rest.length) (exact + rest.sum) := by
  induction rest generalizing k exact s with
  | nil => simpa using tracks
  | cons x rest ih =>
    rw [List.length_cons] at few
    obtain ⟨nonneg, atMostOne⟩ := bounded x List.mem_cons_self
    have next := ih (tracks.add (by omega) nonneg atMostOne) (by omega)
      fun y member => bounded y (List.mem_cons_of_mem _ member)
    rw [List.foldl_cons, List.sum_cons, List.length_cons]
    rwa [add_assoc, add_assoc, add_comm 1] at next

theorem Tracks.result (tracks : s.Tracks k exact) (some_ : 1 ≤ k) : |s.result - exact| ≤ 8 * k / 2 ^ 53 := by
  have tiny := minNormal_le
  have known : (1 : ℚ) ≤ k := by exact_mod_cast some_
  have drift := abs_le.mp tracks.close
  have total := tracks.total
  have nonneg := tracks.nonneg
  simp only [RunningSum.result]
  split
  next none_ =>
    rw [none_] at drift
    rw [abs_le]
    constructor <;> linarith [drift.1, drift.2]
  next =>
    have lost := abs_le.mp tracks.lost
    have small : |s.total + s.lost| ≤ 2 * k := by
      rw [abs_le]
      constructor <;> linarith [lost.1, lost.2]
    have rounded := abs_le.mp (abs_toDouble_sub_le small (by linarith))
    rw [abs_le]
    constructor <;> linarith [drift.1, drift.2, rounded.1, rounded.2]

end RunningSum

/-- The error of the sum grows with the count only. -/
theorem floatSum_close {xs : List ℚ} (few : xs.length ≤ 2 ^ 26) (bounded : ∀ x ∈ xs, 0 ≤ x ∧ x ≤ 1) :
    |floatSum xs - xs.sum| ≤ 8 * xs.length / 2 ^ 53 := by
  cases xs with
  | nil => simp [floatSum]
  | cons x rest =>
    rw [List.length_cons, add_comm] at few
    obtain ⟨nonneg, atMostOne⟩ := bounded x List.mem_cons_self
    have tracks := (RunningSum.Tracks.first nonneg atMostOne).foldl few
      fun y member => bounded y (List.mem_cons_of_mem _ member)
    have close := tracks.result (by omega)
    rw [List.sum_cons, List.length_cons, add_comm rest.length]
    exact close

-- ten times a tenth is one, where plain addition gives less
example : floatSum (List.replicate 10 (toDouble (1 / 10))) = 1 := by decide +kernel

end EventPlatform.Lib
