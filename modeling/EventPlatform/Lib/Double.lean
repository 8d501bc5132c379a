import Mathlib.Data.Int.Log
import Mathlib.Data.Rat.Floor
import Mathlib.Tactic.Linarith
import Mathlib.Tactic.Positivity
import Mathlib.Tactic.Ring

/-! # Double precision

A double keeps 53 bits of a number, and none below `2 ^ -1074`.  Arithmetic on doubles makes of an
exact result the nearest double, and of a tie the one whose last bit is zero.  `toDouble` rounds
as if there were no largest double; `Number` has the infinities. -/

namespace EventPlatform.Lib

/-! ## Rounding to whole numbers -/

/-- Python's `round`: a tie goes to the even neighbour. -/
def roundHalfEven (x : ℚ) : Int :=
  let rest := x - ⌊x⌋
  if rest < 1 / 2 then ⌊x⌋
  else if 1 / 2 < rest then ⌊x⌋ + 1
  else if ⌊x⌋ % 2 = 0 then ⌊x⌋ else ⌊x⌋ + 1

theorem abs_roundHalfEven_sub_le (x : ℚ) : |(roundHalfEven x : ℚ) - x| ≤ 1 / 2 := by
  have low := Int.floor_le x
  have high := Int.lt_floor_add_one x
  simp only [roundHalfEven]
  split_ifs <;> rw [abs_le] <;> push_cast <;> constructor <;> linarith

theorem roundHalfEven_intCast (n : Int) : roundHalfEven n = n := by
  simp [roundHalfEven]

/-- Rounding passes no whole number. -/
theorem roundHalfEven_le {x : ℚ} {n : Int} (le : x ≤ n) : roundHalfEven x ≤ n := by
  have below : ⌊x⌋ ≤ n := Int.floor_le_iff.mpr (by linarith)
  cases below.eq_or_lt with
  | inl same =>
    have whole : x = n := le_antisymm le (same ▸ Int.floor_le x)
    rw [whole, roundHalfEven_intCast]
  | inr less =>
    simp only [roundHalfEven]
    split_ifs <;> omega

theorem le_roundHalfEven {x : ℚ} {n : Int} (le : n ≤ x) : n ≤ roundHalfEven x := by
  have above : n ≤ ⌊x⌋ := Int.le_floor.mpr le
  simp only [roundHalfEven]
  split_ifs <;> omega

/-- Python's `int`, which cuts towards zero. -/
def truncate (x : ℚ) : Int := if 0 ≤ x then ⌊x⌋ else ⌈x⌉

theorem truncate_eq_iff {x : ℚ} {n : Int} :
    truncate x = n ↔ (0 ≤ x ∧ n ≤ x ∧ x < n + 1) ∨ (x < 0 ∧ n - 1 < x ∧ x ≤ n) := by
  unfold truncate
  split
  next nonneg => rw [Int.floor_eq_iff]; simp [nonneg, not_lt.mpr nonneg]
  next negative =>
    have negative := not_le.mp negative
    rw [Int.ceil_eq_iff]
    simp [negative, not_le.mpr negative]

theorem truncate_pos {x : ℚ} : 0 < truncate x ↔ 1 ≤ x := by
  unfold truncate
  split
  next nonneg => exact Int.floor_pos
  next negative =>
    have below : ⌈x⌉ ≤ 0 := Int.ceil_le.mpr (by push_cast; linarith)
    exact iff_of_false (by omega) (by linarith)

/-! ## Rounding to doubles -/

/-- The value of the last of the 53 bits. -/
def lastBit (x : ℚ) : ℚ := 2 ^ max (Int.log 2 |x| - 52) (-1074)

/-- The nearest double. -/
def toDouble (x : ℚ) : ℚ := roundHalfEven (x / lastBit x) * lastBit x

/-- The least positive double that keeps all its bits. -/
def minNormal : ℚ := 2 ^ (-1022 : Int)

theorem lastBit_pos (x : ℚ) : 0 < lastBit x := zpow_pos (by norm_num) _

theorem minNormal_le : minNormal ≤ 1 / 2 ^ 200 := by
  have power : (2 : ℚ) ^ (-1022 : Int) ≤ 2 ^ (-200 : Int) := zpow_le_zpow_right₀ (by norm_num) (by norm_num)
  rw [minNormal, one_div, ← zpow_natCast, ← zpow_neg]
  exact power

theorem lastBit_le {x bound : ℚ} (nonzero : x ≠ 0) (small : |x| ≤ bound) (normal : minNormal ≤ bound) :
    lastBit x ≤ bound / 2 ^ 52 := by
  have split : ∀ e : Int, (2 : ℚ) ^ (e - 52) = 2 ^ e / 2 ^ 52 := fun e => zpow_sub₀ (by norm_num) e 52
  rw [lastBit]
  cases max_choice (Int.log 2 |x| - 52) (-1074) with
  | inl kept =>
    have power : (2 : ℚ) ^ Int.log 2 |x| ≤ |x| := Int.zpow_log_le_self (by norm_num) (abs_pos.mpr nonzero)
    rw [kept, split]
    exact div_le_div_of_nonneg_right (power.trans small) (by norm_num)
  | inr cut =>
    rw [cut, show (-1074 : Int) = -1022 - 52 by norm_num, split]
    exact div_le_div_of_nonneg_right normal (by norm_num)

@[simp] theorem toDouble_zero : toDouble 0 = 0 := by
  simp [toDouble, roundHalfEven]

/-- Half of the last bit is the most that rounding can change. -/
theorem abs_toDouble_sub_le {x bound : ℚ} (small : |x| ≤ bound) (normal : minNormal ≤ bound) :
    |toDouble x - x| ≤ bound / 2 ^ 53 := by
  by_cases zero : x = 0
  · subst zero
    have nonneg : 0 ≤ bound := (abs_nonneg _).trans small
    simpa using div_nonneg nonneg (by norm_num)
  · have positive := lastBit_pos x
    have scaled : toDouble x - x = (roundHalfEven (x / lastBit x) - x / lastBit x) * lastBit x := by
      rw [toDouble, sub_mul, div_mul_cancel₀ _ positive.ne']
    have rounded := abs_roundHalfEven_sub_le (x / lastBit x)
    calc |toDouble x - x|
        = |(roundHalfEven (x / lastBit x) : ℚ) - x / lastBit x| * lastBit x := by
          rw [scaled, abs_mul, abs_of_pos positive]
      _ ≤ 1 / 2 * lastBit x := mul_le_mul_of_nonneg_right rounded positive.le
      _ ≤ bound / 2 ^ 53 := by
          have := lastBit_le zero small normal
          linarith [show bound / 2 ^ 53 = 1 / 2 * (bound / 2 ^ 52) by ring]

theorem toDouble_bounds {x : ℚ} (nonneg : 0 ≤ x) :
    x - (x + 1 / 2 ^ 200) / 2 ^ 53 ≤ toDouble x ∧ toDouble x ≤ x + (x + 1 / 2 ^ 200) / 2 ^ 53 := by
  have small : |x| ≤ x + 1 / 2 ^ 200 := by
    rw [abs_of_nonneg nonneg]
    linarith [show (0 : ℚ) ≤ 1 / 2 ^ 200 by positivity]
  have close := abs_le.mp (abs_toDouble_sub_le small (minNormal_le.trans (by linarith)))
  constructor <;> linarith [close.1, close.2]

theorem toDouble_nonpos {x : ℚ} (nonpos : x ≤ 0) : toDouble x ≤ 0 := by
  have rounded : roundHalfEven (x / lastBit x) ≤ 0 :=
    roundHalfEven_le (by rw [Int.cast_zero]; exact div_nonpos_of_nonpos_of_nonneg nonpos (lastBit_pos x).le)
  exact mul_nonpos_of_nonpos_of_nonneg (by exact_mod_cast rounded) (lastBit_pos x).le

theorem toDouble_nonneg {x : ℚ} (nonneg : 0 ≤ x) : 0 ≤ toDouble x := by
  have rounded : 0 ≤ roundHalfEven (x / lastBit x) :=
    le_roundHalfEven (by rw [Int.cast_zero]; exact div_nonneg nonneg (lastBit_pos x).le)
  exact mul_nonneg (by exact_mod_cast rounded) (lastBit_pos x).le

/-- Rounding passes no whole number that is a double. -/
theorem toDouble_le_natCast {x : ℚ} {n : Nat} (le : x ≤ n) (small : n < 2 ^ 53) : toDouble x ≤ n := by
  cases le_or_gt x 0 with
  | inl nonpos => exact (toDouble_nonpos nonpos).trans (Nat.cast_nonneg n)
  | inr positive =>
    have below : x < (2 : ℚ) ^ (53 : Int) := lt_of_le_of_lt le (by exact_mod_cast small)
    have log : Int.log 2 |x| < 53 := by
      rw [abs_of_pos positive]
      exact (Int.lt_zpow_iff_log_lt (by norm_num) positive).mp (by exact_mod_cast below)
    -- the last bit divides every whole number
    obtain ⟨fraction, exponent⟩ : ∃ k : Nat, max (Int.log 2 |x| - 52) (-1074) = -(k : Int) :=
      ⟨(-max (Int.log 2 |x| - 52) (-1074)).toNat, by omega⟩
    have bits : (n : ℚ) = ((n * 2 ^ fraction : Int) : ℚ) * lastBit x := by
      rw [lastBit, exponent, zpow_neg, zpow_natCast]
      push_cast
      rw [mul_assoc, mul_inv_cancel₀ (by positivity), mul_one]
    have scaled : x / lastBit x ≤ ((n * 2 ^ fraction : Int) : ℚ) := by
      rw [div_le_iff₀ (lastBit_pos x), ← bits]
      exact le
    have rounded : (roundHalfEven (x / lastBit x) : ℚ) ≤ ((n * 2 ^ fraction : Int) : ℚ) := by
      exact_mod_cast roundHalfEven_le scaled
    rw [bits]
    exact mul_le_mul_of_nonneg_right rounded (lastBit_pos x).le

/-- What lies between zero and a whole number still does when it is rounded, and has hardly moved. -/
theorem toDouble_close {x : ℚ} {n : Nat} (nonneg : 0 ≤ x) (le : x ≤ n) (positive : 1 ≤ n) (small : n < 2 ^ 53) :
    0 ≤ toDouble x ∧ toDouble x ≤ n ∧ |toDouble x - x| ≤ n / 2 ^ 53 := by
  have positive : (1 : ℚ) ≤ n := by exact_mod_cast positive
  refine ⟨toDouble_nonneg nonneg, toDouble_le_natCast le small, abs_toDouble_sub_le ?_ ?_⟩
  · rwa [abs_of_nonneg nonneg]
  · exact minNormal_le.trans (le_trans (by norm_num) positive)

/-- What is a multiple of its last bit is a double already. -/
theorem toDouble_eq_self_iff {x : ℚ} : toDouble x = x ↔ ∃ n : Int, x = n * lastBit x := by
  have positive := lastBit_pos x
  constructor
  · exact fun same => ⟨_, same.symm⟩
  · rintro ⟨n, multiple⟩
    have whole : x / lastBit x = n := (div_eq_iff positive.ne').mpr multiple
    rw [toDouble, whole, roundHalfEven_intCast, ← multiple]

/-! ## The numbers of a browser -/

inductive Number where
  | finite (value : ℚ)
  | infinity (negative : Bool)
  | nan
deriving DecidableEq

namespace Number

/-- The number that an exact result becomes. -/
def ofExact (x : ℚ) : Number :=
  if 2 ^ 1024 ≤ |toDouble x| then .infinity (x < 0) else .finite (toDouble x)

def add : Number → Number → Number
  | .finite x, .finite y => ofExact (x + y)
  | .finite _, .infinity negative | .infinity negative, .finite _ => .infinity negative
  | .infinity negative, .infinity negative' => if negative = negative' then .infinity negative else .nan
  | .nan, _ | _, .nan => .nan

def mul : Number → Number → Number
  | .finite x, .finite y => ofExact (x * y)
  | .finite x, .infinity negative | .infinity negative, .finite x =>
    if x = 0 then .nan else .infinity (negative != decide (x < 0))
  | .infinity negative, .infinity negative' => .infinity (negative != negative')
  | .nan, _ | _, .nan => .nan

/-- Neither zero nor `NaN`. -/
def truthy : Number → Bool
  | .finite x => x ≠ 0
  | .infinity _ => true
  | .nan => false

/-- At most 53 bits, of which the last has the value `2 ^ k`. -/
def IsDouble (n : Int) : Prop := ∃ k < 972, (2 : Int) ^ k ∣ n ∧ |n| < 2 ^ (53 + k)

instance (n : Int) : Decidable (IsDouble n) := inferInstanceAs (Decidable (∃ k < 972, _))

theorem abs_intCast_lt_iff {n : Int} {e : Nat} : |(n : ℚ)| < 2 ^ e ↔ |n| < 2 ^ e := by
  exact_mod_cast Iff.rfl

/-- The first of the bits of a whole number. -/
theorem log_bounds {n : Int} (nonzero : n ≠ 0) :
    ∃ first : Nat, Int.log 2 |(n : ℚ)| = first ∧ (2 : Int) ^ first ≤ |n| ∧ |n| < 2 ^ (first + 1) := by
  have cast : |(n : ℚ)| = ((n.natAbs : Nat) : ℚ) := by simp [Nat.cast_natAbs]
  refine ⟨Nat.log 2 n.natAbs, by rw [cast, Int.log_natCast], ?_, ?_⟩
  · rw [← Int.natCast_natAbs]
    exact_mod_cast Nat.pow_log_le_self 2 (Int.natAbs_ne_zero.mpr nonzero)
  · rw [← Int.natCast_natAbs]
    exact_mod_cast Nat.lt_pow_succ_log_self (by norm_num) n.natAbs

/-- Rounding keeps the multiples of the last bit. -/
theorem toDouble_intCast_iff {n : Int} {first : Nat} (log : Int.log 2 |(n : ℚ)| = first) :
    toDouble n = n ↔ (2 : Int) ^ (first - 52) ∣ n := by
  have bits : max ((first : Int) - 52) (-1074) = first - 52 := by omega
  rw [toDouble_eq_self_iff, lastBit, log, bits]
  cases Nat.le_total first 52 with
  | inl small =>
    -- the last bit lies at the point or behind it
    obtain ⟨rest, split⟩ := Nat.exists_eq_add_of_le small
    have exponent : (first : Int) - 52 = -(rest : Int) := by omega
    refine iff_of_true ⟨n * 2 ^ rest, ?_⟩ (by simp [Nat.sub_eq_zero_of_le small])
    rw [exponent, zpow_neg, zpow_natCast]
    push_cast
    rw [mul_assoc, mul_inv_cancel₀ (by positivity), mul_one]
  | inr large =>
    have exponent : (first : Int) - 52 = ((first - 52 : Nat) : Int) := by omega
    rw [exponent, zpow_natCast]
    constructor
    · rintro ⟨z, multiple⟩
      exact ⟨z, by rw [mul_comm]; exact_mod_cast multiple⟩
    · rintro ⟨z, multiple⟩
      exact ⟨z, by rw [mul_comm]; exact_mod_cast multiple⟩

/-- A whole number is kept exactly when it is a double. -/
theorem ofExact_intCast_iff {n : Int} : ofExact n = .finite n ↔ IsDouble n := by
  by_cases zero : n = 0
  · subst zero
    exact iff_of_true (by simp [ofExact]) ⟨0, by norm_num, by simp, by simp⟩
  obtain ⟨first, log, low, high⟩ := log_bounds zero
  have kept := toDouble_intCast_iff log
  constructor
  · intro same
    unfold ofExact at same
    split at same
    next => cases same
    next finite =>
      have same := Number.finite.inj same
      rw [same, not_le, abs_intCast_lt_iff] at finite
      have first_lt := (pow_lt_pow_iff_right₀ (by norm_num : (1 : Int) < 2)).mp (low.trans_lt finite)
      exact ⟨first - 52, by omega, kept.mp same,
        high.trans_le (pow_le_pow_right₀ (by norm_num) (by omega))⟩
  · rintro ⟨k, bounded, divides, small⟩
    have first_lt := (pow_lt_pow_iff_right₀ (by norm_num : (1 : Int) < 2)).mp (low.trans_lt small)
    have same : toDouble n = n := kept.mpr ((pow_dvd_pow 2 (by omega)).trans divides)
    have finite : |n| < 2 ^ 1024 := small.trans_le (pow_le_pow_right₀ (by norm_num) (by omega))
    rw [ofExact, same, if_neg (not_le.mpr (abs_intCast_lt_iff.mpr finite))]

end Number

end EventPlatform.Lib
