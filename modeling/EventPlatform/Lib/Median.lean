import Mathlib

/-! # The median of a list

`median` sorts and takes the middle element, or the mean of the two middle
elements of a list of even length.  A bound that more than half of the elements
respect is a bound of the median, whatever the other elements are. -/

namespace EventPlatform.Lib

section OrderStatistics

variable {α : Type*} [LinearOrder α] {xs : List α}

/-- More than `k` elements are at most `b`, so the element at position `k` is. -/
theorem getElem_le_of_countP (sorted : xs.Pairwise (· ≤ ·)) {k : Nat} (inside : k < xs.length)
    {b : α} (many : k < xs.countP (· ≤ b)) : xs[k] ≤ b := by
  by_contra above
  rw [not_le] at above
  -- from position `k` on every element is larger
  have none : (xs.drop k).countP (· ≤ b) = 0 := by
    apply List.countP_eq_zero.mpr
    intro x member
    obtain ⟨i, inDrop, rfl⟩ := List.getElem_of_mem member
    rw [List.length_drop] at inDrop
    have order : xs[k] ≤ xs[k + i] := by
      cases i with
      | zero => exact le_refl _
      | succ i => exact List.pairwise_iff_getElem.mp sorted k (k + (i + 1)) inside (by omega) (by omega)
    rw [List.getElem_drop, decide_eq_true_eq, not_le]
    exact lt_of_lt_of_le above order
  have few : (xs.take k).countP (· ≤ b) ≤ k := by
    refine List.countP_le_length.trans ?_
    rw [List.length_take]
    omega
  rw [← List.take_append_drop k xs, List.countP_append, none] at many
  omega

/-- Fewer than `k` elements are below `b`, counted from the other end. -/
theorem le_getElem_of_countP (sorted : xs.Pairwise (· ≤ ·)) {k : Nat} (inside : k < xs.length)
    {b : α} (many : xs.length - 1 - k < xs.countP (b ≤ ·)) : b ≤ xs[k] := by
  by_contra below
  rw [not_le] at below
  have none : (xs.take (k + 1)).countP (b ≤ ·) = 0 := by
    apply List.countP_eq_zero.mpr
    intro x member
    obtain ⟨i, inTake, rfl⟩ := List.getElem_of_mem member
    rw [List.length_take] at inTake
    have order : xs[i] ≤ xs[k] := by
      rcases Nat.lt_or_ge i k with before | same
      · exact List.pairwise_iff_getElem.mp sorted i k (by omega) inside before
      · exact le_of_eq (by congr 1; omega)
    rw [List.getElem_take, decide_eq_true_eq, not_le]
    exact lt_of_le_of_lt order below
  have few : (xs.drop (k + 1)).countP (b ≤ ·) ≤ xs.length - 1 - k := by
    refine List.countP_le_length.trans ?_
    rw [List.length_drop]
    omega
  rw [← List.take_append_drop (k + 1) xs, List.countP_append, none] at many
  rw [List.take_append_drop] at many
  omega

end OrderStatistics

section Median

variable {α : Type*} [Field α] [LinearOrder α] [IsStrictOrderedRing α]

/-- `statistics.median` of a non-empty list. -/
def median (xs : List α) : α :=
  let sorted := xs.insertionSort (· ≤ ·)
  let half := sorted.length / 2
  if sorted.length % 2 = 1 then sorted.getD half 0
  else (sorted.getD (half - 1) 0 + sorted.getD half 0) / 2

/-- What more than half of the elements do not exceed, the median does not exceed. -/
theorem median_le {xs : List α} {b : α} (most : xs.length < 2 * xs.countP (· ≤ b)) :
    median xs ≤ b := by
  have perm := List.perm_insertionSort (· ≤ ·) xs
  have sorted : (xs.insertionSort (· ≤ ·)).Pairwise (· ≤ ·) := List.pairwise_insertionSort _ _
  rw [← perm.length_eq, ← perm.countP_eq] at most
  simp only [median]
  generalize xs.insertionSort (· ≤ ·) = ys at most sorted
  have bound : ys.countP (· ≤ b) ≤ ys.length := List.countP_le_length
  have upper : ∀ k (inside : k < ys.length), 2 * k ≤ ys.length → ys.getD k 0 ≤ b := by
    intro k inside half
    rw [List.getD_eq_getElem _ _ inside]
    exact getElem_le_of_countP sorted inside (by omega)
  split
  next odd => exact upper _ (by omega) (by omega)
  next even =>
    have first := upper (ys.length / 2 - 1) (by omega) (by omega)
    have second := upper (ys.length / 2) (by omega) (by omega)
    linarith

/-- What more than half of the elements reach, the median reaches. -/
theorem le_median {xs : List α} {b : α} (most : xs.length < 2 * xs.countP (b ≤ ·)) :
    b ≤ median xs := by
  have perm := List.perm_insertionSort (· ≤ ·) xs
  have sorted : (xs.insertionSort (· ≤ ·)).Pairwise (· ≤ ·) := List.pairwise_insertionSort _ _
  rw [← perm.length_eq, ← perm.countP_eq] at most
  simp only [median]
  generalize xs.insertionSort (· ≤ ·) = ys at most sorted
  have bound : ys.countP (b ≤ ·) ≤ ys.length := List.countP_le_length
  have lower : ∀ k (inside : k < ys.length), ys.length ≤ 2 * k + 2 → b ≤ ys.getD k 0 := by
    intro k inside half
    rw [List.getD_eq_getElem _ _ inside]
    exact le_getElem_of_countP sorted inside (by omega)
  split
  next odd => exact lower _ (by omega) (by omega)
  next even =>
    have first := lower (ys.length / 2 - 1) (by omega) (by omega)
    have second := lower (ys.length / 2) (by omega) (by omega)
    linarith

/-- A closed ball that holds more than half of the elements holds the median. -/
theorem abs_median_sub_le {xs : List α} {c e : α}
    (most : xs.length < 2 * xs.countP (fun x => |x - c| ≤ e)) : |median xs - c| ≤ e := by
  have above : xs.countP (fun x => |x - c| ≤ e) ≤ xs.countP (c - e ≤ ·) := by
    apply List.countP_mono_left
    intro x _ close
    simp only [decide_eq_true_eq, abs_le] at close ⊢
    linarith
  have below : xs.countP (fun x => |x - c| ≤ e) ≤ xs.countP (· ≤ c + e) := by
    apply List.countP_mono_left
    intro x _ close
    simp only [decide_eq_true_eq, abs_le] at close ⊢
    linarith
  have lower : c - e ≤ median xs := le_median (by omega)
  have upper : median xs ≤ c + e := median_le (by omega)
  exact abs_le.mpr ⟨by linarith, by linarith⟩

end Median

end EventPlatform.Lib
