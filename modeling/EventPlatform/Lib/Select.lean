import Mathlib

/-! # Choosing an extremal element of a list

`firstLeast lt xs` keeps the earliest element that no later one beats: Python's
`min(xs, key=...)` when `lt` compares keys, and `max` when it compares them the
other way round. -/

namespace EventPlatform.Lib

variable {α : Type*} (lt : α → α → Prop) [DecidableRel lt]

def keepLeast (best : α) (xs : List α) : α :=
  xs.foldl (fun best x => if lt x best then x else best) best

def firstLeast : List α → Option α
  | [] => none
  | x :: xs => some (keepLeast lt x xs)

@[simp] theorem firstLeast_nil : firstLeast lt ([] : List α) = none := rfl

theorem firstLeast_eq_none {xs : List α} : firstLeast lt xs = none ↔ xs = [] := by
  cases xs <;> simp [firstLeast]

theorem keepLeast_mem (best : α) (xs : List α) : keepLeast lt best xs ∈ best :: xs := by
  induction xs generalizing best with
  | nil => simp [keepLeast]
  | cons x xs ih =>
    change keepLeast lt (if lt x best then x else best) xs ∈ best :: x :: xs
    split
    · exact List.mem_cons_of_mem best (ih x)
    · rcases List.mem_cons.mp (ih best) with kept | later
      · rw [kept]; exact List.mem_cons_self
      · exact List.mem_cons_of_mem best (List.mem_cons_of_mem x later)

theorem firstLeast_mem {xs : List α} {a : α} (h : firstLeast lt xs = some a) : a ∈ xs := by
  cases xs with
  | nil => cases h
  | cons x xs =>
    cases h
    exact keepLeast_mem lt x xs

/-- Only how the elements themselves compare matters. -/
theorem keepLeast_congr {lt lt' : α → α → Prop} [DecidableRel lt] [DecidableRel lt'] {best : α} {xs : List α}
    (same : ∀ a ∈ best :: xs, ∀ b ∈ best :: xs, (lt a b ↔ lt' a b)) : keepLeast lt best xs = keepLeast lt' best xs := by
  induction xs generalizing best with
  | nil => rfl
  | cons x xs ih =>
    have first : (if lt x best then x else best) = if lt' x best then x else best :=
      if_congr (same x (by simp) best (by simp)) rfl rfl
    change keepLeast lt (if lt x best then x else best) xs = keepLeast lt' (if lt' x best then x else best) xs
    rw [← first]
    apply ih
    intro a member b member'
    have kept : ∀ c ∈ (if lt x best then x else best) :: xs, c ∈ best :: x :: xs := by
      intro c inside
      split at inside
      · exact List.mem_cons_of_mem best inside
      · cases List.mem_cons.mp inside with
        | inl here => rw [here]; exact List.mem_cons_self
        | inr later => exact List.mem_cons_of_mem best (List.mem_cons_of_mem x later)
    exact same a (kept a member) b (kept b member')

theorem firstLeast_congr {lt lt' : α → α → Prop} [DecidableRel lt] [DecidableRel lt'] {xs : List α}
    (same : ∀ a ∈ xs, ∀ b ∈ xs, (lt a b ↔ lt' a b)) : firstLeast lt xs = firstLeast lt' xs := by
  cases xs with
  | nil => rfl
  | cons x xs => rw [firstLeast, firstLeast, keepLeast_congr same]

/-- A new last element that beats all the others is chosen. -/
theorem firstLeast_concat {xs : List α} {x : α} (beats : ∀ y ∈ xs, lt x y) :
    firstLeast lt (xs ++ [x]) = some x := by
  cases xs with
  | nil => rfl
  | cons y ys =>
    have chosen := beats _ (keepLeast_mem lt y ys)
    simp only [List.cons_append, firstLeast, keepLeast, List.foldl_append, List.foldl_cons,
      List.foldl_nil, Option.some.injEq]
    exact if_pos chosen

/-- A new last element is chosen, or the choice stays what it was. -/
theorem firstLeast_concat_cases (xs : List α) (x : α) :
    firstLeast lt (xs ++ [x]) = some x ∨ firstLeast lt (xs ++ [x]) = firstLeast lt xs := by
  cases xs with
  | nil => exact .inl rfl
  | cons y ys =>
    simp only [List.cons_append, firstLeast, keepLeast, List.foldl_append, List.foldl_cons,
      List.foldl_nil, Option.some.injEq]
    split
    · exact .inl rfl
    · exact .inr rfl

/-- No element beats the one that is chosen, where not beating is transitive. -/
theorem keepLeast_not_beaten (asymmetric : ∀ a b, lt a b → ¬ lt b a)
    (transitive : ∀ a b c, ¬ lt a b → ¬ lt b c → ¬ lt a c) (best : α) (xs : List α) :
    ∀ x ∈ best :: xs, ¬ lt x (keepLeast lt best xs) := by
  induction xs generalizing best with
  | nil =>
    intro x member
    rw [List.mem_singleton.mp member]
    exact fun same => asymmetric best best same same
  | cons y ys ih =>
    change ∀ x ∈ best :: y :: ys, ¬ lt x (keepLeast lt (if lt y best then y else best) ys)
    by_cases replaced : lt y best
    · rw [if_pos replaced]
      intro x member
      cases List.mem_cons.mp member with
      | inl first =>
        rw [first]
        exact transitive best y _ (asymmetric y best replaced) (ih y y List.mem_cons_self)
      | inr later => exact ih y x later
    · rw [if_neg replaced]
      intro x member
      simp only [List.mem_cons] at member
      rcases member with rfl | rfl | later
      · exact ih x x List.mem_cons_self
      -- `x` has not beaten the best so far, and nothing before it can
      · exact transitive x best _ replaced (ih best best List.mem_cons_self)
      · exact ih best x (List.mem_cons_of_mem best later)

theorem firstLeast_not_beaten (asymmetric : ∀ a b, lt a b → ¬ lt b a)
    (transitive : ∀ a b c, ¬ lt a b → ¬ lt b c → ¬ lt a c) {xs : List α} {a : α}
    (h : firstLeast lt xs = some a) : ∀ x ∈ xs, ¬ lt x a := by
  cases xs with
  | nil => cases h
  | cons x xs =>
    cases h
    exact keepLeast_not_beaten lt asymmetric transitive x xs

/-- Comparison by a key, ties broken by the element itself. -/
def KeyLt (key : Nat → Int) (a b : Nat) : Prop := key a < key b ∨ (key a = key b ∧ a < b)

instance (key : Nat → Int) : DecidableRel (KeyLt key) := fun _ _ => inferInstanceAs (Decidable (_ ∨ _))

end EventPlatform.Lib
