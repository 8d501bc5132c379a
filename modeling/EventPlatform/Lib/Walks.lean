import Mathlib

/-! # Walks along a relation

A history of moves, each with where it came from and where it went. -/

namespace EventPlatform.Lib

variable {σ : Type*} {follows : σ → σ → Prop} {a b c : σ} {moves : List (σ × σ)} {move : σ × σ}

/-- The moves lead from the first state to the last, each along the relation. -/
def Walk (follows : σ → σ → Prop) : σ → List (σ × σ) → σ → Prop
  | a, [], b => a = b
  | a, move :: moves, b => a = move.1 ∧ follows move.1 move.2 ∧ Walk follows move.2 moves b

theorem Walk.nil (a : σ) : Walk follows a [] a := rfl

theorem Walk.concat (walk : Walk follows a moves b) (valid : follows b c) :
    Walk follows a (moves ++ [(b, c)]) c := by
  induction moves generalizing a with
  | nil =>
    simp only [Walk] at walk
    exact ⟨walk, valid, rfl⟩
  | cons move moves ih =>
    obtain ⟨source, first, rest⟩ := walk
    exact ⟨source, first, ih rest⟩

theorem Walk.valid (walk : Walk follows a moves b) (member : move ∈ moves) : follows move.1 move.2 := by
  induction moves generalizing a with
  | nil => cases member
  | cons first moves ih =>
    obtain ⟨_, valid, rest⟩ := walk
    cases member with
    | head => exact valid
    | tail _ later => exact ih rest later

/-- A state that nothing follows is not left. -/
theorem Walk.source_ne (walk : Walk follows a moves b) (terminal : ∀ next, ¬ follows c next)
    (member : move ∈ moves) : move.1 ≠ c := by
  intro left
  exact terminal move.2 (left ▸ walk.valid member)

end EventPlatform.Lib
