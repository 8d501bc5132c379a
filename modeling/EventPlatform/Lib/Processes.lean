import Mathlib

/-! # Processes that exclude each other

The processes of a system are a list, of which a step replaces one.  `MutualExclusion clash` says
that no two of them clash, where a clash is holding the same lock, say. -/

namespace EventPlatform.Lib

variable {τ : Type*} {clash : τ → τ → Prop} {processes : List τ} {i : Nat} {process : τ}

theorem getElem?_of_set {j : Nat} {other : τ} (found : (processes.set i process)[j]? = some other) :
    (j = i ∧ other = process) ∨ (j ≠ i ∧ processes[j]? = some other) := by
  by_cases same : i = j
  · rw [same, List.getElem?_set_self'] at found
    obtain ⟨_, _, rfl⟩ := Option.map_eq_some_iff.mp found
    exact .inl ⟨same.symm, rfl⟩
  · rw [List.getElem?_set_ne same] at found
    exact .inr ⟨fun other => same other.symm, found⟩

theorem getElem?_of_append {j : Nat} {other : τ} (found : (processes ++ [process])[j]? = some other) :
    processes[j]? = some other ∨ (j = processes.length ∧ other = process) := by
  by_cases inside : j < processes.length
  · rw [List.getElem?_append_left inside] at found
    exact .inl found
  · rw [List.getElem?_append_right (not_lt.mp inside)] at found
    obtain ⟨index, rfl⟩ := List.getElem?_eq_some_iff.mp found
    simp only [List.length_cons, List.length_nil, Nat.zero_add, Nat.lt_one_iff] at index
    exact .inr ⟨by omega, by simp⟩

/-- No two processes clash. -/
def MutualExclusion (clash : τ → τ → Prop) (processes : List τ) : Prop :=
  ∀ (i j : Nat) (process other : τ), processes[i]? = some process → processes[j]? = some other →
    clash process other → i = j

theorem MutualExclusion.nil : MutualExclusion clash [] := by
  intro i j process other found
  simp at found

theorem MutualExclusion.mono {clash' : τ → τ → Prop} (exclusive : MutualExclusion clash processes)
    (weaker : ∀ a b, clash' a b → clash a b) : MutualExclusion clash' processes :=
  fun i j process other found found' clashes => exclusive i j process other found found' (weaker _ _ clashes)

/-- A process is replaced by one that clashes with no other. -/
theorem MutualExclusion.set (exclusive : MutualExclusion clash processes) (symmetric : ∀ a b, clash a b → clash b a)
    (apart : ∀ (j : Nat) (other : τ), processes[j]? = some other → j ≠ i → ¬ clash process other) :
    MutualExclusion clash (processes.set i process) := by
  intro j k first second found found' clashes
  cases getElem?_of_set found with
  | inl mine =>
    obtain ⟨rfl, rfl⟩ := mine
    cases getElem?_of_set found' with
    | inl mine' => exact mine'.1.symm
    | inr theirs' => exact absurd clashes (apart k second theirs'.2 theirs'.1)
  | inr theirs =>
    cases getElem?_of_set found' with
    | inl mine' =>
      obtain ⟨rfl, rfl⟩ := mine'
      exact absurd (symmetric _ _ clashes) (apart j first theirs.2 theirs.1)
    | inr theirs' => exact exclusive j k first second theirs.2 theirs'.2 clashes

theorem MutualExclusion.append (exclusive : MutualExclusion clash processes) (symmetric : ∀ a b, clash a b → clash b a)
    (apart : ∀ other ∈ processes, ¬ clash process other) : MutualExclusion clash (processes ++ [process]) := by
  intro j k first second found found' clashes
  cases getElem?_of_append found with
  | inl old =>
    cases getElem?_of_append found' with
    | inl old' => exact exclusive j k first second old old' clashes
    | inr new' =>
      obtain ⟨rfl, rfl⟩ := new'
      exact absurd (symmetric _ _ clashes) (apart first (List.mem_of_getElem? old))
  | inr new =>
    obtain ⟨rfl, rfl⟩ := new
    cases getElem?_of_append found' with
    | inl old' => exact absurd clashes (apart second (List.mem_of_getElem? old'))
    | inr new' => exact new'.1.symm

end EventPlatform.Lib
