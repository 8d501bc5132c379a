import EventPlatform.Lib.Runs

/-! # Alarms

An alarm is set by some inputs of a run, called off by others, and at times put off.  An alarm
that is still set goes back to an input that has set it, long enough ago, with no input since
that calls it off. -/

namespace EventPlatform.Lib

variable {σ α τ : Type*}

/-- What has become true in a run has become true at one of its inputs. -/
theorem exists_turn_input {step : σ → α → σ} {P : σ → Prop} {s : σ} {as : List α} (first : ¬ P s)
    (last : P (as.foldl step s)) : ∃ before a after, as = before ++ a :: after ∧
      ¬ P (before.foldl step s) ∧ P (step (before.foldl step s) a) := by
  induction as generalizing s with
  | nil => exact absurd last first
  | cons a as ih =>
    by_cases now : P (step s a)
    · exact ⟨[], a, as, rfl, first, now⟩
    · obtain ⟨before, b, after, rfl, off, on⟩ := ih now last
      exact ⟨a :: before, b, after, rfl, off, on⟩

section SetSince

variable [Preorder τ] [Add τ] {time : α → τ} {sets clears : α → Prop} {delay due later : τ} {past : List α} {a : α}

/-- One of the inputs has set the alarm, at least `delay` before it is due, and none after it
    calls it off. -/
def SetSince (time : α → τ) (sets clears : α → Prop) (delay : τ) (past : List α) (due : τ) : Prop :=
  ∃ before cause between, past = before ++ cause :: between ∧ sets cause ∧ time cause + delay ≤ due ∧
    ∀ b ∈ between, ¬ clears b

theorem SetSince.here (set : sets a) (waits : time a + delay ≤ due) :
    SetSince time sets clears delay (past ++ [a]) due :=
  ⟨past, a, [], rfl, set, waits, fun _ member => nomatch member⟩

theorem SetSince.le (since : SetSince time sets clears delay past due) (ordered : due ≤ later) :
    SetSince time sets clears delay past later := by
  obtain ⟨before, cause, between, split, set, waits, quiet⟩ := since
  exact ⟨before, cause, between, split, set, le_trans waits ordered, quiet⟩

theorem SetSince.next (since : SetSince time sets clears delay past due) (kept : ¬ clears a) (ordered : due ≤ later) :
    SetSince time sets clears delay (past ++ [a]) later := by
  obtain ⟨before, cause, between, rfl, set, waits, quiet⟩ := since
  have quiet' : ∀ b ∈ between ++ [a], ¬ clears b := by
    intro b member
    cases List.mem_append.mp member with
    | inl earlier => exact quiet b earlier
    | inr last => rw [List.mem_singleton.mp last]; exact kept
  exact ⟨before, cause, between ++ [a], by simp, set, le_trans waits ordered, quiet'⟩

/-- The alarm of a system whose every step, from the states of an invariant, keeps the alarm,
    puts it off or sets it. -/
theorem foldl_setSince (step : σ → α → σ) (Inv : σ → Prop) (alarm : σ → Option τ)
    (preserved : ∀ s a, Inv s → Inv (step s a))
    (moves : ∀ s a, Inv s → ∀ due ∈ alarm (step s a),
      (∃ before ∈ alarm s, before ≤ due ∧ ¬ clears a) ∨ (sets a ∧ time a + delay ≤ due))
    {s : σ} (start : Inv s) (off : alarm s = none) (as : List α) :
    ∀ due ∈ alarm (as.foldl step s), SetSince time sets clears delay as due := by
  have first : ∀ due ∈ alarm s, SetSince time sets clears delay [] due := by
    intro due member
    rw [off] at member
    cases member
  suffices both : Inv (as.foldl step s) ∧ ∀ due ∈ alarm (as.foldl step s), SetSince time sets clears delay as due from
    both.2
  apply @foldl_history _ _ step (fun past s => Inv s ∧ ∀ due ∈ alarm s, SetSince time sets clears delay past due) as s
    ⟨start, first⟩
  intro past a rest _ s inv
  constructor
  · exact preserved s a inv.1
  · intro due member
    cases moves s a inv.1 due member with
    | inl kept =>
      obtain ⟨before, earlier, ordered, quiet⟩ := kept
      exact (inv.2 before earlier).next quiet ordered
    | inr now => exact .here now.1 now.2

end SetSince

end EventPlatform.Lib
