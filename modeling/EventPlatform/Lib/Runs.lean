import Mathlib

/-! # Runs

A deterministic system handles a list of inputs one after another; `visited`
lists the states it passes through, each with the input it is about to handle.
A property of a whole run is a property of its visited states, and the rules
below reduce it to one step. -/

namespace EventPlatform.Lib

variable {σ α : Type*}

/-! ## Deterministic systems -/

def visited (step : σ → α → σ) : σ → List α → List (σ × α)
  | _, [] => []
  | s, a :: as => (s, a) :: visited step (step s a) as

/-- An invariant that every step keeps, where `allowed` holds of each visited
    state and its input, holds in all visited states. -/
theorem visited_invariant {step : σ → α → σ} {Inv : σ → Prop} {allowed : σ → α → Prop}
    (preserved : ∀ s a, Inv s → allowed s a → Inv (step s a)) {s : σ} {as : List α} (start : Inv s)
    (good : ∀ v ∈ visited step s as, allowed v.1 v.2) : ∀ v ∈ visited step s as, Inv v.1 := by
  induction as generalizing s with
  | nil => simp [visited]
  | cons a as ih =>
    intro v member
    cases List.mem_cons.mp member with
    | inl here => rw [here]; exact start
    | inr later =>
      have next := preserved s a start (good _ List.mem_cons_self)
      exact ih next (fun v member => good v (List.mem_cons_of_mem _ member)) v later

theorem foldl_invariant {step : σ → α → σ} {Inv : σ → Prop} {allowed : σ → α → Prop}
    (preserved : ∀ s a, Inv s → allowed s a → Inv (step s a)) {s : σ} {as : List α} (start : Inv s)
    (good : ∀ v ∈ visited step s as, allowed v.1 v.2) : Inv (as.foldl step s) := by
  induction as generalizing s with
  | nil => exact start
  | cons a as ih =>
    have next := preserved s a start (good _ List.mem_cons_self)
    exact ih next fun v member => good v (List.mem_cons_of_mem _ member)

/-- An invariant that also speaks about the inputs handled so far. -/
theorem foldl_history {step : σ → α → σ} {Inv : List α → σ → Prop} {as : List α} {s : σ}
    (start : Inv [] s) (preserved : ∀ past a rest, as = past ++ a :: rest → ∀ s, Inv past s →
      Inv (past ++ [a]) (step s a)) : Inv as (as.foldl step s) := by
  suffices rest : ∀ past rest, as = past ++ rest → ∀ s, Inv past s → Inv as (rest.foldl step s) from
    rest [] as rfl s start
  intro past rest split s inv
  induction rest generalizing past s with
  | nil => rw [List.append_nil] at split; rwa [split]
  | cons a rest ih =>
    exact ih (past ++ [a]) (by simpa using split) (step s a) (preserved past a rest split s inv)

/-- The visited states are the ones reached by the proper prefixes of the inputs. -/
theorem mem_visited {step : σ → α → σ} {s : σ} {as : List α} {v : σ × α} :
    v ∈ visited step s as ↔ ∃ before after, as = before ++ v.2 :: after ∧
      v.1 = before.foldl step s := by
  induction as generalizing s with
  | nil => simp [visited]
  | cons a as ih =>
    rw [visited, List.mem_cons, ih]
    constructor
    · rintro (rfl | ⟨before, after, rfl, same⟩)
      · exact ⟨[], as, rfl, rfl⟩
      · exact ⟨a :: before, after, rfl, same⟩
    · rintro ⟨before, after, split, same⟩
      cases before with
      | nil =>
        cases split
        exact .inl (Prod.ext same rfl)
      | cons b before =>
        cases split
        exact .inr ⟨before, after, rfl, same⟩

/-- The states that a run visits first are visited by the run. -/
theorem mem_visited_of_take {step : σ → α → σ} {s : σ} {as : List α} {n : Nat} {v : σ × α}
    (member : v ∈ visited step s (as.take n)) : v ∈ visited step s as := by
  obtain ⟨before, after, split, here⟩ := mem_visited.mp member
  refine mem_visited.mpr ⟨before, after ++ as.drop n, ?_, here⟩
  rw [← List.cons_append, ← List.append_assoc, ← split, List.take_append_drop]

/-- An invariant that a step keeps unless it breaks it holds all along exactly in the runs
    without such a step. -/
theorem foldl_take_iff {step : σ → α → σ} {Inv : σ → Prop} {breaks : σ → α → Prop}
    (kept : ∀ s a, Inv s → (Inv (step s a) ↔ ¬ breaks s a)) {s : σ} {as : List α} (start : Inv s) :
    (∀ n, Inv ((as.take n).foldl step s)) ↔ ∀ v ∈ visited step s as, ¬ breaks v.1 v.2 := by
  constructor
  · intro always v member
    obtain ⟨before, after, rfl, here⟩ := mem_visited.mp member
    have now : Inv v.1 := by
      rw [here]
      simpa using always before.length
    have next : Inv (step v.1 v.2) := by
      have taken : (before ++ v.2 :: after).take (before.length + 1) = before ++ [v.2] := by
        simp [List.take_append]
      have held := always (before.length + 1)
      rwa [taken, List.foldl_append, ← here] at held
    exact (kept v.1 v.2 now).mp next
  · intro good n
    have keeps : ∀ s a, Inv s → ¬ breaks s a → Inv (step s a) := fun s a inv ok => (kept s a inv).mpr ok
    exact foldl_invariant keeps start fun v member => good v (mem_visited_of_take member)

/-- An invariant of a system whose inputs all satisfy `allowed`. -/
theorem foldl_preserves {step : σ → α → σ} {Inv : σ → Prop} {allowed : α → Prop}
    (preserved : ∀ s a, Inv s → allowed a → Inv (step s a)) {s : σ} {as : List α} (start : Inv s)
    (good : ∀ a ∈ as, allowed a) : Inv (as.foldl step s) := by
  induction as generalizing s with
  | nil => exact start
  | cons a as ih =>
    have next := preserved s a start (good a List.mem_cons_self)
    exact ih next fun b member => good b (List.mem_cons_of_mem _ member)

/-- Two systems that handle the same inputs stay related when every step keeps them so. -/
theorem foldl_related {τ : Type*} {step : σ → α → σ} {step' : τ → α → τ} {R : σ → τ → Prop} {allowed : α → Prop}
    (preserved : ∀ s t a, R s t → allowed a → R (step s a) (step' t a)) {s : σ} {t : τ} {as : List α} (start : R s t)
    (good : ∀ a ∈ as, allowed a) : R (as.foldl step s) (as.foldl step' t) := by
  induction as generalizing s t with
  | nil => exact start
  | cons a as ih =>
    have next := preserved s t a start (good a List.mem_cons_self)
    exact ih next fun b member => good b (List.mem_cons_of_mem _ member)

/-- A quantity that no step lowers is at its highest at the end. -/
theorem visited_le_foldl {β : Type*} [Preorder β] {step : σ → α → σ} {f : σ → β}
    (rises : ∀ s a, f s ≤ f (step s a)) {s : σ} {as : List α} :
    ∀ v ∈ visited step s as, f v.1 ≤ f (as.foldl step s) := by
  induction as generalizing s with
  | nil => simp [visited]
  | cons a as ih =>
    have upper : f (step s a) ≤ f (as.foldl step (step s a)) := by
      cases as with
      | nil => exact le_refl _
      | cons b bs => exact ih _ List.mem_cons_self
    intro v member
    cases List.mem_cons.mp member with
    | inl here => rw [here]; exact le_trans (rises s a) upper
    | inr later => exact ih v later

/-- The state before the `n`-th input. -/
def stateAt (step : σ → α → σ) (s : σ) (as : List α) (n : Nat) : σ := (as.take n).foldl step s

section StateAt

variable {step : σ → α → σ} {s : σ} {as : List α} {n m : Nat}

theorem stateAt_succ {a : α} (input : as[n]? = some a) : stateAt step s as (n + 1) = step (stateAt step s as n) a := by
  simp [stateAt, List.take_add_one, input, List.foldl_append]

theorem stateAt_succ_of_none (ended : as[n]? = none) : stateAt step s as (n + 1) = stateAt step s as n := by
  simp [stateAt, List.take_add_one, ended]

/-- What every step relates, the states of a run are related by. -/
theorem stateAt_related {R : σ → σ → Prop} (refl : ∀ t, R t t) (trans : ∀ {t u v}, R t u → R u v → R t v)
    (related : ∀ t a, R t (step t a)) (ordered : n ≤ m) : R (stateAt step s as n) (stateAt step s as m) := by
  induction m, ordered using Nat.le_induction with
  | base => exact refl _
  | succ m _ ih =>
    cases input : as[m]? with
    | none => rw [stateAt_succ_of_none input]; exact ih
    | some a => rw [stateAt_succ input]; exact trans ih (related _ a)

/-- An invariant holds before every input. -/
theorem stateAt_invariant {Inv : σ → Prop} (preserved : ∀ t a, Inv t → Inv (step t a)) (start : Inv s) (n : Nat) :
    Inv (stateAt step s as n) := by
  have kept : ∀ {t u v : σ}, (Inv t → Inv u) → (Inv u → Inv v) → Inv t → Inv v := fun first second => second ∘ first
  exact stateAt_related (R := fun t u => Inv t → Inv u) (fun _ => id) kept preserved (Nat.zero_le n) start

/-- A property that follows from an invariant holds all along exactly in the runs without a step that
    breaks it, when every other step keeps the invariant. -/
theorem stateAt_iff {Inv Good : σ → Prop} {breaks : σ → α → Prop} {allowed : α → Prop}
    (harmful : ∀ t a, Inv t → allowed a → Good (step t a) → ¬ breaks t a)
    (harmless : ∀ t a, Inv t → allowed a → ¬ breaks t a → Inv (step t a)) (holds : ∀ t, Inv t → Good t) (start : Inv s)
    (good : ∀ a ∈ as, allowed a) :
    (∀ n, Good (stateAt step s as n)) ↔ ∀ v ∈ visited step s as, ¬ breaks v.1 v.2 := by
  constructor
  · intro always
    -- the first step that breaks the property would show at once
    have inv : ∀ n, Inv (stateAt step s as n) := by
      intro n
      induction n with
      | zero => exact start
      | succ n ih =>
        cases input : as[n]? with
        | none => rw [stateAt_succ_of_none input]; exact ih
        | some a =>
          have next := always (n + 1)
          have ok := good a (List.mem_of_getElem? input)
          rw [stateAt_succ input] at next ⊢
          exact harmless _ a ih ok (harmful _ a ih ok next)
    intro v member
    obtain ⟨before, after, split, here⟩ := mem_visited.mp member
    have input : as[before.length]? = some v.2 := by simp [split]
    have next := always (before.length + 1)
    have ok := good v.2 (List.mem_of_getElem? input)
    rw [stateAt_succ input] at next
    have prefix_ : stateAt step s as before.length = v.1 := by simp [stateAt, split, here]
    exact prefix_ ▸ harmful _ v.2 (inv before.length) ok next
  · intro fine n
    have kept : ∀ t a, Inv t → (allowed a ∧ ¬ breaks t a) → Inv (step t a) :=
      fun t a inv ok => harmless t a inv ok.1 ok.2
    refine holds _ (foldl_invariant kept start fun v member => ?_)
    have whole := mem_visited_of_take member
    obtain ⟨before, after, split, _⟩ := mem_visited.mp whole
    exact ⟨good v.2 (by simp [split]), fine v whole⟩

end StateAt

/-- What has become true has become true at some step. -/
theorem exists_turn {P : Nat → Prop} (first : ¬ P 0) {m : Nat} (last : P m) : ∃ n < m, ¬ P n ∧ P (n + 1) := by
  induction m with
  | zero => exact absurd last first
  | succ m ih =>
    by_cases already : P m
    · obtain ⟨n, before, turn⟩ := ih already
      exact ⟨n, Nat.lt_succ_of_lt before, turn⟩
    · exact ⟨m, Nat.lt_succ_self m, already, last⟩

/-! ## Clocks

`clock` reads the time of the last input out of the state. -/

variable {τ : Type*}

theorem visited_clock {step : σ → α → σ} {r : τ → τ → Prop} {clock : σ → τ} {time : α → τ}
    (ticks : ∀ s a, clock (step s a) = time a) {s : σ} {as : List α}
    (ordered : (clock s :: as.map time).Pairwise r) :
    ∀ v ∈ visited step s as, r (clock v.1) (time v.2) := by
  induction as generalizing s with
  | nil => simp [visited]
  | cons a as ih =>
    obtain ⟨head, tail⟩ := List.pairwise_cons.mp ordered
    intro v member
    cases List.mem_cons.mp member with
    | inl here => rw [here]; exact head _ List.mem_cons_self
    | inr later => exact ih (by rwa [ticks]) v later

end EventPlatform.Lib
