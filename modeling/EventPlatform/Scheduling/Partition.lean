import EventPlatform.Scheduling.Phase

/-! # The phase function as a partition of time

For rows stored in any order, the scheduler reports the one cell the time lies
in, the cells succeed one another, and the remaining time is exactly the time
until the next cell begins. -/

namespace EventPlatform.Scheduling

variable {preconnectDuration : Int} {rounds stored : List Round} {t : Int}

/-- `ORDER BY number` makes the stored order irrelevant. -/
theorem getCurrentPhase_perm (wf : WellFormed rounds) (perm : stored.Perm rounds)
    (preconnectDuration t : Int) :
    getCurrentPhase preconnectDuration stored t = getCurrentPhase preconnectDuration rounds t := by
  have total : Std.Total fun r s : Round => r.number ≤ s.number := ⟨fun r s => le_total _ _⟩
  have trans : IsTrans Round fun r s => r.number ≤ s.number := ⟨fun _ _ _ => le_trans⟩
  have sorted : stored.insertionSort (fun r s => r.number ≤ s.number) = rounds := by
    apply ((List.perm_insertionSort _ _).trans perm).eq_of_pairwise
    · intro r s inside inside' le le'
      have member := perm.mem_iff.mp ((List.perm_insertionSort _ _).mem_iff.mp inside)
      exact wf.eq_of_number member inside' (le_antisymm le le')
    · exact List.pairwise_insertionSort (fun r s : Round => r.number ≤ s.number) stored
    · exact wf.pairwise_number.imp Nat.le_of_lt
  simp only [getCurrentPhase, sorted, wf.order_by_number]

/-- The same phase of the same round. -/
def PhaseResult.Same (a b : PhaseResult) : Prop := a.phase = b.phase ∧ a.activeRound = b.activeRound

/-- `d` is exactly how long the phase reported at `t` lasts. -/
structure LastsFor (phaseAt : Int → PhaseResult) (t d : Int) : Prop where
  positive : 0 < d
  constant : ∀ u, t ≤ u → u < t + d → (phaseAt u).Same (phaseAt t)
  changes : ¬ (phaseAt (t + d)).Same (phaseAt t)

/-- A phase lasts as long as its cell, if the next cell is another one. -/
theorem Cell.lastsFor_of {result : PhaseResult} (cell : Cell preconnectDuration rounds t result)
    (wf : WellFormed rounds) (nonneg : 0 ≤ preconnectDuration) {d : Int} (positive : 0 < d)
    (constant : ∀ u, t ≤ u → u < t + d →
      ∃ same, Cell preconnectDuration rounds u same ∧ same.Same result)
    (changes : ∀ next, Cell preconnectDuration rounds (t + d) next → ¬ next.Same result) :
    LastsFor (getCurrentPhase preconnectDuration rounds) t d := by
  have here := getCurrentPhase_eq wf nonneg cell
  refine ⟨positive, fun u le before => ?_, ?_⟩
  · obtain ⟨same, inCell, isSame⟩ := constant u le before
    rw [here, getCurrentPhase_eq wf nonneg inCell]
    exact isSame
  · rw [here]
    exact changes _ (getCurrentPhase_cell preconnectDuration (t + d) wf cell.nonempty)

theorem Cell.lastsFor {result : PhaseResult} (cell : Cell preconnectDuration rounds t result)
    (wf : WellFormed rounds) (nonneg : 0 ≤ preconnectDuration)
    (running : result.phase ≠ .completed) :
    ∃ d, result.remaining = some d ∧
      LastsFor (getCurrentPhase preconnectDuration rounds) t d := by
  have whole := cell
  cases cell with
  | notStarted first member number waiting =>
    refine ⟨_, rfl, whole.lastsFor_of wf nonneg (by omega) ?_ ?_⟩
    · intro u le before
      exact ⟨_, .notStarted first member number (by omega), rfl, rfl⟩
    · intro next inCell same
      cases inCell with
      | notStarted s inRounds number' waiting' =>
        rw [wf.eq_of_number inRounds member (by omega)] at waiting'
        omega
      | preconnect | inRound | break_ | completed => cases same.1
  | preconnect r member begun waiting passed =>
    refine ⟨_, rfl, whole.lastsFor_of wf nonneg (by omega) ?_ ?_⟩
    · intro u le before
      have passed' : ∀ s ∈ rounds, s.number < r.number → s.endsAt ≤ u :=
        fun s inRounds lower => (passed s inRounds lower).trans le
      exact ⟨_, .preconnect r member (by omega) (by omega) passed', rfl, rfl⟩
    · intro next inCell same
      cases inCell with
      | preconnect s inRounds _ waiting' =>
        cases same.2
        omega
      | notStarted | inRound | break_ | completed => cases same.1
  | inRound r member begun running =>
    refine ⟨_, rfl, whole.lastsFor_of wf nonneg (by omega) ?_ ?_⟩
    · intro u le before
      exact ⟨_, .inRound r member (by omega) (by omega), rfl, rfl⟩
    · intro next inCell same
      cases inCell with
      | inRound s inRounds begun' running' =>
        cases same.2
        omega
      | notStarted | preconnect | break_ | completed => cases same.1
  | break_ r following member nextMember number ended resting =>
    refine ⟨_, rfl, whole.lastsFor_of wf nonneg (by omega) ?_ ?_⟩
    · intro u le before
      exact ⟨_, .break_ r following member nextMember number (by omega) (by omega), rfl, rfl⟩
    · intro next inCell same
      cases inCell with
      | break_ s following' inRounds nextMember' number' ended' resting' =>
        cases same.2
        rw [wf.eq_of_number nextMember' nextMember (by omega)] at resting'
        omega
      | notStarted | preconnect | inRound | completed => cases same.1
  | completed => exact absurd rfl running

/-- The scheduler computes the reference partition: one cell a time, never the
    trailing fallback, in order, and with the exact time left. -/
theorem getCurrentPhase_partition (rounds stored : List Round) (wf : WellFormed rounds)
    (nonempty : rounds ≠ []) (perm : stored.Perm rounds) (preconnectDuration : Int)
    (nonneg : 0 ≤ preconnectDuration) :
    let phaseAt := getCurrentPhase preconnectDuration stored
    (∀ t, Cell preconnectDuration rounds t (phaseAt t) ∧
      (∀ other, Cell preconnectDuration rounds t other → other = phaseAt t) ∧
      phaseAt t ≠ ⟨.notStarted, none, none⟩) ∧
    (∀ t t', t ≤ t' → (phaseAt t).position ≤ (phaseAt t').position) ∧
    ∀ t, (phaseAt t).phase ≠ .completed →
      ∃ d, (phaseAt t).remaining = some d ∧ LastsFor phaseAt t d := by
  intro phaseAt
  -- the rows may be stored in any order; the scheduler sorts them
  have sorted : phaseAt = getCurrentPhase preconnectDuration rounds := by
    funext t
    exact getCurrentPhase_perm wf perm preconnectDuration t
  have cell : ∀ t, Cell preconnectDuration rounds t (phaseAt t) := by
    intro t
    rw [sorted]
    exact getCurrentPhase_cell preconnectDuration t wf nonempty
  refine ⟨fun t => ⟨cell t, fun other inCell => inCell.unique (cell t) wf nonneg, ?_⟩,
    fun t t' le => (cell t).position_le (cell t') wf nonneg le, fun t running => ?_⟩
  · intro fallback
    have inCell := cell t
    rw [fallback] at inCell
    cases inCell
  · rw [sorted]
    rw [sorted] at running
    exact (sorted ▸ cell t).lastsFor wf nonneg running

/-- Rounds of five minutes and a preconnect of a quarter of an hour, longer than
    the break and than a whole round. -/
theorem getCurrentPhase_twoRoundEvent :
    let rounds := plannedRounds twoRoundEvent 0
    Cell (seconds 900) rounds (seconds 320)
        (getCurrentPhase (seconds 900) rounds.reverse (seconds 320)) ∧
      ∃ d, (getCurrentPhase (seconds 900) rounds.reverse (seconds 320)).remaining = some d ∧
        LastsFor (getCurrentPhase (seconds 900) rounds.reverse) (seconds 320) d := by
  have outcome := getCurrentPhase_partition (plannedRounds twoRoundEvent 0)
    (plannedRounds twoRoundEvent 0).reverse (wellFormed_plannedRounds _ _) (by decide)
    (List.reverse_perm _) (seconds 900) (by decide)
  exact ⟨(outcome.1 (seconds 320)).1, outcome.2.2 (seconds 320) (by decide)⟩

end EventPlatform.Scheduling
