import EventPlatform.Matching.Feasibility
import EventPlatform.Lib.DenseMatchings

/-! # Half of the participants as rounds

Up to `N / 2` rounds no choice of the earlier rounds can make a round
impossible: everybody still has at least half of the working set left to meet,
so the pairs not met yet contain a perfect matching.  Below that threshold the
engine fails only when a recovery search runs out of its node budget. -/

namespace EventPlatform.Matching

open EventPlatform.Lib

/-- Everybody, or everybody but one, in an even working set. -/
theorem length_workingSet {ctx : MatchContext} {bye : Option Nat}
    (parity : bye.isSome ↔ ctx.size % 2 = 1) (inside : ∀ i, bye = some i → i < ctx.size) :
    (workingSet ctx bye).length = ctx.size - ctx.size % 2 := by
  have count := (workingSet_perm inside).length_eq
  rw [List.length_append, List.length_range] at count
  cases bye with
  | none =>
    have even : ctx.size % 2 ≠ 1 := fun odd => by simpa using parity.mpr odd
    simp only [Option.toList_none, List.length_nil] at count
    omega
  | some i =>
    have odd := parity.mp rfl
    simp only [Option.toList_some, List.length_singleton] at count
    omega

/-- Whatever the earlier rounds and the bye, fewer than half of the working set
    as rounds leaves a perfect matching of pairs not met yet. -/
theorem exists_next_round {ctx : MatchContext} {rounds : List (List IndexPair)}
    {byes : List (Option Nat)} (valid : List.Forall₂ (IndexRound ctx.size) rounds byes)
    (few : 2 * (rounds.length + 1) ≤ ctx.size - ctx.size % 2) {bye : Option Nat}
    (parity : bye.isSome ↔ ctx.size % 2 = 1) (inside : ∀ i, bye = some i → i < ctx.size) :
    ∃ ps, PerfectMatching (Met rounds.flatten) (workingSet ctx bye) ps := by
  have length := length_workingSet parity inside
  apply exists_perfectMatching_outside (nodup_workingSet ctx bye) (by omega)
  · intro ps member
    obtain ⟨i, here, rfl⟩ := List.getElem_of_mem member
    have round := valid.get here (valid.length_eq ▸ here)
    exact (List.nodup_append.mp (round.covers.nodup_iff.mpr List.nodup_range)).1
  · omega

/-! ## The failing round -/

theorem nextBye_isSome {ctx : MatchContext} {st : RoundState} (inv : RoundsInv ctx st)
    (early : st.roundsPairs.length < ctx.size) :
    ((nextBye ctx st).isSome ↔ ctx.size % 2 = 1) ∧
      ∀ i, nextBye ctx st = some i → i < ctx.size := by
  obtain ⟨bye, chosen⟩ := chooseBye_isSome inv early
  simp only [nextBye]
  split
  next odd =>
    refine ⟨by simp [chosen, odd], fun i isBye => (chooseBye_spec isBye).1⟩
  next even => simp [even]

/-- Below the threshold the only way to fail is the node budget of a recovery
    search, because every round has a solution whatever came before it. -/
theorem fails_only_on_budget (input : MatchInput) (positive : 1 ≤ input.numRounds)
    (many : 2 ≤ input.participants.length) (nodup : (input.participants.map (·.pid)).Nodup)
    (distinct : DistinctUuids (participantIds input))
    (threshold : 2 * input.numRounds ≤
      ((input.participants.length - input.participants.length % 2 : Nat) : Int)) :
    (∀ error, generateSchedule input = .error error →
      ∃ r < input.numRounds.toNat, ∃ st,
        buildRounds (matchContext input) (pidAt input) r = .ok st ∧
        roundStep (matchContext input) (pidAt input) st (r + 1) = .error error ∧
        maxRecoveryNodes < (runSearch (matchContext input) st.forbidden
          (workingSet (matchContext input) (nextBye (matchContext input) st))).2.nodes) ∧
      ∀ (rounds : List (List IndexPair)) (byes : List (Option Nat)) (bye : Option Nat),
        List.Forall₂ (IndexRound input.participants.length) rounds byes →
        rounds.length < input.numRounds.toNat →
        (bye.isSome ↔ input.participants.length % 2 = 1) →
        (∀ i, bye = some i → i < input.participants.length) →
        ∃ ps, PerfectMatching (Met rounds.flatten) (workingSet (matchContext input) bye) ps := by
  have size : (matchContext input).size = input.participants.length := rfl
  refine ⟨fun error failed => ?_, fun rounds byes bye valid early parity inside => ?_⟩
  · have few : input.numRounds ≤ maxRounds input.participants.length := by
      simp only [maxRounds]
      split <;> omega
    obtain ⟨r, before, st, built, stepped⟩ :=
      buildRounds_failing_round (buildRounds_of_failed positive many nodup distinct few failed)
    obtain ⟨inv, count⟩ := buildRounds_inv built
    refine ⟨r, before, st, built, stepped, ?_⟩
    have early : st.roundsPairs.length < (matchContext input).size := by omega
    cases (roundStep_error inv (fun _ => early) stepped).2 with
    | inl budget => exact budget
    | inr none =>
      obtain ⟨parity, inside⟩ := nextBye_isSome inv early
      obtain ⟨ps, matching⟩ := exists_next_round inv.rounds (by omega) parity inside
      -- the forbidden sets are exactly the pairs of the earlier rounds
      exact absurd (matching.mono fun a b _ avoided => (inv.recorded a b).mp avoided) (none ps)
  · exact exists_next_round (size ▸ valid) (by omega) parity inside

def fourParticipantsTwoRounds : MatchInput := { fourParticipants with numRounds := 2 }

/-- After a first round of four participants there is a second one. -/
theorem fourParticipants_next_round :
    ∃ ps, PerfectMatching (Met [[(0, 1), (2, 3)]].flatten)
      (workingSet (matchContext fourParticipantsTwoRounds) none) ps := by
  have ids : DistinctUuids (participantIds fourParticipantsTwoRounds) := by
    constructor <;> decide +kernel
  have round : IndexRound 4 [(0, 1), (2, 3)] none := by
    constructor <;> decide
  have outcome := fails_only_on_budget fourParticipantsTwoRounds (by decide) (by decide)
    (by decide +kernel) ids (by decide)
  exact outcome.2 [[(0, 1), (2, 3)]] [none] none (.cons round .nil) (by decide) (by decide)
    (by simp)

end EventPlatform.Matching
