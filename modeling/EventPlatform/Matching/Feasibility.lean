import EventPlatform.Matching.Soundness

/-! # When the engine gives up

Rounds are fixed one after another and recovery only re-searches the round at
hand, so a dead end can be reached although a valid schedule exists.  The engine
gives up nowhere else: too many rounds are impossible for everybody, and a bye
is available in every round that is attempted. -/

namespace EventPlatform.Matching

open EventPlatform.Lib

/-! ## Too many rounds -/

/-- A list whose elements choose distinct members of `choices` is no longer than it. -/
theorem length_le_card_of_choices {α β : Type*} [DecidableEq β] {P : α → β → Prop} {xs : List α}
    {choices : Finset β} (some : ∀ x ∈ xs, ∃ y ∈ choices, P x y)
    (apart : xs.Pairwise fun x x' => ∀ y, P x y → ¬ P x' y) : xs.length ≤ choices.card := by
  induction xs generalizing choices with
  | nil => exact Nat.zero_le _
  | cons x xs ih =>
    obtain ⟨y, member, chosen⟩ := some x List.mem_cons_self
    obtain ⟨head, tail⟩ := List.pairwise_cons.mp apart
    have others : ∀ x' ∈ xs, ∃ y' ∈ choices.erase y, P x' y' := by
      intro x' inTail
      obtain ⟨y', member', chosen'⟩ := some x' (List.mem_cons_of_mem x inTail)
      refine ⟨y', Finset.mem_erase.mpr ⟨fun same => ?_, member'⟩, chosen'⟩
      exact head x' inTail y chosen (same ▸ chosen')
    have bound := ih others tail
    rw [Finset.card_erase_of_mem member] at bound
    have positive := Finset.card_pos.mpr ⟨y, member⟩
    rw [List.length_cons]
    omega

theorem ValidRound.exists_partner {pids : Finset String} {r : ScheduleRound}
    (valid : ValidRound pids r) {pid : String} (inside : pid ∈ pids) (even : pids.card % 2 = 0) :
    ∃ other ∈ pids.erase pid, r.Meets pid other := by
  have noBye : r.unmatchedPid = none := by
    apply Option.not_isSome_iff_eq_none.mp
    rw [valid.parity]
    omega
  have member := (valid.everyone pid).mpr inside
  have everyone := valid.everyone
  have distinct := valid.nodup
  simp only [ScheduleRound.members, noBye, Option.toList_none,
    List.append_nil] at member everyone distinct
  obtain ⟨other, met⟩ := exists_met member
  refine ⟨other, Finset.mem_erase.mpr ⟨(met.ne distinct).symm, (everyone other).mp met.right_mem⟩, ?_⟩
  cases met with
  | inl forward =>
    obtain ⟨sp, inRound, same⟩ := List.mem_map.mp forward
    exact ⟨sp, inRound, .inl (Prod.mk.inj same)⟩
  | inr backward =>
    obtain ⟨sp, inRound, same⟩ := List.mem_map.mp backward
    exact ⟨sp, inRound, .inr (Prod.mk.inj same)⟩

/-- The size check rejects no feasible input. -/
theorem ValidSchedule.le_maxRounds {pids : Finset String} {numRounds : Int}
    {schedule : GeneratedSchedule} (valid : ValidSchedule pids numRounds schedule)
    (someone : pids.Nonempty) : numRounds.toNat ≤ maxRounds pids.card := by
  have count : schedule.rounds.length = numRounds.toNat := by
    rw [← length_roundNumbers, ← valid.numbers.length_eq, List.length_map]
  rw [← count]
  unfold maxRounds
  split
  next even =>
    obtain ⟨pid, inside⟩ := someone
    rw [← Finset.card_erase_of_mem inside]
    apply length_le_card_of_choices
    · exact fun r member => (valid.rounds r member).exists_partner inside even
    · exact valid.noRepeat.imp fun apart other meets => apart pid other meets
  next odd =>
    apply length_le_card_of_choices (P := fun r pid => r.unmatchedPid = some pid)
    · intro r member
      have round := valid.rounds r member
      obtain ⟨pid, isBye⟩ := Option.isSome_iff_exists.mp (round.parity.mpr (by omega))
      refine ⟨pid, (round.everyone pid).mp ?_, isBye⟩
      exact List.mem_append_right _ (Option.mem_toList.mpr isBye)
    · exact valid.byes

/-! ## A bye is always available -/

theorem chooseBye_isSome {ctx : MatchContext} {st : RoundState} (inv : RoundsInv ctx st)
    (early : st.roundsPairs.length < ctx.size) : ∃ bye, chooseBye ctx st = some bye := by
  cases chosen : chooseBye ctx st with
  | some bye => exact ⟨bye, rfl⟩
  | none =>
    exfalso
    have empty := (firstLeast_eq_none _).mp chosen
    -- everybody has sat out, so there were at least `size` rounds
    have satOut : List.range ctx.size ⊆ st.roundsBye.filterMap id := by
      intro i inside
      by_contra absent
      simp only [List.mem_filterMap, id, exists_eq_right] at absent
      have eligible := (inv.unmatched i).mpr absent
      rw [List.filter_eq_nil_iff] at empty
      exact empty i inside (by simpa using eligible)
    have fewer := (List.subperm_of_subset List.nodup_range satOut).length_le
    have bound := List.length_filterMap_le id st.roundsBye
    rw [List.length_range] at fewer
    rw [inv.rounds.length_eq] at early
    omega

/-! ## Dead ends -/

/-- The bye of the next round, if the round has one. -/
def nextBye (ctx : MatchContext) (st : RoundState) : Option Nat :=
  if ctx.size % 2 = 1 then chooseBye ctx st else none

/-- After `r` fixed rounds the next one fails, since it cannot be found: recovery
    overran its node budget, or the participants left to pair have no perfect
    matching that avoids every pair of the fixed rounds. -/
structure DeadEnd (input : MatchInput) (error : MatchingError) (r : Nat) (st : RoundState) : Prop where
  built : buildRounds (matchContext input) (pidAt input) r = .ok st
  stepped : roundStep (matchContext input) (pidAt input) st (r + 1) = .error error
  exhausted :
    maxRecoveryNodes < (runSearch (matchContext input) st.forbidden
      (workingSet (matchContext input) (nextBye (matchContext input) st))).2.nodes ∨
    ∀ ps, ¬ PerfectMatching (Met st.roundsPairs.flatten)
      (workingSet (matchContext input) (nextBye (matchContext input) st)) ps

theorem pairRound_error {ctx : MatchContext} {pids : Nat → String} {roundNum : Nat}
    {forbidden : Forbidden} {working : List Nat} {error : MatchingError} (symm : forbidden.Symm)
    (nodup : working.Nodup) (bounded : ∀ i ∈ working, i < ctx.size)
    (failed : pairRound ctx pids roundNum forbidden working = .error error) :
    error.isImpossible ∧
      SearchExhausted forbidden working (runSearch ctx forbidden working).2.nodes := by
  unfold pairRound at failed
  split at failed
  next => cases failed
  next =>
    have outcome := runSearch_spec symm nodup bounded
    split at failed
    next => cases failed
    next gaveUp result =>
      rw [result] at outcome ⊢
      cases failed
      exact ⟨rfl, (outcome.failure rfl).2.2⟩

/-- A round fails where its pairs cannot be found; there is always a bye to choose. -/
theorem roundStep_failed {ctx : MatchContext} {pids : Nat → String} {roundNum : Nat}
    {st : RoundState} {error : MatchingError} (inv : RoundsInv ctx st)
    (early : ctx.size % 2 = 1 → st.roundsPairs.length < ctx.size)
    (failed : roundStep ctx pids st roundNum = .error error) :
    pairRound ctx pids roundNum st.forbidden (workingSet ctx (nextBye ctx st)) = .error error := by
  unfold roundStep at failed
  split at failed
  next odd =>
    -- fewer rounds than participants, so someone has had no bye yet
    obtain ⟨bye, chosen⟩ := chooseBye_isSome inv (early odd)
    have isBye : nextBye ctx st = some bye := by rw [nextBye, if_pos odd, chosen]
    rw [isBye]
    simp only [chosen] at failed
    cases paired : pairRound ctx pids roundNum st.forbidden (workingSet ctx (some bye)) with
    | ok result => rw [paired] at failed; cases failed
    | error e =>
      rw [paired] at failed
      cases failed
      rfl
  next even =>
    have noBye : nextBye ctx st = none := by rw [nextBye, if_neg even]
    rw [noBye]
    cases paired : pairRound ctx pids roundNum st.forbidden (workingSet ctx none) with
    | ok result => rw [paired] at failed; cases failed
    | error e =>
      rw [paired] at failed
      cases failed
      rfl

theorem roundStep_error {ctx : MatchContext} {pids : Nat → String} {roundNum : Nat}
    {st : RoundState} {error : MatchingError} (inv : RoundsInv ctx st)
    (early : ctx.size % 2 = 1 → st.roundsPairs.length < ctx.size)
    (failed : roundStep ctx pids st roundNum = .error error) :
    error.isImpossible ∧ SearchExhausted st.forbidden (workingSet ctx (nextBye ctx st))
      (runSearch ctx st.forbidden (workingSet ctx (nextBye ctx st))).2.nodes :=
  pairRound_error inv.symm (nodup_workingSet ctx _) (fun _ member => workingSet_lt member)
    (roundStep_failed inv early failed)

theorem buildRounds_error {input : MatchInput} {r : Nat} {error : MatchingError}
    (few : (matchContext input).size % 2 = 1 → r ≤ (matchContext input).size)
    (failed : buildRounds (matchContext input) (pidAt input) r = .error error) :
    error.isImpossible ∧ ∃ r' < r, ∃ st, DeadEnd input error r' st := by
  obtain ⟨r', before, st, built, stepped⟩ := buildRounds_failing_round failed
  obtain ⟨inv, length⟩ := buildRounds_inv built
  have early : (matchContext input).size % 2 = 1 → st.roundsPairs.length < (matchContext input).size := by
    intro odd
    have := few odd
    omega
  obtain ⟨impossible, exhausted⟩ := roundStep_error inv early stepped
  refine ⟨impossible, r', before, st, built, stepped, exhausted.imp id ?_⟩
  -- the forbidden sets are exactly the pairs of the fixed rounds
  intro noMatching ps matching
  exact noMatching ps (matching.mono fun a b _ avoided => (inv.recorded a b).mp avoided)

theorem noneInvalid {input : MatchInput} (distinct : DistinctUuids (participantIds input)) :
    ((input.participants.map (·.pid)).any fun pid => (uuidValue pid).isNone) = false := by
  rw [List.any_eq_false]
  intro pid member
  have isSome := distinct.valid pid (List.mem_toFinset.mpr member)
  rw [Option.isNone_iff_eq_none]
  exact Option.isSome_iff_ne_none.mp isSome

/-- When the checks at the start pass, a failure is a failure of the round loop. -/
theorem buildRounds_of_failed {input : MatchInput} {error : MatchingError}
    (positive : 1 ≤ input.numRounds) (many : 2 ≤ input.participants.length)
    (nodup : (input.participants.map (·.pid)).Nodup)
    (distinct : DistinctUuids (participantIds input))
    (few : input.numRounds ≤ maxRounds input.participants.length)
    (failed : generateSchedule input = .error error) :
    buildRounds (matchContext input) (pidAt input) input.numRounds.toNat = .error error := by
  simp only [generateSchedule, noneInvalid distinct, nodup, not_true_eq_false, if_false, Bool.false_eq_true,
    List.length_map] at failed
  rw [if_neg (by omega), if_neg (by omega), if_neg (by omega)] at failed
  cases built : buildRounds (matchContext input) (pidAt input) input.numRounds.toNat with
  | ok st => rw [built] at failed; cases failed
  | error e =>
    rw [built] at failed
    cases failed
    rfl

/-- A feasible input with two participants or more is given up on only at a dead
    end of the round loop, and then with `MatchingImpossibleError`. -/
theorem generateSchedule_gives_up (input : MatchInput) (error : MatchingError)
    (positive : 1 ≤ input.numRounds) (many : 2 ≤ input.participants.length)
    (nodup : (input.participants.map (·.pid)).Nodup)
    (distinct : DistinctUuids (participantIds input))
    (feasible : ∃ schedule, ValidSchedule (participantIds input) input.numRounds schedule)
    (failed : generateSchedule input = .error error) :
    error.isImpossible ∧ ∃ r < input.numRounds.toNat, ∃ st, DeadEnd input error r st := by
  have card : (participantIds input).card = input.participants.length := by
    rw [participantIds, List.toFinset_card_of_nodup nodup, List.length_map]
  obtain ⟨schedule, valid⟩ := feasible
  have few := valid.le_maxRounds (Finset.card_pos.mp (by omega))
  rw [card] at few
  refine buildRounds_error (fun odd => ?_)
    (buildRounds_of_failed positive many nodup distinct (by omega) failed)
  have size : (matchContext input).size = input.participants.length := rfl
  rw [size] at odd ⊢
  rw [maxRounds, if_neg (by omega)] at few
  exact few

/-! ## A dead end that could have been avoided -/

/-- Participants 1, 2, 3 share no tag with each other and one tag each with 4, 5 and 6. -/
def sixParticipants : MatchInput where
  participants := [
    ⟨"00000000-0000-0000-0000-000000000001", ⟨{"14", "15", "16"}⟩⟩,
    ⟨"00000000-0000-0000-0000-000000000002", ⟨{"24", "25", "26"}⟩⟩,
    ⟨"00000000-0000-0000-0000-000000000003", ⟨{"34", "35", "36"}⟩⟩,
    ⟨"00000000-0000-0000-0000-000000000004", ⟨{"14", "24", "34"}⟩⟩,
    ⟨"00000000-0000-0000-0000-000000000005", ⟨{"15", "25", "35"}⟩⟩,
    ⟨"00000000-0000-0000-0000-000000000006", ⟨{"16", "26", "36"}⟩⟩]
  numRounds := 4
  weights := .default

/-- Four of the five rounds of a round robin. -/
def sixSchedule : GeneratedSchedule :=
  let id : Nat → String := fun k => s!"00000000-0000-0000-0000-00000000000{k}"
  let round : Int → List (Nat × Nat) → ScheduleRound := fun number pairs =>
    { number := number, pairs := pairs.map fun p => ⟨id p.1, id p.2, 0⟩, unmatchedPid := none }
  ⟨[round 1 [(1, 6), (2, 5), (3, 4)], round 2 [(2, 6), (1, 3), (4, 5)],
    round 3 [(3, 6), (2, 4), (1, 5)], round 4 [(4, 6), (3, 5), (1, 2)]]⟩

theorem distinctUuids_sixParticipants : DistinctUuids (participantIds sixParticipants) := by
  constructor <;> decide +kernel

theorem validSchedule_sixSchedule : ValidSchedule (participantIds sixParticipants) 4 sixSchedule :=
  validSchedule_of_accepted distinctUuids_sixParticipants (by decide) (by decide +kernel)

def stranded : MatchingError :=
  .matchingImpossibleError ("Unable to construct a valid matching in round 4; " ++
    "participant 00000000-0000-0000-0000-000000000003 became stranded after greedy choices " ++
    "and bounded recovery examined 3 states.")

/-- The first three rounds use up all nine pairs between 1, 2, 3 and 4, 5, 6, and
    two triangles have no perfect matching. -/
theorem generateSchedule_sixParticipants : generateSchedule sixParticipants = .error stranded := by
  decide +kernel

theorem sixParticipants_given_up : ∃ r < 4, ∃ st, DeadEnd sixParticipants stranded r st :=
  (generateSchedule_gives_up sixParticipants _ (by decide) (by decide) (by decide +kernel)
    distinctUuids_sixParticipants ⟨sixSchedule, validSchedule_sixSchedule⟩
    generateSchedule_sixParticipants).2

def nobody : MatchInput := ⟨[], 1, .default⟩

/-- An avoidable dead end, and an event without participants whose one round is empty. -/
theorem generateSchedule_rejects_feasible :
    (ValidSchedule (participantIds sixParticipants) sixParticipants.numRounds sixSchedule ∧
      (sixParticipants.participants.map (·.pid)).Nodup ∧
      DistinctUuids (participantIds sixParticipants) ∧
      ¬ ∃ schedule, generateSchedule sixParticipants = .ok schedule) ∧
    (ValidSchedule (participantIds nobody) nobody.numRounds ⟨[⟨1, [], none⟩]⟩ ∧
      ¬ ∃ schedule, generateSchedule nobody = .ok schedule) := by
  refine ⟨⟨validSchedule_sixSchedule, by decide +kernel, distinctUuids_sixParticipants, ?_⟩, ?_, ?_⟩
  · rintro ⟨schedule, returned⟩
    rw [generateSchedule_sixParticipants] at returned
    cases returned
  · have ids : DistinctUuids (participantIds nobody) := by constructor <;> decide
    exact validSchedule_of_accepted ids (by decide) (by decide +kernel)
  · rintro ⟨schedule, returned⟩
    have refused : (generateSchedule nobody).isOk = false := by decide +kernel
    rw [returned] at refused
    cases refused

end EventPlatform.Matching
