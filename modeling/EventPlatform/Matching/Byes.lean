import EventPlatform.Matching.Feasibility

/-! # Who sits out

In an odd event everybody who has not sat out yet has met one new partner in
every round, so all of them tie on remaining availability and the tie-break on
the rank decides: the byes go down from the largest id. -/

namespace EventPlatform.Matching

open EventPlatform.Lib

/-! ## One new partner a round -/

/-- A round adds exactly one partner to everybody it pairs. -/
theorem card_grown {forbidden grown : Forbidden} {working : List Nat} {ps : List IndexPair}
    (nodup : working.Nodup) (matching : PerfectMatching forbidden.Avoid working ps)
    (growth : forbidden.GrownBy ps grown) {i : Nat} (inside : i ∈ working) :
    (grown i).card = (forbidden i).card + 1 := by
  have distinct := matching.covers.nodup_iff.mpr nodup
  obtain ⟨partner, met⟩ := exists_met (matching.covers.mem_iff.mpr inside)
  have added : grown i = insert partner (forbidden i) := by
    ext j
    rw [growth i j, Finset.mem_insert, or_comm]
    apply or_congr_left
    constructor
    · exact fun met' => met'.unique distinct met
    · exact fun same => same ▸ met
  rw [added, Finset.card_insert_of_notMem (matching.allowed i partner met)]

/-! ## The byes of the finished rounds -/

/-- The `r` largest ranks, the largest first. -/
def largestRanks (size r : Nat) : List (Option Nat) :=
  (List.range r).map fun k => some (size - 1 - k)

theorem mem_largestRanks {size r i : Nat} (few : r ≤ size) :
    some i ∈ largestRanks size r ↔ size - r ≤ i ∧ i < size := by
  simp only [largestRanks, List.mem_map, List.mem_range, Option.some.injEq]
  constructor
  · rintro ⟨k, before, rfl⟩
    omega
  · intro h
    exact ⟨size - 1 - i, by omega, by omega⟩

/-- What the rounds of an odd event keep, besides `RoundsInv`. -/
structure ByesInv (ctx : MatchContext) (st : RoundState) : Prop where
  byes : st.roundsBye = largestRanks ctx.size st.roundsPairs.length
  partners : ∀ i < ctx.size - st.roundsPairs.length,
    (st.forbidden i).card = st.roundsPairs.length

/-- The eligible ranks all tie, so the largest of them is chosen. -/
theorem ByesInv.chooseBye {ctx : MatchContext} {st : RoundState} (byes : ByesInv ctx st)
    (inv : RoundsInv ctx st) (early : st.roundsPairs.length < ctx.size) :
    chooseBye ctx st = some (ctx.size - 1 - st.roundsPairs.length) := by
  obtain ⟨n, size⟩ := Nat.exists_eq_add_of_lt early
  have eligible : (List.range ctx.size).filter (fun i => st.unmatchedCount i = 0) =
      List.range (n + 1) := by
    have cut : ctx.size = (n + 1) + st.roundsPairs.length := by rw [size]; omega
    rw [cut, List.range_add, List.filter_append]
    have kept : ∀ i ∈ List.range (n + 1), decide (st.unmatchedCount i = 0) = true := by
      intro i inside
      have := List.mem_range.mp inside
      rw [decide_eq_true_eq, inv.unmatched, byes.byes, mem_largestRanks (by omega)]
      omega
    have dropped : ∀ i ∈ (List.range st.roundsPairs.length).map ((n + 1) + ·),
        ¬ decide (st.unmatchedCount i = 0) = true := by
      intro i inside
      obtain ⟨k, before, rfl⟩ := List.mem_map.mp inside
      have := List.mem_range.mp before
      rw [decide_eq_true_eq, inv.unmatched, byes.byes, mem_largestRanks (by omega)]
      omega
    rw [List.filter_eq_self.mpr kept, List.filter_eq_nil_iff.mpr dropped, List.append_nil]
  have last : ctx.size - 1 - st.roundsPairs.length = n := by omega
  rw [Matching.chooseBye, eligible, last, List.range_succ]
  -- all others tie with the last one on both counts, and lose to it on the rank
  apply firstLeast_concat
  intro i inside
  have before := List.mem_range.mp inside
  right
  simp only [byes.partners i (by omega), byes.partners n (by omega), true_and]
  exact before

/-- Pairing everybody but the next largest rank keeps the invariant. -/
theorem ByesInv.finish {ctx : MatchContext} {st : RoundState} (byes : ByesInv ctx st)
    {grown : Forbidden} {pairs : List IndexPair}
    (paired : RoundPaired st.forbidden
      (workingSet ctx (some (ctx.size - 1 - st.roundsPairs.length))) (grown, pairs)) :
    ByesInv ctx (st.finish grown (some (ctx.size - 1 - st.roundsPairs.length)) pairs) where
  byes := by
    simp [RoundState.finish, byes.byes, largestRanks, List.range_succ]
  partners := by
    intro i small
    simp only [RoundState.finish, List.length_append, List.length_singleton] at small ⊢
    have inside : i ∈ workingSet ctx (some (ctx.size - 1 - st.roundsPairs.length)) := by
      apply (List.nodup_range.mem_erase_iff).mpr
      exact ⟨by omega, List.mem_range.mpr (by omega)⟩
    rw [card_grown (nodup_workingSet ctx _) paired.matching paired.grown inside,
      byes.partners i (by omega)]

/-! ## The round loop -/

theorem roundStep_byes {ctx : MatchContext} {pids : Nat → String} {roundNum : Nat}
    {st st' : RoundState} (odd : ctx.size % 2 = 1) (inv : RoundsInv ctx st) (byes : ByesInv ctx st)
    (early : st.roundsPairs.length < ctx.size)
    (stepped : roundStep ctx pids st roundNum = .ok st') : ByesInv ctx st' := by
  have chosen := byes.chooseBye inv early
  simp only [roundStep, if_pos odd, chosen] at stepped
  cases paired : pairRound ctx pids roundNum st.forbidden
      (workingSet ctx (some (ctx.size - 1 - st.roundsPairs.length))) with
  | error e => rw [paired] at stepped; cases stepped
  | ok result =>
    rw [paired] at stepped
    cases stepped
    apply byes.finish
    exact pairRound_sound inv.symm (nodup_workingSet ctx _) (fun _ => workingSet_lt) paired

theorem buildRounds_byes {ctx : MatchContext} {pids : Nat → String} {r : Nat} {st : RoundState}
    (odd : ctx.size % 2 = 1) (few : r ≤ ctx.size) (built : buildRounds ctx pids r = .ok st) :
    ByesInv ctx st := by
  induction r generalizing st with
  | zero =>
    cases built
    exact ⟨rfl, fun i _ => rfl⟩
  | succ r ih =>
    obtain ⟨st', earlier, stepped⟩ := buildRounds_succ_ok built
    obtain ⟨inv, length⟩ := buildRounds_inv earlier
    exact roundStep_byes odd inv (ih (by omega) earlier) (by omega) stepped

/-! ## The errors of the round loop -/

def allUnmatchedError (roundNum : Nat) : MatchingError :=
  .matchingImpossibleError
    s!"Cannot satisfy 'no participant unmatched more than once' in round {roundNum}: all participants have already been unmatched."

def strandedError (roundNum : Nat) (pid : String) (nodes : Nat) : MatchingError :=
  .matchingImpossibleError
    s!"Unable to construct a valid matching in round {roundNum}; participant {pid} became stranded after greedy choices and bounded recovery examined {nodes} states."

theorem pairRound_stranded {ctx : MatchContext} {pids : Nat → String} {roundNum : Nat}
    {forbidden : Forbidden} {working : List Nat} {error : MatchingError}
    (failed : pairRound ctx pids roundNum forbidden working = .error error) :
    ∃ pid nodes, error = strandedError roundNum pid nodes := by
  simp only [pairRound] at failed
  split at failed
  next => cases failed
  next stuck =>
    split at failed
    next => cases failed
    next gaveUp _ =>
      cases failed
      exact ⟨_, _, rfl⟩

theorem roundStep_stranded {ctx : MatchContext} {pids : Nat → String} {roundNum : Nat}
    {st : RoundState} {error : MatchingError} (inv : RoundsInv ctx st)
    (early : ctx.size % 2 = 1 → st.roundsPairs.length < ctx.size)
    (failed : roundStep ctx pids st roundNum = .error error) :
    ∃ pid nodes, error = strandedError roundNum pid nodes := by
  exact pairRound_stranded (roundStep_failed inv early failed)

theorem buildRounds_stranded {ctx : MatchContext} {pids : Nat → String} {r : Nat}
    {error : MatchingError} (few : ctx.size % 2 = 1 → r ≤ ctx.size)
    (failed : buildRounds ctx pids r = .error error) :
    ∃ roundNum pid nodes, error = strandedError roundNum pid nodes := by
  obtain ⟨r', before, st, built, stepped⟩ := buildRounds_failing_round failed
  obtain ⟨inv, length⟩ := buildRounds_inv built
  refine ⟨_, roundStep_stranded inv (fun odd => ?_) stepped⟩
  have := few odd
  omega

/-- Two messages that differ in one character. -/
theorem message_ne {a b : String} {k : Nat} {x y : Char} (first : a.toList[k]? = some x)
    (second : b.toList[k]? = some y) (different : x ≠ y) :
    MatchingError.matchingImpossibleError a ≠ .matchingImpossibleError b := by
  intro same
  cases same
  rw [first] at second
  exact different (Option.some.inj second)

/-- The eighth character of each message tells them apart. -/
theorem allUnmatchedError_char (roundNum : Nat) :
    (s!"Cannot satisfy 'no participant unmatched more than once' in round {roundNum}: all participants have already been unmatched.").toList[7]? = some 's' := by
  simp only [String.toList_append]
  rfl

theorem strandedError_ne (roundNum roundNum' nodes : Nat) (pid : String) :
    strandedError roundNum pid nodes ≠ allUnmatchedError roundNum' := by
  apply message_ne _ (allUnmatchedError_char roundNum') (x := 't') (by decide)
  simp only [String.toList_append]
  rfl

/-- The check on the number of rounds has passed. -/
theorem numRounds_le_of_generated {input : MatchInput} {schedule : GeneratedSchedule}
    (generated : generateSchedule input = .ok schedule) :
    input.numRounds ≤ maxRounds input.participants.length := by
  simp only [generateSchedule] at generated
  repeat split at generated <;> try cases generated
  next few =>
    rw [List.length_map] at few
    omega

theorem generateSchedule_ne_allUnmatched (input : MatchInput) (roundNum : Nat) :
    generateSchedule input ≠ .error (allUnmatchedError roundNum) := by
  intro failed
  simp only [generateSchedule, List.length_map] at failed
  have unmatched := allUnmatchedError_char roundNum
  -- the checks before the round loop raise texts of their own
  split at failed
  next => exact message_ne rfl unmatched (x := 'n') (by decide) (Except.error.inj failed)
  split at failed
  next => cases failed
  split at failed
  next => cases failed
  split at failed
  next =>
    refine message_ne ?_ unmatched (x := 'g') (by decide) (Except.error.inj failed)
    simp only [String.toList_append]
    rfl
  split at failed
  next =>
    refine message_ne ?_ unmatched (x := 'p') (by decide) (Except.error.inj failed)
    simp only [String.toList_append]
    rfl
  next few =>
    cases built : buildRounds (matchContext input) (pidAt input) input.numRounds.toNat with
    | ok st => rw [built] at failed; cases failed
    | error e =>
      rw [built] at failed
      cases failed
      -- the round loop itself only ever raises the other text
      refine absurd (buildRounds_stranded ?_ built) ?_
      · intro odd
        have size : (matchContext input).size = input.participants.length := rfl
        rw [maxRounds, if_neg (by omega)] at few
        omega
      · rintro ⟨roundNum', pid, nodes, same⟩
        exact strandedError_ne roundNum' roundNum nodes pid same.symm

/-! ## The byes of a schedule -/

theorem unmatched_outputRounds {ctx : MatchContext} {pids : Nat → String}
    {rounds : List (List IndexPair)} {byes : List (Option Nat)}
    (lengths : rounds.length = byes.length) :
    (outputRounds ctx pids rounds byes).map (·.unmatchedPid) = byes.map (Option.map pids) := by
  apply List.ext_getElem
  · rw [List.length_map, List.length_map, length_outputRounds lengths, lengths]
  · intro i inside _
    rw [List.length_map] at inside
    obtain ⟨_, _, output⟩ := getElem_outputRounds ctx pids lengths inside
    rw [List.getElem_map, List.getElem_map, output]
    rfl

theorem largestRanks_map_pidAt (input : MatchInput) {r : Nat}
    (few : r ≤ input.participants.length) :
    (largestRanks input.participants.length r).map (Option.map (pidAt input)) =
      ((idxToPid input).reverse.take r).map some := by
  have length : (idxToPid input).length = input.participants.length := length_idxToPid input
  apply List.ext_getElem
  · simp only [largestRanks, List.length_map, List.length_range, List.length_take,
      List.length_reverse, length]
    omega
  · intro k inside _
    simp only [largestRanks, List.length_map, List.length_range] at inside
    have here : input.participants.length - 1 - k < (idxToPid input).length := by omega
    simp [largestRanks, length]
    exact pidAt_getElem here

/-- In an odd event the ids sit out from the largest down, one a round, and the
    engine never runs out of participants who may sit out. -/
theorem byes_descending (input : MatchInput) (odd : input.participants.length % 2 = 1) :
    (∀ schedule, generateSchedule input = .ok schedule →
      ∃ descending : List String, descending.Perm (input.participants.map (·.pid)) ∧
        descending.Pairwise (fun x y => uuidKey y ≤ uuidKey x) ∧
        schedule.rounds.map (·.unmatchedPid) =
          (descending.take input.numRounds.toNat).map some) ∧
      ∀ roundNum, generateSchedule input ≠ .error (allUnmatchedError roundNum) := by
  refine ⟨?_, generateSchedule_ne_allUnmatched input⟩
  intro schedule generated
  have few := numRounds_le_of_generated generated
  rw [maxRounds, if_neg (by omega)] at few
  obtain ⟨_, _, nodup, st, built, rfl⟩ := generateSchedule_ok generated
  obtain ⟨inv, count⟩ := buildRounds_inv built
  have size : (matchContext input).size = input.participants.length := rfl
  have byes := (buildRounds_byes (size ▸ odd) (by omega) built).byes
  obtain ⟨valid, _⟩ := improveRounds_spec inv.rounds [] st.roundsPairs.flatten.toFinset
    (by simp) inv.distinct
  refine ⟨(idxToPid input).reverse, ?_, ?_, ?_⟩
  · exact (List.reverse_perm _).trans (perm_idxToPid input)
  · exact List.pairwise_reverse.mpr (pairwise_idxToPid input)
  · rw [unmatched_outputRounds valid.length_eq, byes, count, size]
    exact largestRanks_map_pidAt input (by omega)

/-- Three participants and two rounds: 3 sits out first, then 2. -/
def threeParticipants : MatchInput where
  participants := [
    ⟨"00000000-0000-0000-0000-000000000002", ⟨{"music"}⟩⟩,
    ⟨"00000000-0000-0000-0000-000000000003", ⟨{"music"}⟩⟩,
    ⟨"00000000-0000-0000-0000-000000000001", ⟨∅⟩⟩]
  numRounds := 2
  weights := .default

theorem byes_threeParticipants :
    (∃ schedule, generateSchedule threeParticipants = .ok schedule ∧
      ∃ descending : List String,
        descending.Perm (threeParticipants.participants.map (·.pid)) ∧
        descending.Pairwise (fun x y => uuidKey y ≤ uuidKey x) ∧
        schedule.rounds.map (·.unmatchedPid) = (descending.take 2).map some) ∧
      generateSchedule threeParticipants ≠ .error (allUnmatchedError 1) := by
  obtain ⟨descend, never⟩ := byes_descending threeParticipants (by decide)
  refine ⟨?_, never 1⟩
  have returned : (generateSchedule threeParticipants).isOk = true := by decide +kernel
  cases generated : generateSchedule threeParticipants with
  | error _ => rw [generated] at returned; cases returned
  | ok schedule => exact ⟨schedule, rfl, descend schedule generated⟩

end EventPlatform.Matching
