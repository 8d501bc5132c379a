import EventPlatform.Matching.Improvement
import EventPlatform.Matching.Validity

/-! # Every generated schedule is valid

The round loop and the improvement phase work on ranks.  A `Ranking` carries
what they establish over to participant ids. -/

namespace EventPlatform.Matching

open EventPlatform.Lib

/-! ## From ranks to ids -/

/-- `pids` lists the participants `ids` in increasing UUID order. -/
structure Ranking (size : Nat) (pids : Nat → String) (ids : Finset String) : Prop where
  mem : ∀ pid, pid ∈ ids ↔ ∃ i < size, pids i = pid
  increasing : ∀ i j, i < j → j < size → UuidLt (pids i) (pids j)

variable {size : Nat} {pids : Nat → String} {ids : Finset String}

theorem Ranking.injective (ranking : Ranking size pids ids) {i j : Nat} (inside : i < size)
    (inside' : j < size) (same : pids i = pids j) : i = j := by
  by_contra different
  cases Nat.lt_or_gt_of_ne different with
  | inl before => exact (ranking.increasing i j before inside').ne same
  | inr after => exact (ranking.increasing j i after inside).ne same.symm

theorem Ranking.nodup (ranking : Ranking size pids ids) : ((List.range size).map pids).Nodup := by
  apply List.Nodup.map_on _ List.nodup_range
  intro i inside j inside' same
  exact ranking.injective (List.mem_range.mp inside) (List.mem_range.mp inside') same

theorem Ranking.card (ranking : Ranking size pids ids) : ids.card = size := by
  have all : ids = ((List.range size).map pids).toFinset := by
    ext pid
    rw [List.mem_toFinset, ranking.mem]
    simp
  rw [all, List.toFinset_card_of_nodup ranking.nodup, List.length_map, List.length_range]

/-! ## One round -/

theorem perm_sortPairs (pairs : List IndexPair) : (sortPairs pairs).Perm pairs :=
  List.perm_insertionSort _ _

theorem members_outputRound (ctx : MatchContext) (pids : Nat → String) (number : Nat)
    (pairs : List IndexPair) (bye : Option Nat) :
    (outputRound ctx pids number pairs bye).members.Perm
      ((endpoints pairs ++ bye.toList).map pids) := by
  have ends := endpoints_map pids (sortPairs pairs)
  have sorted := (endpoints_perm (perm_sortPairs pairs)).map pids
  have byes : (bye.map pids).toList = bye.toList.map pids := by cases bye <;> rfl
  simp only [ScheduleRound.members, outputRound, List.map_map, Function.comp_def, List.map_append,
    byes]
  rw [ends]
  exact sorted.append_right _

theorem mem_outputRound {ctx : MatchContext} {number : Nat} {pairs : List IndexPair}
    {bye : Option Nat} {sp : SchedulePair} :
    sp ∈ (outputRound ctx pids number pairs bye).pairs ↔
      ∃ p ∈ pairs, sp = ⟨pids p.1, pids p.2, ctx.scoreMat p.1 p.2⟩ := by
  simp only [outputRound, List.mem_map, (perm_sortPairs pairs).mem_iff, eq_comm]

theorem IndexRound.lt_size {pairs : List IndexPair} {bye : Option Nat}
    (round : IndexRound size pairs bye) {p : IndexPair} (member : p ∈ pairs) :
    p.1 < p.2 ∧ p.2 < size := by
  refine ⟨round.ordered p member, List.mem_range.mp (round.covers.mem_iff.mp ?_)⟩
  exact List.mem_append_left _ (mem_endpoints.mpr ⟨p, member, .inr rfl⟩)

theorem IndexRound.bye_lt {pairs : List IndexPair} {i : Nat}
    (round : IndexRound size pairs (some i)) : i < size :=
  List.mem_range.mp (round.covers.mem_iff.mp (List.mem_append_right _ (List.mem_singleton_self i)))

theorem validRound_outputRound {ctx : MatchContext} (ranking : Ranking ctx.size pids ids)
    (scores : ∀ i j, 0 ≤ ctx.scoreMat i j ∧ ctx.scoreMat i j ≤ 1) {pairs : List IndexPair}
    {bye : Option Nat} (round : IndexRound ctx.size pairs bye) (number : Nat) :
    ValidRound ids (outputRound ctx pids number pairs bye) := by
  have perm := (members_outputRound ctx pids number pairs bye).trans (round.covers.map pids)
  refine ⟨perm.nodup_iff.mpr ranking.nodup, fun pid => ?_, ?_, fun sp member => ?_,
    fun sp member => ?_⟩
  · rw [perm.mem_iff, ranking.mem]
    simp
  · rw [ranking.card, ← round.parity]
    simp [outputRound]
  · obtain ⟨p, inPairs, rfl⟩ := mem_outputRound.mp member
    obtain ⟨order, inside⟩ := round.lt_size inPairs
    exact ranking.increasing p.1 p.2 order inside
  · obtain ⟨p, _, rfl⟩ := mem_outputRound.mp member
    exact scores p.1 p.2

/-- Two rounds without a common edge have no common encounter. -/
theorem disjoint_outputRound {ctx : MatchContext} (ranking : Ranking ctx.size pids ids)
    {pairs pairs' : List IndexPair} {bye bye' : Option Nat}
    (round : IndexRound ctx.size pairs bye) (round' : IndexRound ctx.size pairs' bye')
    (disjoint : pairs.Disjoint pairs') (number number' : Nat) (x y : String)
    (meets : (outputRound ctx pids number pairs bye).Meets x y) :
    ¬ (outputRound ctx pids number' pairs' bye').Meets x y := by
  rintro ⟨sp', member', ends'⟩
  obtain ⟨sp, member, ends⟩ := meets
  obtain ⟨p, inPairs, rfl⟩ := mem_outputRound.mp member
  obtain ⟨q, inPairs', rfl⟩ := mem_outputRound.mp member'
  obtain ⟨order, inside⟩ := round.lt_size inPairs
  obtain ⟨order', inside'⟩ := round'.lt_size inPairs'
  have first := ranking.increasing p.1 p.2 order inside
  have second := ranking.increasing q.1 q.2 order' inside'
  simp only at ends ends'
  -- both pairs are in order, so they meet the same way round
  have same : pids p.1 = pids q.1 ∧ pids p.2 = pids q.2 := by
    cases ends with
    | inl forward =>
      obtain ⟨rfl, rfl⟩ := forward
      cases ends' with
      | inl forward' => exact ⟨forward'.1.symm, forward'.2.symm⟩
      | inr backward' =>
        rw [backward'.1, backward'.2] at second
        exact absurd second first.asymm
    | inr backward =>
      obtain ⟨rfl, rfl⟩ := backward
      cases ends' with
      | inl forward' =>
        rw [forward'.1, forward'.2] at second
        exact absurd second first.asymm
      | inr backward' => exact ⟨backward'.1.symm, backward'.2.symm⟩
  have left := ranking.injective (by omega) (by omega) same.1
  have right := ranking.injective inside inside' same.2
  exact disjoint inPairs (Prod.ext left right ▸ inPairs')

/-! ## All rounds -/

theorem length_outputRounds {ctx : MatchContext} {rounds : List (List IndexPair)}
    {byes : List (Option Nat)} (lengths : rounds.length = byes.length) :
    (outputRounds ctx pids rounds byes).length = rounds.length := by
  simp [outputRounds, lengths]

theorem getElem_outputRounds (ctx : MatchContext) (pids : Nat → String)
    {rounds : List (List IndexPair)} {byes : List (Option Nat)} (lengths : rounds.length = byes.length) {i : Nat}
    (inside : i < (outputRounds ctx pids rounds byes).length) :
    ∃ (here : i < rounds.length) (here' : i < byes.length),
      (outputRounds ctx pids rounds byes)[i] = outputRound ctx pids (i + 1) rounds[i] byes[i] := by
  have here : i < rounds.length := by rwa [length_outputRounds lengths] at inside
  refine ⟨here, lengths ▸ here, ?_⟩
  simp [outputRounds]

theorem numbers_outputRounds {ctx : MatchContext} {rounds : List (List IndexPair)}
    {byes : List (Option Nat)} (lengths : rounds.length = byes.length) {numRounds : Int}
    (count : rounds.length = numRounds.toNat) :
    (outputRounds ctx pids rounds byes).map (·.number) = roundNumbers numRounds := by
  apply List.ext_getElem
  · rw [List.length_map, length_outputRounds lengths, length_roundNumbers, count]
  · intro i inside _
    rw [List.length_map] at inside
    obtain ⟨_, _, output⟩ := getElem_outputRounds ctx pids lengths inside
    rw [List.getElem_map, output]
    simp [outputRound, roundNumbers]

theorem validSchedule_outputRounds {ctx : MatchContext} (ranking : Ranking ctx.size pids ids)
    (scores : ∀ i j, 0 ≤ ctx.scoreMat i j ∧ ctx.scoreMat i j ≤ 1)
    {rounds : List (List IndexPair)} {byes : List (Option Nat)} {numRounds : Int}
    (valid : List.Forall₂ (IndexRound ctx.size) rounds byes) (distinct : rounds.flatten.Nodup)
    (byesDistinct : (byes.filterMap id).Nodup) (count : rounds.length = numRounds.toNat) :
    ValidSchedule ids numRounds ⟨outputRounds ctx pids rounds byes⟩ := by
  have lengths := valid.length_eq
  have round : ∀ i (here : i < rounds.length) (here' : i < byes.length),
      IndexRound ctx.size rounds[i] byes[i] := fun i here here' => valid.get here here'
  -- two positions stand for two rounds, whose pairs and byes are apart
  have disjoint := List.pairwise_iff_getElem.mp (List.nodup_flatten.mp distinct).2
  have apart := List.pairwise_iff_getElem.mp (List.pairwise_filterMap.mp byesDistinct)
  refine ⟨?_, ?_, ?_, ?_⟩
  · rw [numbers_outputRounds lengths count]
  · intro r member
    obtain ⟨i, inside, rfl⟩ := List.getElem_of_mem member
    obtain ⟨here, here', output⟩ := getElem_outputRounds ctx pids lengths inside
    rw [output]
    exact validRound_outputRound ranking scores (round i here here') (i + 1)
  · refine List.pairwise_iff_getElem.mpr fun i j insideI insideJ before x y meets => ?_
    obtain ⟨here, here', output⟩ := getElem_outputRounds ctx pids lengths insideI
    obtain ⟨there, there', output'⟩ := getElem_outputRounds ctx pids lengths insideJ
    rw [output] at meets
    rw [output']
    exact disjoint_outputRound ranking (round i here here') (round j there there')
      (disjoint i j here there before) (i + 1) (j + 1) x y meets
  · refine List.pairwise_iff_getElem.mpr fun i j insideI insideJ before pid isBye isBye' => ?_
    obtain ⟨here, here', output⟩ := getElem_outputRounds ctx pids lengths insideI
    obtain ⟨there, there', output'⟩ := getElem_outputRounds ctx pids lengths insideJ
    simp only [output, outputRound, Option.map_eq_some_iff] at isBye
    simp only [output', outputRound, Option.map_eq_some_iff] at isBye'
    obtain ⟨a, byeA, rfl⟩ := isBye
    obtain ⟨b, byeB, same⟩ := isBye'
    have roundA := round i here here'
    have roundB := round j there there'
    rw [byeA] at roundA
    rw [byeB] at roundB
    exact apart i j here' there' before a byeA b byeB
      (ranking.injective roundB.bye_lt roundA.bye_lt same).symm

/-! ## The engine -/

def participantIds (input : MatchInput) : Finset String :=
  (input.participants.map (·.pid)).toFinset

theorem perm_idxToPid (input : MatchInput) :
    (idxToPid input).Perm (input.participants.map (·.pid)) :=
  List.perm_insertionSort _ _

theorem length_idxToPid (input : MatchInput) :
    (idxToPid input).length = (matchContext input).size := by
  rw [(perm_idxToPid input).length_eq, List.length_map]
  rfl

theorem pairwise_idxToPid (input : MatchInput) :
    (idxToPid input).Pairwise fun x y => uuidKey x ≤ uuidKey y := by
  have total : Std.Total fun x y => uuidKey x ≤ uuidKey y := ⟨fun x y => le_total _ _⟩
  have trans : IsTrans String fun x y => uuidKey x ≤ uuidKey y := ⟨fun _ _ _ => le_trans⟩
  exact List.pairwise_insertionSort _ _

theorem pidAt_getElem {input : MatchInput} {i : Nat} (inside : i < (idxToPid input).length) :
    pidAt input i = (idxToPid input)[i] := by
  simp [pidAt, inside]

theorem ranking_pidAt {input : MatchInput} (nodup : (input.participants.map (·.pid)).Nodup)
    (distinct : DistinctUuids (participantIds input)) :
    Ranking (matchContext input).size (pidAt input) (participantIds input) := by
  have length := length_idxToPid input
  have member : ∀ pid, pid ∈ participantIds input ↔ pid ∈ idxToPid input := by
    intro pid
    rw [participantIds, List.mem_toFinset, (perm_idxToPid input).mem_iff]
  refine ⟨fun pid => ?_, fun i j before inside => ?_⟩
  · rw [member, List.mem_iff_getElem, ← length]
    constructor
    · rintro ⟨i, inside, here⟩
      exact ⟨i, inside, (pidAt_getElem inside).trans here⟩
    · rintro ⟨i, inside, here⟩
      exact ⟨i, inside, (pidAt_getElem inside).symm.trans here⟩
  · rw [← length] at inside
    have insideI : i < (idxToPid input).length := before.trans inside
    rw [pidAt_getElem inside, pidAt_getElem insideI]
    have memberI := (member _).mpr (List.getElem_mem insideI)
    have memberJ := (member _).mpr (List.getElem_mem inside)
    obtain ⟨a, valueA⟩ := Option.isSome_iff_exists.mp (distinct.valid _ memberI)
    obtain ⟨b, valueB⟩ := Option.isSome_iff_exists.mp (distinct.valid _ memberJ)
    have le := List.pairwise_iff_getElem.mp (pairwise_idxToPid input) i j insideI inside before
    simp only [uuidKey, valueA, valueB, Option.getD_some] at le
    refine ⟨a, b, valueA, valueB, lt_of_le_of_ne le fun same => ?_⟩
    -- equal UUID values would be one id at two positions
    subst same
    have sameId := distinct.injective _ memberI _ memberJ (valueA.trans valueB.symm)
    have nodup' := (perm_idxToPid input).nodup_iff.mpr nodup
    have := (nodup'.getElem_inj_iff).mp sameId
    omega

theorem scoreMat_bounds (input : MatchInput) (i j : Nat) :
    0 ≤ scoreMat input i j ∧ scoreMat input i j ≤ 1 := by
  simp only [scoreMat]
  split
  · exact ⟨computeMatchScore_nonneg _ _ _, computeMatchScore_le_one _ _ _⟩
  · split
    · exact ⟨computeMatchScore_nonneg _ _ _, computeMatchScore_le_one _ _ _⟩
    · exact ⟨le_refl 0, zero_le_one⟩

/-- What a returned schedule went through. -/
theorem generateSchedule_ok {input : MatchInput} {schedule : GeneratedSchedule}
    (generated : generateSchedule input = .ok schedule) :
    1 ≤ input.numRounds ∧ 2 ≤ input.participants.length ∧
      (input.participants.map (·.pid)).Nodup ∧
      ∃ st, buildRounds (matchContext input) (pidAt input) input.numRounds.toNat = .ok st ∧
        schedule = ⟨outputRounds (matchContext input) (pidAt input)
          (improveRounds (matchContext input) st.roundsPairs.flatten.toFinset st.roundsPairs)
          st.roundsBye⟩ := by
  simp only [generateSchedule] at generated
  split at generated
  next => cases generated
  next positive =>
  split at generated
  next => cases generated
  next unique =>
  split at generated
  next => cases generated
  split at generated
  next => cases generated
  next enough =>
  split at generated
  next => cases generated
  rw [List.length_map] at enough
  -- the checks have passed, and only the round loop can still fail
  cases built : buildRounds (matchContext input) (pidAt input) input.numRounds.toNat with
  | error e => rw [built] at generated; cases generated
  | ok st =>
    rw [built] at generated
    cases generated
    exact ⟨by omega, by omega, not_not.mp unique, st, rfl, rfl⟩

theorem validSchedule_of_generated {input : MatchInput} {schedule : GeneratedSchedule}
    (distinct : DistinctUuids (participantIds input))
    (generated : generateSchedule input = .ok schedule) :
    ValidSchedule (participantIds input) input.numRounds schedule := by
  obtain ⟨_, _, nodup, st, built, rfl⟩ := generateSchedule_ok generated
  obtain ⟨inv, count⟩ := buildRounds_inv built
  obtain ⟨valid, edges⟩ := improveRounds_spec inv.rounds [] st.roundsPairs.flatten.toFinset
    (by simp) inv.distinct
  have lengths := valid.length_eq.trans inv.rounds.length_eq.symm
  exact validSchedule_outputRounds (ranking_pidAt nodup distinct) (scoreMat_bounds input) valid
    edges inv.byes (lengths.trans count)

theorem numbers_of_generated {input : MatchInput} {schedule : GeneratedSchedule}
    (generated : generateSchedule input = .ok schedule) :
    schedule.rounds.map (·.number) = roundNumbers input.numRounds := by
  obtain ⟨_, _, _, st, built, rfl⟩ := generateSchedule_ok generated
  obtain ⟨inv, count⟩ := buildRounds_inv built
  obtain ⟨valid, _⟩ := improveRounds_spec inv.rounds [] st.roundsPairs.flatten.toFinset
    (by simp) inv.distinct
  have lengths := valid.length_eq.trans inv.rounds.length_eq.symm
  exact numbers_outputRounds valid.length_eq (lengths.trans count)

/-- Every round of a returned schedule has a pair. -/
theorem pairs_of_generated {input : MatchInput} {schedule : GeneratedSchedule}
    (distinct : DistinctUuids (participantIds input))
    (generated : generateSchedule input = .ok schedule) :
    ∀ r ∈ schedule.rounds, ∃ sp, sp ∈ r.pairs := by
  intro r member
  obtain ⟨_, enough, nodup, _⟩ := generateSchedule_ok generated
  have valid := (validSchedule_of_generated distinct generated).rounds r member
  apply List.exists_mem_of_ne_nil
  intro empty
  -- without a pair at most one participant would be accounted for
  have few : r.members.length ≤ 1 := by
    unfold ScheduleRound.members
    rw [empty]
    cases r.unmatchedPid <;> simp [endpoints]
  have all : participantIds input ⊆ r.members.toFinset := fun pid inIds =>
    List.mem_toFinset.mpr ((valid.everyone pid).mpr inIds)
  have size : (participantIds input).card = input.participants.length := by
    rw [participantIds, List.toFinset_card_of_nodup nodup, List.length_map]
  have := Finset.card_le_card all
  have := List.toFinset_card_le r.members
  omega

/-- Whatever mix of greedy, recovery and swaps produced it, a returned schedule
    passes the validator. -/
theorem generateSchedule_sound (input : MatchInput) (schedule : GeneratedSchedule)
    (distinct : DistinctUuids (participantIds input))
    (generated : generateSchedule input = .ok schedule) :
    validateSchedule schedule (participantIds input) input.numRounds = [] ∧
      ValidSchedule (participantIds input) input.numRounds schedule := by
  have valid := validSchedule_of_generated distinct generated
  have positive := (generateSchedule_ok generated).1
  exact ⟨valid.accepted distinct (by omega), valid⟩

/-- Four participants, three rounds: everybody meets everybody. -/
def fourParticipants : MatchInput where
  participants := [
    ⟨"00000000-0000-0000-0000-000000000004", ⟨{"chess", "music"}⟩⟩,
    ⟨"00000000-0000-0000-0000-000000000001", ⟨{"music"}⟩⟩,
    ⟨"00000000-0000-0000-0000-000000000003", ⟨{"chess"}⟩⟩,
    ⟨"00000000-0000-0000-0000-000000000002", ⟨∅⟩⟩]
  numRounds := 3
  weights := .default

theorem generateSchedule_fourParticipants :
    ∃ schedule, generateSchedule fourParticipants = .ok schedule ∧
      validateSchedule schedule (participantIds fourParticipants) 3 = [] ∧
      ValidSchedule (participantIds fourParticipants) 3 schedule := by
  have returned : (generateSchedule fourParticipants).isOk = true := by decide +kernel
  cases generated : generateSchedule fourParticipants with
  | error _ => rw [generated] at returned; cases returned
  | ok schedule =>
    refine ⟨schedule, rfl, generateSchedule_sound fourParticipants schedule ?_ generated⟩
    constructor <;> decide +kernel

end EventPlatform.Matching
