import EventPlatform.Matching.Byes

/-! # Input order and names do not matter

The engine reads its input through ranks and scores only.  Permuting the
participants or renaming the tags leaves both unchanged, and a renaming of the
ids that keeps their UUID order changes only the ids that are written out. -/

namespace EventPlatform.Matching

open EventPlatform.Lib

/-! ## The renamed input -/

/-- The tags that a participant has. -/
def MatchInput.tagIds (input : MatchInput) : Set String :=
  { tag | ∃ p ∈ input.participants, tag ∈ p.profile.tagIds }

def MatchInput.renameTags (input : MatchInput) (rename : String → String) : MatchInput :=
  { input with
    participants := input.participants.map fun p =>
      { p with profile := ⟨p.profile.tagIds.image rename⟩ } }

def MatchInput.renamePids (input : MatchInput) (rename : String → String) : MatchInput :=
  { input with participants := input.participants.map fun p => { p with pid := rename p.pid } }

def ScheduleRound.renamePids (rename : String → String) (r : ScheduleRound) : ScheduleRound where
  number := r.number
  pairs := r.pairs.map fun sp => ⟨rename sp.pidA, rename sp.pidB, sp.score⟩
  unmatchedPid := r.unmatchedPid.map rename

def GeneratedSchedule.renamePids (rename : String → String) (schedule : GeneratedSchedule) :
    GeneratedSchedule :=
  ⟨schedule.rounds.map (ScheduleRound.renamePids rename)⟩

/-- A renaming of the ids of `ids` that keeps their order as UUIDs. -/
structure OrderPreserving (ids : Finset String) (rename : String → String) : Prop where
  valid : ∀ x ∈ ids, (uuidValue (rename x)).isSome
  increasing : ∀ x ∈ ids, ∀ y ∈ ids, UuidLt x y → UuidLt (rename x) (rename y)

/-! ## What the engine reads -/

/-- Two inputs with the same ids up to order, the same ranks and the same scores. -/
theorem generateSchedule_congr {input input' : MatchInput} (rounds : input'.numRounds = input.numRounds)
    (perm : (input'.participants.map (·.pid)).Perm (input.participants.map (·.pid)))
    (context : matchContext input' = matchContext input) (pids : pidAt input' = pidAt input) :
    generateSchedule input' = generateSchedule input := by
  simp only [generateSchedule, rounds, perm.length_eq, perm.nodup_iff, perm.any_eq, context, pids]

theorem distinct_pids {input : MatchInput} (distinct : DistinctUuids (participantIds input)) :
    ∀ x ∈ input.participants.map (·.pid), ∀ y ∈ input.participants.map (·.pid),
      uuidKey x = uuidKey y → x = y := by
  intro x insideX y insideY same
  have memberX := List.mem_toFinset.mpr insideX
  have memberY := List.mem_toFinset.mpr insideY
  obtain ⟨a, valueX⟩ := Option.isSome_iff_exists.mp (distinct.valid x memberX)
  obtain ⟨b, valueY⟩ := Option.isSome_iff_exists.mp (distinct.valid y memberY)
  simp only [uuidKey, valueX, valueY, Option.getD_some] at same
  exact distinct.injective x memberX y memberY (by rw [valueX, valueY, same])

/-- Sorting has only one result when the UUID values differ. -/
theorem idxToPid_eq {input : MatchInput} (distinct : DistinctUuids (participantIds input))
    {sorted : List String} (perm : sorted.Perm (input.participants.map (·.pid)))
    (increasing : sorted.Pairwise fun x y => uuidKey x ≤ uuidKey y) : idxToPid input = sorted := by
  have same := (perm_idxToPid input).trans perm.symm
  refine same.eq_of_pairwise ?_ (pairwise_idxToPid input) increasing
  intro x y insideX insideY le le'
  exact distinct_pids distinct x ((perm_idxToPid input).mem_iff.mp insideX) y
    (perm.mem_iff.mp insideY) (le_antisymm le le')

/-- The profile of a participant, found by its id. -/
theorem profileOf_eq {input : MatchInput} (nodup : (input.participants.map (·.pid)).Nodup)
    {p : MatchParticipant} (inside : p ∈ input.participants) :
    profileOf input p.pid = p.profile := by
  have found : input.participants.find? (·.pid = p.pid) = some p := by
    obtain ⟨front, back, split⟩ := List.append_of_mem inside
    rw [split, List.find?_append, List.find?_eq_none.mpr, Option.none_or, List.find?_cons_of_pos]
    · simp
    · intro q member same
      rw [split, List.map_append, List.map_cons, List.nodup_append] at nodup
      exact nodup.2.2 q.pid (List.mem_map_of_mem member) p.pid List.mem_cons_self
        (of_decide_eq_true same)
  rw [profileOf, found]
  rfl

theorem profileOf_absent {input : MatchInput} {pid : String}
    (absent : pid ∉ input.participants.map (·.pid)) : profileOf input pid = ⟨∅⟩ := by
  have missing : input.participants.find? (·.pid = pid) = none := by
    apply List.find?_eq_none.mpr
    intro p inside same
    exact absent (of_decide_eq_true same ▸ List.mem_map_of_mem inside)
  rw [profileOf, missing]
  rfl

/-! ## Permuting the participants -/

theorem profileOf_perm {input input' : MatchInput}
    (nodup : (input.participants.map (·.pid)).Nodup)
    (perm : input'.participants.Perm input.participants) : profileOf input' = profileOf input := by
  have ids := perm.map (·.pid)
  funext pid
  by_cases known : pid ∈ input.participants.map (·.pid)
  · obtain ⟨p, inside, rfl⟩ := List.mem_map.mp known
    rw [profileOf_eq nodup inside, profileOf_eq (ids.nodup_iff.mpr nodup) (perm.mem_iff.mpr inside)]
  · rw [profileOf_absent known, profileOf_absent fun member => known (ids.mem_iff.mp member)]

theorem generateSchedule_perm {input input' : MatchInput}
    (nodup : (input.participants.map (·.pid)).Nodup)
    (distinct : DistinctUuids (participantIds input))
    (rounds : input'.numRounds = input.numRounds) (weights : input'.weights = input.weights)
    (perm : input'.participants.Perm input.participants) :
    generateSchedule input' = generateSchedule input := by
  have ids := perm.map (·.pid)
  have same : idxToPid input = idxToPid input' :=
    idxToPid_eq distinct ((perm_idxToPid input').trans ids) (pairwise_idxToPid input')
  have pids : pidAt input' = pidAt input := by
    funext i
    rw [pidAt, pidAt, same]
  refine generateSchedule_congr rounds ids ?_ pids
  have scores : scoreMat input' = scoreMat input := by
    funext i j
    simp only [scoreMat, profileOf_perm nodup perm, pids, weights]
  rw [matchContext, matchContext, scores, perm.length_eq]

/-! ## Renaming the tags -/

theorem computeMatchScore_renamed (profileA profileB : ParticipantProfile)
    (weights : ScoringWeights) {rename : String → String}
    (injective : Set.InjOn rename (profileA.tagIds ∪ profileB.tagIds)) :
    computeMatchScore ⟨profileA.tagIds.image rename⟩ ⟨profileB.tagIds.image rename⟩ weights =
      computeMatchScore profileA profileB weights := by
  have union : ((profileA.tagIds ∪ profileB.tagIds).image rename).card =
      (profileA.tagIds ∪ profileB.tagIds).card :=
    Finset.card_image_of_injOn (by rwa [Finset.coe_union])
  have inter : ((profileA.tagIds ∩ profileB.tagIds).image rename).card =
      (profileA.tagIds ∩ profileB.tagIds).card := by
    apply Finset.card_image_of_injOn
    apply injective.mono
    intro tag inside
    exact .inl (Finset.mem_inter.mp inside).1
  simp only [computeMatchScore, ← Finset.image_union, ← Finset.image_inter_of_injOn _ _ injective,
    union, inter, Finset.image_eq_empty]

theorem profileOf_renameTags (input : MatchInput) (rename : String → String) (pid : String) :
    profileOf (input.renameTags rename) pid = ⟨(profileOf input pid).tagIds.image rename⟩ := by
  simp only [profileOf, MatchInput.renameTags, List.find?_map, Function.comp_def]
  cases input.participants.find? fun p => p.pid = pid with
  | none => rfl
  | some p => rfl

theorem profileOf_subset (input : MatchInput) (pid : String) :
    ((profileOf input pid).tagIds : Set String) ⊆ input.tagIds := by
  intro tag inside
  cases found : input.participants.find? (·.pid = pid) with
  | none => simp [profileOf, found] at inside
  | some p =>
    simp only [profileOf, found] at inside
    exact ⟨p, List.mem_of_find?_eq_some found, inside⟩

theorem generateSchedule_renameTags (input : MatchInput) {rename : String → String}
    (injective : Set.InjOn rename input.tagIds) :
    generateSchedule (input.renameTags rename) = generateSchedule input := by
  have ids : (input.renameTags rename).participants.map (·.pid) =
      input.participants.map (·.pid) := by
    simp [MatchInput.renameTags]
  have same : idxToPid (input.renameTags rename) = idxToPid input := by
    rw [idxToPid, idxToPid, ids]
  have pids : pidAt (input.renameTags rename) = pidAt input := by
    funext i
    rw [pidAt, pidAt, same]
  refine generateSchedule_congr rfl (.of_eq ids) ?_ pids
  have weights : (input.renameTags rename).weights = input.weights := rfl
  have known : ∀ pidA pidB, Set.InjOn rename
      ((profileOf input pidA).tagIds ∪ (profileOf input pidB).tagIds) := fun pidA pidB =>
    injective.mono (Set.union_subset (profileOf_subset input pidA) (profileOf_subset input pidB))
  have scores : scoreMat (input.renameTags rename) = scoreMat input := by
    funext i j
    simp only [scoreMat, profileOf_renameTags, pids, weights, computeMatchScore_renamed _ _ _ (known _ _)]
  have size : (input.renameTags rename).participants.length = input.participants.length := by
    simp [MatchInput.renameTags]
  rw [matchContext, matchContext, scores, size]

/-! ## Renaming the ids -/

section

variable {input : MatchInput} {rename : String → String}

theorem pids_renamePids (input : MatchInput) (rename : String → String) :
    (input.renamePids rename).participants.map (·.pid) =
      (input.participants.map (·.pid)).map rename := by
  simp [MatchInput.renamePids]

theorem uuidLt_of_key_lt (distinct : DistinctUuids (participantIds input)) {x y : String}
    (insideX : x ∈ participantIds input) (insideY : y ∈ participantIds input)
    (less : uuidKey x < uuidKey y) : UuidLt x y := by
  obtain ⟨a, valueX⟩ := Option.isSome_iff_exists.mp (distinct.valid x insideX)
  obtain ⟨b, valueY⟩ := Option.isSome_iff_exists.mp (distinct.valid y insideY)
  simp only [uuidKey, valueX, valueY, Option.getD_some] at less
  exact ⟨a, b, valueX, valueY, less⟩

theorem UuidLt.key_lt {x y : String} (less : UuidLt x y) : uuidKey x < uuidKey y := by
  obtain ⟨a, b, valueX, valueY, below⟩ := less
  simpa [uuidKey, valueX, valueY] using below

/-- Different ids stay different, with UUID values in the same order. -/
theorem OrderPreserving.key_lt (order : OrderPreserving (participantIds input) rename)
    (distinct : DistinctUuids (participantIds input)) {x y : String}
    (insideX : x ∈ participantIds input) (insideY : y ∈ participantIds input)
    (less : uuidKey x < uuidKey y) : uuidKey (rename x) < uuidKey (rename y) :=
  (order.increasing x insideX y insideY (uuidLt_of_key_lt distinct insideX insideY less)).key_lt

theorem OrderPreserving.injective (order : OrderPreserving (participantIds input) rename)
    (distinct : DistinctUuids (participantIds input)) {x y : String}
    (insideX : x ∈ participantIds input) (insideY : y ∈ participantIds input)
    (same : uuidKey (rename x) = uuidKey (rename y)) : x = y := by
  rcases lt_trichotomy (uuidKey x) (uuidKey y) with less | equal | greater
  · exact absurd same (order.key_lt distinct insideX insideY less).ne
  · exact distinct_pids distinct x (List.mem_toFinset.mp insideX) y (List.mem_toFinset.mp insideY)
      equal
  · exact absurd same (order.key_lt distinct insideY insideX greater).ne'

theorem nodup_renamePids (order : OrderPreserving (participantIds input) rename)
    (nodup : (input.participants.map (·.pid)).Nodup)
    (distinct : DistinctUuids (participantIds input)) :
    ((input.renamePids rename).participants.map (·.pid)).Nodup := by
  rw [pids_renamePids]
  apply List.Nodup.map_on _ nodup
  intro x insideX y insideY same
  exact order.injective distinct (List.mem_toFinset.mpr insideX) (List.mem_toFinset.mpr insideY)
    (congrArg uuidKey same)

theorem distinct_renamePids (order : OrderPreserving (participantIds input) rename)
    (distinct : DistinctUuids (participantIds input)) :
    DistinctUuids (participantIds (input.renamePids rename)) := by
  have from_input : ∀ z ∈ participantIds (input.renamePids rename),
      ∃ x ∈ participantIds input, rename x = z := by
    intro z inside
    rw [participantIds, List.mem_toFinset, pids_renamePids] at inside
    obtain ⟨x, member, same⟩ := List.mem_map.mp inside
    exact ⟨x, List.mem_toFinset.mpr member, same⟩
  constructor
  · intro z inside
    obtain ⟨x, insideX, rfl⟩ := from_input z inside
    exact order.valid x insideX
  · intro z inside z' inside' same
    obtain ⟨x, insideX, rfl⟩ := from_input z inside
    obtain ⟨y, insideY, rfl⟩ := from_input z' inside'
    have keys : uuidKey (rename x) = uuidKey (rename y) := by rw [uuidKey, same, uuidKey]
    rw [order.injective distinct insideX insideY keys]

theorem idxToPid_renamePids (order : OrderPreserving (participantIds input) rename)
    (distinct : DistinctUuids (participantIds input)) :
    idxToPid (input.renamePids rename) = (idxToPid input).map rename := by
  apply idxToPid_eq (distinct_renamePids order distinct)
  · rw [pids_renamePids]
    exact (perm_idxToPid input).map rename
  · rw [List.pairwise_map]
    refine (pairwise_idxToPid input).imp_of_mem fun {x y} insideX insideY le => ?_
    have member : ∀ z ∈ idxToPid input, z ∈ participantIds input := fun z inside =>
      List.mem_toFinset.mpr ((perm_idxToPid input).mem_iff.mp inside)
    rcases lt_or_eq_of_le le with less | equal
    · exact (order.key_lt distinct (member x insideX) (member y insideY) less).le
    · have same := distinct_pids distinct x ((perm_idxToPid input).mem_iff.mp insideX) y
        ((perm_idxToPid input).mem_iff.mp insideY) equal
      rw [same]

theorem pidAt_renamePids (order : OrderPreserving (participantIds input) rename)
    (distinct : DistinctUuids (participantIds input)) {i : Nat}
    (inside : i < (matchContext input).size) :
    pidAt (input.renamePids rename) i = rename (pidAt input i) := by
  rw [← length_idxToPid] at inside
  simp [pidAt, idxToPid_renamePids order distinct, inside]

/-- A rank keeps its profile. -/
theorem profileOf_pidAt_renamePids (order : OrderPreserving (participantIds input) rename)
    (nodup : (input.participants.map (·.pid)).Nodup)
    (distinct : DistinctUuids (participantIds input)) (i : Nat) :
    profileOf (input.renamePids rename) (pidAt (input.renamePids rename) i) =
      profileOf input (pidAt input i) := by
  by_cases inside : i < (matchContext input).size
  · rw [pidAt_renamePids order distinct inside]
    have member := (ranking_pidAt nodup distinct).mem (pidAt input i) |>.mpr ⟨i, inside, rfl⟩
    obtain ⟨p, isParticipant, same⟩ := List.mem_map.mp (List.mem_toFinset.mp member)
    rw [← same, profileOf_eq nodup isParticipant]
    have renamed : { p with pid := rename p.pid } ∈ (input.renamePids rename).participants :=
      List.mem_map_of_mem isParticipant
    exact profileOf_eq (nodup_renamePids order nodup distinct) renamed
  · -- no rank, and the empty id is nobody's
    have length := length_idxToPid input
    have length' : (idxToPid (input.renamePids rename)).length = (idxToPid input).length := by
      rw [idxToPid_renamePids order distinct, List.length_map]
    have empty : pidAt input i = "" := List.getD_eq_default _ _ (by omega)
    have empty' : pidAt (input.renamePids rename) i = "" := List.getD_eq_default _ _ (by omega)
    have invalid : ¬ (uuidValue "").isSome := by decide
    rw [empty, empty', profileOf_absent, profileOf_absent]
    · exact fun member => invalid (distinct.valid "" (List.mem_toFinset.mpr member))
    · exact fun member => invalid ((distinct_renamePids order distinct).valid ""
        (List.mem_toFinset.mpr member))

theorem matchContext_renamePids (order : OrderPreserving (participantIds input) rename)
    (nodup : (input.participants.map (·.pid)).Nodup)
    (distinct : DistinctUuids (participantIds input)) :
    matchContext (input.renamePids rename) = matchContext input := by
  have weights : (input.renamePids rename).weights = input.weights := rfl
  have scores : scoreMat (input.renamePids rename) = scoreMat input := by
    funext i j
    simp only [scoreMat, profileOf_pidAt_renamePids order nodup distinct, weights]
  have size : (input.renamePids rename).participants.length = input.participants.length := by
    simp [MatchInput.renamePids]
  rw [matchContext, matchContext, scores, size]

/-! ### The result -/

/-- Only the error of a stranded participant names an id. -/
inductive RenamedError (rename : String → String) : MatchingError → MatchingError → Prop
  | same (error : MatchingError) : RenamedError rename error error
  | stranded (roundNum : Nat) (pid : String) (nodes : Nat) :
      RenamedError rename (strandedError roundNum pid nodes)
        (strandedError roundNum (rename pid) nodes)

/-- The second result is the first one with its ids renamed. -/
inductive RenamedResult {α : Type} (rename : String → String) (renameIds : α → α) :
    Except MatchingError α → Except MatchingError α → Prop
  | ok (a : α) : RenamedResult rename renameIds (.ok a) (.ok (renameIds a))
  | error {error error' : MatchingError} (renamed : RenamedError rename error error') :
      RenamedResult rename renameIds (.error error) (.error error')

/-- Two computations that go on alike after the same intermediate result. -/
theorem RenamedResult.bind {α β : Type} {renameIds : β → β} {x x' : Except MatchingError α}
    {next next' : α → Except MatchingError β} (first : RenamedResult rename id x x')
    (later : ∀ a, x = .ok a → RenamedResult rename renameIds (next a) (next' a)) :
    RenamedResult rename renameIds (x >>= next) (x' >>= next') := by
  cases first with
  | ok a => exact later a rfl
  | error renamed => exact .error renamed

theorem greedyLoop_failed_mem {ctx : MatchContext} {fuel : Nat} {st final : GreedyState}
    {failed : Nat} (stuck : greedyLoop ctx fuel st = (final, some failed)) :
    failed ∈ st.remaining := by
  induction fuel generalizing st with
  | zero => cases stuck
  | succ fuel ih =>
    simp only [greedyLoop] at stuck
    split at stuck
    next => cases stuck
    next pid chosen =>
      split at stuck
      next =>
        cases stuck
        exact GreedyState.hardest_mem chosen
      next best found => exact List.mem_of_mem_erase (List.mem_of_mem_erase (ih stuck))

theorem pairRound_renamed {ctx : MatchContext} {pids pids' : Nat → String}
    (renamed : ∀ i < ctx.size, pids' i = rename (pids i)) (roundNum : Nat) (forbidden : Forbidden)
    {working : List Nat} (bounded : ∀ i ∈ working, i < ctx.size) :
    RenamedResult rename id (pairRound ctx pids roundNum forbidden working)
      (pairRound ctx pids' roundNum forbidden working) := by
  simp only [pairRound]
  split
  next => exact .ok _
  next stuck failed isStuck =>
    have inside := bounded failed (greedyLoop_failed_mem isStuck)
    split
    next => exact .ok _
    next => exact .error (renamed failed inside ▸ .stranded _ _ _)

theorem roundStep_renamed {ctx : MatchContext} {pids pids' : Nat → String}
    (renamed : ∀ i < ctx.size, pids' i = rename (pids i)) (st : RoundState) (roundNum : Nat) :
    RenamedResult rename id (roundStep ctx pids st roundNum)
      (roundStep ctx pids' st roundNum) := by
  have pair : ∀ bye, RenamedResult rename id
      (pairRound ctx pids roundNum st.forbidden (workingSet ctx bye))
      (pairRound ctx pids' roundNum st.forbidden (workingSet ctx bye)) := fun bye =>
    pairRound_renamed renamed roundNum st.forbidden fun _ inside => workingSet_lt inside
  simp only [roundStep]
  split
  next odd =>
    cases chooseBye ctx st with
    | none => exact .error (.same _)
    | some bye => exact (pair (some bye)).bind fun result _ => .ok _
  next even => exact (pair none).bind fun result _ => .ok _

theorem buildRounds_renamed {ctx : MatchContext} {pids pids' : Nat → String}
    (renamed : ∀ i < ctx.size, pids' i = rename (pids i)) (r : Nat) :
    RenamedResult rename id (buildRounds ctx pids r) (buildRounds ctx pids' r) := by
  induction r with
  | zero => exact .ok _
  | succ r ih => exact ih.bind fun st _ => roundStep_renamed renamed st (r + 1)

theorem outputRound_renamed {ctx : MatchContext} {pids pids' : Nat → String}
    (renamed : ∀ i < ctx.size, pids' i = rename (pids i)) {pairs : List IndexPair}
    {bye : Option Nat} (round : IndexRound ctx.size pairs bye) (number : Nat) :
    outputRound ctx pids' number pairs bye = (outputRound ctx pids number pairs bye).renamePids rename := by
  simp only [outputRound, ScheduleRound.renamePids, List.map_map]
  congr 1
  · apply List.map_congr_left
    intro p inside
    obtain ⟨order, below⟩ := round.lt_size ((perm_sortPairs pairs).mem_iff.mp inside)
    simp [renamed p.1 (by omega), renamed p.2 below]
  · cases bye with
    | none => rfl
    | some i => simp [renamed i round.bye_lt]

theorem outputRounds_renamed {ctx : MatchContext} {pids pids' : Nat → String}
    (renamed : ∀ i < ctx.size, pids' i = rename (pids i)) {rounds : List (List IndexPair)}
    {byes : List (Option Nat)} (valid : List.Forall₂ (IndexRound ctx.size) rounds byes) :
    outputRounds ctx pids' rounds byes =
      (outputRounds ctx pids rounds byes).map (ScheduleRound.renamePids rename) := by
  have lengths := valid.length_eq
  apply List.ext_getElem
  · rw [List.length_map, length_outputRounds lengths, length_outputRounds lengths]
  · intro i inside inside'
    rw [List.length_map] at inside'
    obtain ⟨here, here', output⟩ := getElem_outputRounds ctx pids lengths inside'
    obtain ⟨_, _, output'⟩ := getElem_outputRounds ctx pids' lengths inside
    rw [List.getElem_map, output, output']
    exact outputRound_renamed renamed (valid.get here here') (i + 1)

theorem generateSchedule_renamePids (order : OrderPreserving (participantIds input) rename)
    (nodup : (input.participants.map (·.pid)).Nodup)
    (distinct : DistinctUuids (participantIds input)) :
    RenamedResult rename (GeneratedSchedule.renamePids rename) (generateSchedule input)
      (generateSchedule (input.renamePids rename)) := by
  have context := matchContext_renamePids order nodup distinct
  have renamed : ∀ i < (matchContext input).size,
      pidAt (input.renamePids rename) i = rename (pidAt input i) := fun i inside =>
    pidAt_renamePids order distinct inside
  have nodup' := nodup_renamePids order nodup distinct
  have rounds : (input.renamePids rename).numRounds = input.numRounds := rfl
  have size : (input.renamePids rename).participants.length = input.participants.length := by
    simp [MatchInput.renamePids]
  simp only [generateSchedule, nodup, nodup', noneInvalid distinct,
    noneInvalid (distinct_renamePids order distinct), rounds, context, List.length_map, size,
    not_true_eq_false, if_false, Bool.false_eq_true]
  split
  next => exact .error (.same _)
  split
  next => exact .error (.same _)
  split
  next => exact .error (.same _)
  -- the checks read only what the renaming keeps; the engine works on positions
  apply (buildRounds_renamed renamed _).bind
  intro st built
  obtain ⟨inv, _⟩ := buildRounds_inv built
  obtain ⟨valid, _⟩ := improveRounds_spec inv.rounds [] st.roundsPairs.flatten.toFinset
    (by simp) inv.distinct
  rw [outputRounds_renamed renamed valid]
  exact .ok _

end

/-- Neither the order of the participants nor the names of the tags matter, and
    a renaming of the ids that keeps their UUID order renames the ids of the
    result and changes nothing else. -/
theorem generateSchedule_invariant (input : MatchInput)
    (nodup : (input.participants.map (·.pid)).Nodup)
    (distinct : DistinctUuids (participantIds input)) :
    (∀ participants, participants.Perm input.participants →
      generateSchedule { input with participants := participants } = generateSchedule input) ∧
    (∀ rename : String → String, Set.InjOn rename input.tagIds →
      generateSchedule (input.renameTags rename) = generateSchedule input) ∧
    (∀ rename : String → String, OrderPreserving (participantIds input) rename →
      RenamedResult rename (GeneratedSchedule.renamePids rename) (generateSchedule input)
        (generateSchedule (input.renamePids rename))) := by
  refine ⟨?_, ?_, ?_⟩
  · intro participants perm
    exact generateSchedule_perm nodup distinct rfl rfl perm
  · intro rename injective
    exact generateSchedule_renameTags input injective
  · intro rename order
    exact generateSchedule_renamePids order nodup distinct

/-- A UUID with its URN marker is the same UUID. -/
theorem uuidValue_urn (pid : String) : uuidValue ("urn:uuid:" ++ pid) = uuidValue pid := by
  have stripped : uuidHex ("urn:uuid:" ++ pid) = uuidHex pid := by
    simp only [uuidHex, String.toList_append]
    rfl
  rw [uuidValue, uuidValue, stripped]

theorem fourParticipants_invariant :
    generateSchedule { fourParticipants with
        participants := fourParticipants.participants.reverse } =
      generateSchedule fourParticipants ∧
    generateSchedule (fourParticipants.renameTags fun tag => "tag-" ++ tag) =
      generateSchedule fourParticipants ∧
    RenamedResult (fun pid => "urn:uuid:" ++ pid)
      (GeneratedSchedule.renamePids fun pid => "urn:uuid:" ++ pid)
      (generateSchedule fourParticipants)
      (generateSchedule (fourParticipants.renamePids fun pid => "urn:uuid:" ++ pid)) := by
  have ids : DistinctUuids (participantIds fourParticipants) := by
    constructor <;> decide +kernel
  obtain ⟨perm, tags, pids⟩ := generateSchedule_invariant fourParticipants (by decide +kernel) ids
  refine ⟨perm _ (List.reverse_perm _), tags _ ?_, pids _ ⟨?_, ?_⟩⟩
  · intro a _ b _ same
    simpa using same
  · intro x inside
    rw [uuidValue_urn]
    exact ids.valid x inside
  · rintro x _ y _ ⟨a, b, valueX, valueY, less⟩
    exact ⟨a, b, by rw [uuidValue_urn, valueX], by rw [uuidValue_urn, valueY], less⟩

end EventPlatform.Matching
