import EventPlatform.Matching.Validator
import EventPlatform.Lib.Pairings

/-! # What the validator decides

`ValidSchedule` says what a schedule is for: the rounds are numbered once each,
every round partitions the participants, nobody meets anybody twice and nobody
sits out twice.  `validateSchedule` never checks the partition itself, only
counts, membership and duplicates; a counting argument closes the gap in both
directions. -/

namespace EventPlatform.Matching

open EventPlatform.Lib

/-! ## Valid schedules -/

/-- Both members of every pair, then the unmatched id. -/
def ScheduleRound.members (r : ScheduleRound) : List String :=
  endpoints (r.pairs.map fun sp => (sp.pidA, sp.pidB)) ++ r.unmatchedPid.toList

def ScheduleRound.Meets (r : ScheduleRound) (x y : String) : Prop :=
  ∃ sp ∈ r.pairs, (sp.pidA = x ∧ sp.pidB = y) ∨ (sp.pidA = y ∧ sp.pidB = x)

structure ValidRound (pids : Finset String) (r : ScheduleRound) : Prop where
  nodup : r.members.Nodup
  everyone : ∀ pid, pid ∈ r.members ↔ pid ∈ pids
  parity : r.unmatchedPid.isSome ↔ pids.card % 2 = 1
  ordered : ∀ sp ∈ r.pairs, UuidLt sp.pidA sp.pidB
  scored : ∀ sp ∈ r.pairs, 0 ≤ sp.score ∧ sp.score ≤ 1

structure ValidSchedule (pids : Finset String) (numRounds : Int) (schedule : GeneratedSchedule) :
    Prop where
  numbers : (schedule.rounds.map (·.number)).Perm (roundNumbers numRounds)
  rounds : ∀ r ∈ schedule.rounds, ValidRound pids r
  noRepeat : schedule.rounds.Pairwise fun r s => ∀ x y, r.Meets x y → ¬ s.Meets x y
  byes : schedule.rounds.Pairwise fun r s =>
    ∀ pid, r.unmatchedPid = some pid → s.unmatchedPid ≠ some pid

/-- What the callers supply: UUID strings that are different UUIDs. -/
structure DistinctUuids (pids : Finset String) : Prop where
  valid : ∀ pid ∈ pids, (uuidValue pid).isSome
  injective : ∀ x ∈ pids, ∀ y ∈ pids, uuidValue x = uuidValue y → x = y

theorem ScheduleRound.Meets.symm {r : ScheduleRound} {x y : String} (h : r.Meets x y) :
    r.Meets y x := by
  obtain ⟨sp, member, ends⟩ := h
  exact ⟨sp, member, ends.symm⟩

/-! ## Round numbers -/

theorem nodup_roundNumbers (numRounds : Int) : (roundNumbers numRounds).Nodup :=
  List.Nodup.map (f := fun i : Nat => (i : Int) + 1) (fun a b same => by simpa using same)
    List.nodup_range

@[simp] theorem length_roundNumbers (numRounds : Int) :
    (roundNumbers numRounds).length = numRounds.toNat := by
  simp [roundNumbers]

theorem checkRoundNumbers_nil {schedule : GeneratedSchedule} {numRounds : Int}
    (nonneg : 0 ≤ numRounds) :
    checkRoundNumbers schedule numRounds = [] ↔
      (schedule.rounds.map (·.number)).Perm (roundNumbers numRounds) := by
  simp only [checkRoundNumbers, List.append_eq_nil_iff, ite_eq_right_iff, List.cons_ne_nil,
    imp_false, not_not]
  constructor
  · rintro ⟨count, same⟩
    have lengths : (schedule.rounds.map (·.number)).length = (roundNumbers numRounds).length := by
      rw [List.length_map, length_roundNumbers]
      omega
    have nodup : (schedule.rounds.map (·.number)).Nodup := by
      rw [← Multiset.coe_nodup, ← Multiset.toFinset_card_eq_card_iff_nodup]
      change (schedule.rounds.map (·.number)).toFinset.card = _
      rw [same, List.toFinset_card_of_nodup (nodup_roundNumbers numRounds), Multiset.coe_card,
        lengths]
    exact List.perm_of_nodup_nodup_toFinset_eq nodup (nodup_roundNumbers numRounds) same
  · intro perm
    refine ⟨?_, List.toFinset_eq_of_perm _ _ perm⟩
    have lengths := perm.length_eq
    rw [List.length_map, length_roundNumbers] at lengths
    omega

/-! ## Repeated partners -/

/-- The writes one round makes to `pair_seen_round`. -/
def pairWrites (r : ScheduleRound) (pairs : List SchedulePair) : List ((String × String) × Int) :=
  pairs.filterMap fun sp => (canon sp.pidA sp.pidB).map fun key => (key, r.number)

theorem checkRepeated_spec {r : ScheduleRound} {seen : PairSeen}
    {history : List ((String × String) × Int)} (records : Dict.Records seen history)
    (sp : SchedulePair) :
    ((checkRepeated r seen sp).1 = [] ↔ Dict.Functional (history ++ pairWrites r [sp])) ∧
      (Dict.Functional (history ++ pairWrites r [sp]) →
        Dict.Records (checkRepeated r seen sp).2 (history ++ pairWrites r [sp])) := by
  simp only [checkRepeated, pairWrites]
  cases key : canon sp.pidA sp.pidB with
  | none => simp [key, records, records.functional]
  | some key' =>
    simp only [List.filterMap_cons, key, Option.map_some, List.filterMap_nil]
    cases earlier : seen.get? key' with
    | none =>
      have recorded := records.set key' r.number (by simp [earlier])
      exact ⟨iff_of_true rfl recorded.functional, fun _ => recorded⟩
    | some number =>
      by_cases same : number = r.number
      · have recorded := records.set key' r.number (by simp [earlier, same])
        simp only [same, ne_eq, not_true_eq_false, if_false]
        exact ⟨iff_of_true trivial recorded.functional, fun _ => recorded⟩
      -- the pair has been seen in another round, and this write contradicts it
      · have clash : ¬ Dict.Functional (history ++ [(key', r.number)]) := by
          intro functional
          refine same (functional key' number r.number ?_ ?_)
          · exact List.mem_append_left _ ((records key' number).mp earlier)
          · exact List.mem_append_right _ List.mem_cons_self
        simp [same, clash]

/-! ## One round -/

/-- The checks on a pair that need no history. -/
structure PairClean (pids : Finset String) (sp : SchedulePair) : Prop where
  knownA : sp.pidA ∈ pids
  knownB : sp.pidB ∈ pids
  different : sp.pidA ≠ sp.pidB
  canonical : noncanonical sp = false
  scored : 0 ≤ sp.score ∧ sp.score ≤ 1

theorem pairChecks_nil {pids : Finset String} {r : ScheduleRound} {sp : SchedulePair} :
    checkPairAlone pids r sp = [] ∧ checkScore r sp = [] ↔ PairClean pids sp := by
  constructor
  · rintro ⟨alone, score⟩
    simp only [checkPairAlone, List.append_eq_nil_iff, ite_eq_right_iff, List.cons_ne_nil,
      imp_false, not_not] at alone
    obtain ⟨⟨knownA, knownB⟩, order⟩ := alone
    split at order
    next self => cases order
    next different =>
      simp only [ite_eq_right_iff, List.cons_ne_nil, imp_false, Bool.not_eq_true] at order
      simp only [checkScore, ite_eq_right_iff, List.cons_ne_nil, imp_false, not_or, not_lt] at score
      exact ⟨knownA, knownB, different, order, score⟩
  · intro clean
    simp [checkPairAlone, checkScore, clean.knownA, clean.knownB, clean.different, clean.canonical,
      not_lt.mpr clean.scored.1, not_lt.mpr clean.scored.2]

def pairEnds (pairs : List SchedulePair) : List String :=
  endpoints (pairs.map fun sp => (sp.pidA, sp.pidB))

theorem checkPairs_used (pids : Finset String) (r : ScheduleRound) (pairs : List SchedulePair)
    (used : Finset String) (seen : PairSeen) :
    (checkPairs pids r pairs used seen).2.1 = used ∪ (pairEnds pairs).toFinset := by
  induction pairs generalizing used seen with
  | nil => simp [checkPairs, pairEnds]
  | cons sp rest ih =>
    simp only [checkPairs, ih, pairEnds, List.map_cons, endpoints_cons, List.toFinset_cons]
    ext pid
    simp only [Finset.mem_union, Finset.mem_insert]
    tauto

theorem checkPairs_spec (pids : Finset String) (r : ScheduleRound) (pairs : List SchedulePair)
    (used : Finset String) (seen : PairSeen) (history : List ((String × String) × Int))
    (records : Dict.Records seen history) :
    ((checkPairs pids r pairs used seen).1 = [] ↔
      (∀ sp ∈ pairs, PairClean pids sp) ∧ (pairEnds pairs).Nodup ∧
      (∀ pid ∈ pairEnds pairs, pid ∉ used) ∧
      Dict.Functional (history ++ pairWrites r pairs)) ∧
    (Dict.Functional (history ++ pairWrites r pairs) →
      Dict.Records (checkPairs pids r pairs used seen).2.2 (history ++ pairWrites r pairs)) := by
  induction pairs generalizing used seen history with
  | nil =>
    simp [checkPairs, pairEnds, pairWrites, records, records.functional]
  | cons sp rest ih =>
    obtain ⟨repeatedNil, repeatedRecords⟩ := checkRepeated_spec (r := r) records sp
    -- the writes split behind this pair, so that the hypothesis speaks of the rest
    have writes : history ++ pairWrites r (sp :: rest) =
        history ++ pairWrites r [sp] ++ pairWrites r rest := by
      simp only [pairWrites, List.append_assoc, List.append_cancel_left_eq, List.filterMap_cons,
        List.filterMap_nil]
      cases canon sp.pidA sp.pidB <;> simp
    rw [writes]
    have duplicate : checkDuplicate r used sp = [] ↔ sp.pidA ∉ used ∧ sp.pidB ∉ used := by
      simp [checkDuplicate]
    simp only [checkPairs, List.append_eq_nil_iff]
    constructor
    · constructor
      -- no error: this pair has passed its five checks, and the rest by induction
      · rintro ⟨⟨⟨⟨alone, unused⟩, score⟩, repeated⟩, later⟩
        have clean := pairChecks_nil.mp ⟨alone, score⟩
        obtain ⟨restClean, restNodup, restUnused, functional⟩ :=
          (ih _ _ _ (repeatedRecords (repeatedNil.mp repeated))).1.mp later
        refine ⟨?_, ?_, ?_, functional⟩
        · intro other member
          rcases List.mem_cons.mp member with rfl | member
          · exact clean
          · exact restClean other member
        · have freshA := fun h => restUnused sp.pidA h
          have freshB := fun h => restUnused sp.pidB h
          simp only [Finset.mem_insert, true_or, or_true, not_true_eq_false] at freshA freshB
          simp only [pairEnds, List.map_cons, endpoints_cons, List.nodup_cons, List.mem_cons,
            not_or]
          exact ⟨⟨clean.different, freshA⟩, freshB, restNodup⟩
        · intro pid member
          simp only [pairEnds, List.map_cons, endpoints_cons, List.mem_cons] at member
          rcases member with rfl | rfl | member
          · exact (duplicate.mp unused).1
          · exact (duplicate.mp unused).2
          · intro inUsed
            exact restUnused pid member (Finset.mem_insert_of_mem (Finset.mem_insert_of_mem inUsed))
      -- and back: every check passes on a clean pair that repeats nothing
      · rintro ⟨clean, nodup, unused, functional⟩
        have functionalHere := functional.append_left
        obtain ⟨alone, score⟩ := pairChecks_nil (r := r).mpr (clean sp List.mem_cons_self)
        simp only [pairEnds, List.map_cons, endpoints_cons, List.nodup_cons, List.mem_cons,
          not_or] at nodup unused
        refine ⟨⟨⟨⟨alone, duplicate.mpr ⟨unused _ (.inl rfl), unused _ (.inr (.inl rfl))⟩⟩, score⟩,
          repeatedNil.mpr functionalHere⟩, ?_⟩
        refine (ih _ _ _ (repeatedRecords functionalHere)).1.mpr
          ⟨fun other member => clean other (List.mem_cons_of_mem sp member), nodup.2.2, ?_, functional⟩
        intro pid member inUsed
        rcases Finset.mem_insert.mp inUsed with rfl | inUsed
        · exact nodup.2.1 member
        · rcases Finset.mem_insert.mp inUsed with rfl | inUsed
          · exact nodup.1.2 member
          · exact unused pid (.inr (.inr member)) inUsed
    · intro functional
      exact (ih _ _ _ (repeatedRecords functional.append_left)).2 functional

/-- Everything the validator checks inside one round. -/
structure RoundClean (pids : Finset String) (r : ScheduleRound) : Prop where
  known : ∀ pid, r.unmatchedPid = some pid → pid ∈ pids
  count : r.pairs.length = expectedPairsPerRound pids.card
  pairs : ∀ sp ∈ r.pairs, PairClean pids sp
  nodup : (pairEnds r.pairs).Nodup
  apart : ∀ pid, r.unmatchedPid = some pid → pid ∉ pairEnds r.pairs

theorem checkUnmatchedKnown_nil {pids : Finset String} {r : ScheduleRound} :
    checkUnmatchedKnown pids r = [] ↔ ∀ pid, r.unmatchedPid = some pid → pid ∈ pids := by
  simp only [checkUnmatchedKnown]
  cases r.unmatchedPid <;> simp

theorem checkUnmatchedPaired_nil {r : ScheduleRound} {used : Finset String} :
    checkUnmatchedPaired r used = [] ↔ ∀ pid, r.unmatchedPid = some pid → pid ∉ used := by
  simp only [checkUnmatchedPaired]
  cases r.unmatchedPid <;> simp

theorem checkPairCount_nil {size : Nat} {r : ScheduleRound} :
    checkPairCount size r = [] ↔ r.pairs.length = expectedPairsPerRound size := by
  simp [checkPairCount]

/-! ## From counts to a partition -/

theorem checkUnmatchedPresence_nil {size : Nat} {r : ScheduleRound} :
    checkUnmatchedPresence size r = [] ↔ (r.unmatchedPid.isSome ↔ size % 2 = 1) := by
  simp only [checkUnmatchedPresence]
  cases r.unmatchedPid with
  | none =>
    simp only [Option.isSome_none, Bool.false_eq_true, false_iff]
    split <;> simp <;> omega
  | some unmatched =>
    simp only [Option.isSome_some, true_iff]
    split <;> simp <;> omega

theorem noncanonical_eq_false {sp : SchedulePair} (validA : (uuidValue sp.pidA).isSome)
    (validB : (uuidValue sp.pidB).isSome) :
    noncanonical sp = false ↔ UuidLt sp.pidA sp.pidB := by
  obtain ⟨a, valueA⟩ := Option.isSome_iff_exists.mp validA
  obtain ⟨b, valueB⟩ := Option.isSome_iff_exists.mp validB
  simp [noncanonical, UuidLt, valueA, valueB]

theorem length_members (r : ScheduleRound) :
    r.members.length = 2 * r.pairs.length + r.unmatchedPid.toList.length := by
  simp [ScheduleRound.members, length_endpoints]

theorem length_unmatched {size : Nat} {r : ScheduleRound}
    (parity : r.unmatchedPid.isSome ↔ size % 2 = 1) : r.unmatchedPid.toList.length = size % 2 := by
  cases unmatched : r.unmatchedPid with
  | none =>
    rw [unmatched] at parity
    simp only [Option.isSome_none, Bool.false_eq_true, false_iff] at parity
    show 0 = size % 2
    omega
  | some pid =>
    rw [unmatched] at parity
    exact (parity.mp rfl).symm

theorem expectedPairsPerRound_spec {size count : Nat} :
    count = expectedPairsPerRound size ↔ 2 * count + size % 2 = size := by
  simp only [expectedPairsPerRound]
  split <;> omega

theorem RoundClean.validRound {pids : Finset String} {r : ScheduleRound} (ids : DistinctUuids pids)
    (clean : RoundClean pids r) (parity : r.unmatchedPid.isSome ↔ pids.card % 2 = 1) :
    ValidRound pids r := by
  have inside : ∀ pid ∈ r.members, pid ∈ pids := by
    intro pid member
    cases List.mem_append.mp member with
    | inl inPairs =>
      obtain ⟨p, pMember, isEnd⟩ := mem_endpoints.mp inPairs
      obtain ⟨sp, spMember, rfl⟩ := List.mem_map.mp pMember
      cases isEnd with
      | inl first => exact first ▸ (clean.pairs sp spMember).knownA
      | inr second => exact second ▸ (clean.pairs sp spMember).knownB
    | inr isBye => exact clean.known pid (Option.mem_toList.mp isBye)
  have nodup : r.members.Nodup := by
    refine List.nodup_append.mpr ⟨clean.nodup, ?_, ?_⟩
    · cases r.unmatchedPid <;> simp
    · intro pid inPairs pid' isBye same
      exact clean.apart pid' (Option.mem_toList.mp isBye) (same ▸ inPairs)
  have length : r.members.length = pids.card := by
    rw [length_members, length_unmatched parity]
    exact expectedPairsPerRound_spec.mp clean.count
  -- as many distinct members as participants, all of them participants
  have all : r.members.toFinset = pids := by
    apply Finset.eq_of_subset_of_card_le
    · exact fun pid member => inside pid (List.mem_toFinset.mp member)
    · rw [List.toFinset_card_of_nodup nodup, length]
  refine ⟨nodup, fun pid => ?_, parity, fun sp member => ?_, fun sp member => ?_⟩
  · rw [← all, List.mem_toFinset]
  · have sound := clean.pairs sp member
    exact (noncanonical_eq_false (ids.valid _ sound.knownA) (ids.valid _ sound.knownB)).mp
      sound.canonical
  · exact (clean.pairs sp member).scored

theorem ValidRound.roundClean {pids : Finset String} {r : ScheduleRound} (ids : DistinctUuids pids)
    (valid : ValidRound pids r) : RoundClean pids r := by
  have nodup := List.nodup_append.mp valid.nodup
  have known : ∀ sp ∈ r.pairs, sp.pidA ∈ pids ∧ sp.pidB ∈ pids := by
    intro sp member
    have inMap := List.mem_map_of_mem (f := fun sp : SchedulePair => (sp.pidA, sp.pidB)) member
    constructor
    · apply (valid.everyone _).mp
      exact List.mem_append_left _ (mem_endpoints.mpr ⟨_, inMap, .inl rfl⟩)
    · apply (valid.everyone _).mp
      exact List.mem_append_left _ (mem_endpoints.mpr ⟨_, inMap, .inr rfl⟩)
  refine ⟨?_, ?_, ?_, nodup.1, ?_⟩
  · intro pid isBye
    apply (valid.everyone pid).mp
    exact List.mem_append_right _ (Option.mem_toList.mpr isBye)
  -- every participant is in the round once, so the count of its pairs is right
  · have all : r.members.toFinset = pids := by
      ext pid
      rw [List.mem_toFinset, valid.everyone]
    apply expectedPairsPerRound_spec.mpr
    rw [← length_unmatched valid.parity, ← length_members, ← all,
      List.toFinset_card_of_nodup valid.nodup]
  · intro sp member
    have order := valid.ordered sp member
    obtain ⟨knownA, knownB⟩ := known sp member
    exact ⟨knownA, knownB, order.ne,
      (noncanonical_eq_false (ids.valid _ knownA) (ids.valid _ knownB)).mpr order,
      valid.scored sp member⟩
  · intro pid isBye inPairs
    exact nodup.2.2 pid inPairs pid (Option.mem_toList.mpr isBye) rfl

/-! ## All rounds -/

def allWrites (rounds : List ScheduleRound) : List ((String × String) × Int) :=
  rounds.flatMap fun r => pairWrites r r.pairs

theorem checkRounds_nil {pids : Finset String} (rounds : List ScheduleRound)
    (unmatchedSeen : UnmatchedSeen) (seen : PairSeen) (history : List ((String × String) × Int))
    (records : Dict.Records seen history) :
    (checkRounds pids rounds unmatchedSeen seen).1 = [] ↔
      (∀ r ∈ rounds, RoundClean pids r) ∧ Dict.Functional (history ++ allWrites rounds) := by
  induction rounds generalizing unmatchedSeen seen history with
  | nil => simp [checkRounds, allWrites, records.functional]
  | cons r rest ih =>
    obtain ⟨pairsNil, pairsRecords⟩ := checkPairs_spec pids r r.pairs ∅ seen
      history records
    have used := checkPairs_used pids r r.pairs ∅ seen
    -- the pairs seen so far are the history with those of this round
    have writes : history ++ allWrites (r :: rest) =
        history ++ pairWrites r r.pairs ++ allWrites rest := by
      simp [allWrites]
    rw [writes]
    simp only [checkRounds, List.append_eq_nil_iff, checkUnmatchedKnown_nil, checkPairCount_nil,
      checkUnmatchedPaired_nil, used, Finset.empty_union, List.mem_toFinset]
    constructor
    · rintro ⟨⟨⟨⟨known, count⟩, inPairs⟩, apart⟩, later⟩
      obtain ⟨clean, nodup, _, functional⟩ := pairsNil.mp inPairs
      obtain ⟨restClean, all⟩ := (ih _ _ _ (pairsRecords functional)).mp later
      refine ⟨?_, all⟩
      intro other member
      rcases List.mem_cons.mp member with rfl | member
      · exact ⟨known, count, clean, nodup, apart⟩
      · exact restClean other member
    · rintro ⟨clean, functional⟩
      have here := clean r List.mem_cons_self
      have functionalHere := functional.append_left
      refine ⟨⟨⟨⟨here.known, here.count⟩, pairsNil.mpr
        ⟨here.pairs, here.nodup, by simp, functionalHere⟩⟩, here.apart⟩, ?_⟩
      exact (ih _ _ _ (pairsRecords functionalHere)).mpr
        ⟨fun other member => clean other (List.mem_cons_of_mem r member), functional⟩

/-! ## Byes -/

/-- `unmatched_seen` counts the ids of a list. -/
structure Counts (seen : UnmatchedSeen) (pids : List String) : Prop where
  keys : (seen.map (·.1)).Nodup
  count : ∀ pid, (seen.get? pid).getD 0 = pids.count pid

theorem Counts.note {seen : UnmatchedSeen} {pids : List String} (counts : Counts seen pids)
    (r : ScheduleRound) : Counts (noteUnmatched r seen) (pids ++ r.unmatchedPid.toList) := by
  simp only [noteUnmatched]
  cases r.unmatchedPid with
  | none => simpa using counts
  | some unmatched =>
    refine ⟨Dict.nodup_keys_set counts.keys _ _, fun pid => ?_⟩
    by_cases same : pid = unmatched
    · subst same
      simp [counts.count, List.count_append]
    · rw [Dict.get?_set_of_ne _ same, counts.count]
      simp [List.count_append, Ne.symm same]

theorem checkRounds_counts (pids : Finset String) (rounds : List ScheduleRound)
    (unmatchedSeen : UnmatchedSeen) (seen : PairSeen) (before : List String)
    (counts : Counts unmatchedSeen before) :
    Counts (checkRounds pids rounds unmatchedSeen seen).2
      (before ++ rounds.filterMap (·.unmatchedPid)) := by
  induction rounds generalizing unmatchedSeen seen before with
  | nil => simpa [checkRounds] using counts
  | cons r rest ih =>
    have later := ih (noteUnmatched r unmatchedSeen)
      (checkPairs pids r r.pairs ∅ seen).2.2 _ (counts.note r)
    simp only [checkRounds]
    cases unmatched : r.unmatchedPid <;> simpa [unmatched] using later

theorem checkUnmatchedCount_nil {seen : UnmatchedSeen} {pids : List String}
    (counts : Counts seen pids) : seen.flatMap checkUnmatchedCount = [] ↔ pids.Nodup := by
  have each : ∀ item : String × Nat, checkUnmatchedCount item = [] ↔ item.2 ≤ 1 := by
    simp [checkUnmatchedCount]
  simp only [List.flatMap_eq_nil_iff, each, List.nodup_iff_count_le_one]
  constructor
  · intro small pid
    rw [← counts.count pid]
    cases found : seen.get? pid with
    | none => exact Nat.zero_le 1
    | some c => exact small (pid, c) ((Dict.mem_iff_get? counts.keys).mpr found)
  · rintro small ⟨pid, c⟩ member
    have found := (Dict.mem_iff_get? counts.keys).mp member
    have bound := small pid
    rw [← counts.count pid, found] at bound
    exact bound

/-! ## Nobody meets twice -/

theorem canon_of_lt {x y : String} (order : UuidLt x y) : canon x y = some (x, y) := by
  obtain ⟨a, b, valueX, valueY, less⟩ := order
  simp [canon, valueX, valueY, less]

theorem mem_allWrites {pids : Finset String} {rounds : List ScheduleRound}
    (valid : ∀ r ∈ rounds, ValidRound pids r) {x y : String} {number : Int} :
    ((x, y), number) ∈ allWrites rounds ↔
      UuidLt x y ∧ ∃ r ∈ rounds, r.Meets x y ∧ r.number = number := by
  simp only [allWrites, pairWrites, List.mem_flatMap, List.mem_filterMap]
  constructor
  · rintro ⟨r, member, sp, spMember, write⟩
    have order := (valid r member).ordered sp spMember
    rw [canon_of_lt order] at write
    simp only [Option.map_some, Option.some.injEq, Prod.mk.injEq] at write
    obtain ⟨⟨rfl, rfl⟩, rfl⟩ := write
    exact ⟨order, r, member, ⟨sp, spMember, .inl ⟨rfl, rfl⟩⟩, rfl⟩
  · rintro ⟨order, r, member, ⟨sp, spMember, ends⟩, rfl⟩
    refine ⟨r, member, sp, spMember, ?_⟩
    cases ends with
    | inl forward =>
      obtain ⟨rfl, rfl⟩ := forward
      rw [canon_of_lt order, Option.map_some]
    | inr backward =>
      obtain ⟨rfl, rfl⟩ := backward
      exact absurd ((valid r member).ordered sp spMember) order.asymm

/-- `pair_seen_round` is keyed by the round number, so this needs distinct numbers. -/
theorem functional_allWrites {pids : Finset String} {rounds : List ScheduleRound}
    (valid : ∀ r ∈ rounds, ValidRound pids r) (numbers : (rounds.map (·.number)).Nodup) :
    Dict.Functional (allWrites rounds) ↔
      rounds.Pairwise fun r s => ∀ x y, r.Meets x y → ¬ s.Meets x y := by
  constructor
  · intro functional
    have distinct : rounds.Pairwise fun r s => r.number ≠ s.number := List.pairwise_map.mp numbers
    refine distinct.imp_of_mem fun {r s} rMember sMember different x y => ?_
    rintro ⟨sp, member, ends⟩ meets
    have order := (valid r rMember).ordered sp member
    have meets' : s.Meets sp.pidA sp.pidB := by
      cases ends with
      | inl forward => obtain ⟨rfl, rfl⟩ := forward; exact meets
      | inr backward => obtain ⟨rfl, rfl⟩ := backward; exact meets.symm
    -- the pair is written in both rounds under one key, so their numbers are equal
    apply different
    apply functional (sp.pidA, sp.pidB)
    · exact (mem_allWrites valid).mpr ⟨order, r, rMember, ⟨sp, member, .inl ⟨rfl, rfl⟩⟩, rfl⟩
    · exact (mem_allWrites valid).mpr ⟨order, s, sMember, meets', rfl⟩
  · rintro apart ⟨x, y⟩ first second member member'
    obtain ⟨_, r, rMember, meets, rfl⟩ := (mem_allWrites valid).mp member
    obtain ⟨_, s, sMember, meets', rfl⟩ := (mem_allWrites valid).mp member'
    by_contra different
    have symm : Std.Symm fun r s : ScheduleRound => ∀ x y, r.Meets x y → ¬ s.Meets x y :=
      ⟨fun _ _ disjoint x y meets meets' => disjoint x y meets' meets⟩
    have distinct : r ≠ s := fun same => different (congrArg _ same)
    exact apart.forall rMember sMember distinct x y meets meets'

/-! ## The decision -/

theorem nodup_unmatched {rounds : List ScheduleRound} :
    (rounds.filterMap (·.unmatchedPid)).Nodup ↔ rounds.Pairwise fun r s =>
      ∀ pid, r.unmatchedPid = some pid → s.unmatchedPid ≠ some pid := by
  rw [List.Nodup, List.pairwise_filterMap]
  apply iff_of_eq
  congr 1
  funext r s
  apply propext
  constructor
  · exact fun apart pid isBye isBye' => apart pid isBye pid isBye' rfl
  · rintro apart pid isBye pid' isBye' rfl
    exact apart pid isBye isBye'

theorem validateSchedule_nil {schedule : GeneratedSchedule} {pids : Finset String}
    {numRounds : Int} (nonneg : 0 ≤ numRounds) :
    validateSchedule schedule pids numRounds = [] ↔
      (schedule.rounds.map (·.number)).Perm (roundNumbers numRounds) ∧
      (∀ r ∈ schedule.rounds, r.unmatchedPid.isSome ↔ pids.card % 2 = 1) ∧
      ((∀ r ∈ schedule.rounds, RoundClean pids r) ∧
        Dict.Functional (allWrites schedule.rounds)) ∧
      (schedule.rounds.filterMap (·.unmatchedPid)).Nodup := by
  have counts := checkRounds_counts pids schedule.rounds [] [] []
    ⟨List.nodup_nil, fun pid => rfl⟩
  simp only [validateSchedule, List.append_eq_nil_iff, checkRoundNumbers_nil nonneg,
    checkUnmatchedCount_nil counts, List.flatMap_eq_nil_iff, checkUnmatchedPresence_nil,
    checkRounds_nil schedule.rounds [] [] [] Dict.Records.nil, List.nil_append, and_assoc]

theorem ValidSchedule.accepted {schedule : GeneratedSchedule} {pids : Finset String}
    {numRounds : Int} (ids : DistinctUuids pids) (nonneg : 0 ≤ numRounds)
    (valid : ValidSchedule pids numRounds schedule) :
    validateSchedule schedule pids numRounds = [] := by
  have numbers := valid.numbers.nodup_iff.mpr (nodup_roundNumbers numRounds)
  apply (validateSchedule_nil nonneg).mpr
  refine ⟨valid.numbers, fun r member => (valid.rounds r member).parity,
    ⟨fun r member => (valid.rounds r member).roundClean ids, ?_⟩, ?_⟩
  · exact (functional_allWrites valid.rounds numbers).mpr valid.noRepeat
  · exact nodup_unmatched.mpr valid.byes

theorem validSchedule_of_accepted {schedule : GeneratedSchedule} {pids : Finset String}
    {numRounds : Int} (ids : DistinctUuids pids) (nonneg : 0 ≤ numRounds)
    (accepted : validateSchedule schedule pids numRounds = []) :
    ValidSchedule pids numRounds schedule := by
  obtain ⟨numbers, parity, ⟨clean, functional⟩, byes⟩ := (validateSchedule_nil nonneg).mp accepted
  have valid : ∀ r ∈ schedule.rounds, ValidRound pids r := fun r member =>
    (clean r member).validRound ids (parity r member)
  have nodup := numbers.nodup_iff.mpr (nodup_roundNumbers numRounds)
  exact ⟨numbers, valid, (functional_allWrites valid nodup).mp functional, nodup_unmatched.mp byes⟩

/-- The empty list of violations means exactly that the schedule is valid. -/
theorem validateSchedule_decides (schedule : GeneratedSchedule) (pids : Finset String)
    (numRounds : Int) (ids : DistinctUuids pids) (nonneg : 0 ≤ numRounds) :
    validateSchedule schedule pids numRounds = [] ↔ ValidSchedule pids numRounds schedule :=
  ⟨validSchedule_of_accepted ids nonneg, fun valid => valid.accepted ids nonneg⟩

def twoPids : Finset String :=
  {"00000000-0000-0000-0000-000000000001", "00000000-0000-0000-0000-000000000002"}

def onePairSchedule : GeneratedSchedule where
  rounds := [{
    number := 1
    pairs := [⟨"00000000-0000-0000-0000-000000000001", "00000000-0000-0000-0000-000000000002", 1 / 2⟩]
    unmatchedPid := none }]

theorem distinctUuids_twoPids : DistinctUuids twoPids := by
  constructor <;> decide +kernel

theorem validSchedule_onePair : ValidSchedule twoPids 1 onePairSchedule :=
  (validateSchedule_decides onePairSchedule twoPids 1 distinctUuids_twoPids (by decide)).mp
    (by decide +kernel)

end EventPlatform.Matching
