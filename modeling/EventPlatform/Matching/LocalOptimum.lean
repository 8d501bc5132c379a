import EventPlatform.Matching.Improvement

/-! # What local improvement reaches

The loop over one round is followed swap by swap.  Every accepted swap gains
more than `minGain` and re-pairs exactly two pairs, and the loop ends after
`maxPasses` swaps or at a round no legal swap improves, where legal means
legal against the other rounds as they are while this one is improved. -/

namespace EventPlatform.Matching

open EventPlatform.Lib

def roundScore (ctx : MatchContext) (pairs : List IndexPair) : ℚ := (pairs.map (pairScore ctx)).sum

/-- The two ways to re-pair two pairs crosswise. -/
def Crossed (old1 old2 n1 n2 : IndexPair) : Prop :=
  (n1 = orderPair old1.1 old2.1 ∧ n2 = orderPair old1.2 old2.2) ∨
    (n1 = orderPair old1.1 old2.2 ∧ n2 = orderPair old1.2 old2.1)

/-- `pairs'` is `pairs` after a swap that repeats no pair of `others` and gains
    more than `minGain`. -/
def ImprovingSwap (ctx : MatchContext) (others pairs pairs' : List IndexPair) : Prop :=
  ∃ (i j : Nat) (old1 old2 n1 n2 : IndexPair), i < j ∧ pairs[i]? = some old1 ∧
    pairs[j]? = some old2 ∧ Crossed old1 old2 n1 n2 ∧ n1 ∉ others ∧ n2 ∉ others ∧
    pairScore ctx old1 + pairScore ctx old2 + minGain < pairScore ctx n1 + pairScore ctx n2 ∧
    pairs' = (pairs.set i n1).set j n2

/-! ## Exactly two pairs change -/

/-- No pair of a matching runs across two of its pairs. -/
theorem not_met_across {old1 old2 : IndexPair} {rest : List IndexPair}
    (nodup : (endpoints (old1 :: old2 :: rest)).Nodup) {x y : Nat}
    (left : x = old1.1 ∨ x = old1.2) (right : y = old2.1 ∨ y = old2.2) :
    ¬ Met (old1 :: old2 :: rest) x y := by
  intro met
  have partner : y = old1.1 ∨ y = old1.2 := by
    cases left with
    | inl first =>
      subst first
      exact .inr (met.unique nodup (met_cons.mpr (.inl (.inl rfl))))
    | inr second =>
      subst second
      exact .inl (met.unique nodup (met_cons.mpr (.inl (.inr rfl))))
  -- then a participant of the second pair would sit in the first one too
  simp only [endpoints_cons, List.nodup_cons, List.mem_cons, not_or] at nodup
  grind

theorem Crossed.fresh {old1 old2 n1 n2 : IndexPair} (crossed : Crossed old1 old2 n1 n2)
    {rest : List IndexPair} (nodup : (endpoints (old1 :: old2 :: rest)).Nodup) :
    n1 ∉ old1 :: old2 :: rest ∧ n2 ∉ old1 :: old2 :: rest := by
  have across : ∀ x y, (x = old1.1 ∨ x = old1.2) → (y = old2.1 ∨ y = old2.2) →
      orderPair x y ∉ old1 :: old2 :: rest := by
    intro x y left right member
    apply not_met_across nodup left right
    cases orderPair_eq x y with
    | inl same => exact .inl (same ▸ member)
    | inr swapped => exact .inr (swapped ▸ member)
  cases crossed with
  | inl straight =>
    rw [straight.1, straight.2]
    exact ⟨across _ _ (.inl rfl) (.inl rfl), across _ _ (.inr rfl) (.inr rfl)⟩
  | inr reversed =>
    rw [reversed.1, reversed.2]
    exact ⟨across _ _ (.inl rfl) (.inr rfl), across _ _ (.inr rfl) (.inl rfl)⟩

/-- What an improving swap does to a round. -/
structure SwapEffect (ctx : MatchContext) (pairs pairs' : List IndexPair) : Prop where
  gain : roundScore ctx pairs + minGain < roundScore ctx pairs'
  removed : (pairs.toFinset \ pairs'.toFinset).card = 2
  added : (pairs'.toFinset \ pairs.toFinset).card = 2

/-- Two lists that differ in two elements each. -/
theorem card_sdiff_two {a b c d : IndexPair} {rest : List IndexPair}
    (nodup : (a :: b :: rest).Nodup) (first : c ∉ a :: b :: rest) (second : d ∉ a :: b :: rest) :
    ((a :: b :: rest).toFinset \ (c :: d :: rest).toFinset).card = 2 := by
  have only : (a :: b :: rest).toFinset \ (c :: d :: rest).toFinset = {a, b} := by
    ext x
    simp only [List.toFinset_cons, Finset.mem_sdiff, Finset.mem_insert, List.mem_toFinset,
      Finset.mem_singleton]
    simp only [List.nodup_cons, List.mem_cons, not_or] at nodup first second
    grind
  rw [only]
  apply Finset.card_pair
  rintro rfl
  simp at nodup

theorem ImprovingSwap.effect {ctx : MatchContext} {others pairs pairs' : List IndexPair}
    (swap : ImprovingSwap ctx others pairs pairs') (nodup : (endpoints pairs).Nodup) :
    SwapEffect ctx pairs pairs' := by
  obtain ⟨i, j, old1, old2, n1, n2, before, first, second, crossed, _, _, gain, rfl⟩ := swap
  -- both lists are the two pairs, old or new, before one common rest
  obtain ⟨rest, perm, perm'⟩ := exists_perm_set_set before first second n1 n2
  have ends := (endpoints_perm perm).nodup_iff.mp nodup
  have ends' : (endpoints (n1 :: n2 :: rest)).Nodup :=
    (endpoints_exchanged rest crossed).nodup_iff.mpr ends
  obtain ⟨fresh1, fresh2⟩ := crossed.fresh ends
  have pairsNodup := nodup_of_nodup_endpoints ends
  have pairsNodup' := nodup_of_nodup_endpoints ends'
  have gone : old1 ∉ n1 :: n2 :: rest ∧ old2 ∉ n1 :: n2 :: rest := by
    simp only [List.nodup_cons, List.mem_cons, not_or] at pairsNodup fresh1 fresh2 ⊢
    grind
  refine ⟨?_, ?_, ?_⟩
  · have sum := (perm.map (pairScore ctx)).sum_eq
    have sum' := (perm'.map (pairScore ctx)).sum_eq
    simp only [List.map_cons, List.sum_cons] at sum sum'
    simp only [roundScore, sum, sum']
    linarith
  · rw [List.toFinset_eq_of_perm _ _ perm, List.toFinset_eq_of_perm _ _ perm']
    exact card_sdiff_two pairsNodup fresh1 fresh2
  · rw [List.toFinset_eq_of_perm _ _ perm, List.toFinset_eq_of_perm _ _ perm']
    exact card_sdiff_two pairsNodup' gone.1 gone.2

/-! ## What the scan finds -/

variable {ctx : MatchContext} {bye : Option Nat} {others : List IndexPair} {st st' : ImproveState}

theorem ImproveInv.nodup_endpoints (inv : ImproveInv ctx.size bye others st) :
    (endpoints st.currentPairs).Nodup :=
  (List.nodup_append.mp (inv.round.covers.nodup_iff.mpr List.nodup_range)).1

/-- An accepted attempt at two positions is an improving swap. -/
theorem ImproveInv.tryPositions_improving (inv : ImproveInv ctx.size bye others st) {i j : Nat}
    (before : i < j) (swapped : Matching.tryPositions ctx st i j = some st') :
    ImprovingSwap ctx others st.currentPairs st'.currentPairs := by
  have attempt : ∀ (old1 old2 n1 n2 : IndexPair), st.currentPairs[i]? = some old1 →
      st.currentPairs[j]? = some old2 → Crossed old1 old2 n1 n2 →
      trySwap ctx st i j old1 old2 n1 n2 = some st' →
      ImprovingSwap ctx others st.currentPairs st'.currentPairs := by
    intro old1 old2 n1 n2 first second crossed tried
    simp only [trySwap] at tried
    split at tried
    next accepted =>
      cases tried
      obtain ⟨legal, gain⟩ := Bool.and_eq_true_iff.mp accepted
      obtain ⟨_, _, apart1, apart2⟩ := inv.legal_apart legal
      exact ⟨i, j, old1, old2, n1, n2, before, first, second, crossed, apart1, apart2,
        of_decide_eq_true gain, rfl⟩
    next => cases tried
  simp only [Matching.tryPositions] at swapped
  split at swapped
  next a b c d first second =>
    -- the two ways to cross are tried in this order; the second only if the first fails
    cases crossed : trySwap ctx st i j (a, b) (c, d) (orderPair a c) (orderPair b d) with
    | some found =>
      rw [crossed] at swapped
      cases swapped
      exact attempt _ _ _ _ first second (.inl ⟨rfl, rfl⟩) crossed
    | none =>
      rw [crossed] at swapped
      exact attempt _ _ _ _ first second (.inr ⟨rfl, rfl⟩) swapped
  next => cases swapped

theorem ImproveInv.scanSwaps_improving (inv : ImproveInv ctx.size bye others st)
    (found : Matching.scanSwaps ctx st = some st') :
    ImprovingSwap ctx others st.currentPairs st'.currentPairs := by
  obtain ⟨i, _, found⟩ := List.exists_of_findSome?_eq_some found
  obtain ⟨j, inRange, found⟩ := List.exists_of_findSome?_eq_some found
  exact inv.tryPositions_improving (List.mem_range'_1.mp inRange).1 found

/-- A new pair that no other round has passes the legality test. -/
theorem ImproveInv.legal_of_apart (inv : ImproveInv ctx.size bye others st) {n1 n2 : IndexPair}
    (different1 : n1.1 ≠ n1.2) (different2 : n2.1 ≠ n2.2) (apart1 : n1 ∉ others)
    (apart2 : n2 ∉ others) : st.legal n1 n2 = true := by
  have allowed : ∀ p, p ∉ others → p ∉ st.allPairs ∨ p ∈ st.currentRoundSet := by
    intro p apart
    rw [inv.all, inv.current]
    tauto
  simp only [ImproveState.legal, Bool.and_eq_true, Bool.or_eq_true, decide_eq_true_eq]
  exact ⟨⟨⟨different1, different2⟩, allowed n1 apart1⟩, allowed n2 apart2⟩

theorem Crossed.different {old1 old2 n1 n2 : IndexPair} (crossed : Crossed old1 old2 n1 n2)
    {rest : List IndexPair} (nodup : (endpoints (old1 :: old2 :: rest)).Nodup) :
    n1.1 ≠ n1.2 ∧ n2.1 ≠ n2.2 := by
  have ends := (endpoints_exchanged rest crossed).nodup_iff.mpr nodup
  exact ⟨Met.ne ends (met_cons.mpr (.inl (.inl rfl))),
    Met.ne ends (met_cons.mpr (.inr (met_cons.mpr (.inl (.inl rfl)))))⟩

/-- A scan that finds nothing has tried every improving swap. -/
theorem ImproveInv.scanSwaps_none (inv : ImproveInv ctx.size bye others st)
    (nothing : Matching.scanSwaps ctx st = none) (pairs' : List IndexPair) :
    ¬ ImprovingSwap ctx others st.currentPairs pairs' := by
  rintro ⟨i, j, old1, old2, n1, n2, before, first, second, crossed, apart1, apart2, gain, _⟩
  obtain ⟨insideI, _⟩ := List.getElem?_eq_some_iff.mp first
  obtain ⟨insideJ, _⟩ := List.getElem?_eq_some_iff.mp second
  have tried : Matching.tryPositions ctx st i j = none := by
    have rows := List.findSome?_eq_none_iff.mp nothing i (List.mem_range.mpr insideI)
    exact List.findSome?_eq_none_iff.mp rows j (List.mem_range'_1.mpr ⟨before, by omega⟩)
  obtain ⟨rest, perm, _⟩ := exists_perm_set_set before first second n1 n2
  obtain ⟨different1, different2⟩ :=
    crossed.different ((endpoints_perm perm).nodup_iff.mp inv.nodup_endpoints)
  have legal := inv.legal_of_apart different1 different2 apart1 apart2
  -- the scan has come past these positions, and would have taken the swap
  have accepted : trySwap ctx st i j old1 old2 n1 n2 ≠ none := by
    simp [trySwap, legal, gain]
  simp only [Matching.tryPositions, first, second, Option.orElse_eq_none] at tried
  cases crossed with
  | inl straight =>
    rw [straight.1, straight.2] at accepted
    exact accepted tried.1
  | inr reversed =>
    rw [reversed.1, reversed.2] at accepted
    exact accepted tried.2

/-! ## The swaps of one round -/

/-- The states after each accepted swap of `improveRound`, in order. -/
def improveTrace (ctx : MatchContext) : Nat → ImproveState → List ImproveState
  | 0, _ => []
  | passes + 1, st =>
    match scanSwaps ctx st with
    | none => []
    | some next => next :: improveTrace ctx passes next

theorem improveRound_eq_last (ctx : MatchContext) (passes : Nat) (st : ImproveState) :
    improveRound ctx passes st = (improveTrace ctx passes st).getLastD st := by
  induction passes generalizing st with
  | zero => rfl
  | succ passes ih =>
    simp only [improveRound, improveTrace]
    cases scanSwaps ctx st with
    | none => rfl
    | some next => simp only [ih, List.getLastD_cons]

theorem ImproveInv.trace (inv : ImproveInv ctx.size bye others st) (passes : Nat) :
    ∀ s ∈ st :: improveTrace ctx passes st, ImproveInv ctx.size bye others s := by
  induction passes generalizing st with
  | zero => simpa [improveTrace] using inv
  | succ passes ih =>
    simp only [improveTrace]
    cases found : Matching.scanSwaps ctx st with
    | none => simpa using inv
    | some next =>
      simp only [List.forall_mem_cons]
      refine ⟨inv, ?_⟩
      simpa only [List.forall_mem_cons] using ih (inv.scanSwaps found)

theorem ImproveInv.trace_swaps (inv : ImproveInv ctx.size bye others st) (passes : Nat) :
    (st :: improveTrace ctx passes st).IsChain fun s s' =>
      ImprovingSwap ctx others s.currentPairs s'.currentPairs := by
  induction passes generalizing st with
  | zero => exact List.isChain_singleton st
  | succ passes ih =>
    simp only [improveTrace]
    cases found : Matching.scanSwaps ctx st with
    | none => exact List.isChain_singleton st
    | some next =>
      exact List.isChain_cons_cons.mpr ⟨inv.scanSwaps_improving found, ih (inv.scanSwaps found)⟩

/-- Ten swaps, or nothing left to gain. -/
theorem ImproveInv.trace_stops (inv : ImproveInv ctx.size bye others st) (passes : Nat) :
    (improveTrace ctx passes st).length = passes ∨
      (improveTrace ctx passes st).length < passes ∧ ∀ pairs',
        ¬ ImprovingSwap ctx others (Matching.improveRound ctx passes st).currentPairs pairs' := by
  induction passes generalizing st with
  | zero => exact .inl rfl
  | succ passes ih =>
    simp only [improveTrace, Matching.improveRound]
    cases found : Matching.scanSwaps ctx st with
    | none => exact .inr ⟨Nat.succ_pos passes, inv.scanSwaps_none found⟩
    | some next =>
      cases ih (inv.scanSwaps found) with
      | inl full => left; simp only [List.length_cons, full]
      | inr early =>
        right
        exact ⟨by simp only [List.length_cons]; omega, early.2⟩

/-- A chain of gains never ends below its start. -/
theorem roundScore_le_last {states : List ImproveState}
    (gains : (st :: states).IsChain fun s s' =>
      roundScore ctx s.currentPairs + minGain < roundScore ctx s'.currentPairs) :
    roundScore ctx st.currentPairs ≤ roundScore ctx (states.getLastD st).currentPairs := by
  induction states generalizing st with
  | nil => exact le_refl _
  | cons next states ih =>
    obtain ⟨gain, rest⟩ := List.isChain_cons_cons.mp gains
    have positive : (0 : ℚ) < minGain := by norm_num [minGain]
    have later := ih rest
    rw [List.getLastD_cons]
    linarith

theorem ImproveInv.trace_effects (inv : ImproveInv ctx.size bye others st) (passes : Nat) :
    (st :: improveTrace ctx passes st).IsChain fun s s' =>
      ImprovingSwap ctx others s.currentPairs s'.currentPairs ∧
        SwapEffect ctx s.currentPairs s'.currentPairs := by
  have invs := inv.trace passes
  refine List.IsChain.imp_of_mem_imp ?_ (inv.trace_swaps passes)
  intro s s' inside _ swap
  exact ⟨swap, swap.effect (invs s inside).nodup_endpoints⟩

/-! ## All rounds -/

/-- Every round partitions the ranks and no edge is used twice. -/
structure ValidRounds (size : Nat) (rounds : List (List IndexPair)) (byes : List (Option Nat)) :
    Prop where
  partitions : List.Forall₂ (IndexRound size) rounds byes
  distinct : rounds.flatten.Nodup

/-- All rounds while round `r` is improved: `pairs` stands for round `r`, the
    earlier rounds are improved already. -/
def roundsWith (improved rounds : List (List IndexPair)) (r : Nat) (pairs : List IndexPair) :
    List (List IndexPair) :=
  improved.take r ++ pairs :: rounds.drop (r + 1)

/-- The pairs of all rounds but round `r` at that moment. -/
def otherPairs (improved rounds : List (List IndexPair)) (r : Nat) : List IndexPair :=
  (improved.take r ++ rounds.drop (r + 1)).flatten

/-- The three collections of the source when the loop reaches round `r`. -/
def startOf (improved rounds : List (List IndexPair)) (r : Nat) (pairs : List IndexPair) :
    ImproveState :=
  ⟨(roundsWith improved rounds r pairs).flatten.toFinset, pairs.toFinset, pairs⟩

/-- Round `r` is improved from the state the source has then.  `outside` are
    the pairs of the rounds that are not in the list any more. -/
theorem improveRounds_at {rounds : List (List IndexPair)} {byes : List (Option Nat)}
    (valid : List.Forall₂ (IndexRound ctx.size) rounds byes) (outside : List IndexPair)
    (allPairs : Finset IndexPair) (all : ∀ p, p ∈ allPairs ↔ p ∈ outside ∨ p ∈ rounds.flatten)
    (distinct : (outside ++ rounds.flatten).Nodup) (r : Nat) (here : r < rounds.length) :
    let improved := improveRounds ctx allPairs rounds
    let before := outside ++ (roundsWith improved rounds r rounds[r]).flatten
    improved[r]? = some (improveRound ctx maxPasses
      ⟨before.toFinset, rounds[r].toFinset, rounds[r]⟩).currentPairs ∧ before.Nodup := by
  induction valid generalizing outside allPairs r with
  | nil => cases here
  | @cons pairs bye rest byes first later ih =>
    cases r with
    | zero =>
      have same : allPairs = (outside ++ (pairs :: rest).flatten).toFinset := by
        ext p
        rw [all, List.mem_toFinset, List.mem_append]
      simp only [improveRounds, roundsWith, List.take_zero, List.nil_append, List.drop_succ_cons,
        List.drop_zero, List.getElem_cons_zero, List.getElem?_cons_zero, same, distinct, and_self]
    | succ r =>
      have final := (ImproveInv.start first all distinct).improveRound maxPasses
      simp only [improveRounds]
      generalize improved : improveRound ctx maxPasses ⟨allPairs, pairs.toFinset, pairs⟩ = st
        at final ⊢
      obtain ⟨result, nodup⟩ := ih (outside ++ st.currentPairs) st.allPairs
        (fun p => by rw [final.all, List.mem_append, List.mem_append]; tauto)
        (final.finish (nodup_others distinct)) r (Nat.lt_of_succ_lt_succ here)
      -- the improved round moves from the head of the list to the pairs outside it
      simp only [roundsWith, List.take_succ_cons, List.cons_append, List.flatten_cons,
        List.drop_succ_cons, List.getElem_cons_succ, List.getElem?_cons_succ,
        ← List.append_assoc] at result nodup ⊢
      exact ⟨result, nodup⟩

theorem validRounds_with {rounds improved : List (List IndexPair)} {byes : List (Option Nat)}
    (valid : List.Forall₂ (IndexRound ctx.size) rounds byes)
    (valid' : List.Forall₂ (IndexRound ctx.size) improved byes) {r : Nat}
    (here : r < byes.length) {pairs : List IndexPair} (round : IndexRound ctx.size pairs byes[r])
    (distinct : (roundsWith improved rounds r pairs).flatten.Nodup) :
    ValidRounds ctx.size (roundsWith improved rounds r pairs) byes := by
  refine ⟨?_, distinct⟩
  have whole : byes = byes.take r ++ byes[r] :: byes.drop (r + 1) := by
    rw [← List.drop_eq_getElem_cons here, List.take_append_drop]
  rw [whole]
  exact List.rel_append (List.forall₂_take r valid')
    (.cons round (List.forall₂_drop (r + 1) valid))

/-- What the loop over round `r` has done when it stops.  `start` is the state
    it started from; the trace lists the states after each accepted swap. -/
structure RoundImproved (ctx : MatchContext) (byes : List (Option Nat))
    (improved rounds : List (List IndexPair)) (r : Nat) (start : ImproveState) : Prop where
  result : improved[r]? =
    some ((improveTrace ctx maxPasses start).getLastD start).currentPairs
  valid : ∀ s ∈ start :: improveTrace ctx maxPasses start,
    ValidRounds ctx.size (roundsWith improved rounds r s.currentPairs) byes
  swaps : (start :: improveTrace ctx maxPasses start).IsChain fun s s' =>
    ImprovingSwap ctx (otherPairs improved rounds r) s.currentPairs s'.currentPairs ∧
      SwapEffect ctx s.currentPairs s'.currentPairs
  participants : ∀ s ∈ start :: improveTrace ctx maxPasses start,
    (endpoints s.currentPairs).Perm (endpoints start.currentPairs)
  total : roundScore ctx start.currentPairs ≤
    roundScore ctx ((improveTrace ctx maxPasses start).getLastD start).currentPairs
  stops : (improveTrace ctx maxPasses start).length = maxPasses ∨
    (improveTrace ctx maxPasses start).length < maxPasses ∧ ∀ pairs',
      ¬ ImprovingSwap ctx (otherPairs improved rounds r)
        ((improveTrace ctx maxPasses start).getLastD start).currentPairs pairs'

/-- Two rounds with one bye have the same participants. -/
theorem IndexRound.same_participants {size : Nat} {pairs pairs' : List IndexPair}
    (round : IndexRound size pairs bye) (round' : IndexRound size pairs' bye) :
    (endpoints pairs').Perm (endpoints pairs) :=
  (List.perm_append_right_iff _).mp (round'.covers.trans round.covers.symm)

/-- Every round of a valid set of rounds is improved swap by swap, with all
    rounds valid at every step, until ten swaps are made or none is left that
    gains. -/
theorem improveRounds_localOptimum (ctx : MatchContext) (rounds : List (List IndexPair))
    (byes : List (Option Nat)) (valid : ValidRounds ctx.size rounds byes) :
    let improved := improveRounds ctx rounds.flatten.toFinset rounds
    ValidRounds ctx.size improved byes ∧ ∀ r (here : r < rounds.length),
      RoundImproved ctx byes improved rounds r (startOf improved rounds r rounds[r]) := by
  intro improved
  have all : ∀ p, p ∈ rounds.flatten.toFinset ↔ p ∈ ([] : List IndexPair) ∨ p ∈ rounds.flatten := by
    simp
  obtain ⟨valid', distinct'⟩ := improveRounds_spec valid.partitions [] _ all valid.distinct
  refine ⟨⟨valid', distinct'⟩, fun r here => ?_⟩
  have here' : r < byes.length := valid.partitions.length_eq ▸ here
  obtain ⟨result, nodup⟩ := improveRounds_at valid.partitions [] _ all valid.distinct r here
  have round := valid.partitions.get here here'
  have whole : ((improved.take r).flatten ++ (rounds[r] :: rounds.drop (r + 1)).flatten).Nodup := by
    simpa [roundsWith] using nodup
  -- the other rounds are the improved ones before `r` and the untouched ones after it
  have others : otherPairs improved rounds r =
      (improved.take r).flatten ++ (rounds.drop (r + 1)).flatten := List.flatten_append
  have inv : ImproveInv ctx.size byes[r] (otherPairs improved rounds r)
      (startOf improved rounds r rounds[r]) := by
    rw [others]
    exact ImproveInv.start round (fun p => by simp [roundsWith]) whole
  have invs := inv.trace maxPasses
  have effects := inv.trace_effects maxPasses
  have stops := inv.trace_stops maxPasses
  rw [improveRound_eq_last] at stops
  refine ⟨?_, ?_, effects, ?_, ?_, stops⟩
  · rw [← improveRound_eq_last]
    exact result
  · intro s inside
    apply validRounds_with valid.partitions valid' here' (invs s inside).round
    have inv' := invs s inside
    rw [others] at inv'
    simpa [roundsWith] using inv'.finish (nodup_others whole)
  · intro s inside
    exact inv.round.same_participants (invs s inside).round
  · exact roundScore_le_last (effects.imp fun _ _ effect => effect.2.gain)

/-- Four ranks of which 0 and 2, and 1 and 3, go well together. -/
def crossContext : MatchContext where
  size := 4
  scoreMat := fun i j => if i % 2 = j % 2 then 1 else 0

example : improveRounds crossContext {(0, 1), (2, 3)} [[(0, 1), (2, 3)]] =
    [[(0, 2), (1, 3)]] := by
  decide +kernel

theorem crossContext_localOptimum :
    let improved := improveRounds crossContext [[(0, 1), (2, 3)]].flatten.toFinset
      [[(0, 1), (2, 3)]]
    ValidRounds 4 improved [none] ∧ RoundImproved crossContext [none] improved
      [[(0, 1), (2, 3)]] 0 (startOf improved [[(0, 1), (2, 3)]] 0 [(0, 1), (2, 3)]) := by
  have round : IndexRound 4 [(0, 1), (2, 3)] none := by
    constructor <;> decide
  have outcome := improveRounds_localOptimum crossContext [[(0, 1), (2, 3)]] [none]
    ⟨.cons round .nil, by decide⟩
  exact ⟨outcome.1, outcome.2 0 (by decide)⟩

end EventPlatform.Matching
