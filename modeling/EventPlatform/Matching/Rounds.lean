import EventPlatform.Matching.Recovery

/-! # The round loop

`RoundsInv` is what the loop over the rounds keeps: every finished round
partitions the ranks, no edge is used twice, the forbidden sets are exactly the
edges used so far, and the byes are distinct. -/

namespace EventPlatform.Matching

open EventPlatform.Lib

/-- The pairs and the bye of one round partition the ranks below `size`. -/
structure IndexRound (size : Nat) (pairs : List IndexPair) (bye : Option Nat) : Prop where
  covers : (endpoints pairs ++ bye.toList).Perm (List.range size)
  ordered : ∀ p ∈ pairs, p.1 < p.2
  parity : bye.isSome ↔ size % 2 = 1

theorem IndexRound.nodup {size : Nat} {pairs : List IndexPair} {bye : Option Nat}
    (round : IndexRound size pairs bye) : pairs.Nodup := by
  have distinct := round.covers.nodup_iff.mpr List.nodup_range
  exact nodup_of_nodup_endpoints (List.nodup_append.mp distinct).1

structure RoundsInv (ctx : MatchContext) (st : RoundState) : Prop where
  rounds : List.Forall₂ (IndexRound ctx.size) st.roundsPairs st.roundsBye
  distinct : st.roundsPairs.flatten.Nodup
  recorded : ∀ a b, b ∈ st.forbidden a ↔ Met st.roundsPairs.flatten a b
  byes : (st.roundsBye.filterMap id).Nodup
  unmatched : ∀ i, st.unmatchedCount i = 0 ↔ some i ∉ st.roundsBye

theorem RoundsInv.start (ctx : MatchContext) : RoundsInv ctx .start where
  rounds := .nil
  distinct := List.nodup_nil
  recorded := by simp [RoundState.start]
  byes := List.nodup_nil
  unmatched := by simp [RoundState.start]

theorem RoundsInv.symm {ctx : MatchContext} {st : RoundState} (inv : RoundsInv ctx st) :
    st.forbidden.Symm := by
  intro a b
  rw [inv.recorded a b, inv.recorded b a]
  exact ⟨Met.symm, Met.symm⟩

/-! ## Pairing one round -/

/-- What greedy or recovery hands back for a working set. -/
structure RoundPaired (forbidden : Forbidden) (working : List Nat)
    (result : Forbidden × List IndexPair) : Prop where
  matching : PerfectMatching forbidden.Avoid working result.2
  ordered : ∀ p ∈ result.2, p.1 < p.2
  grown : forbidden.GrownBy result.2 result.1

theorem minMax_eq (p : IndexPair) :
    (min p.1 p.2, max p.1 p.2) = p ∨ (min p.1 p.2, max p.1 p.2) = p.swap := by
  cases le_total p.1 p.2 with
  | inl le => left; rw [min_eq_left le, max_eq_right le]
  | inr le => right; rw [min_eq_right le, max_eq_left le]; rfl

theorem met_minMax (ps : List IndexPair) (a b : Nat) :
    Met (ps.map fun p => (min p.1 p.2, max p.1 p.2)) a b ↔ Met ps a b := by
  induction ps with
  | nil => rfl
  | cons p ps ih =>
    rw [List.map_cons, met_cons, met_cons, ih]
    apply or_congr_left
    cases minMax_eq p with
    | inl same => rw [same]
    | inr swapped =>
      rw [swapped]
      obtain ⟨x, y⟩ := p
      simp only [Prod.swap_prod_mk, Prod.mk.injEq]
      tauto

theorem recovered_paired {forbidden grown : Forbidden} {working : List Nat}
    {new : List IndexPair} (nodup : working.Nodup)
    (matching : PerfectMatching forbidden.Avoid working new) (growth : forbidden.GrownBy new grown) :
    RoundPaired forbidden working (grown, new.map fun p => (min p.1 p.2, max p.1 p.2)) := by
  have met := met_minMax new
  refine ⟨⟨?_, ?_⟩, ?_, growth.congr fun a b => (met a b).symm⟩
  · exact (endpoints_reorder _ new fun p _ => minMax_eq p).trans matching.covers
  · exact fun a b edge => matching.allowed a b ((met a b).mp edge)
  · intro p member
    obtain ⟨q, inNew, rfl⟩ := List.mem_map.mp member
    have different : q.1 ≠ q.2 := Met.ne (matching.covers.nodup_iff.mpr nodup) (.inl inNew)
    show min q.1 q.2 < max q.1 q.2
    omega

theorem pairRound_sound {ctx : MatchContext} {pids : Nat → String} {roundNum : Nat}
    {forbidden : Forbidden} {working : List Nat} {result : Forbidden × List IndexPair}
    (symm : forbidden.Symm) (nodup : working.Nodup) (bounded : ∀ i ∈ working, i < ctx.size)
    (paired : pairRound ctx pids roundNum forbidden working = .ok result) :
    RoundPaired forbidden working result := by
  simp only [pairRound] at paired
  split at paired
  next greedy done =>
    cases paired
    obtain ⟨matching, ordered, grown⟩ := greedyLoop_sound symm done
    exact ⟨matching, ordered, grown⟩
  next stuck failed _ =>
    have outcome := runSearch_spec symm nodup bounded
    split at paired
    next found success =>
      rw [success] at outcome
      obtain ⟨new, chosen, matching, grown⟩ := outcome.success rfl
      cases paired
      rw [chosen, List.nil_append]
      exact recovered_paired nodup matching grown
    next gaveUp _ => cases paired

/-! ## One round -/

theorem nodup_workingSet (ctx : MatchContext) (bye : Option Nat) : (workingSet ctx bye).Nodup := by
  cases bye with
  | none => exact List.nodup_range
  | some i => exact List.nodup_range.erase i

theorem workingSet_lt {ctx : MatchContext} {bye : Option Nat} {i : Nat}
    (member : i ∈ workingSet ctx bye) : i < ctx.size := by
  cases bye with
  | none => exact List.mem_range.mp member
  | some _ => exact List.mem_range.mp (List.mem_of_mem_erase member)

theorem workingSet_perm {ctx : MatchContext} {bye : Option Nat} (inside : ∀ i, bye = some i → i < ctx.size) :
    (workingSet ctx bye ++ bye.toList).Perm (List.range ctx.size) := by
  cases bye with
  | none => simp [workingSet]
  | some i =>
    have member := List.mem_range.mpr (inside i rfl)
    exact (List.perm_append_singleton i _).trans (List.perm_cons_erase member).symm

theorem chooseBye_spec {ctx : MatchContext} {st : RoundState} {bye : Nat}
    (chosen : chooseBye ctx st = some bye) : bye < ctx.size ∧ st.unmatchedCount bye = 0 := by
  have member := firstLeast_mem _ chosen
  simp only [List.mem_filter, List.mem_range, decide_eq_true_eq] at member
  exact member

/-- Adding a round keeps the invariant when its bye is new. -/
theorem RoundsInv.finish {ctx : MatchContext} {st : RoundState} {bye : Option Nat}
    {grown : Forbidden} {pairs : List IndexPair} (inv : RoundsInv ctx st)
    (parity : bye.isSome ↔ ctx.size % 2 = 1)
    (fresh : ∀ i, bye = some i → i < ctx.size ∧ st.unmatchedCount i = 0)
    (paired : RoundPaired st.forbidden (workingSet ctx bye) (grown, pairs)) :
    RoundsInv ctx (st.finish grown bye pairs) where
  rounds := by
    refine List.rel_append inv.rounds (.cons ⟨?_, paired.ordered, parity⟩ .nil)
    have perm := paired.matching.covers.append_right bye.toList
    exact perm.trans (workingSet_perm fun i isBye => (fresh i isBye).1)
  distinct := by
    have nodup : pairs.Nodup := by
      apply nodup_of_nodup_endpoints
      exact paired.matching.covers.nodup_iff.mpr (nodup_workingSet ctx bye)
    simp only [RoundState.finish, List.flatten_append, List.flatten_cons, List.flatten_nil,
      List.append_nil]
    refine List.nodup_append.mpr ⟨inv.distinct, nodup, fun p old q new same => ?_⟩
    subst same
    -- an edge of an earlier round is forbidden, so this round avoided it
    exact paired.matching.allowed p.1 p.2 (.inl new) ((inv.recorded p.1 p.2).mpr (.inl old))
  recorded := by
    intro a b
    simp only [RoundState.finish, List.flatten_append, List.flatten_cons, List.flatten_nil,
      List.append_nil, met_append]
    rw [paired.grown a b, inv.recorded a b]
  byes := by
    cases bye with
    | none => simpa [RoundState.finish] using inv.byes
    | some i =>
      have new := (inv.unmatched i).mp (fresh i rfl).2
      simp only [RoundState.finish, List.filterMap_append, List.filterMap_cons, id,
        List.filterMap_nil]
      refine List.nodup_append.mpr ⟨inv.byes, List.nodup_singleton i, fun j old k new' same => ?_⟩
      rw [List.mem_singleton] at new'
      subst same new'
      simp only [List.mem_filterMap, exists_eq_right] at old
      exact new old
  unmatched := by
    intro j
    cases bye with
    | none => simpa [RoundState.finish] using inv.unmatched j
    | some i =>
      simp only [RoundState.finish, List.mem_append, List.mem_singleton, Option.some.injEq, not_or]
      by_cases same : j = i
      · subst same; simp
      · rw [Function.update_of_ne same, inv.unmatched j]
        simp [same]

theorem roundStep_inv {ctx : MatchContext} {pids : Nat → String} {roundNum : Nat}
    {st st' : RoundState} (inv : RoundsInv ctx st)
    (stepped : roundStep ctx pids st roundNum = .ok st') :
    RoundsInv ctx st' ∧ st'.roundsPairs.length = st.roundsPairs.length + 1 := by
  -- with a bye or without, the pairs of the round cover its working set
  have sound : ∀ (bye : Option Nat) (result : Forbidden × List IndexPair),
      pairRound ctx pids roundNum st.forbidden (workingSet ctx bye) = .ok result →
      RoundPaired st.forbidden (workingSet ctx bye) result := fun bye result paired =>
    pairRound_sound inv.symm (nodup_workingSet ctx bye) (fun _ member => workingSet_lt member) paired
  simp only [roundStep] at stepped
  split at stepped
  next odd =>
    split at stepped
    next none => cases stepped
    next bye chosen =>
      cases paired : pairRound ctx pids roundNum st.forbidden (workingSet ctx (some bye)) with
      | error e => rw [paired] at stepped; cases stepped
      | ok result =>
        rw [paired] at stepped
        cases stepped
        refine ⟨inv.finish (by simpa using odd) ?_ (sound (some bye) result paired), ?_⟩
        · intro i isBye
          cases isBye
          exact chooseBye_spec chosen
        · simp [RoundState.finish]
  next even =>
    cases paired : pairRound ctx pids roundNum st.forbidden (workingSet ctx none) with
    | error e => rw [paired] at stepped; cases stepped
    | ok result =>
      rw [paired] at stepped
      cases stepped
      refine ⟨inv.finish (by simpa using even) ?_ (sound none result paired), ?_⟩
      · intro i isBye
        cases isBye
      · simp [RoundState.finish]

theorem buildRounds_succ_ok {ctx : MatchContext} {pids : Nat → String} {r : Nat} {st : RoundState}
    (built : buildRounds ctx pids (r + 1) = .ok st) :
    ∃ st', buildRounds ctx pids r = .ok st' ∧ roundStep ctx pids st' (r + 1) = .ok st := by
  simp only [buildRounds] at built
  cases earlier : buildRounds ctx pids r with
  | error e => rw [earlier] at built; cases built
  | ok st' =>
    rw [earlier] at built
    exact ⟨st', rfl, built⟩

/-- A failure is the failure of one round after the earlier ones have been built. -/
theorem buildRounds_failing_round {ctx : MatchContext} {pids : Nat → String} {r : Nat}
    {error : MatchingError} (failed : buildRounds ctx pids r = .error error) :
    ∃ r' < r, ∃ st, buildRounds ctx pids r' = .ok st ∧
      roundStep ctx pids st (r' + 1) = .error error := by
  induction r with
  | zero => cases failed
  | succ r ih =>
    simp only [buildRounds] at failed
    cases earlier : buildRounds ctx pids r with
    | error e =>
      rw [earlier] at failed
      cases failed
      obtain ⟨r', before, st, built, stepped⟩ := ih earlier
      exact ⟨r', Nat.lt_succ_of_lt before, st, built, stepped⟩
    | ok st =>
      rw [earlier] at failed
      exact ⟨r, Nat.lt_succ_self r, st, earlier, failed⟩

theorem buildRounds_inv {ctx : MatchContext} {pids : Nat → String} {r : Nat} {st : RoundState}
    (built : buildRounds ctx pids r = .ok st) :
    RoundsInv ctx st ∧ st.roundsPairs.length = r := by
  induction r generalizing st with
  | zero =>
    cases built
    exact ⟨.start ctx, rfl⟩
  | succ r ih =>
    obtain ⟨st', earlier, stepped⟩ := buildRounds_succ_ok built
    obtain ⟨inv, length⟩ := ih earlier
    obtain ⟨inv', length'⟩ := roundStep_inv inv stepped
    exact ⟨inv', by omega⟩

end EventPlatform.Matching
