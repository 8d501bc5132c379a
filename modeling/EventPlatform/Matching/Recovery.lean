import EventPlatform.Matching.Greedy

/-! # Recovery from a greedy dead end

The backtracking search is exhaustive up to its node budget.  A success is a
perfect matching of the working set; a failure restores the forbidden sets and
the chosen list, and then either the budget ran out or no perfect matching
without a forbidden pair exists. -/

namespace EventPlatform.Matching

open EventPlatform.Lib

/-- `MAX_RECOVERY_NODES` was exceeded, or there is nothing to find. -/
def SearchExhausted (forbidden : Forbidden) (remaining : List Nat) (nodes : Nat) : Prop :=
  maxRecoveryNodes < nodes ∨ ∀ ps, ¬ PerfectMatching forbidden.Avoid remaining ps

/-- What one call of `search` from `st` guarantees about its result. -/
structure SearchOutcome (remaining : List Nat) (st : SearchState) (result : Bool × SearchState) :
    Prop where
  counted : st.nodes ≤ result.2.nodes
  success : result.1 = true → ∃ new, result.2.chosen = st.chosen ++ new ∧
    PerfectMatching st.forbidden.Avoid remaining new ∧
    st.forbidden.GrownBy new result.2.forbidden
  failure : result.1 = false → result.2.forbidden = st.forbidden ∧
    result.2.chosen = st.chosen ∧ SearchExhausted st.forbidden remaining result.2.nodes

/-! ## One candidate -/

theorem mem_recoveryCandidates {ctx : MatchContext} {forbidden : Forbidden}
    {remaining : List Nat} {pid j : Nat} :
    j ∈ recoveryCandidates ctx forbidden remaining pid ↔
      (j < ctx.size ∧ j ≠ pid) ∧ j ∈ remaining ∧ j ∉ forbidden pid := by
  simp [recoveryCandidates, mem_sortedByScore]

/-- A partner that may be tried: different, still there, not forbidden. -/
structure Eligible (forbidden : Forbidden) (remaining : List Nat) (pid partner : Nat) : Prop where
  different : pid ≠ partner
  inside : partner ∈ remaining.erase pid
  allowed : partner ∉ forbidden pid

theorem eligible_of_candidate {ctx : MatchContext} {forbidden : Forbidden}
    {remaining : List Nat} {pid partner : Nat}
    (h : partner ∈ recoveryCandidates ctx forbidden remaining pid) :
    Eligible forbidden remaining pid partner := by
  obtain ⟨⟨_, different⟩, inside, allowed⟩ := mem_recoveryCandidates.mp h
  exact ⟨different.symm, (List.mem_erase_of_ne different).mpr inside, allowed⟩

theorem unchoose_choose {st : SearchState} {pid partner : Nat} (symm : st.forbidden.Symm)
    (different : pid ≠ partner) (allowed : partner ∉ st.forbidden pid) (result : SearchState)
    (sameForbidden : result.forbidden = (st.choose pid partner).forbidden)
    (sameChosen : result.chosen = (st.choose pid partner).chosen) :
    result.unchoose pid partner = { st with nodes := result.nodes } := by
  have restored := st.forbidden.removePair_addPair different allowed
    (fun h => allowed ((symm _ _).mp h))
  simp only [SearchState.unchoose, sameForbidden, sameChosen, SearchState.choose, restored,
    List.dropLast_concat]

/-- A perfect matching through `pid`–`partner` is one of the rest that also
    avoids the pair just added. -/
theorem rest_avoids_added {forbidden : Forbidden} {remaining : List Nat} (nodup : remaining.Nodup)
    {pid partner : Nat} {rest : List IndexPair}
    (h : PerfectMatching forbidden.Avoid ((remaining.erase pid).erase partner) rest) :
    PerfectMatching (forbidden.addPair pid partner).Avoid
      ((remaining.erase pid).erase partner) rest := by
  refine h.mono fun a b met avoided => ?_
  have inside : a ∈ (remaining.erase pid).erase partner := h.covers.mem_iff.mp met.left_mem
  have notPartner : a ≠ partner := ((nodup.erase pid).mem_erase_iff.mp inside).1
  have notPid : a ≠ pid := (nodup.mem_erase_iff.mp (List.mem_of_mem_erase inside)).1
  rcases (forbidden.mem_addPair pid partner a b).mp avoided with old | ⟨same, _⟩ | ⟨same, _⟩
  · exact old
  · exact absurd same.symm notPid
  · exact absurd same.symm notPartner

theorem success_through {st found : SearchState} {remaining : List Nat} {pid partner : Nat}
    (symm : st.forbidden.Symm) (inside : pid ∈ remaining)
    (eligible : Eligible st.forbidden remaining pid partner)
    (outcome : SearchOutcome ((remaining.erase pid).erase partner) (st.choose pid partner)
      (true, found)) :
    ∃ new, found.chosen = st.chosen ++ new ∧ PerfectMatching st.forbidden.Avoid remaining new ∧
      st.forbidden.GrownBy new found.forbidden := by
  obtain ⟨new, chosen, matching, grown⟩ := outcome.success rfl
  refine ⟨(pid, partner) :: new, chosen.trans (by simp [SearchState.choose]), ?_, ?_⟩
  · have weaker : PerfectMatching st.forbidden.Avoid ((remaining.erase pid).erase partner) new :=
      matching.mono fun a b _ old => (st.forbidden.mem_addPair pid partner a b).mpr (.inl old)
    exact weaker.cons inside eligible.inside eligible.allowed
      fun h => eligible.allowed ((symm _ _).mp h)
  · exact (st.forbidden.grownBy_addPair pid partner).trans grown

/-! ## The candidate loop -/

/-- Failing on every candidate from `partners` on leaves only the budget, or
    the fact that none of them extends to a perfect matching. -/
theorem tryPartners_spec {find : List Nat → SearchState → Bool × SearchState}
    {remaining : List Nat} {pid : Nat} {forbidden : Forbidden} (symm : forbidden.Symm)
    (inside : pid ∈ remaining)
    (recursive : ∀ partner, Eligible forbidden remaining pid partner → ∀ st : SearchState,
      st.forbidden = forbidden → SearchOutcome ((remaining.erase pid).erase partner)
        (st.choose pid partner) (find ((remaining.erase pid).erase partner) (st.choose pid partner)))
    (partners : List Nat)
    (eligible : ∀ partner ∈ partners, Eligible forbidden remaining pid partner)
    (st : SearchState) (same : st.forbidden = forbidden) :
    let result := tryPartners find remaining pid partners st
    st.nodes ≤ result.2.nodes ∧
    (result.1 = true → ∃ new, result.2.chosen = st.chosen ++ new ∧
      PerfectMatching forbidden.Avoid remaining new ∧ forbidden.GrownBy new result.2.forbidden) ∧
    (result.1 = false → result.2.forbidden = forbidden ∧ result.2.chosen = st.chosen ∧
      (maxRecoveryNodes < result.2.nodes ∨ ∀ partner ∈ partners, ∀ ps,
        ¬ PerfectMatching (forbidden.addPair pid partner).Avoid
          ((remaining.erase pid).erase partner) ps)) := by
  induction partners generalizing st with
  | nil => simp [tryPartners, same]
  | cons partner rest ih =>
    have here := eligible partner List.mem_cons_self
    have outcome := recursive partner here st same
    simp only [tryPartners]
    cases found : find ((remaining.erase pid).erase partner) (st.choose pid partner) with
    | mk ok final =>
      rw [found] at outcome
      have counted : st.nodes ≤ final.nodes := outcome.counted
      subst same
      cases ok with
      | true =>
        refine ⟨counted, fun _ => success_through symm inside here outcome, ?_⟩
        intro impossible
        cases impossible
      | false =>
        obtain ⟨sameForbidden, sameChosen, exhausted⟩ := outcome.failure rfl
        -- the undo is exact, so the next candidate starts from the same state
        have restored := unchoose_choose symm here.different here.allowed final
          sameForbidden sameChosen
        obtain ⟨later, success, failure⟩ := ih
          (fun p member => eligible p (List.mem_cons_of_mem partner member))
          (final.unchoose pid partner) (by rw [restored])
        simp only [restored] at later success failure ⊢
        refine ⟨counted.trans later, success, fun failed => ?_⟩
        obtain ⟨keptForbidden, keptChosen, none⟩ := failure failed
        refine ⟨keptForbidden, keptChosen, ?_⟩
        rcases none with budget | noneLater
        · exact .inl budget
        · rcases exhausted with budget | noneHere
          · exact .inl (lt_of_lt_of_le budget later)
          · refine .inr fun p member ps => ?_
            rcases List.mem_cons.mp member with first | other
            · rw [first]; exact noneHere ps
            · exact noneLater p other ps

/-! ## The search -/

theorem hardestRemaining_mem {forbidden : Forbidden} {remaining : List Nat} {pid : Nat}
    (h : hardestRemaining forbidden remaining = some pid) : pid ∈ remaining :=
  firstLeast_mem _ h

theorem hardestRemaining_none {forbidden : Forbidden} {remaining : List Nat}
    (h : hardestRemaining forbidden remaining = none) : remaining = [] :=
  (firstLeast_eq_none _).mp h

/-- If some perfect matching exists, one of the candidates of `pid` is its partner. -/
theorem exists_candidate {ctx : MatchContext} {forbidden : Forbidden} {remaining : List Nat}
    {pid : Nat} {ps : List IndexPair} (nodup : remaining.Nodup)
    (bounded : ∀ i ∈ remaining, i < ctx.size) (inside : pid ∈ remaining)
    (matching : PerfectMatching forbidden.Avoid remaining ps) :
    ∃ partner ∈ recoveryCandidates ctx forbidden remaining pid, ∃ rest,
      PerfectMatching (forbidden.addPair pid partner).Avoid
        ((remaining.erase pid).erase partner) rest := by
  obtain ⟨partner, rest, inside', allowed, _, _, remainder⟩ := matching.remove inside
  obtain ⟨different, member⟩ := nodup.mem_erase_iff.mp inside'
  exact ⟨partner, mem_recoveryCandidates.mpr ⟨⟨bounded _ member, different⟩, member, allowed⟩,
    rest, rest_avoids_added nodup remainder⟩

theorem search_spec {ctx : MatchContext} {fuel : Nat} {remaining : List Nat} {st : SearchState}
    (symm : st.forbidden.Symm) (nodup : remaining.Nodup) (bounded : ∀ i ∈ remaining, i < ctx.size)
    (enough : remaining.length < fuel) :
    SearchOutcome remaining st (search ctx fuel remaining st) := by
  induction fuel generalizing remaining st with
  | zero => omega
  | succ fuel ih =>
    simp only [search]
    split
    next budget =>
      exact ⟨Nat.le_succ _, fun h => (by cases h), fun _ => ⟨rfl, rfl, .inl budget⟩⟩
    next within =>
      split
      next stopped =>
        have empty := hardestRemaining_none stopped
        subst empty
        exact ⟨Nat.le_succ _, fun _ => ⟨[], (List.append_nil _).symm, .nil, .refl _⟩,
          fun h => (by cases h)⟩
      next pid chosen =>
        have inside := hardestRemaining_mem chosen
        have recursive : ∀ partner, Eligible st.forbidden remaining pid partner →
            ∀ st' : SearchState, st'.forbidden = st.forbidden →
            SearchOutcome ((remaining.erase pid).erase partner) (st'.choose pid partner)
              (search ctx fuel ((remaining.erase pid).erase partner) (st'.choose pid partner)) := by
          intro partner eligible st' same
          have shorter := List.length_erase_add_one inside
          have shorter' := List.length_erase_add_one eligible.inside
          refine ih ?_ ((nodup.erase pid).erase partner) ?_ (by omega)
          · simpa only [SearchState.choose, same] using symm.addPair pid partner
          · intro i member
            exact bounded i (List.mem_of_mem_erase (List.mem_of_mem_erase member))
        -- every matching pairs the hardest rank with somebody, so trying its candidates loses none
        obtain ⟨counted, success, failure⟩ := tryPartners_spec symm inside recursive
          (recoveryCandidates ctx st.forbidden remaining pid)
          (fun _ member => eligible_of_candidate member) { st with nodes := st.nodes + 1 } rfl
        refine ⟨Nat.le_of_succ_le counted, success, fun failed => ?_⟩
        obtain ⟨sameForbidden, sameChosen, exhausted⟩ := failure failed
        refine ⟨sameForbidden, sameChosen, exhausted.imp id ?_⟩
        intro noPartner ps matching
        obtain ⟨partner, candidate, rest, remainder⟩ :=
          exists_candidate nodup bounded inside matching
        exact noPartner partner candidate rest remainder

theorem runSearch_spec {ctx : MatchContext} {forbidden : Forbidden} {workingSet : List Nat}
    (symm : forbidden.Symm) (nodup : workingSet.Nodup) (bounded : ∀ i ∈ workingSet, i < ctx.size) :
    SearchOutcome workingSet ⟨forbidden, [], 0⟩ (runSearch ctx forbidden workingSet) :=
  search_spec symm nodup bounded (Nat.lt_succ_self _)

/-! ## Any preference order -/

/-- Every order in which the ranks may try their partners is the order of some scores. -/
theorem exists_context_preferring {size : Nat} {prefer : Nat → List Nat}
    (orders : ∀ i, (prefer i).Perm ((List.range size).filter (· ≠ i))) :
    ∃ ctx : MatchContext, ctx.size = size ∧ sortedByScore ctx = prefer := by
  -- the score of a partner is minus its position in the order
  let ctx : MatchContext := ⟨size, fun i j => -((prefer i).idxOf j : ℚ)⟩
  refine ⟨ctx, rfl, ?_⟩
  funext i
  let before : Nat → Nat → Prop := fun j k =>
    ctx.scoreMat i k < ctx.scoreMat i j ∨ (ctx.scoreMat i k = ctx.scoreMat i j ∧ j ≤ k)
  have total : Std.Total before := ⟨fun j k => by grind⟩
  have trans : IsTrans Nat before := ⟨fun j k l => by grind⟩
  have antisymm : Std.Antisymm before := ⟨fun j k => by grind⟩
  have nodup : (prefer i).Nodup := (orders i).nodup_iff.mpr (List.nodup_range.filter _)
  have sorted : (prefer i).Pairwise before := by
    apply List.pairwise_iff_getElem.mpr
    intro j k insideJ insideK earlier
    left
    simp only [ctx, nodup.idxOf_getElem]
    exact neg_lt_neg (by exact_mod_cast earlier)
  have same : (sortedByScore ctx i).Perm (prefer i) :=
    (List.perm_insertionSort _ _).trans (orders i).symm
  exact same.eq_of_pairwise' (List.pairwise_insertionSort before _) sorted

/-- Whatever the preference order, the search is exhaustive within its budget and
    a failure undoes every change.  `st` is the state at entry. -/
theorem search_complete {size : Nat} (prefer : Nat → List Nat)
    (orders : ∀ i, (prefer i).Perm ((List.range size).filter (· ≠ i)))
    (remaining : List Nat) (nodup : remaining.Nodup) (bounded : ∀ i ∈ remaining, i < size)
    (st : SearchState) (symm : st.forbidden.Symm) :
    (∃ ctx : MatchContext, ctx.size = size ∧ sortedByScore ctx = prefer) ∧
      ∀ ctx : MatchContext, ctx.size = size → sortedByScore ctx = prefer →
        ∀ fuel > remaining.length, SearchOutcome remaining st (search ctx fuel remaining st) := by
  refine ⟨exists_context_preferring orders, ?_⟩
  intro ctx sized _ fuel enough
  exact search_spec symm nodup (fun i inside => sized ▸ bounded i inside) enough

/-- Everybody has met those of the other triangle. -/
def acrossTriangles : Forbidden := fun i => if i < 3 then {3, 4, 5} else if i < 6 then {0, 1, 2} else ∅

def equalScores : MatchContext := ⟨6, fun _ _ => 0⟩

/-- Each of the two partners of the first leaves the third of its triangle alone. -/
theorem search_complete_twoTriangles :
    let result := search equalScores 7 (List.range 6) ⟨acrossTriangles, [], 0⟩
    result.1 = false ∧ result.2.nodes = 3 ∧ result.2.forbidden = acrossTriangles ∧ result.2.chosen = [] ∧
      ∀ ps, ¬ PerfectMatching acrossTriangles.Avoid (List.range 6) ps := by
  have symm : acrossTriangles.Symm := by
    intro a b
    simp only [acrossTriangles]
    split_ifs <;> simp <;> omega
  have outcome := (search_complete (sortedByScore equalScores) (fun _ => List.perm_insertionSort _ _) (List.range 6)
    List.nodup_range (fun _ => List.mem_range.mp) ⟨acrossTriangles, [], 0⟩ symm).2 equalScores rfl rfl 7 (by decide)
  have failed : (search equalScores 7 (List.range 6) ⟨acrossTriangles, [], 0⟩).1 = false := by decide +kernel
  have nodes : (search equalScores 7 (List.range 6) ⟨acrossTriangles, [], 0⟩).2.nodes = 3 := by decide +kernel
  obtain ⟨forbidden, chosen, exhausted⟩ := outcome.failure failed
  refine ⟨failed, nodes, forbidden, chosen, exhausted.resolve_left ?_⟩
  rw [nodes]
  decide

end EventPlatform.Matching
