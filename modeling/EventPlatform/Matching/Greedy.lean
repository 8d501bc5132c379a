import EventPlatform.Matching.Engine
import EventPlatform.Lib.Pairings

/-! # The greedy pass

When `greedyLoop` reports no stranded participant, the pairs it picked are a
perfect matching of the working set that repeats no forbidden pair, and the
forbidden sets have grown by exactly those pairs. -/

namespace EventPlatform.Matching

open EventPlatform.Lib

/-! ## Forbidden sets -/

/-- The pairs a round must avoid, as the relation a matching library reads. -/
def Forbidden.Avoid (forbidden : Forbidden) (a b : Nat) : Prop := b ∈ forbidden a

def Forbidden.Symm (forbidden : Forbidden) : Prop := ∀ a b, b ∈ forbidden a ↔ a ∈ forbidden b

/-- `grown` is `forbidden` with both directions of the pairs in `ps` added. -/
def Forbidden.GrownBy (forbidden : Forbidden) (ps : List IndexPair) (grown : Forbidden) : Prop :=
  ∀ a b, b ∈ grown a ↔ b ∈ forbidden a ∨ Met ps a b

theorem Forbidden.mem_addPair (forbidden : Forbidden) (x y a b : Nat) :
    b ∈ forbidden.addPair x y a ↔ b ∈ forbidden a ∨ (x = a ∧ y = b) ∨ (y = a ∧ x = b) := by
  simp only [addPair]
  by_cases ay : a = y
  · subst ay
    by_cases ax : a = x
    · subst ax; simp [eq_comm, or_comm]
    · simp [Ne.symm ax, eq_comm, or_comm]
  · by_cases ax : a = x
    · subst ax
      simp [Ne.symm ay, eq_comm, or_comm]
    · simp [Function.update_of_ne ay, Function.update_of_ne ax, Ne.symm ay, Ne.symm ax]

/-- Removing a pair that was not there before undoes adding it. -/
theorem Forbidden.removePair_addPair (forbidden : Forbidden) {x y : Nat} (different : x ≠ y)
    (forward : y ∉ forbidden x) (backward : x ∉ forbidden y) :
    (forbidden.addPair x y).removePair x y = forbidden := by
  funext a
  simp only [removePair, addPair]
  by_cases ay : a = y
  · subst ay
    simp [Function.update_of_ne different, Function.update_of_ne different.symm, backward]
  · by_cases ax : a = x
    · subst ax
      simp [Function.update_of_ne different, Function.update_of_ne different.symm, forward]
    · simp [Function.update_of_ne ay, Function.update_of_ne ax]

theorem Forbidden.Symm.addPair {forbidden : Forbidden} (symm : forbidden.Symm) (x y : Nat) :
    (forbidden.addPair x y).Symm := by
  intro a b
  rw [mem_addPair, mem_addPair, symm a b]
  tauto

theorem Forbidden.GrownBy.refl (forbidden : Forbidden) : forbidden.GrownBy [] forbidden := by
  simp [GrownBy]

theorem Forbidden.GrownBy.symm {forbidden grown : Forbidden} {ps : List IndexPair}
    (h : forbidden.GrownBy ps grown) (symm : forbidden.Symm) : grown.Symm := by
  intro a b
  rw [h a b, h b a, symm a b]
  exact or_congr_right ⟨Met.symm, Met.symm⟩

theorem Forbidden.grownBy_addPair (forbidden : Forbidden) (a b : Nat) :
    forbidden.GrownBy [(a, b)] (forbidden.addPair a b) := by
  intro x y
  simp only [mem_addPair, Met, List.mem_singleton, Prod.mk.injEq]
  tauto

theorem Forbidden.GrownBy.trans {first second third : Forbidden} {ps qs : List IndexPair}
    (h : first.GrownBy ps second) (h' : second.GrownBy qs third) :
    first.GrownBy (ps ++ qs) third := by
  intro a b
  rw [h' a b, h a b, met_append, or_assoc]

/-- Only the edges matter, not the order in which a pair is written. -/
theorem Forbidden.GrownBy.congr {forbidden grown : Forbidden} {ps qs : List IndexPair}
    (h : forbidden.GrownBy ps grown) (same : ∀ a b, Met ps a b ↔ Met qs a b) :
    forbidden.GrownBy qs grown :=
  fun a b => (h a b).trans (or_congr_right (same a b))

/-! ## Ordered pairs -/

theorem orderPair_lt {a b : Nat} (different : a ≠ b) : (orderPair a b).1 < (orderPair a b).2 := by
  simp only [orderPair]
  split <;> simp only <;> omega

theorem orderPair_eq (a b : Nat) : orderPair a b = (a, b) ∨ orderPair a b = (b, a) := by
  simp only [orderPair]
  split
  · exact .inl rfl
  · exact .inr rfl

theorem met_orderPair (a b x y : Nat) : Met [orderPair a b] x y ↔ Met [(a, b)] x y := by
  rcases orderPair_eq a b with same | swapped
  · rw [same]
  · rw [swapped]
    simp only [Met, List.mem_singleton, Prod.mk.injEq]
    tauto

theorem endpoints_orderPair (a b : Nat) : (endpoints [orderPair a b]).Perm [a, b] := by
  rcases orderPair_eq a b with same | swapped
  · rw [same]; exact .refl _
  · rw [swapped]; exact .swap _ _ _

/-! ## One pick -/

theorem mem_sortedByScore {ctx : MatchContext} {i j : Nat} :
    j ∈ sortedByScore ctx i ↔ j < ctx.size ∧ j ≠ i := by
  simp [sortedByScore]

theorem GreedyState.hardest_mem {st : GreedyState} {pid : Nat} (h : st.hardest = some pid) :
    pid ∈ st.remaining :=
  firstLeast_mem _ h

theorem GreedyState.hardest_none {st : GreedyState} (h : st.hardest = none) : st.remaining = [] :=
  (firstLeast_eq_none _).mp h

theorem GreedyState.best_spec {ctx : MatchContext} {st : GreedyState} {pid best : Nat}
    (h : st.best ctx pid = some best) :
    best ∈ st.remaining.erase pid ∧ best ∉ st.forbidden pid ∧ pid ≠ best := by
  have allowed := List.find?_some h
  simp only [decide_eq_true_eq] at allowed
  have different := (mem_sortedByScore.mp (List.mem_of_find?_eq_some h)).2
  exact ⟨(List.mem_erase_of_ne different).mpr allowed.1, allowed.2, different.symm⟩

structure GreedyInv (forbidden : Forbidden) (workingSet : List Nat) (st : GreedyState) : Prop where
  covers : (endpoints st.pairs ++ st.remaining).Perm workingSet
  ordered : ∀ p ∈ st.pairs, p.1 < p.2
  fresh : ∀ a b, Met st.pairs a b → b ∉ forbidden a
  grown : forbidden.GrownBy st.pairs st.forbidden

theorem GreedyInv.start (forbidden : Forbidden) (workingSet : List Nat) :
    GreedyInv forbidden workingSet (.start forbidden workingSet) where
  covers := .refl _
  ordered := by simp [GreedyState.start]
  fresh := by simp [GreedyState.start]
  grown := .refl forbidden

theorem GreedyInv.pick {forbidden : Forbidden} {workingSet : List Nat} {st : GreedyState}
    {pid best : Nat} (inv : GreedyInv forbidden workingSet st) (symm : forbidden.Symm)
    (inside : pid ∈ st.remaining) (inside' : best ∈ st.remaining.erase pid)
    (allowed : best ∉ st.forbidden pid) (different : pid ≠ best) :
    GreedyInv forbidden workingSet (st.pick pid best) where
  covers := by
    have picked := (endpoints_orderPair pid best).append_right
      ((st.remaining.erase pid).erase best)
    -- the two that are picked leave the remaining ones and end up in the pairs
    have restored : (pid :: best :: (st.remaining.erase pid).erase best).Perm st.remaining :=
      ((List.perm_cons_erase inside').symm.cons pid).trans (List.perm_cons_erase inside).symm
    have taken := picked.trans restored
    simp only [GreedyState.pick, endpoints_append, List.append_assoc]
    exact (taken.append_left _).trans inv.covers
  ordered := by
    intro p member
    rcases List.mem_append.mp member with earlier | new
    · exact inv.ordered p earlier
    · rw [List.mem_singleton.mp new]
      exact orderPair_lt different
  fresh := by
    intro a b met
    have unforbidden : best ∉ forbidden pid := fun h => allowed ((inv.grown pid best).mpr (.inl h))
    rcases met_append.mp met with earlier | new
    · exact inv.fresh a b earlier
    · rw [met_orderPair, Met, List.mem_singleton, List.mem_singleton] at new
      rcases new with forward | backward
      · cases forward; exact unforbidden
      · cases backward; exact fun h => unforbidden ((symm _ _).mp h)
  grown := (inv.grown.trans (st.forbidden.grownBy_addPair pid best)).congr fun a b => by
    simp only [GreedyState.pick, met_append, met_orderPair]

theorem GreedyState.pick_length {st : GreedyState} {pid best : Nat} (inside : pid ∈ st.remaining)
    (inside' : best ∈ st.remaining.erase pid) :
    (st.pick pid best).remaining.length + 2 = st.remaining.length := by
  have afterPid := List.length_erase_add_one inside
  have afterBest := List.length_erase_add_one inside'
  simp only [GreedyState.pick]
  omega

/-! ## The loop -/

theorem greedyLoop_inv {ctx : MatchContext} {forbidden : Forbidden} {workingSet : List Nat}
    (symm : forbidden.Symm) {fuel : Nat} {st final : GreedyState}
    (inv : GreedyInv forbidden workingSet st) (enough : st.remaining.length ≤ fuel)
    (done : greedyLoop ctx fuel st = (final, none)) :
    GreedyInv forbidden workingSet final ∧ final.remaining = [] := by
  induction fuel generalizing st with
  | zero =>
    cases done
    exact ⟨inv, List.length_eq_zero_iff.mp (Nat.le_zero.mp enough)⟩
  | succ fuel ih =>
    simp only [greedyLoop] at done
    split at done
    next stopped =>
      cases done
      exact ⟨inv, GreedyState.hardest_none stopped⟩
    next pid chosen =>
      split at done
      next stranded => cases done
      next best found =>
        have inside := GreedyState.hardest_mem chosen
        obtain ⟨inside', allowed, different⟩ := GreedyState.best_spec found
        -- each pick takes two out, so the fuel lasts
        have shorter := GreedyState.pick_length inside inside'
        exact ih (inv.pick symm inside inside' allowed different) (by omega) done

theorem greedyLoop_sound {ctx : MatchContext} {forbidden : Forbidden} {workingSet : List Nat}
    {final : GreedyState} (symm : forbidden.Symm)
    (done : greedyLoop ctx workingSet.length (.start forbidden workingSet) = (final, none)) :
    PerfectMatching forbidden.Avoid workingSet final.pairs ∧ (∀ p ∈ final.pairs, p.1 < p.2) ∧
      forbidden.GrownBy final.pairs final.forbidden := by
  obtain ⟨inv, finished⟩ := greedyLoop_inv symm (.start forbidden workingSet) (le_refl _) done
  have covers := inv.covers
  rw [finished, List.append_nil] at covers
  exact ⟨⟨covers, inv.fresh⟩, inv.ordered, inv.grown⟩

end EventPlatform.Matching
