import EventPlatform.Matching.Greedy

/-! # The greedy pass as it is documented

The loop keeps the number of available partners of everybody up to date and runs through
neighbour lists that were sorted once.  The documented algorithm has neither: it counts and
sorts anew at each step.  The two pick the same pairs. -/

namespace EventPlatform.Matching

open EventPlatform.Lib

/-! ## The plain algorithm -/

structure PlainState where
  remaining : Finset Nat
  forbidden : Forbidden
  pairs : List IndexPair

/-- `-score`, and then the index. -/
def ByScore (ctx : MatchContext) (pid j k : Nat) : Prop :=
  ctx.scoreMat pid k < ctx.scoreMat pid j ∨ (ctx.scoreMat pid k = ctx.scoreMat pid j ∧ j ≤ k)

instance (ctx : MatchContext) (pid : Nat) : DecidableRel (ByScore ctx pid) :=
  fun _ _ => inferInstanceAs (Decidable (_ ∨ _))

namespace PlainState

/-- `(remaining - {candidate}) - forbidden[candidate]` -/
def availablePartners (st : PlainState) (candidate : Nat) : Finset Nat :=
  st.remaining.erase candidate \ st.forbidden candidate

/-- The least by the number of available partners, and then by the index. -/
def hardest (st : PlainState) : Option Nat :=
  firstLeast (KeyLt fun candidate => (st.availablePartners candidate).card) (st.remaining.sort (· ≤ ·))

/-- The allowed candidates, the best first. -/
def candidates (ctx : MatchContext) (st : PlainState) (pid : Nat) : List Nat :=
  ((st.availablePartners pid).sort (· ≤ ·)).insertionSort (ByScore ctx pid)

def pick (st : PlainState) (pid best : Nat) : PlainState where
  remaining := (st.remaining.erase pid).erase best
  forbidden := st.forbidden.addPair pid best
  pairs := st.pairs ++ [orderPair pid best]

end PlainState

/-- The second component is the participant whom nobody is left for. -/
def plainGreedy (ctx : MatchContext) : Nat → PlainState → PlainState × Option Nat
  | 0, st => (st, none)
  | fuel + 1, st =>
    match st.hardest with
    | none => (st, none)
    | some pid =>
      match st.candidates ctx pid with
      | [] => (st, some pid)
      | best :: _ => plainGreedy ctx fuel (st.pick pid best)

/-! ## Sets as sorted lists -/

theorem erase_sort (s : Finset Nat) (a : Nat) : (s.sort (· ≤ ·)).erase a = (s.erase a).sort (· ≤ ·) := by
  apply @List.Perm.eq_of_pairwise Nat (· ≤ ·) _ _ (fun _ _ _ _ => le_antisymm)
  · exact (s.pairwise_sort (· ≤ ·)).sublist List.erase_sublist
  · exact (s.erase a).pairwise_sort (· ≤ ·)
  · refine (List.perm_ext_iff_of_nodup ((s.sort_nodup (· ≤ ·)).erase a) ((s.erase a).sort_nodup (· ≤ ·))).mpr ?_
    intro b
    simp [(s.sort_nodup (· ≤ ·)).mem_erase_iff]

variable {ctx : MatchContext} {plain : PlainState} {st : GreedyState} {pid partner : Nat}

theorem byScore_antisymm {j k : Nat} (first : ByScore ctx pid j k) (second : ByScore ctx pid k j) : j = k := by
  cases first with
  | inl lower =>
    cases second with
    | inl lower' => exact absurd lower (not_lt.mpr lower'.le)
    | inr tied => exact absurd lower (not_lt.mpr tied.1.le)
  | inr tied =>
    cases second with
    | inl lower => exact absurd lower (not_lt.mpr tied.1.le)
    | inr tied' => exact le_antisymm tied.2 tied'.2

/-- Sorting by score is the same before and after the filter. -/
theorem pairwise_byScore (ctx : MatchContext) (pid : Nat) (xs : List Nat) :
    (xs.insertionSort (ByScore ctx pid)).Pairwise (ByScore ctx pid) := by
  have total : Std.Total (ByScore ctx pid) := ⟨fun j k => by
    simp only [ByScore]
    rcases lt_trichotomy (ctx.scoreMat pid j) (ctx.scoreMat pid k) with lower | same | higher
    · exact .inr (.inl lower)
    · rcases le_total j k with le | le
      · exact .inl (.inr ⟨same.symm, le⟩)
      · exact .inr (.inr ⟨same, le⟩)
    · exact .inl (.inl higher)⟩
  have trans : IsTrans Nat (ByScore ctx pid) := ⟨fun i j k first second => by
    simp only [ByScore] at first second ⊢
    grind⟩
  exact List.pairwise_insertionSort (ByScore ctx pid) xs

/-- The presorted neighbours that are left and not forbidden are the candidates in order. -/
theorem filter_sortedByScore (inside : ∀ i ∈ plain.remaining, i < ctx.size) :
    (sortedByScore ctx pid).filter (fun j => j ∈ plain.remaining.sort (· ≤ ·) ∧ j ∉ plain.forbidden pid) =
      plain.candidates ctx pid := by
  have ordered : (sortedByScore ctx pid).Pairwise (ByScore ctx pid) := pairwise_byScore ctx pid _
  apply @List.Perm.eq_of_pairwise Nat (ByScore ctx pid) _ _ (fun _ _ _ _ => byScore_antisymm)
  · exact ordered.filter _
  · exact pairwise_byScore ctx pid _
  · have nodup : (sortedByScore ctx pid).Nodup :=
      (List.perm_insertionSort _ _).nodup_iff.mpr (List.nodup_range.filter _)
    have nodup' : (plain.candidates ctx pid).Nodup :=
      (List.perm_insertionSort _ _).nodup_iff.mpr ((plain.availablePartners pid).sort_nodup (· ≤ ·))
    refine (List.perm_ext_iff_of_nodup (nodup.filter _) nodup').mpr fun j => ?_
    simp only [List.mem_filter, mem_sortedByScore, decide_eq_true_eq, Finset.mem_sort, PlainState.candidates,
      List.mem_insertionSort, PlainState.availablePartners, Finset.mem_sdiff, Finset.mem_erase]
    constructor
    · rintro ⟨⟨-, other⟩, left, allowed⟩
      exact ⟨⟨other, left⟩, allowed⟩
    · rintro ⟨⟨other, left⟩, allowed⟩
      exact ⟨⟨inside j left, other⟩, left, allowed⟩

/-! ## Step by step -/

/-- The loop is where the plain algorithm is, and its counts are right. -/
structure Tracks (st : GreedyState) (plain : PlainState) : Prop where
  remaining : st.remaining = plain.remaining.sort (· ≤ ·)
  forbidden : st.forbidden = plain.forbidden
  pairs : st.pairs = plain.pairs
  counts : ∀ candidate ∈ plain.remaining, st.available candidate = (plain.availablePartners candidate).card

theorem Tracks.start (forbidden : Forbidden) (workingSet : Finset Nat) :
    Tracks (.start forbidden (workingSet.sort (· ≤ ·))) ⟨workingSet, forbidden, []⟩ where
  remaining := rfl
  forbidden := rfl
  pairs := rfl
  counts := by
    intro candidate _
    have same : (workingSet.sort (· ≤ ·)).filter (fun j => j ≠ candidate ∧ j ∉ forbidden candidate) =
        (workingSet.erase candidate \ forbidden candidate).sort (· ≤ ·) := by
      apply @List.Perm.eq_of_pairwise Nat (· ≤ ·) _ _ (fun _ _ _ _ => le_antisymm)
      · exact (workingSet.pairwise_sort (· ≤ ·)).filter _
      · exact Finset.pairwise_sort _ _
      · refine (List.perm_ext_iff_of_nodup ((workingSet.sort_nodup (· ≤ ·)).filter _) (Finset.sort_nodup _ _)).mpr ?_
        intro j
        simp only [List.mem_filter, Finset.mem_sort, decide_eq_true_eq, Finset.mem_sdiff, Finset.mem_erase]
        tauto
    simp only [GreedyState.start, availableCount, same, Finset.length_sort, PlainState.availablePartners]

theorem Tracks.hardest (tracks : Tracks st plain) : st.hardest = plain.hardest := by
  rw [GreedyState.hardest, PlainState.hardest, tracks.remaining]
  apply firstLeast_congr
  intro a member b member'
  simp only [KeyLt, tracks.counts a ((Finset.mem_sort _).mp member), tracks.counts b ((Finset.mem_sort _).mp member')]

theorem Tracks.best (tracks : Tracks st plain) (inside : ∀ i ∈ plain.remaining, i < ctx.size) :
    st.best ctx pid = (plain.candidates ctx pid).head? := by
  rw [← filter_sortedByScore inside, List.head?_filter, GreedyState.best, tracks.remaining, tracks.forbidden]

theorem card_erase_int (s : Finset Nat) (a : Nat) : ((s.erase a).card : Int) = s.card - if a ∈ s then 1 else 0 := by
  by_cases member : a ∈ s
  · have shorter := Finset.card_erase_add_one member
    rw [if_pos member]
    omega
  · rw [if_neg member, Finset.erase_eq_of_notMem member, sub_zero]

/-- Whoever is left loses the two that were paired, and nobody else. -/
theorem PlainState.availablePartners_pick {candidate : Nat} (notPid : candidate ≠ pid) (notPartner : candidate ≠ partner) :
    (plain.pick pid partner).availablePartners candidate =
      ((plain.availablePartners candidate).erase pid).erase partner := by
  have same : plain.forbidden.addPair pid partner candidate = plain.forbidden candidate := by
    simp [Forbidden.addPair, Function.update_of_ne, notPid, notPartner]
  ext j
  simp only [availablePartners, pick, same, Finset.mem_sdiff, Finset.mem_erase]
  tauto

/-- Taking the two out costs a partner for each of them that was allowed. -/
theorem Tracks.pick (tracks : Tracks st plain) (member : pid ∈ plain.remaining) (member' : partner ∈ plain.remaining)
    (different : pid ≠ partner) : Tracks (st.pick pid partner) (plain.pick pid partner) where
  remaining := by
    simp only [GreedyState.pick, PlainState.pick, tracks.remaining, erase_sort]
  forbidden := by
    simp only [GreedyState.pick, PlainState.pick, tracks.forbidden]
  pairs := by
    simp only [GreedyState.pick, PlainState.pick, tracks.pairs]
  counts := by
    intro candidate inside
    simp only [PlainState.pick, Finset.mem_erase] at inside
    obtain ⟨notPartner, notPid, left⟩ := inside
    have kept : candidate ∈ (st.remaining.erase pid).erase partner := by
      rw [tracks.remaining, erase_sort, erase_sort, Finset.mem_sort]
      simp [notPartner, notPid, left]
    have first : pid ∈ plain.availablePartners candidate ↔ pid ∉ plain.forbidden candidate := by
      simp [PlainState.availablePartners, member, notPid.symm]
    have second : partner ∈ (plain.availablePartners candidate).erase pid ↔ partner ∉ plain.forbidden candidate := by
      simp [PlainState.availablePartners, member', notPartner.symm, different.symm]
    rw [PlainState.availablePartners_pick notPid notPartner, card_erase_int, card_erase_int, ← tracks.counts candidate left]
    simp only [GreedyState.pick, if_pos kept, tracks.forbidden, first, second]

theorem PlainState.mem_candidates {j : Nat} (member : j ∈ plain.candidates ctx pid) :
    j ∈ plain.remaining ∧ j ≠ pid := by
  simp only [candidates, List.mem_insertionSort, Finset.mem_sort, availablePartners, Finset.mem_sdiff,
    Finset.mem_erase] at member
  exact ⟨member.1.2, member.1.1⟩

theorem PlainState.hardest_mem (chosen : plain.hardest = some pid) : pid ∈ plain.remaining :=
  (Finset.mem_sort _).mp (firstLeast_mem _ chosen)

/-! ## The whole pass -/

theorem greedyLoop_tracks (fuel : Nat) (tracks : Tracks st plain) (inside : ∀ i ∈ plain.remaining, i < ctx.size) :
    Tracks (greedyLoop ctx fuel st).1 (plainGreedy ctx fuel plain).1 ∧
      (greedyLoop ctx fuel st).2 = (plainGreedy ctx fuel plain).2 := by
  induction fuel generalizing st plain with
  | zero => exact ⟨tracks, rfl⟩
  | succ fuel ih =>
    rw [greedyLoop, plainGreedy, tracks.hardest]
    cases chosen : plain.hardest with
    | none => exact ⟨tracks, rfl⟩
    | some pid =>
      -- the presorted neighbours still available begin with the one that sorting afresh puts first
      have best : st.best ctx pid = (plain.candidates ctx pid).head? := tracks.best inside
      cases sorted : plain.candidates ctx pid with
      | nil =>
        rw [sorted, List.head?_nil] at best
        simp only [best, sorted]
        exact ⟨tracks, trivial⟩
      | cons partner rest =>
        rw [sorted, List.head?_cons] at best
        simp only [best, sorted]
        obtain ⟨member', different⟩ := plain.mem_candidates (j := partner) (by rw [sorted]; exact List.mem_cons_self)
        apply ih (tracks.pick (plain.hardest_mem chosen) member' different.symm)
        intro i later
        simp only [PlainState.pick, Finset.mem_erase] at later
        exact inside i later.2.2

/-- Every step takes two out, so the pass ends with nobody left or with somebody stranded. -/
theorem plainGreedy_finished {fuel : Nat} (enough : plain.remaining.card ≤ fuel)
    (done : (plainGreedy ctx fuel plain).2 = none) : (plainGreedy ctx fuel plain).1.remaining = ∅ := by
  induction fuel generalizing plain with
  | zero => exact Finset.card_eq_zero.mp (Nat.le_zero.mp enough)
  | succ fuel ih =>
    rw [plainGreedy] at done ⊢
    cases chosen : plain.hardest with
    | none =>
      have nobody := (firstLeast_eq_none _).mp chosen
      have card := Finset.length_sort (s := plain.remaining) (· ≤ ·)
      rw [nobody, List.length_nil] at card
      exact Finset.card_eq_zero.mp card.symm
    | some pid =>
      rw [chosen] at done
      cases sorted : plain.candidates ctx pid with
      | nil =>
        simp only [sorted] at done
        cases done
      | cons partner rest =>
        simp only [sorted] at done ⊢
        refine ih ?_ done
        -- the hardest is taken out, and its partner too
        have shorter := Finset.card_erase_lt_of_mem (plain.hardest_mem chosen)
        have le := Finset.card_erase_le (s := plain.remaining.erase pid) (a := partner)
        simp only [PlainState.pick]
        omega

/-- The greedy pass of a round is the documented one: the same pairs in the same order, the
    same forbidden sets, and the same participant if somebody is stranded. -/
theorem greedyLoop_eq_plainGreedy (ctx : MatchContext) (forbidden : Forbidden) (workingSet : Finset Nat)
    (inside : ∀ i ∈ workingSet, i < ctx.size) :
    let fast := greedyLoop ctx workingSet.card (.start forbidden (workingSet.sort (· ≤ ·)))
    let plain := plainGreedy ctx workingSet.card ⟨workingSet, forbidden, []⟩
    fast.1.pairs = plain.1.pairs ∧ fast.2 = plain.2 ∧ fast.1.forbidden = plain.1.forbidden ∧
      (fast.2 = none → plain.1.remaining = ∅) := by
  intro fast plain
  obtain ⟨tracks, failed⟩ := greedyLoop_tracks workingSet.card (.start forbidden workingSet) inside
  exact ⟨tracks.pairs, failed, tracks.forbidden, fun done => plainGreedy_finished (le_refl _) (failed ▸ done)⟩

/-- The working set of a round, as a set. -/
theorem workingSet_eq_sort (ctx : MatchContext) (bye : Option Nat) :
    workingSet ctx bye = (bye.elim (Finset.range ctx.size) fun i => (Finset.range ctx.size).erase i).sort (· ≤ ·) := by
  cases bye with
  | none => exact (Finset.sort_range ctx.size).symm
  | some i => rw [workingSet, ← Finset.sort_range, erase_sort, Option.elim_some]

/-- Six participants, of whom the first two may only meet the third. -/
def sixContext : MatchContext where
  size := 6
  scoreMat i j := if i + j = 5 then 1 else 0

def contested : Forbidden := fun i =>
  if i = 0 ∨ i = 1 then {0, 1, 3, 4, 5} \ {i} else if i = 2 then ∅ else {0, 1}

/-- The first gets the third, and the second is stranded. -/
theorem greedyLoop_contested :
    let fast := greedyLoop sixContext 6 (.start contested (Finset.sort (Finset.range 6) (· ≤ ·)))
    fast.1.pairs = (plainGreedy sixContext 6 ⟨Finset.range 6, contested, []⟩).1.pairs ∧
      fast.2 = (plainGreedy sixContext 6 ⟨Finset.range 6, contested, []⟩).2 ∧
      (fast.1.pairs, fast.2) = ([(0, 2)], some 1) := by
  intro fast
  have same := greedyLoop_eq_plainGreedy sixContext contested (Finset.range 6) fun i member => Finset.mem_range.mp member
  refine ⟨same.1, same.2.1, ?_⟩
  simp only [fast, Finset.sort_range]
  decide +kernel

end EventPlatform.Matching
