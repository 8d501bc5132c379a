import EventPlatform.Matching.Rounds

/-! # Local improvement keeps the rounds valid

A swap exchanges the partners of two pairs of one round.  It keeps that round a
partition, and the legality test on the shared pair set keeps the new pairs out
of every other round. -/

namespace EventPlatform.Matching

open EventPlatform.Lib

/-! ## One swap -/

/-- Everything a successful attempt at two positions has done. -/
theorem tryPositions_spec {ctx : MatchContext} {st st' : ImproveState} {i j : Nat}
    (swapped : tryPositions ctx st i j = some st') :
    ∃ old1 old2 n1 n2 : IndexPair, st.currentPairs[i]? = some old1 ∧
      st.currentPairs[j]? = some old2 ∧ st.legal n1 n2 = true ∧
      st' = st.swap i j old1 old2 n1 n2 ∧
      ((n1 = orderPair old1.1 old2.1 ∧ n2 = orderPair old1.2 old2.2) ∨
        (n1 = orderPair old1.1 old2.2 ∧ n2 = orderPair old1.2 old2.1)) := by
  -- whichever crossing is tried, it is legal and improves on the two pairs
  have attempt : ∀ (old1 old2 n1 n2 : IndexPair), trySwap ctx st i j old1 old2 n1 n2 = some st' →
      st.legal n1 n2 = true ∧ st' = st.swap i j old1 old2 n1 n2 := by
    intro old1 old2 n1 n2 tried
    simp only [trySwap] at tried
    split at tried
    next accepted =>
      cases tried
      exact ⟨(Bool.and_eq_true_iff.mp accepted).1, rfl⟩
    next => cases tried
  simp only [tryPositions] at swapped
  split at swapped
  next a b c d first second =>
    cases crossed : trySwap ctx st i j (a, b) (c, d) (orderPair a c) (orderPair b d) with
    | some found =>
      rw [crossed] at swapped
      cases swapped
      obtain ⟨legal, same⟩ := attempt _ _ _ _ crossed
      exact ⟨_, _, _, _, first, second, legal, same, .inl ⟨rfl, rfl⟩⟩
    | none =>
      rw [crossed] at swapped
      obtain ⟨legal, same⟩ := attempt _ _ _ _ swapped
      exact ⟨_, _, _, _, first, second, legal, same, .inr ⟨rfl, rfl⟩⟩
  next => cases swapped

theorem orderPair_le (a b : Nat) : (orderPair a b).1 ≤ (orderPair a b).2 := by
  simp only [orderPair]
  split <;> simp only <;> omega

/-- Re-pairing two edges crosswise keeps their four ends. -/
theorem endpoints_crossed (old1 old2 : IndexPair) (rest : List IndexPair) :
    (endpoints (orderPair old1.1 old2.1 :: orderPair old1.2 old2.2 :: rest)).Perm
      (endpoints (old1 :: old2 :: rest)) := by
  have left := endpoints_orderPair old1.1 old2.1
  have right := endpoints_orderPair old1.2 old2.2
  have both := left.append (right.append_right (endpoints rest))
  refine (List.Perm.trans ?_ both).trans ?_
  · exact .refl _
  · exact .cons _ (.swap _ _ _)

theorem endpoints_exchanged {old1 old2 n1 n2 : IndexPair} (rest : List IndexPair)
    (shape : (n1 = orderPair old1.1 old2.1 ∧ n2 = orderPair old1.2 old2.2) ∨
      (n1 = orderPair old1.1 old2.2 ∧ n2 = orderPair old1.2 old2.1)) :
    (endpoints (n1 :: n2 :: rest)).Perm (endpoints (old1 :: old2 :: rest)) := by
  cases shape with
  | inl straight =>
    rw [straight.1, straight.2]
    exact endpoints_crossed old1 old2 rest
  | inr reversed =>
    rw [reversed.1, reversed.2]
    refine (endpoints_crossed old1 old2.swap rest).trans ?_
    exact .cons _ (.cons _ (.swap _ _ _))

theorem exchanged_le {old1 old2 n1 n2 : IndexPair}
    (shape : (n1 = orderPair old1.1 old2.1 ∧ n2 = orderPair old1.2 old2.2) ∨
      (n1 = orderPair old1.1 old2.2 ∧ n2 = orderPair old1.2 old2.1)) :
    n1.1 ≤ n1.2 ∧ n2.1 ≤ n2.2 := by
  cases shape with
  | inl straight => rw [straight.1, straight.2]; exact ⟨orderPair_le _ _, orderPair_le _ _⟩
  | inr reversed => rw [reversed.1, reversed.2]; exact ⟨orderPair_le _ _, orderPair_le _ _⟩

/-- Discarding two pairs and adding two pairs, as a statement about membership. -/
theorem mem_replaced {pairs : Finset IndexPair} {old1 old2 n1 n2 p : IndexPair} {kept : Prop}
    (was : p ∈ pairs ↔ kept ∨ p = old1 ∨ p = old2) (apart : kept → p ≠ old1 ∧ p ≠ old2) :
    p ∈ insert n2 (insert n1 ((pairs.erase old1).erase old2)) ↔ kept ∨ p = n1 ∨ p = n2 := by
  simp only [Finset.mem_insert, Finset.mem_erase, was]
  tauto

/-! ## The invariant of one round -/

/-- The state of a round being improved while the pairs of all other rounds are `others`. -/
structure ImproveInv (size : Nat) (bye : Option Nat) (others : List IndexPair) (st : ImproveState) :
    Prop where
  all : ∀ p, p ∈ st.allPairs ↔ p ∈ others ∨ p ∈ st.currentPairs
  current : ∀ p, p ∈ st.currentRoundSet ↔ p ∈ st.currentPairs
  apart : ∀ p ∈ st.currentPairs, p ∉ others
  round : IndexRound size st.currentPairs bye

theorem ImproveInv.legal_apart {size : Nat} {bye : Option Nat} {others : List IndexPair}
    {st : ImproveState} (inv : ImproveInv size bye others st) {n1 n2 : IndexPair}
    (legal : st.legal n1 n2 = true) :
    n1.1 ≠ n1.2 ∧ n2.1 ≠ n2.2 ∧ n1 ∉ others ∧ n2 ∉ others := by
  have outside : ∀ p, (p ∉ st.allPairs ∨ p ∈ st.currentRoundSet) → p ∉ others := by
    intro p allowed inOthers
    cases allowed with
    | inl unused => exact unused ((inv.all p).mpr (.inl inOthers))
    | inr here => exact inv.apart p ((inv.current p).mp here) inOthers
  simp only [ImproveState.legal, Bool.and_eq_true, Bool.or_eq_true, decide_eq_true_eq] at legal
  obtain ⟨⟨⟨different1, different2⟩, allowed1⟩, allowed2⟩ := legal
  exact ⟨different1, different2, outside n1 allowed1, outside n2 allowed2⟩

theorem ImproveInv.tryPositions {ctx : MatchContext} {bye : Option Nat} {others : List IndexPair}
    {st st' : ImproveState} (inv : ImproveInv ctx.size bye others st) {i j : Nat} (before : i < j)
    (swapped : tryPositions ctx st i j = some st') : ImproveInv ctx.size bye others st' := by
  obtain ⟨old1, old2, n1, n2, first, second, legal, rfl, shape⟩ := tryPositions_spec swapped
  obtain ⟨different1, different2, apart1, apart2⟩ := inv.legal_apart legal
  -- up to order, the two pairs are replaced at the front and the rest stays
  obtain ⟨rest, perm, perm'⟩ := exists_perm_set_set before first second n1 n2
  have was : ∀ p, p ∈ st.currentPairs ↔ p ∈ rest ∨ p = old1 ∨ p = old2 := by
    intro p
    rw [perm.mem_iff, List.mem_cons, List.mem_cons]
    tauto
  have becomes : ∀ p, p ∈ (st.swap i j old1 old2 n1 n2).currentPairs ↔
      p ∈ rest ∨ p = n1 ∨ p = n2 := by
    intro p
    rw [ImproveState.swap, perm'.mem_iff, List.mem_cons, List.mem_cons]
    tauto
  have restApart : ∀ p ∈ rest, p ≠ old1 ∧ p ≠ old2 := by
    have nodup := perm.nodup_iff.mp inv.round.nodup
    simp only [List.nodup_cons, List.mem_cons, not_or] at nodup
    exact fun p member => ⟨fun same => nodup.1.2 (same ▸ member), fun same => nodup.2.1 (same ▸ member)⟩
  have othersApart : ∀ p ∈ others, p ≠ old1 ∧ p ≠ old2 := by
    intro p member
    constructor
    · exact fun same => inv.apart p ((was p).mpr (.inr (.inl same))) member
    · exact fun same => inv.apart p ((was p).mpr (.inr (.inr same))) member
  refine ⟨fun p => ?_, fun p => ?_, fun p member => ?_, ?_, ?_, inv.round.parity⟩
  · rw [becomes, ← or_assoc]
    apply mem_replaced
    · rw [inv.all, was, or_assoc]
    · exact fun kept => kept.elim (othersApart p) (restApart p)
  · rw [becomes]
    apply mem_replaced
    · rw [inv.current, was]
    · exact restApart p
  · cases (becomes p).mp member with
    | inl kept => exact inv.apart p ((was p).mpr (.inl kept))
    | inr new =>
      cases new with
      | inl same => exact same ▸ apart1
      | inr same => exact same ▸ apart2
  -- the swap exchanges partners, so the same four participants are paired
  · have ends := (endpoints_perm perm').trans (endpoints_exchanged rest shape)
    have ends' := ends.trans (endpoints_perm perm).symm
    exact (ends'.append_right bye.toList).trans inv.round.covers
  · intro p member
    obtain ⟨le1, le2⟩ := exchanged_le shape
    cases (becomes p).mp member with
    | inl kept => exact inv.round.ordered p ((was p).mpr (.inl kept))
    | inr new =>
      cases new with
      | inl same => subst same; omega
      | inr same => subst same; omega

theorem ImproveInv.scanSwaps {ctx : MatchContext} {bye : Option Nat} {others : List IndexPair}
    {st st' : ImproveState} (inv : ImproveInv ctx.size bye others st)
    (found : scanSwaps ctx st = some st') : ImproveInv ctx.size bye others st' := by
  obtain ⟨i, _, found⟩ := List.exists_of_findSome?_eq_some found
  obtain ⟨j, inRange, found⟩ := List.exists_of_findSome?_eq_some found
  have before : i < j := (List.mem_range'_1.mp inRange).1
  exact inv.tryPositions before found

theorem ImproveInv.improveRound {ctx : MatchContext} {bye : Option Nat} {others : List IndexPair}
    {st : ImproveState} (inv : ImproveInv ctx.size bye others st)
    (passes : Nat) : ImproveInv ctx.size bye others (improveRound ctx passes st) := by
  induction passes generalizing st with
  | zero => exact inv
  | succ passes ih =>
    simp only [Matching.improveRound]
    cases found : Matching.scanSwaps ctx st with
    | none => exact inv
    | some next => exact ih (inv.scanSwaps found)

/-! ## All rounds -/

theorem nodup_others {outside : List IndexPair} {pairs : List IndexPair}
    {rest : List (List IndexPair)} (distinct : (outside ++ (pairs :: rest).flatten).Nodup) :
    (outside ++ rest.flatten).Nodup := by
  refine distinct.sublist (List.Sublist.append_left ?_ outside)
  rw [List.flatten_cons]
  exact List.sublist_append_right pairs rest.flatten

/-- The collections of the source describe the first of the rounds that are left. -/
theorem ImproveInv.start {size : Nat} {bye : Option Nat} {outside pairs : List IndexPair}
    {rest : List (List IndexPair)} {allPairs : Finset IndexPair} (round : IndexRound size pairs bye)
    (all : ∀ p, p ∈ allPairs ↔ p ∈ outside ∨ p ∈ (pairs :: rest).flatten)
    (distinct : (outside ++ (pairs :: rest).flatten).Nodup) :
    ImproveInv size bye (outside ++ rest.flatten) ⟨allPairs, pairs.toFinset, pairs⟩ := by
  refine ⟨fun p => ?_, fun p => List.mem_toFinset, fun p member inOthers => ?_, round⟩
  · rw [all, List.flatten_cons, List.mem_append, List.mem_append]
    tauto
  · have reordered : (pairs ++ (outside ++ rest.flatten)).Nodup := by
      refine (List.Perm.nodup_iff ?_).mp distinct
      rw [List.flatten_cons, ← List.append_assoc, ← List.append_assoc]
      exact List.perm_append_comm.append_right _
    exact (List.nodup_append.mp reordered).2.2 p member p inOthers rfl

/-- The improved round stays apart from all the others. -/
theorem ImproveInv.finish {size : Nat} {bye : Option Nat} {outside : List IndexPair}
    {rest : List (List IndexPair)} {st : ImproveState}
    (inv : ImproveInv size bye (outside ++ rest.flatten) st)
    (distinct : (outside ++ rest.flatten).Nodup) :
    (outside ++ st.currentPairs ++ rest.flatten).Nodup := by
  have joined : (st.currentPairs ++ (outside ++ rest.flatten)).Nodup :=
    List.nodup_append.mpr ⟨inv.round.nodup, distinct, fun p member q inOthers same =>
      inv.apart p member (same ▸ inOthers)⟩
  refine (List.Perm.nodup_iff ?_).mp joined
  rw [← List.append_assoc]
  exact List.perm_append_comm.append_right _

/-- `outside` are the pairs of the rounds that are not in the list any more. -/
theorem improveRounds_spec {ctx : MatchContext} {rounds : List (List IndexPair)}
    {byes : List (Option Nat)} (valid : List.Forall₂ (IndexRound ctx.size) rounds byes)
    (outside : List IndexPair) (allPairs : Finset IndexPair)
    (all : ∀ p, p ∈ allPairs ↔ p ∈ outside ∨ p ∈ rounds.flatten)
    (distinct : (outside ++ rounds.flatten).Nodup) :
    List.Forall₂ (IndexRound ctx.size) (improveRounds ctx allPairs rounds) byes ∧
      (outside ++ (improveRounds ctx allPairs rounds).flatten).Nodup := by
  induction valid generalizing outside allPairs with
  | nil => exact ⟨.nil, distinct⟩
  | @cons pairs bye rest byes here later ih =>
    have start := ImproveInv.start here all distinct
    have final := start.improveRound maxPasses
    simp only [improveRounds]
    generalize improved : improveRound ctx maxPasses ⟨allPairs, pairs.toFinset, pairs⟩ = st at final ⊢
    have next := final.finish (nodup_others distinct)
    obtain ⟨valid, nodup⟩ := ih (outside ++ st.currentPairs) st.allPairs
      (fun p => by rw [final.all, List.mem_append, List.mem_append]; tauto) next
    refine ⟨.cons final.round valid, ?_⟩
    rwa [List.flatten_cons, ← List.append_assoc]

end EventPlatform.Matching
