import EventPlatform.Lib.Pairings

/-! # Perfect matchings of dense graphs

An even number of vertices, each allowed to be paired with at least half of all
vertices, has a perfect matching.  A matching that leaves two vertices over can
always be enlarged: either one of the two has a free partner, or some matched
edge has three allowed connections to the two and is replaced by two edges. -/

namespace EventPlatform.Lib

variable {α : Type*} {avoid : α → α → Prop}

/-- `ps` is a matching inside `vertices` that leaves exactly `rest` over. -/
structure PartialMatching (avoid : α → α → Prop) (vertices : List α) (ps : List (α × α))
    (rest : List α) : Prop where
  covers : (endpoints ps ++ rest).Perm vertices
  allowed : ∀ a b, Met ps a b → ¬ avoid a b

namespace PartialMatching

variable {vertices rest : List α} {ps : List (α × α)}

theorem empty (vertices : List α) : PartialMatching avoid vertices [] vertices :=
  ⟨.refl _, by simp⟩

theorem perfect (h : PartialMatching avoid vertices ps []) : PerfectMatching avoid vertices ps :=
  ⟨by simpa using h.covers, h.allowed⟩

theorem length_eq (h : PartialMatching avoid vertices ps rest) :
    vertices.length = 2 * ps.length + rest.length := by
  rw [← h.covers.length_eq, List.length_append, length_endpoints]

theorem perm {ps' : List (α × α)} {rest' : List α} (h : PartialMatching avoid vertices ps rest)
    (samePairs : ps.Perm ps') (sameRest : rest.Perm rest') :
    PartialMatching avoid vertices ps' rest' := by
  refine ⟨((endpoints_perm samePairs).append sameRest).symm.trans h.covers, ?_⟩
  intro a b met
  exact h.allowed a b (met.imp samePairs.mem_iff.mpr samePairs.mem_iff.mpr)

/-- Pair two of the vertices left over. -/
theorem join (symm : ∀ a b, avoid a b → avoid b a) {a b : α}
    (h : PartialMatching avoid vertices ps (a :: b :: rest)) (allowed : ¬ avoid a b) :
    PartialMatching avoid vertices ((a, b) :: ps) rest := by
  refine ⟨?_, ?_⟩
  · refine List.Perm.trans ?_ h.covers
    have swapped : ([a, b] ++ endpoints ps).Perm (endpoints ps ++ [a, b]) := List.perm_append_comm
    have moved := swapped.append_right rest
    simpa using moved
  · intro x y met
    rcases met_cons.mp met with (same | same) | later
    · cases same; exact allowed
    · cases same; exact fun avoided => allowed (symm _ _ avoided)
    · exact h.allowed x y later

/-- Take a pair out again. -/
theorem split {p : α × α} (h : PartialMatching avoid vertices (p :: ps) rest) :
    PartialMatching avoid vertices ps (p.1 :: p.2 :: rest) := by
  refine ⟨?_, fun a b met => h.allowed a b (met_cons.mpr (.inr met))⟩
  refine List.Perm.trans ?_ h.covers
  have swapped : (endpoints ps ++ [p.1, p.2]).Perm ([p.1, p.2] ++ endpoints ps) := List.perm_append_comm
  have moved := swapped.append_right rest
  simpa using moved

end PartialMatching

/-! ## Enlarging a matching -/

variable [DecidableEq α] [DecidableRel avoid]

/-- The number of allowed partners of `v`. -/
def degree (avoid : α → α → Prop) [DecidableRel avoid] (vertices : List α) (v : α) : Nat :=
  vertices.countP fun w => w ≠ v ∧ ¬ avoid v w

theorem degree_perm {vertices vertices' : List α} (perm : vertices.Perm vertices') (v : α) :
    degree avoid vertices v = degree avoid vertices' v :=
  perm.countP_eq _

namespace PartialMatching

variable {vertices rest : List α} {ps : List (α × α)}

omit [DecidableRel avoid] in
/-- A vertex left over with an allowed partner left over is paired with it. -/
theorem join_free (symm : ∀ a b, avoid a b → avoid b a) {u w : α}
    (h : PartialMatching avoid vertices ps (u :: rest)) (inside : w ∈ rest)
    (allowed : ¬ avoid u w) :
    ∃ ps' rest', PartialMatching avoid vertices ps' rest' ∧ ps'.length = ps.length + 1 := by
  have front := (List.perm_cons_erase inside).cons u
  exact ⟨(u, w) :: ps, rest.erase w, (h.perm (.refl _) front).join symm allowed, rfl⟩

/-- Two vertices without a free partner: the matched edges see all of their partners. -/
theorem degree_eq {u : α} (h : PartialMatching avoid vertices ps rest)
    (stuck : ∀ w ∈ rest, w ≠ u → avoid u w) :
    degree avoid vertices u =
      (ps.map fun p => [p.1, p.2].countP fun w => w ≠ u ∧ ¬ avoid u w).sum := by
  have none : rest.countP (fun w => w ≠ u ∧ ¬ avoid u w) = 0 := by
    apply List.countP_eq_zero.mpr
    intro w inside
    simpa using stuck w inside
  rw [← degree_perm h.covers, degree, List.countP_append, none, endpoints, List.countP_flatMap]
  rfl

/-- Some matched edge has at least three allowed connections to the two vertices. -/
theorem exists_edge {u v : α} (h : PartialMatching avoid vertices ps (u :: v :: rest))
    (dense : ∀ w ∈ vertices, vertices.length ≤ 2 * degree avoid vertices w)
    (stuckU : ∀ w ∈ u :: v :: rest, w ≠ u → avoid u w)
    (stuckV : ∀ w ∈ u :: v :: rest, w ≠ v → avoid v w) :
    ∃ p ∈ ps, (¬ avoid u p.1 ∧ ¬ avoid v p.2) ∨ (¬ avoid u p.2 ∧ ¬ avoid v p.1) := by
  have insideU : u ∈ vertices := h.covers.mem_iff.mp (by simp)
  have insideV : v ∈ vertices := h.covers.mem_iff.mp (by simp)
  have length := h.length_eq
  have many := Nat.add_le_add (dense u insideU) (dense v insideV)
  rw [h.degree_eq stuckU, h.degree_eq stuckV, ← Nat.mul_add, ← List.sum_map_add] at many
  simp only [List.length_cons] at length
  -- on average an edge has more than two connections
  have more : (ps.map fun _ => 2).sum < (ps.map fun p =>
      ([p.1, p.2].countP fun w => w ≠ u ∧ ¬ avoid u w) +
        ([p.1, p.2].countP fun w => w ≠ v ∧ ¬ avoid v w)).sum := by
    rw [List.map_const', List.sum_replicate, smul_eq_mul]
    omega
  obtain ⟨p, inside, three⟩ := List.exists_lt_of_sum_lt _ _ more
  refine ⟨p, inside, ?_⟩
  simp only [List.countP_cons, List.countP_nil] at three
  by_contra neither
  simp only [not_or, not_and, not_not] at neither
  grind

/-- A matching that leaves two vertices over can be enlarged. -/
theorem enlarge (symm : ∀ a b, avoid a b → avoid b a) {u v : α}
    (h : PartialMatching avoid vertices ps (u :: v :: rest))
    (dense : ∀ w ∈ vertices, vertices.length ≤ 2 * degree avoid vertices w) :
    ∃ ps' rest', PartialMatching avoid vertices ps' rest' ∧ ps'.length = ps.length + 1 := by
  by_cases freeU : ∃ w ∈ v :: rest, ¬ avoid u w
  · obtain ⟨w, inside, allowed⟩ := freeU
    exact h.join_free symm inside allowed
  by_cases freeV : ∃ w ∈ u :: rest, ¬ avoid v w
  · obtain ⟨w, inside, allowed⟩ := freeV
    exact (h.perm (.refl _) (.swap v u rest)).join_free symm inside allowed
  push Not at freeU freeV
  -- neither has a free partner left, so one edge can be opened for the two of them
  obtain ⟨p, inside, connected⟩ := h.exists_edge dense
    (by simp only [List.mem_cons] at freeU ⊢; grind)
    (by simp only [List.mem_cons] at freeV ⊢; grind)
  have opened := (h.perm (List.perm_cons_erase inside) (.refl _)).split
  have count := List.length_erase_add_one inside
  cases connected with
  | inl straight =>
    have ordered : (p.1 :: p.2 :: u :: v :: rest).Perm (u :: p.1 :: v :: p.2 :: rest) := by
      rw [List.perm_iff_count]
      intro x
      simp only [List.count_cons]
      omega
    have joined := ((opened.perm (.refl _) ordered).join symm straight.1).join symm straight.2
    exact ⟨_, _, joined, by simp only [List.length_cons]; omega⟩
  | inr crossed =>
    have ordered : (p.1 :: p.2 :: u :: v :: rest).Perm (u :: p.2 :: v :: p.1 :: rest) := by
      rw [List.perm_iff_count]
      intro x
      simp only [List.count_cons]
      omega
    have joined := ((opened.perm (.refl _) ordered).join symm crossed.1).join symm crossed.2
    exact ⟨_, _, joined, by simp only [List.length_cons]; omega⟩

/-- Enlarging ends with nothing left over when the number of vertices is even. -/
theorem exists_perfect (symm : ∀ a b, avoid a b → avoid b a)
    (dense : ∀ w ∈ vertices, vertices.length ≤ 2 * degree avoid vertices w)
    (even : vertices.length % 2 = 0) (h : PartialMatching avoid vertices ps rest) :
    ∃ ps', PerfectMatching avoid vertices ps' := by
  -- induction on the number of vertices left over
  generalize left : rest.length = n
  induction n using Nat.strong_induction_on generalizing ps rest with
  | _ n ih =>
    have length := h.length_eq
    match rest, h with
    | [], h => exact ⟨ps, h.perfect⟩
    | [u], h => simp only [List.length_singleton] at length; omega
    | u :: v :: others, h =>
      obtain ⟨ps', rest', larger, one⟩ := h.enlarge symm dense
      have length' := larger.length_eq
      exact ih rest'.length (by omega) larger rfl

end PartialMatching

/-- Every vertex may be paired with at least half of the vertices. -/
theorem exists_perfectMatching_of_dense {vertices : List α}
    (symm : ∀ a b, avoid a b → avoid b a) (even : vertices.length % 2 = 0)
    (dense : ∀ w ∈ vertices, vertices.length ≤ 2 * degree avoid vertices w) :
    ∃ ps, PerfectMatching avoid vertices ps :=
  (PartialMatching.empty vertices).exists_perfect symm dense even

/-! ## Outside a union of matchings -/

instance decidableRelMet (ps : List (α × α)) : DecidableRel (Met ps) :=
  fun _ _ => inferInstanceAs (Decidable (_ ∨ _))

omit [DecidableEq α] in
theorem countP_le_one {l : List α} {P : α → Bool} (nodup : l.Nodup)
    (unique : ∀ a b, P a → P b → a = b) : l.countP P ≤ 1 := by
  have distinct := nodup.filter P
  rw [List.countP_eq_length_filter]
  match found : l.filter P with
  | [] => simp
  | [a] => simp
  | a :: b :: more =>
    have inside : a ∈ l.filter P ∧ b ∈ l.filter P := by simp [found]
    have same := unique a b (List.mem_filter.mp inside.1).2 (List.mem_filter.mp inside.2).2
    rw [found] at distinct
    simp [same] at distinct

omit [DecidableEq α] in
theorem countP_le_add {l : List α} {P Q R : α → Bool} (either : ∀ a, P a → Q a ∨ R a) :
    l.countP P ≤ l.countP Q + l.countP R := by
  induction l with
  | nil => simp
  | cons a l ih =>
    have here := either a
    simp only [List.countP_cons]
    cases counted : P a with
    | false => simp only [Bool.false_eq_true, if_false]; omega
    | true => cases here counted with
      | inl first => simp only [first, if_true]; omega
      | inr second => simp only [second, if_true]; omega

/-- Every matching gives a vertex at most one partner. -/
theorem countP_met_le {vertices : List α} (nodup : vertices.Nodup)
    {matchings : List (List (α × α))} (each : ∀ ps ∈ matchings, (endpoints ps).Nodup) (v : α) :
    (vertices.countP fun w => Met matchings.flatten v w) ≤ matchings.length := by
  induction matchings with
  | nil => simp
  | cons ps matchings ih =>
    have one : (vertices.countP fun w => Met ps v w) ≤ 1 := by
      apply countP_le_one nodup
      intro a b met met'
      exact Met.unique (each ps List.mem_cons_self) (of_decide_eq_true met) (of_decide_eq_true met')
    have others := ih fun qs member => each qs (List.mem_cons_of_mem ps member)
    have either : (vertices.countP fun w => Met (ps :: matchings).flatten v w) ≤
        (vertices.countP fun w => Met ps v w) +
          (vertices.countP fun w => Met matchings.flatten v w) := by
      apply countP_le_add
      intro w
      simp [met_append]
    rw [List.length_cons]
    omega

/-- A union of fewer than `n / 2` matchings leaves room for one more perfect
    matching of `n` vertices, whatever the matchings are. -/
theorem exists_perfectMatching_outside {vertices : List α} (nodup : vertices.Nodup)
    (even : vertices.length % 2 = 0) {matchings : List (List (α × α))}
    (each : ∀ ps ∈ matchings, (endpoints ps).Nodup)
    (few : 2 * (matchings.length + 1) ≤ vertices.length) :
    ∃ ps, PerfectMatching (Met matchings.flatten) vertices ps := by
  have symm : ∀ a b, Met matchings.flatten a b → Met matchings.flatten b a := fun _ _ => Met.symm
  refine exists_perfectMatching_of_dense symm even fun v _ => ?_
  have partners := countP_met_le nodup each v
  have itself : (vertices.countP fun w => w = v) ≤ 1 := by
    apply countP_le_one nodup
    intro a b first second
    exact (of_decide_eq_true first).trans (of_decide_eq_true second).symm
  -- a vertex is allowed, or it is `v` itself, or it has met `v`
  have split := vertices.length_eq_countP_add_countP fun w =>
    decide (w ≠ v ∧ ¬ Met matchings.flatten v w)
  have others : (vertices.countP fun w => ¬ decide (w ≠ v ∧ ¬ Met matchings.flatten v w)) ≤
      (vertices.countP fun w => w = v) + (vertices.countP fun w => Met matchings.flatten v w) := by
    apply countP_le_add
    intro w
    simp only [decide_eq_true_eq, not_and_or, not_not]
    exact id
  unfold degree
  omega

end EventPlatform.Lib
