import Mathlib

/-! # Lists of pairs as matchings

A list of pairs over any type is read as a set of edges.  `endpoints` lists the
ends of all edges, `Met` is the symmetric edge relation, and `PerfectMatching`
says that the edges cover a list of vertices exactly once and respect a
forbidden relation.  The two facts a search for a perfect matching needs are
`PerfectMatching.cons` (add an edge) and `PerfectMatching.remove` (every vertex
has a partner, and the edge between them can be taken out). -/

namespace EventPlatform.Lib

variable {α β : Type*}

/-! ## Endpoints -/

def endpoints (ps : List (α × α)) : List α := ps.flatMap fun p => [p.1, p.2]

@[simp] theorem endpoints_nil : endpoints ([] : List (α × α)) = [] := rfl

@[simp] theorem endpoints_cons (p : α × α) (ps : List (α × α)) :
    endpoints (p :: ps) = p.1 :: p.2 :: endpoints ps := rfl

@[simp] theorem endpoints_append (ps qs : List (α × α)) :
    endpoints (ps ++ qs) = endpoints ps ++ endpoints qs := by
  simp [endpoints]

theorem mem_endpoints {ps : List (α × α)} {a : α} :
    a ∈ endpoints ps ↔ ∃ p ∈ ps, a = p.1 ∨ a = p.2 := by
  simp [endpoints]

theorem length_endpoints (ps : List (α × α)) : (endpoints ps).length = 2 * ps.length := by
  induction ps with
  | nil => rfl
  | cons p ps ih => simp only [endpoints_cons, List.length_cons, ih]; omega

theorem endpoints_perm {ps qs : List (α × α)} (h : ps.Perm qs) :
    (endpoints ps).Perm (endpoints qs) :=
  h.flatMap_right _

theorem endpoints_map (f : α → β) (ps : List (α × α)) :
    endpoints (ps.map fun p => (f p.1, f p.2)) = (endpoints ps).map f := by
  induction ps with
  | nil => rfl
  | cons p ps ih => simp [ih]

/-- Reordering the two ends of each pair does not change which vertices occur. -/
theorem endpoints_reorder (f : α × α → α × α) (ps : List (α × α))
    (same : ∀ p ∈ ps, f p = p ∨ f p = p.swap) :
    (endpoints (ps.map f)).Perm (endpoints ps) := by
  induction ps with
  | nil => exact .refl _
  | cons p ps ih =>
    have tail := ih fun q member => same q (List.mem_cons_of_mem p member)
    simp only [List.map_cons, endpoints_cons]
    rcases same p List.mem_cons_self with kept | swapped
    · rw [kept]
      exact (tail.cons _).cons _
    · rw [swapped]
      exact (List.Perm.swap _ _ _).trans ((tail.cons _).cons _)

theorem nodup_of_nodup_endpoints {ps : List (α × α)} (nodup : (endpoints ps).Nodup) :
    ps.Nodup := by
  induction ps with
  | nil => exact List.nodup_nil
  | cons p ps ih =>
    simp only [endpoints_cons, List.nodup_cons, List.mem_cons, not_or] at nodup
    refine List.nodup_cons.mpr ⟨fun member => ?_, ih nodup.2.2⟩
    exact nodup.1.2 (mem_endpoints.mpr ⟨p, member, .inl rfl⟩)

/-- Overwriting two positions exchanges two elements and keeps the others. -/
theorem exists_perm_set_set {l : List α} {i j : Nat} (before : i < j) {a b : α}
    (first : l[i]? = some a) (second : l[j]? = some b) (x y : α) :
    ∃ rest, l.Perm (a :: b :: rest) ∧ ((l.set i x).set j y).Perm (x :: y :: rest) := by
  induction l generalizing i j with
  | nil => simp at first
  | cons c l ih =>
    cases j with
    | zero => omega
    | succ j =>
      rw [List.getElem?_cons_succ] at second
      cases i with
      | zero =>
        obtain ⟨inside, rfl⟩ := List.getElem?_eq_some_iff.mp second
        obtain rfl : c = a := by simpa using first
        refine ⟨l.eraseIdx j, (List.getElem_cons_eraseIdx_perm inside).symm.cons c, ?_⟩
        exact (List.set_perm_cons_eraseIdx inside y).cons x
      | succ i =>
        rw [List.getElem?_cons_succ] at first
        obtain ⟨rest, perm, exchanged⟩ := ih (by omega) first second
        refine ⟨c :: rest, ?_, ?_⟩
        · exact (perm.cons c).trans ((List.Perm.swap _ _ _).trans (.cons _ (.swap _ _ _)))
        · exact (exchanged.cons c).trans ((List.Perm.swap _ _ _).trans (.cons _ (.swap _ _ _)))

/-! ## The edge relation -/

def Met (ps : List (α × α)) (a b : α) : Prop := (a, b) ∈ ps ∨ (b, a) ∈ ps

theorem Met.symm {ps : List (α × α)} {a b : α} (h : Met ps a b) : Met ps b a := Or.symm h

@[simp] theorem not_met_nil (a b : α) : ¬ Met [] a b := by simp [Met]

theorem met_append {ps qs : List (α × α)} {a b : α} :
    Met (ps ++ qs) a b ↔ Met ps a b ∨ Met qs a b := by
  simp only [Met, List.mem_append]
  tauto

theorem met_cons {p : α × α} {ps : List (α × α)} {a b : α} :
    Met (p :: ps) a b ↔ (p = (a, b) ∨ p = (b, a)) ∨ Met ps a b := by
  simp only [Met, List.mem_cons, eq_comm (b := p)]
  tauto

theorem Met.left_mem {ps : List (α × α)} {a b : α} (h : Met ps a b) : a ∈ endpoints ps := by
  rcases h with forward | backward
  · exact mem_endpoints.mpr ⟨_, forward, .inl rfl⟩
  · exact mem_endpoints.mpr ⟨_, backward, .inr rfl⟩

theorem Met.right_mem {ps : List (α × α)} {a b : α} (h : Met ps a b) : b ∈ endpoints ps :=
  h.symm.left_mem

theorem exists_met {ps : List (α × α)} {a : α} (h : a ∈ endpoints ps) : ∃ b, Met ps a b := by
  obtain ⟨p, member, first | second⟩ := mem_endpoints.mp h
  · exact ⟨p.2, .inl (first ▸ member)⟩
  · exact ⟨p.1, .inr (second ▸ member)⟩

/-- Taking one edge out of a list whose endpoints are all different. -/
theorem exists_perm_of_met {ps : List (α × α)} {a b : α} (h : Met ps a b) :
    ∃ p rest, ps.Perm (p :: rest) ∧ (p = (a, b) ∨ p = (b, a)) := by
  rcases h with forward | backward
  · obtain ⟨front, back, rfl⟩ := List.append_of_mem forward
    exact ⟨(a, b), front ++ back, List.perm_middle, .inl rfl⟩
  · obtain ⟨front, back, rfl⟩ := List.append_of_mem backward
    exact ⟨(b, a), front ++ back, List.perm_middle, .inr rfl⟩

theorem endpoints_perm_of_met {ps : List (α × α)} {a b : α} (h : Met ps a b) :
    ∃ rest, (endpoints ps).Perm (a :: b :: endpoints rest) ∧ ∀ q ∈ rest, q ∈ ps := by
  obtain ⟨p, rest, perm, forward | backward⟩ := exists_perm_of_met h
  · refine ⟨rest, ?_, fun q member => perm.mem_iff.mpr (List.mem_cons_of_mem p member)⟩
    simpa [forward] using endpoints_perm perm
  · refine ⟨rest, ?_, fun q member => perm.mem_iff.mpr (List.mem_cons_of_mem p member)⟩
    have swapped := endpoints_perm perm
    simp only [backward, endpoints_cons] at swapped
    exact swapped.trans (List.Perm.swap _ _ _)

theorem Met.ne {ps : List (α × α)} (nodup : (endpoints ps).Nodup) {a b : α} (h : Met ps a b) :
    a ≠ b := by
  obtain ⟨rest, perm, _⟩ := endpoints_perm_of_met h
  have distinct := perm.nodup_iff.mp nodup
  intro same
  simp [same] at distinct

/-- In a matching the partner is unique. -/
theorem Met.unique {ps : List (α × α)} (nodup : (endpoints ps).Nodup) {a b c : α}
    (h : Met ps a b) (h' : Met ps a c) : b = c := by
  obtain ⟨p, rest, perm, shape⟩ := exists_perm_of_met h
  have distinct := (endpoints_perm perm).nodup_iff.mp nodup
  have met : Met (p :: rest) a c := by
    rcases h' with forward | backward
    · exact .inl (perm.mem_iff.mp forward)
    · exact .inr (perm.mem_iff.mp backward)
  have outside : a ∉ endpoints rest := by
    rcases shape with rfl | rfl <;> simp_all [endpoints_cons]
  rcases met_cons.mp met with here | later
  · rcases shape with rfl | rfl <;> rcases here with here | here <;>
      simp_all [endpoints_cons, Prod.mk.injEq]
  · exact absurd later.left_mem outside

/-! ## Perfect matchings -/

/-- `ps` matches every vertex of `vertices` exactly once and uses no avoided pair. -/
structure PerfectMatching (avoid : α → α → Prop) (vertices : List α) (ps : List (α × α)) : Prop where
  covers : (endpoints ps).Perm vertices
  allowed : ∀ a b, Met ps a b → ¬ avoid a b

namespace PerfectMatching

variable {avoid : α → α → Prop} {vertices : List α} {ps : List (α × α)}

theorem nil : PerfectMatching avoid [] [] := ⟨.refl _, by simp⟩

theorem mono {avoid' : α → α → Prop} (h : PerfectMatching avoid vertices ps)
    (weaker : ∀ a b, Met ps a b → avoid' a b → avoid a b) :
    PerfectMatching avoid' vertices ps :=
  ⟨h.covers, fun a b met avoided => h.allowed a b met (weaker a b met avoided)⟩

theorem length_eq (h : PerfectMatching avoid vertices ps) : vertices.length = 2 * ps.length := by
  rw [← h.covers.length_eq, length_endpoints]

theorem cons [DecidableEq α] {a b : α} (inside : a ∈ vertices) (inside' : b ∈ vertices.erase a)
    (h : PerfectMatching avoid ((vertices.erase a).erase b) ps)
    (forward : ¬ avoid a b) (backward : ¬ avoid b a) :
    PerfectMatching avoid vertices ((a, b) :: ps) := by
  refine ⟨?_, ?_⟩
  · have inner : (b :: endpoints ps).Perm (vertices.erase a) :=
      (h.covers.cons b).trans (List.perm_cons_erase inside').symm
    exact (inner.cons a).trans (List.perm_cons_erase inside).symm
  · intro x y met
    rcases met_cons.mp met with (same | same) | later
    · cases same; exact forward
    · cases same; exact backward
    · exact h.allowed x y later

/-- Every vertex has an allowed partner, and without the two of them the rest is
    still perfectly matched. -/
theorem remove [DecidableEq α] {a : α} (h : PerfectMatching avoid vertices ps)
    (inside : a ∈ vertices) :
    ∃ b rest, b ∈ vertices.erase a ∧ ¬ avoid a b ∧ ¬ avoid b a ∧
      (∀ q ∈ rest, q ∈ ps) ∧ PerfectMatching avoid ((vertices.erase a).erase b) rest := by
  obtain ⟨b, met⟩ := exists_met (h.covers.mem_iff.mpr inside)
  obtain ⟨rest, perm, sub⟩ := endpoints_perm_of_met met
  have split : (a :: b :: endpoints rest).Perm vertices := perm.symm.trans h.covers
  have afterA : (b :: endpoints rest).Perm (vertices.erase a) := by
    simpa using split.erase a
  have afterB : (endpoints rest).Perm ((vertices.erase a).erase b) := by
    simpa using afterA.erase b
  refine ⟨b, rest, afterA.mem_iff.mp List.mem_cons_self, h.allowed a b met,
    h.allowed b a met.symm, sub, afterB, ?_⟩
  intro x y later
  exact h.allowed x y (later.imp (sub _) (sub _))

end PerfectMatching

end EventPlatform.Lib
