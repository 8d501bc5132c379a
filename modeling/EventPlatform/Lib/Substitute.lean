import Mathlib

/-! # Substitution

`sub` goes over a text from left to right and puts a replacement in the place of every match,
as `re.sub` does.  A pattern is what it matches at the beginning of a text: the length of the
match, or zero.  The texts between the matches are their gaps.

A spot is the shortest thing one would call an occurrence: a text that has been read and the
one symbol that completes it.  When the replacement begins with a symbol that spots do not
read over, a spot of the output that begins in a gap was there before. -/

namespace EventPlatform.Lib

variable {α : Type*}

abbrev Pattern (α : Type*) := List α → Nat

/-- The rest of the substitution, when `skip` symbols still belong to the last match. -/
def subFrom (p : Pattern α) (replacement : List α) : Nat → List α → List α
  | _, [] => []
  | skip + 1, _ :: text => subFrom p replacement skip text
  | 0, c :: text =>
    match p (c :: text) with
    | 0 => c :: subFrom p replacement 0 text
    | length + 1 => replacement ++ subFrom p replacement length text

def sub (p : Pattern α) (replacement text : List α) : List α := subFrom p replacement 0 text

/-! ## Spots -/

/-- The spot is at the beginning of the text. -/
def SpotAt (L : List α → α → Prop) (text : List α) : Prop := ∃ u x rest, L u x ∧ text = u ++ x :: rest

def Spotted (L : List α → α → Prop) (text : List α) : Prop := ∃ t, t <:+ text ∧ SpotAt L t

/-- The pattern matches where a spot is. -/
def Detects (p : Pattern α) (L : List α → α → Prop) : Prop := ∀ text, SpotAt L text → p text ≠ 0

/-- No spot begins in the replacement: what it reads has neither the first symbol of it nor the
    last, but one that is not in there at all. -/
structure Apart (L : List α → α → Prop) (replacement : List α) (opens closes : α) : Prop where
  head : replacement.head? = some opens
  getLast : replacement.getLast? = some closes
  opens_not_mem : ∀ u x, L u x → opens ∉ u
  closes_not_mem : ∀ u x, L u x → closes ∉ u
  foreign : ∀ u x, L u x → ∃ c ∈ u, c ∉ replacement

section Substitution

variable {p : Pattern α} {replacement text t u : List α} {opens closes x : α} {L : List α → α → Prop}

theorem subFrom_unmatched {c : α} (unmatched : p (c :: text) = 0) :
    subFrom p replacement 0 (c :: text) = c :: subFrom p replacement 0 text := by
  rw [subFrom, unmatched]

theorem subFrom_matched {c : α} (matched : p (c :: text) ≠ 0) :
    subFrom p replacement 0 (c :: text) = replacement ++ subFrom p replacement (p (c :: text) - 1) text := by
  rw [subFrom]
  cases length : p (c :: text) with
  | zero => exact absurd length matched
  | succ length => rfl

/-- A text that matches nowhere stays as it is. -/
theorem sub_eq_self (unmatched : ∀ t, t <:+ text → p t = 0) : sub p replacement text = text := by
  rw [sub]
  induction text with
  | nil => rfl
  | cons c text ih =>
    rw [subFrom_unmatched (unmatched _ (List.suffix_refl _)),
      ih fun t suffix => unmatched t (suffix.trans (List.suffix_cons c text))]

/-- Where a suffix of the output begins: in a replacement, or in a gap. -/
theorem suffix_subFrom {skip : Nat} (nonempty : t ≠ []) (suffix : t <:+ subFrom p replacement skip text) :
    (∃ r rest, r ≠ [] ∧ r <:+ replacement ∧ t = r ++ rest) ∨
    ∃ c cs, c :: cs <:+ text ∧ p (c :: cs) = 0 ∧ t = subFrom p replacement 0 (c :: cs) := by
  induction text generalizing skip with
  | nil =>
    have empty := List.suffix_nil.mp suffix
    exact absurd empty nonempty
  | cons d text ih =>
    have deeper : ∀ {skip}, t <:+ subFrom p replacement skip text →
        (∃ r rest, r ≠ [] ∧ r <:+ replacement ∧ t = r ++ rest) ∨
        ∃ c cs, c :: cs <:+ d :: text ∧ p (c :: cs) = 0 ∧ t = subFrom p replacement 0 (c :: cs) := by
      intro skip inRest
      cases ih inRest with
      | inl inside => exact .inl inside
      | inr gap =>
        obtain ⟨c, cs, before, rest⟩ := gap
        exact .inr ⟨c, cs, before.trans (List.suffix_cons d text), rest⟩
    cases skip with
    | succ skip => exact deeper suffix
    | zero =>
      by_cases unmatched : p (d :: text) = 0
      · rw [subFrom_unmatched unmatched] at suffix
        cases List.suffix_cons_iff.mp suffix with
        | inl here => exact .inr ⟨d, text, List.suffix_refl _, unmatched, by rw [subFrom_unmatched unmatched, here]⟩
        | inr later => exact deeper later
      · rw [subFrom_matched unmatched] at suffix
        cases List.suffix_or_suffix_of_suffix suffix (List.suffix_append _ _) with
        | inl later => exact deeper later
        | inr longer =>
          -- the suffix reaches into the replacement
          obtain ⟨r, split⟩ := longer
          by_cases empty : r = []
          · rw [empty, List.nil_append] at split
            have whole : t <:+ subFrom p replacement (p (d :: text) - 1) text := by
              rw [split]
            exact deeper whole
          · rw [← split] at suffix
            obtain ⟨before, same⟩ := suffix
            rw [← List.append_assoc] at same
            exact .inl ⟨r, _, empty, ⟨before, List.append_cancel_right same⟩, split.symm⟩

/-- What is read before the mark of a replacement was there before. -/
theorem prefix_of_subFrom (head : replacement.head? = some opens) (unmarked : opens ∉ u) {rest : List α}
    (reads : subFrom p replacement 0 text = u ++ x :: rest) :
    (∃ rest', text = u ++ x :: rest') ∨
      x = opens ∧ replacement <+: x :: rest ∧ ∃ rest', text = u ++ rest' ∧ p rest' ≠ 0 := by
  obtain ⟨middle, rfl⟩ := List.head?_eq_some_iff.mp head
  induction u generalizing text with
  | nil =>
    cases text with
    | nil => cases reads
    | cons c text =>
      by_cases unmatched : p (c :: text) = 0
      · rw [subFrom_unmatched unmatched] at reads
        cases reads
        exact .inl ⟨text, rfl⟩
      · rw [subFrom_matched unmatched] at reads
        cases reads
        exact .inr ⟨rfl, ⟨_, rfl⟩, c :: text, rfl, unmatched⟩
  | cons d u ih =>
    rw [List.mem_cons, not_or] at unmarked
    cases text with
    | nil => cases reads
    | cons c text =>
      by_cases unmatched : p (c :: text) = 0
      · rw [subFrom_unmatched unmatched, List.cons_append] at reads
        obtain ⟨same, tail⟩ := List.cons_eq_cons.mp reads
        subst same
        cases ih unmarked.2 tail with
        | inl kept =>
          obtain ⟨rest', same⟩ := kept
          exact .inl ⟨rest', by rw [same]; rfl⟩
        | inr block =>
          obtain ⟨isMark, begins, rest', same, matched⟩ := block
          exact .inr ⟨isMark, begins, rest', by rw [same]; rfl, matched⟩
      · rw [subFrom_matched unmatched] at reads
        exact absurd (List.cons_eq_cons.mp reads).1 unmarked.1

/-- Such a reading is copied, and the substitution goes on behind it. -/
theorem subFrom_of_reads (head : replacement.head? = some opens) (unmarked : opens ∉ u) {rest rest' : List α}
    (reads : subFrom p replacement 0 (u ++ rest') = u ++ rest) : subFrom p replacement 0 rest' = rest := by
  obtain ⟨middle, rfl⟩ := List.head?_eq_some_iff.mp head
  induction u with
  | nil => exact reads
  | cons c u ih =>
    rw [List.mem_cons, not_or] at unmarked
    by_cases unmatched : p (c :: (u ++ rest')) = 0
    · rw [List.cons_append, subFrom_unmatched unmatched, List.cons_append] at reads
      exact ih unmarked.2 (List.cons_eq_cons.mp reads).2
    · rw [List.cons_append, subFrom_matched unmatched] at reads
      exact absurd (List.cons_eq_cons.mp reads).1 unmarked.1

/-- No spot begins in a replacement. -/
theorem Apart.not_in_replacement (apart : Apart L replacement opens closes) {r rest after : List α}
    (nonempty : r ≠ []) (inside : r <:+ replacement) (spot : L u x) : r ++ rest ≠ u ++ x :: after := by
  intro same
  obtain ⟨c, inWord, foreign⟩ := apart.foreign u x spot
  cases List.append_eq_append_iff.mp same with
  | inl reaches =>
    obtain ⟨more, split, _⟩ := reaches
    -- the spot would read the last symbol of the replacement
    have closing : closes ∈ r := by
      obtain ⟨before, rfl⟩ := inside
      have final := apart.getLast
      rw [List.getLast?_append_of_ne_nil _ nonempty] at final
      exact List.mem_of_getLast? final
    exact apart.closes_not_mem u x spot (by rw [split]; exact List.mem_append_left _ closing)
  | inr within =>
    obtain ⟨more, split, _⟩ := within
    exact foreign (inside.subset (by rw [split]; exact List.mem_append_left _ inWord))

/-- A pattern that matches only at spots matches nowhere in a replacement. -/
theorem Apart.intact (apart : Apart L replacement opens closes) (spots : ∀ t, p t ≠ 0 → SpotAt L t) (s rest : List α)
    (nonempty : s ≠ []) (inside : s <:+ replacement) : p (s ++ rest) = 0 := by
  by_contra matched
  obtain ⟨u, x, after, spot, same⟩ := spots _ matched
  exact apart.not_in_replacement nonempty inside spot same

/-- Where a spot of the output begins, the pattern has found nothing and the same text had been
    read; what completes the spot was there, or is the mark of a replacement. -/
theorem Apart.spot_of_sub (apart : Apart L replacement opens closes) {rest : List α} (spot : L u x)
    (suffix : u ++ x :: rest <:+ sub p replacement text) :
    ∃ t, t <:+ text ∧ p t = 0 ∧ subFrom p replacement 0 t = u ++ x :: rest ∧ ((∃ rest', t = u ++ x :: rest') ∨
      x = opens ∧ replacement <+: x :: rest ∧ ∃ rest', t = u ++ rest' ∧ p rest' ≠ 0) := by
  have nonempty : u ++ x :: rest ≠ [] := by simp
  cases suffix_subFrom nonempty suffix with
  | inl inside =>
    obtain ⟨r, after, nonempty, inReplacement, same⟩ := inside
    exact absurd same.symm (apart.not_in_replacement nonempty inReplacement spot)
  | inr gap =>
    obtain ⟨c, cs, before, unmatched, reads⟩ := gap
    exact ⟨c :: cs, before, unmatched, reads.symm,
      prefix_of_subFrom apart.head (apart.opens_not_mem u x spot) reads.symm⟩

/-- What a replacement completes to a spot, its match completed before. -/
def Completes (p : Pattern α) (L : List α → α → Prop) (opens : α) : Prop :=
  ∀ u, L u opens → ∀ text, p text ≠ 0 → ∃ c rest, text = c :: rest ∧ L u c

theorem Apart.exists_spot (apart : Apart L replacement opens closes) (completes : Completes p L opens)
    (spotted : Spotted L (sub p replacement text)) : ∃ t, t <:+ text ∧ p t = 0 ∧ SpotAt L t := by
  obtain ⟨_, suffix, u, x, rest, spot, rfl⟩ := spotted
  obtain ⟨t, before, unmatched, _, ⟨rest', same⟩ | ⟨rfl, _, rest', same, matched⟩⟩ := apart.spot_of_sub spot suffix
  · exact ⟨t, before, unmatched, u, x, rest', spot, same⟩
  · obtain ⟨c, rest'', split, there⟩ := completes u spot rest' matched
    exact ⟨t, before, unmatched, u, c, rest'', there, by rw [same, split]⟩

/-- A substitution makes no new spot. -/
theorem Apart.spotted_of_sub (apart : Apart L replacement opens closes) (completes : Completes p L opens)
    (spotted : Spotted L (sub p replacement text)) : Spotted L text := by
  obtain ⟨t, suffix, _, spot⟩ := apart.exists_spot completes spotted
  exact ⟨t, suffix, spot⟩

/-- A substitution that detects the spots leaves none. -/
theorem Apart.not_spotted_sub (apart : Apart L replacement opens closes) (completes : Completes p L opens)
    (detects : Detects p L) : ¬ Spotted L (sub p replacement text) := by
  intro spotted
  obtain ⟨t, _, unmatched, spot⟩ := apart.exists_spot completes spotted
  exact detects t spot unmatched

/-! ## Spots that are replacements -/

/-- Every spot is completed by a replacement. -/
def OnlyMarked (L : List α → α → Prop) (replacement text : List α) : Prop :=
  ∀ u x rest, u ++ x :: rest <:+ text → L u x → replacement <+: x :: rest

/-- Without `Completes`, a substitution that detects the spots leaves only those that a
    replacement completes. -/
theorem Apart.onlyMarked_sub (apart : Apart L replacement opens closes) (detects : Detects p L) :
    OnlyMarked L replacement (sub p replacement text) := by
  intro u x rest suffix spot
  obtain ⟨t, _, unmatched, _, ⟨rest', same⟩ | ⟨_, begins, _⟩⟩ := apart.spot_of_sub spot suffix
  · exact absurd unmatched (detects t ⟨u, x, rest', spot, same⟩)
  · exact begins

/-- A pattern that matches nowhere in a text copies it. -/
theorem subFrom_append {r rest : List α} (unmatched : ∀ s, s ≠ [] → s <:+ r → p (s ++ rest) = 0) :
    subFrom p replacement 0 (r ++ rest) = r ++ subFrom p replacement 0 rest := by
  induction r with
  | nil => rfl
  | cons c r ih =>
    have here : p (c :: (r ++ rest)) = 0 := unmatched (c :: r) (by simp) (List.suffix_refl _)
    rw [List.cons_append, subFrom_unmatched here,
      ih fun s nonempty suffix => unmatched s nonempty (suffix.trans (List.suffix_cons c r)), List.cons_append]

/-- A later substitution that matches nowhere in a replacement keeps such spots. -/
theorem Apart.onlyMarked_of_sub (apart : Apart L replacement opens closes)
    (intact : ∀ s rest, s ≠ [] → s <:+ replacement → p (s ++ rest) = 0) (only : OnlyMarked L replacement text) :
    OnlyMarked L replacement (sub p replacement text) := by
  intro u x rest suffix spot
  obtain ⟨t, before, _, reads, ⟨rest', rfl⟩ | ⟨_, begins, _⟩⟩ := apart.spot_of_sub spot suffix
  · obtain ⟨after, begins⟩ := only u x rest' before spot
    have later := subFrom_of_reads apart.head (apart.opens_not_mem u x spot) reads
    rw [← begins, subFrom_append fun s nonempty suffix => intact s after nonempty suffix] at later
    exact ⟨_, later⟩
  · exact begins

end Substitution

end EventPlatform.Lib
