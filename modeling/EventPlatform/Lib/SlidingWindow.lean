import Mathlib

/-! # Sliding-window limits

A limiter keeps the times of the calls it has admitted, drops those that have left
the window, and admits a call while fewer than `limit` remain.  The times of the calls
never go back. -/

namespace EventPlatform.Lib.SlidingWindow

variable {τ : Type*} [AddCommGroup τ] [LinearOrder τ]

def prune (window now : τ) (times : List τ) : List τ := times.dropWhile (· ≤ now - window)

/-- Whether the call is admitted, and the times that are kept then. -/
def allow (window : τ) (limit : Nat) (now : τ) (times : List τ) : Bool × List τ :=
  let recent := prune window now times
  if limit ≤ recent.length then (false, recent) else (true, recent ++ [now])

/-- The times in the window that ends with `last`. -/
def inWindow (window last : τ) (times : List τ) : List τ :=
  times.filter fun t => last - window < t ∧ t ≤ last

/-- What the limiter keeps is the part of `admitted` that has not expired. -/
structure Keeps (window : τ) (limit : Nat) (now : τ) (admitted kept : List τ) : Prop where
  ordered : admitted.Pairwise (· ≤ ·)
  past : ∀ t ∈ admitted, t ≤ now
  kept : ∃ last ≤ now, kept = admitted.filter (last - window < ·)
  sparse : ∀ last, (inWindow window last admitted).length ≤ limit

variable {window now later last : τ} {limit : Nat} {admitted kept times : List τ}

theorem Keeps.nil (window : τ) (limit : Nat) (now : τ) : Keeps window limit now [] [] :=
  ⟨.nil, by simp, ⟨now, le_refl now, rfl⟩, by simp [inWindow]⟩

theorem Keeps.wait (keeps : Keeps window limit now admitted kept) (passes : now ≤ later) :
    Keeps window limit later admitted kept := by
  obtain ⟨last, before, same⟩ := keeps.kept
  exact ⟨keeps.ordered, fun t member => le_trans (keeps.past t member) passes,
    ⟨last, le_trans before passes, same⟩, keeps.sparse⟩

theorem allow_cases (window : τ) (limit : Nat) (now : τ) (times : List τ) :
    (limit ≤ (prune window now times).length ∧
      allow window limit now times = (false, prune window now times)) ∨
    ((prune window now times).length < limit ∧
      allow window limit now times = (true, prune window now times ++ [now])) := by
  simp only [allow]
  by_cases full : limit ≤ (prune window now times).length
  · exact .inl ⟨full, if_pos full⟩
  · exact .inr ⟨not_le.mp full, if_neg full⟩

/-- In order, dropping the expired times from the front drops all of them. -/
theorem prune_eq_filter (ordered : times.Pairwise (· ≤ ·)) :
    prune window now times = times.filter (now - window < ·) := by
  induction times with
  | nil => rfl
  | cons t times ih =>
    obtain ⟨first, rest⟩ := List.pairwise_cons.mp ordered
    simp only [prune, List.dropWhile_cons, decide_eq_true_eq] at ih ⊢
    by_cases expired : t ≤ now - window
    · rw [if_pos expired, ih rest, List.filter_cons_of_neg (by simpa using expired)]
    · rw [if_neg expired]
      have live : now - window < t := not_le.mp expired
      have all : ∀ u ∈ t :: times, decide (now - window < u) = true := by
        intro u member
        cases List.mem_cons.mp member with
        | inl here => simpa [here] using live
        | inr later => simpa using lt_of_lt_of_le live (first u later)
      exact (List.filter_eq_self.mpr all).symm

/-! ## A run of calls -/

/-- The times that were admitted, and those that are kept. -/
structure Log (τ : Type*) where
  admitted : List τ
  kept : List τ

def Log.empty : Log τ := ⟨[], []⟩

def Log.call (window : τ) (limit : Nat) (log : Log τ) (now : τ) : Log τ :=
  let answer := SlidingWindow.allow window limit now log.kept
  ⟨if answer.1 then log.admitted ++ [now] else log.admitted, answer.2⟩

def Log.run (window : τ) (limit : Nat) (times : List τ) : Log τ := times.foldl (Log.call window limit) .empty

theorem Log.run_concat (times : List τ) (now : τ) :
    Log.run window limit (times ++ [now]) = (Log.run window limit times).call window limit now := by
  simp [Log.run]

/-- Nothing is admitted twice, and the order of the calls is kept. -/
theorem Log.admitted_sublist (times : List τ) : (Log.run window limit times).admitted.Sublist times := by
  induction times using List.reverseRecOn with
  | nil => exact .refl []
  | append_singleton times t ih =>
    rw [Log.run_concat, Log.call]
    dsimp only
    split
    · exact ih.append (.refl [t])
    · exact ih.trans (List.sublist_append_left times [t])

/-! ## One call -/

variable [IsOrderedAddMonoid τ]

/-- A later look at what is kept sees what it would see of all that was admitted. -/
theorem Keeps.prune (keeps : Keeps window limit now admitted kept) (passes : now ≤ later) :
    prune window later kept = admitted.filter (later - window < ·) := by
  obtain ⟨last, before, rfl⟩ := keeps.kept
  rw [prune_eq_filter (keeps.ordered.filter _), List.filter_filter]
  refine List.filter_congr fun t _ => ?_
  have expires : last - window ≤ later - window := sub_le_sub_right (le_trans before passes) window
  simp only [Bool.and_eq_decide, decide_eq_true_eq, decide_eq_decide]
  exact ⟨And.left, fun live => ⟨live, lt_of_le_of_lt expires live⟩⟩

/-- A call that is refused leaves the admitted times as they were. -/
theorem Keeps.refuse (keeps : Keeps window limit now admitted kept) (passes : now ≤ later) :
    Keeps window limit later admitted (SlidingWindow.prune window later kept) :=
  ⟨keeps.ordered, fun t member => le_trans (keeps.past t member) passes,
    ⟨later, le_refl later, keeps.prune passes⟩, keeps.sparse⟩

/-- A call that is admitted finds room in every window that it is in. -/
theorem Keeps.accept (keeps : Keeps window limit now admitted kept) (passes : now ≤ later)
    (positive : 0 < window) (room : (SlidingWindow.prune window later kept).length < limit) :
    Keeps window limit later (admitted ++ [later]) (SlidingWindow.prune window later kept ++ [later]) := by
  have past : ∀ t ∈ admitted, t ≤ later := fun t member => le_trans (keeps.past t member) passes
  rw [keeps.prune passes] at room ⊢
  refine ⟨?_, ?_, ⟨later, le_refl later, ?_⟩, fun last => ?_⟩
  · refine List.pairwise_append.mpr ⟨keeps.ordered, List.pairwise_singleton _ _, ?_⟩
    intro t member u last
    rw [List.mem_singleton.mp last]
    exact past t member
  · intro t member
    cases List.mem_append.mp member with
    | inl old => exact past t old
    | inr new => rw [List.mem_singleton.mp new]
  · rw [List.filter_append, List.filter_cons_of_pos (by simpa using positive), List.filter_nil]
  · rw [inWindow, List.filter_append, List.length_append]
    -- only a window with the call in it can have grown
    by_cases covers : last - window < later ∧ later ≤ last
    · -- what the window holds of the old times has not expired at the call
      have few : (admitted.filter fun t => last - window < t ∧ t ≤ last).length ≤
          (admitted.filter (later - window < ·)).length := by
        refine (List.monotone_filter_right admitted fun t inside => ?_).length_le
        simp only [decide_eq_true_eq] at inside ⊢
        exact lt_of_le_of_lt (sub_le_sub_right covers.2 window) inside.1
      have one : ([later].filter fun t => last - window < t ∧ t ≤ last).length ≤ 1 :=
        List.length_filter_le _ [later]
      omega
    · have none : [later].filter (fun t => last - window < t ∧ t ≤ last) = [] :=
        List.filter_cons_of_neg (by simpa using covers)
      rw [none]
      exact keeps.sparse last

/-- What a call does: the times kept still belong to the times admitted, which now count
    this call if it was let through. -/
theorem Keeps.allow (keeps : Keeps window limit now admitted kept) (passes : now ≤ later)
    (positive : 0 < window) :
    Keeps window limit later (if (allow window limit later kept).1 then admitted ++ [later] else admitted)
      (allow window limit later kept).2 := by
  rcases allow_cases window limit later kept with ⟨_, refused⟩ | ⟨room, accepted⟩
  · simp only [refused]
    exact keeps.refuse passes
  · simp only [accepted]
    exact keeps.accept passes positive room

/-! ## What a call is answered -/

/-- What is left of the times kept is the window that ends now. -/
theorem Keeps.prune_eq_inWindow (keeps : Keeps window limit now admitted kept) (passes : now ≤ later) :
    SlidingWindow.prune window later kept = inWindow window later admitted := by
  rw [keeps.prune passes, inWindow]
  refine List.filter_congr fun t member => ?_
  have past : t ≤ later := le_trans (keeps.past t member) passes
  simp [past]

/-- A call is admitted exactly when the window that ends with it has room. -/
theorem Keeps.admits_iff (keeps : Keeps window limit now admitted kept) (passes : now ≤ later) :
    (SlidingWindow.allow window limit later kept).1 = true ↔ (inWindow window later admitted).length < limit := by
  rw [← keeps.prune_eq_inWindow passes]
  cases allow_cases window limit later kept with
  | inl full =>
    obtain ⟨noRoom, refused⟩ := full
    simp only [refused, Bool.false_eq_true, false_iff, not_lt]
    exact noRoom
  | inr free =>
    obtain ⟨room, accepted⟩ := free
    simp only [accepted, true_iff]
    exact room

/-! ## All calls -/

theorem Keeps.run (positive : 0 < window) (ordered : times.Pairwise (· ≤ ·)) (past : ∀ t ∈ times, t ≤ later) :
    Keeps window limit later (Log.run window limit times).admitted (Log.run window limit times).kept := by
  induction times using List.reverseRecOn generalizing later with
  | nil => exact .nil window limit later
  | append_singleton times t ih =>
    obtain ⟨before, -, upTo⟩ := List.pairwise_append.mp ordered
    have keeps := ih before fun u member => upTo u member t List.mem_cons_self
    rw [Log.run_concat]
    exact (keeps.allow (le_refl t) positive).wait (past t (List.mem_append_right _ List.mem_cons_self))

/-- After a call exactly the admitted times that have not expired are kept. -/
theorem Log.kept_call (positive : 0 < window) (ordered : (times ++ [now]).Pairwise (· ≤ ·)) :
    (Log.run window limit (times ++ [now])).kept =
      (Log.run window limit (times ++ [now])).admitted.filter (now - window < ·) := by
  obtain ⟨before, -, upTo⟩ := List.pairwise_append.mp ordered
  have keeps : Keeps window limit now (Log.run window limit times).admitted (Log.run window limit times).kept :=
    .run positive before fun u member => upTo u member now List.mem_cons_self
  have recent := keeps.prune (le_refl now)
  rw [Log.run_concat]
  rcases allow_cases window limit now (Log.run window limit times).kept with ⟨-, refused⟩ | ⟨-, accepted⟩
  · simp only [Log.call, refused, Bool.false_eq_true, if_false]
    exact recent
  · simp only [Log.call, accepted, if_true, List.filter_append, recent]
    simp [positive]

/-- A window that includes its start and not its end holds no more than one that ends with a time in it. -/
theorem Keeps.sparse_from (keeps : Keeps window limit now admitted kept) (first : τ) :
    (admitted.filter fun t => first ≤ t ∧ t < first + window).length ≤ limit := by
  have ordered := keeps.ordered.filter fun t => decide (first ≤ t ∧ t < first + window)
  cases inside : (admitted.filter fun t => first ≤ t ∧ t < first + window).reverse with
  | nil =>
    rw [List.reverse_eq_nil_iff.mp inside]
    exact Nat.zero_le limit
  | cons last earlier =>
    have split := List.reverse_eq_cons_iff.mp inside
    refine le_trans (List.Sublist.length_le ?_) (keeps.sparse last)
    rw [split] at ordered
    -- the window that ends with its last time holds them all
    have greatest : ∀ t ∈ admitted.filter (fun t => first ≤ t ∧ t < first + window), t ≤ last := by
      intro t member
      rw [split] at member
      cases List.mem_append.mp member with
      | inl before => exact (List.pairwise_append.mp ordered).2.2 t before last List.mem_cons_self
      | inr here => rw [List.mem_singleton.mp here]
    have lastInside : last < first + window := by
      have member : last ∈ admitted.filter fun t => first ≤ t ∧ t < first + window := by
        rw [split]
        exact List.mem_append_right _ List.mem_cons_self
      have bounds := (List.mem_filter.mp member).2
      simp only [decide_eq_true_eq] at bounds
      exact bounds.2
    have expires : last - window < first := sub_lt_iff_lt_add.mpr lastInside
    have within : admitted.filter (fun t => first ≤ t ∧ t < first + window) =
        (inWindow window last admitted).filter fun t => first ≤ t ∧ t < first + window := by
      rw [inWindow, List.filter_filter]
      refine List.filter_congr fun t member => ?_
      by_cases bounds : first ≤ t ∧ t < first + window
      · have least : t ≤ last := greatest t (List.mem_filter.mpr ⟨member, by simpa using bounds⟩)
        simp [bounds, least, lt_of_lt_of_le expires bounds.1]
      · simp [bounds]
    rw [within]
    exact List.filter_sublist

end EventPlatform.Lib.SlidingWindow
