import Mathlib

/-! # Rows replaced by key, or by owner

A row whose key is there replaces the rows of that key, any other row is appended.  Rows
that are put one after another end up beside the rows of all other keys, and to put them a
second time changes nothing.  Where all rows of an owner are deleted first, the new ones
are all that it has. -/

namespace EventPlatform.Lib

variable {α β κ : Type} [DecidableEq κ]

def upsert (key : α → κ) (xs : List α) (x : α) : List α :=
  if xs.any fun y => key y = key x then xs.map fun y => if key y = key x then x else y
  else xs ++ [x]

def upsertAll (key : α → κ) (xs items : List α) : List α := items.foldl (upsert key) xs

variable {key : α → κ} {x y : α} {xs items : List α}

@[simp] theorem upsertAll_nil (key : α → κ) (xs : List α) : upsertAll key xs [] = xs := rfl

@[simp] theorem upsertAll_cons (key : α → κ) (xs : List α) (x : α) (items : List α) :
    upsertAll key xs (x :: items) = upsertAll key (upsert key xs x) items := rfl

theorem upsert_of_fresh (fresh : ∀ y ∈ xs, key y ≠ key x) : upsert key xs x = xs ++ [x] := by
  rw [upsert, if_neg]
  simpa using fresh

theorem upsert_of_mem (member : y ∈ xs) (same : key y = key x) :
    upsert key xs x = xs.map fun y => if key y = key x then x else y := by
  rw [upsert, if_pos]
  exact List.any_eq_true.mpr ⟨y, member, decide_eq_true same⟩

theorem replace_of_fresh (fresh : ∀ y ∈ xs, key y ≠ key x) :
    (xs.map fun y => if key y = key x then x else y) = xs := by
  calc
    (xs.map fun y => if key y = key x then x else y) = xs.map id :=
      List.map_congr_left fun y member => if_neg (fresh y member)
    _ = xs := List.map_id xs

/-- Without two rows of one key, the row takes the place of the one that has its key. -/
theorem upsert_perm (distinct : (xs.map key).Nodup) :
    (upsert key xs x).Perm (x :: xs.filter fun y => key y ≠ key x) := by
  by_cases there : ∃ y ∈ xs, key y = key x
  · obtain ⟨y, member, same⟩ := there
    rw [upsert_of_mem member same]
    obtain ⟨before, after, rfl⟩ := List.append_of_mem member
    simp only [List.map_append, List.map_cons, List.nodup_append, List.nodup_cons, List.mem_map, List.mem_cons]
      at distinct
    have left : ∀ z ∈ before, key z ≠ key x := fun z inBefore =>
      same ▸ distinct.2.2 _ ⟨z, inBefore, rfl⟩ _ (.inl rfl)
    have right : ∀ z ∈ after, key z ≠ key x := fun z inAfter again =>
      distinct.2.1.1 ⟨z, inAfter, again.trans same.symm⟩
    have filterLeft : (before.filter fun z => key z ≠ key x) = before := List.filter_eq_self.mpr (by simpa using left)
    have filterRight : (after.filter fun z => key z ≠ key x) = after := List.filter_eq_self.mpr (by simpa using right)
    rw [List.map_append, List.map_cons, replace_of_fresh left, replace_of_fresh right, if_pos same, List.filter_append,
      List.filter_cons_of_neg (by simpa using same), filterLeft, filterRight]
    exact List.perm_middle
  · have fresh : ∀ y ∈ xs, key y ≠ key x := fun y member same => there ⟨y, member, same⟩
    rw [upsert_of_fresh fresh, List.filter_eq_self.mpr (by simpa using fresh)]
    exact List.perm_append_singleton x xs

theorem nodup_keys_upsert (distinct : (xs.map key).Nodup) : ((upsert key xs x).map key).Nodup := by
  rw [((upsert_perm distinct).map key).nodup_iff, List.map_cons, List.nodup_cons]
  refine ⟨?_, distinct.sublist (List.filter_sublist.map key)⟩
  simp

/-- What has been put, and the rows of all other keys. -/
theorem upsertAll_perm (distinct : (xs.map key).Nodup) (items_ : (items.map key).Nodup) :
    (upsertAll key xs items).Perm (items ++ xs.filter fun y => key y ∉ items.map key) := by
  induction items generalizing xs with
  | nil => simp
  | cons x items ih =>
    rw [List.map_cons, List.nodup_cons] at items_
    have rest : ((x :: xs.filter fun y => key y ≠ key x).filter fun y => key y ∉ items.map key) =
        x :: xs.filter fun y => key y ∉ (x :: items).map key := by
      rw [List.filter_cons_of_pos (by simpa using items_.1), List.filter_filter]
      congr 1
      apply List.filter_congr
      intro y _
      rw [Bool.eq_iff_iff, List.map_cons]
      simp only [Bool.and_eq_true, decide_eq_true_eq, List.mem_cons, not_or, ne_eq]
      exact and_comm
    calc
      (upsertAll key (upsert key xs x) items).Perm
          (items ++ (upsert key xs x).filter fun y => key y ∉ items.map key) := ih (nodup_keys_upsert distinct) items_.2
      List.Perm _ (items ++ x :: xs.filter fun y => key y ∉ (x :: items).map key) :=
        ((upsert_perm distinct).filter _ |>.trans (.of_eq rest)).append_left items
      List.Perm _ _ := List.perm_middle

/-! ## Putting again -/

/-- The row is there, and no other one has its key. -/
structure Settled (key : α → κ) (xs : List α) (x : α) : Prop where
  member : x ∈ xs
  only : ∀ y ∈ xs, key y = key x → y = x

theorem Settled.upsert_eq (settled : Settled key xs x) : upsert key xs x = xs := by
  rw [upsert_of_mem settled.member rfl]
  calc
    (xs.map fun y => if key y = key x then x else y) = xs.map id := by
      apply List.map_congr_left
      intro y member
      by_cases same : key y = key x
      · rw [if_pos same, settled.only y member same]
        rfl
      · rw [if_neg same]
        rfl
    _ = xs := List.map_id xs

theorem mem_upsert : y ∈ upsert key xs x ↔ y = x ∨ y ∈ xs ∧ key y ≠ key x := by
  by_cases there : ∃ z ∈ xs, key z = key x
  · obtain ⟨z, member, same⟩ := there
    rw [upsert_of_mem member same, List.mem_map]
    constructor
    · rintro ⟨z, inside, rfl⟩
      by_cases same : key z = key x
      · exact .inl (if_pos same)
      · rw [if_neg same]
        exact .inr ⟨inside, same⟩
    · rintro (rfl | ⟨inside, other⟩)
      · exact ⟨z, member, if_pos same⟩
      · exact ⟨y, inside, if_neg other⟩
  · have fresh : ∀ y ∈ xs, key y ≠ key x := fun y member same => there ⟨y, member, same⟩
    rw [upsert_of_fresh fresh, List.mem_append, List.mem_singleton, or_comm]
    exact or_congr_right ⟨fun inside => ⟨inside, fresh y inside⟩, And.left⟩

theorem mem_keys_upsert {k : κ} : k ∈ (upsert key xs x).map key ↔ k ∈ xs.map key ∨ k = key x := by
  simp only [List.mem_map, mem_upsert]
  constructor
  · rintro ⟨y, rfl | ⟨member, _⟩, rfl⟩
    · exact .inr rfl
    · exact .inl ⟨y, member, rfl⟩
  · intro there
    by_cases here : k = key x
    · exact ⟨x, .inl rfl, here.symm⟩
    · obtain ⟨y, member, rfl⟩ := there.resolve_right here
      exact ⟨y, .inr ⟨member, here⟩, rfl⟩

theorem mem_keys_upsertAll {k : κ} :
    k ∈ (upsertAll key xs items).map key ↔ k ∈ xs.map key ∨ k ∈ items.map key := by
  induction items generalizing xs with
  | nil => simp
  | cons x items ih => rw [upsertAll_cons, ih, mem_keys_upsert, List.map_cons, List.mem_cons, or_assoc]

theorem Settled.put (key : α → κ) (xs : List α) (x : α) : Settled key (upsert key xs x) x where
  member := mem_upsert.mpr (.inl rfl)
  only := by
    intro y member same
    cases mem_upsert.mp member with
    | inl here => exact here
    | inr other => exact absurd same other.2

theorem Settled.upsert (settled : Settled key xs y) (other : key y ≠ key x) : Settled key (upsert key xs x) y where
  member := mem_upsert.mpr (.inr ⟨settled.member, other⟩)
  only := by
    intro z member same
    cases mem_upsert.mp member with
    | inl here =>
      rw [here] at same
      exact absurd same.symm other
    | inr old => exact settled.only z old.1 same

theorem Settled.upsertAll (settled : Settled key xs y) (other : key y ∉ items.map key) :
    Settled key (upsertAll key xs items) y := by
  induction items generalizing xs with
  | nil => exact settled
  | cons x items ih =>
    rw [List.map_cons, List.mem_cons, not_or] at other
    exact ih (settled.upsert other.1) other.2

/-- Every row that has been put is there when the last one has been. -/
theorem settled_upsertAll (distinct : (items.map key).Nodup) :
    ∀ x ∈ items, Settled key (upsertAll key xs items) x := by
  induction items generalizing xs with
  | nil => exact fun x member => nomatch member
  | cons first items ih =>
    rw [List.map_cons, List.nodup_cons] at distinct
    intro x member
    cases List.mem_cons.mp member with
    | inl here =>
      rw [here]
      exact (Settled.put key xs first).upsertAll distinct.1
    | inr later => exact ih distinct.2 x later

theorem upsertAll_of_settled (settled : ∀ x ∈ items, Settled key xs x) : upsertAll key xs items = xs := by
  induction items with
  | nil => rfl
  | cons x items ih =>
    rw [upsertAll_cons, (settled x List.mem_cons_self).upsert_eq]
    exact ih fun later member => settled later (List.mem_cons_of_mem _ member)

theorem upsertAll_again (distinct : (items.map key).Nodup) :
    upsertAll key (upsertAll key xs items) items = upsertAll key xs items :=
  upsertAll_of_settled (settled_upsertAll distinct)

/-! ## Parts of a table -/

variable {part : α → Bool}

/-- The rows of another part stay as they are. -/
theorem filter_upsert_other (outside : part x = false) (byKey : ∀ y, key y = key x → part y = false) :
    (upsert key xs x).filter part = xs.filter part := by
  by_cases there : ∃ z ∈ xs, key z = key x
  · obtain ⟨z, member, same⟩ := there
    rw [upsert_of_mem member same]
    clear member
    induction xs with
    | nil => rfl
    | cons y xs ih =>
      rw [List.map_cons]
      by_cases here : key y = key x
      · rw [if_pos here, List.filter_cons_of_neg (by simp [outside]), List.filter_cons_of_neg (by simp [byKey y here]), ih]
      · rw [if_neg here, List.filter_cons, List.filter_cons, ih]
  · have fresh : ∀ y ∈ xs, key y ≠ key x := fun y member same => there ⟨y, member, same⟩
    rw [upsert_of_fresh fresh, List.filter_append, List.filter_cons_of_neg (by simp [outside]), List.filter_nil,
      List.append_nil]

/-- The rows of a part that the key is in, as they are listed there. -/
theorem filter_map_upsert {κ' : Type} [DecidableEq κ'] {key' : β → κ'} {f : α → β} (inside : part x = true)
    (byKey : ∀ y ∈ xs, part y = true ∧ key' (f y) = key' (f x) ↔ key y = key x) :
    ((upsert key xs x).filter part).map f = upsert key' ((xs.filter part).map f) (f x) := by
  by_cases there : ∃ z ∈ xs, key z = key x
  · obtain ⟨z, member, same⟩ := there
    obtain ⟨inPart, sameKey⟩ := (byKey z member).mpr same
    have listed : f z ∈ (xs.filter part).map f := List.mem_map_of_mem (List.mem_filter.mpr ⟨member, inPart⟩)
    rw [upsert_of_mem member same, upsert_of_mem listed sameKey]
    -- which row has the key is not needed any more; the lists are compared row by row
    clear listed member
    induction xs with
    | nil => rfl
    | cons y xs ih =>
      have rest := ih fun later inRest => byKey later (List.mem_cons_of_mem _ inRest)
      have here := byKey y List.mem_cons_self
      rw [List.map_cons]
      by_cases replaced : key y = key x
      · obtain ⟨inPart', sameKey'⟩ := here.mpr replaced
        rw [if_pos replaced, List.filter_cons_of_pos inside, List.filter_cons_of_pos inPart', List.map_cons, rest,
          List.map_cons, List.map_cons, if_pos sameKey']
      · rw [if_neg replaced]
        by_cases inPart' : part y = true
        · have otherKey : key' (f y) ≠ key' (f x) := fun same' => replaced (here.mp ⟨inPart', same'⟩)
          rw [List.filter_cons_of_pos inPart', List.filter_cons_of_pos inPart', List.map_cons, rest, List.map_cons,
            List.map_cons, if_neg otherKey]
        · rw [List.filter_cons_of_neg inPart', List.filter_cons_of_neg inPart', rest]
  · have fresh : ∀ y ∈ xs, key y ≠ key x := fun y member same => there ⟨y, member, same⟩
    have fresh' : ∀ y ∈ (xs.filter part).map f, key' y ≠ key' (f x) := by
      intro y member same
      obtain ⟨z, listed, rfl⟩ := List.mem_map.mp member
      obtain ⟨inXs, inPart⟩ := List.mem_filter.mp listed
      exact fresh z inXs ((byKey z inXs).mp ⟨inPart, same⟩)
    rw [upsert_of_fresh fresh, upsert_of_fresh fresh', List.filter_append, List.filter_cons_of_pos inside,
      List.filter_nil, List.map_append]
    rfl

/-! ## Rows of one owner -/

theorem filter_of_kept {p q : α → Bool} (kept : ∀ x ∈ xs, p x = true → q x = true) :
    (xs.filter q).filter p = xs.filter p := by
  rw [List.filter_filter]
  apply List.filter_congr
  intro x member
  by_cases found : p x = true
  · simp [found, kept x member found]
  · simp [found]

variable {owner : α → κ} {k other : κ} {new : List α} {stays : α → Bool}

theorem filter_owner_replaced (gone : ∀ x ∈ xs, stays x = true → owner x ≠ k) (own : ∀ x ∈ new, owner x = k) :
    (xs.filter stays ++ new).filter (owner · = k) = new := by
  have old : (xs.filter stays).filter (owner · = k) = [] := by
    apply List.filter_eq_nil_iff.mpr
    intro x member
    obtain ⟨listed, kept⟩ := List.mem_filter.mp member
    simpa using gone x listed kept
  have added : new.filter (owner · = k) = new := List.filter_eq_self.mpr fun x member => decide_eq_true (own x member)
  rw [List.filter_append, old, added, List.nil_append]

/-- Every other owner has the rows that it had. -/
theorem filter_owner_other (elsewhere : other ≠ k) (kept : ∀ x ∈ xs, owner x = other → stays x = true)
    (own : ∀ x ∈ new, owner x = k) :
    (xs.filter stays ++ new).filter (owner · = other) = xs.filter (owner · = other) := by
  have added : new.filter (owner · = other) = [] := by
    apply List.filter_eq_nil_iff.mpr
    intro x member
    simpa [own x member] using elsewhere.symm
  rw [List.filter_append, added, List.append_nil]
  exact filter_of_kept fun x member here => kept x member (of_decide_eq_true here)

end EventPlatform.Lib
