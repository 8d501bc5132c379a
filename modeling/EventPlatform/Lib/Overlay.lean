import EventPlatform.Lib.Dict

/-! # Uncommitted writes over committed rows

A transaction sees the committed rows with its own writes over them, `none` being a row it
has deleted. -/

namespace EventPlatform.Lib

variable {κ ρ : Type*} [DecidableEq κ]

abbrev Writes (κ ρ : Type*) := Dict κ (Option ρ)

def Writes.added (writes : Writes κ ρ) : Dict κ ρ := writes.filterMap fun item => item.2.map (item.1, ·)

def overlay (rows : Dict κ ρ) (writes : Writes κ ρ) : Dict κ ρ :=
  rows.filter (fun item => item.1 ∉ writes.map (·.1)) ++ writes.added

variable {rows : Dict κ ρ} {writes : Writes κ ρ} {key other : κ} {row : ρ} {written : Option ρ}

omit [DecidableEq κ] in
theorem Writes.mem_added : (key, row) ∈ writes.added ↔ (key, some row) ∈ writes := by
  simp only [Writes.added, List.mem_filterMap, Option.map_eq_some_iff, Prod.mk.injEq]
  constructor
  · rintro ⟨item, member, value, holds, rfl, rfl⟩
    rw [← holds]
    exact member
  · intro member
    exact ⟨(key, some row), member, row, rfl, rfl, rfl⟩

theorem mem_overlay : (key, row) ∈ overlay rows writes ↔
    ((key, row) ∈ rows ∧ key ∉ writes.map (·.1)) ∨ (key, some row) ∈ writes := by
  simp only [overlay, List.mem_append, List.mem_filter, decide_eq_true_eq, Writes.mem_added]

@[simp] theorem overlay_nil : overlay rows ([] : Writes κ ρ) = rows := by
  simp [overlay, Writes.added]

omit [DecidableEq κ] in
theorem keys_added_sublist : List.Sublist (writes.added.map (·.1)) (writes.map (·.1)) := by
  induction writes with
  | nil => exact List.Sublist.refl _
  | cons item writes ih =>
    obtain ⟨key, written⟩ := item
    cases written with
    | none => exact (List.Sublist.cons _ ih)
    | some row => exact ih.cons_cons key

/-- No key is seen twice. -/
theorem nodup_overlay (rowsNodup : (rows.map (·.1)).Nodup) (writesNodup : (writes.map (·.1)).Nodup) :
    ((overlay rows writes).map (·.1)).Nodup := by
  rw [overlay, List.map_append, List.nodup_append]
  refine ⟨rowsNodup.sublist (List.filter_sublist.map _), writesNodup.sublist keys_added_sublist, ?_⟩
  intro key first key' second same
  subst same
  obtain ⟨item, member, rfl⟩ := List.mem_map.mp first
  have unwritten := (List.mem_filter.mp member).2
  simp only [decide_eq_true_eq] at unwritten
  exact unwritten (keys_added_sublist.subset second)

theorem Writes.mem_set (nodup : (writes.map (·.1)).Nodup) : (other, some row) ∈ Dict.set key written writes ↔
    (other = key ∧ written = some row) ∨ (other ≠ key ∧ (other, some row) ∈ writes) := by
  rw [Dict.mem_iff_get? (Dict.nodup_keys_set nodup key written)]
  by_cases same : other = key
  · subst same
    simp [Dict.get?_set_self]
  · rw [Dict.get?_set_of_ne writes same, ← Dict.mem_iff_get? nodup]
    simp [same]

/-- What is seen after a write is the row written, or was seen before. -/
theorem mem_overlay_set (nodup : (writes.map (·.1)).Nodup)
    (seen : (other, row) ∈ overlay rows (Dict.set key written writes)) :
    (other = key ∧ written = some row) ∨ (other ≠ key ∧ (other, row) ∈ overlay rows writes) := by
  cases mem_overlay.mp seen with
  | inl kept =>
    have unwritten := kept.2
    rw [Dict.mem_keys_set, not_or] at unwritten
    exact .inr ⟨unwritten.1, mem_overlay.mpr (.inl ⟨kept.1, unwritten.2⟩)⟩
  | inr own =>
    cases (Writes.mem_set nodup).mp own with
    | inl here => exact .inl here
    | inr earlier => exact .inr ⟨earlier.1, mem_overlay.mpr (.inr earlier.2)⟩

/-- What a transaction sees once another has committed is its own, or the other's, or was
    seen before. -/
theorem mem_overlay_overlay {committed : Writes κ ρ} (seen : (key, row) ∈ overlay (overlay rows committed) writes) :
    (key, row) ∈ overlay rows writes ∨ (key, some row) ∈ committed := by
  cases mem_overlay.mp seen with
  | inr own => exact .inl (mem_overlay.mpr (.inr own))
  | inl kept =>
    cases mem_overlay.mp kept.1 with
    | inl old => exact .inl (mem_overlay.mpr (.inl ⟨old.1, kept.2⟩))
    | inr theirs => exact .inr theirs

end EventPlatform.Lib
