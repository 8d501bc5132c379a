import Mathlib

/-! # Insertion-ordered dictionaries

A Python `dict` as the association list of its items: an existing key keeps its
position when it is overwritten, a new key goes to the end. -/

namespace EventPlatform.Lib

variable {κ υ : Type*} [DecidableEq κ]

abbrev Dict (κ υ : Type*) := List (κ × υ)

namespace Dict

def get? (d : Dict κ υ) (key : κ) : Option υ := (d.find? (·.1 = key)).map (·.2)

def set (key : κ) (value : υ) : Dict κ υ → Dict κ υ
  | [] => [(key, value)]
  | (k, v) :: rest => if k = key then (key, value) :: rest else (k, v) :: set key value rest

def delete (key : κ) (d : Dict κ υ) : Dict κ υ := d.filter (·.1 ≠ key)

@[simp] theorem get?_nil (key : κ) : get? ([] : Dict κ υ) key = none := rfl

theorem get?_cons (k : κ) (v : υ) (d : Dict κ υ) (key : κ) :
    get? ((k, v) :: d) key = if k = key then some v else get? d key := by
  by_cases h : k = key <;> simp [get?, h]

@[simp] theorem get?_set_self (d : Dict κ υ) (key : κ) (value : υ) :
    get? (d.set key value) key = some value := by
  induction d with
  | nil => simp [set, get?_cons]
  | cons item d ih =>
    obtain ⟨k, v⟩ := item
    by_cases h : k = key <;> simp [set, h, get?_cons, ih]

theorem get?_set_of_ne (d : Dict κ υ) {key other : κ} (h : other ≠ key) (value : υ) :
    get? (d.set key value) other = get? d other := by
  induction d with
  | nil => simp [set, get?_cons, h.symm]
  | cons item d ih =>
    obtain ⟨k, v⟩ := item
    by_cases same : k = key
    · subst same
      simp [set, get?_cons, h.symm]
    · simp only [set, same, if_false, get?_cons, ih]

theorem get?_delete (d : Dict κ υ) (key other : κ) :
    get? (d.delete key) other = if other = key then none else get? d other := by
  induction d with
  | nil => simp [delete]
  | cons item d ih =>
    obtain ⟨k, v⟩ := item
    simp only [delete] at ih
    by_cases dropped : k = key
    · subst dropped
      rw [delete, List.filter_cons_of_neg (by simp), ih, get?_cons]
      by_cases here : other = k
      · rw [if_pos here, if_pos here]
      · rw [if_neg here, if_neg here, if_neg (Ne.symm here)]
    · rw [delete, List.filter_cons_of_pos (by simpa using dropped), get?_cons, get?_cons, ih]
      by_cases here : k = other
      · subst here
        simp [dropped]
      · simp [here]

theorem mem_keys_set (d : Dict κ υ) (key : κ) (value : υ) (k : κ) :
    k ∈ (d.set key value).map (·.1) ↔ k = key ∨ k ∈ d.map (·.1) := by
  induction d with
  | nil => simp [set]
  | cons item d ih =>
    obtain ⟨k', v⟩ := item
    by_cases same : k' = key
    · subst same; simp [set]
    · simp only [set, same, if_false, List.map_cons, List.mem_cons, ih]
      tauto

/-- The items are the graph of `get?` as long as no key occurs twice. -/
theorem mem_iff_get? {d : Dict κ υ} (nodup : (d.map (·.1)).Nodup) {key : κ} {value : υ} :
    (key, value) ∈ d ↔ get? d key = some value := by
  induction d with
  | nil => simp
  | cons item d ih =>
    obtain ⟨k, v⟩ := item
    simp only [List.map_cons, List.nodup_cons] at nodup
    by_cases same : k = key
    · subst same
      have absent : (k, value) ∉ d := fun h => nodup.1 (List.mem_map.mpr ⟨_, h, rfl⟩)
      simp [get?_cons, absent, eq_comm]
    · simp [get?_cons, same, Ne.symm same, ih nodup.2]

theorem nodup_keys_set {d : Dict κ υ} (nodup : (d.map (·.1)).Nodup) (key : κ) (value : υ) :
    ((d.set key value).map (·.1)).Nodup := by
  induction d with
  | nil => simp [set]
  | cons item d ih =>
    obtain ⟨k, v⟩ := item
    simp only [List.map_cons, List.nodup_cons] at nodup
    by_cases same : k = key
    · subst same; simpa [set] using nodup
    · have fresh : k ∉ (Dict.set key value d).map (·.1) := fun h =>
        ((mem_keys_set d key value k).mp h).elim same nodup.1
      simpa only [set, same, if_false, List.map_cons, List.nodup_cons] using ⟨fresh, ih nodup.2⟩

/-- A new key goes to the end. -/
theorem set_of_not_mem {d : Dict κ υ} {key : κ} (fresh : key ∉ d.map (·.1)) (value : υ) :
    d.set key value = d ++ [(key, value)] := by
  induction d with
  | nil => rfl
  | cons item d ih =>
    obtain ⟨k, v⟩ := item
    simp only [List.map_cons, List.mem_cons, not_or] at fresh
    rw [set, if_neg (Ne.symm fresh.1), ih fresh.2, List.cons_append]

/-- Items with distinct keys make the dictionary that they are. -/
theorem foldl_set {items : List (κ × υ)} {d : Dict κ υ} (nodup : ((d ++ items).map (·.1)).Nodup) :
    items.foldl (fun d item => Dict.set item.1 item.2 d) d = d ++ items := by
  induction items generalizing d with
  | nil => simp
  | cons item items ih =>
    obtain ⟨k, v⟩ := item
    have fresh : k ∉ d.map (·.1) := by
      rw [List.map_append, List.map_cons] at nodup
      exact fun member => List.disjoint_of_nodup_append nodup member List.mem_cons_self
    have grown : ((d ++ [(k, v)]) ++ items).map (·.1) = (d ++ (k, v) :: items).map (·.1) := by simp
    rw [List.foldl_cons, set_of_not_mem fresh, ih (by rwa [grown]), List.append_assoc]
    rfl

/-- The dictionary that a list of items makes. -/
def ofItems (items : List (κ × υ)) : Dict κ υ := items.foldl (fun d item => set item.1 item.2 d) []

/-- Items written over a dictionary hide what was there. -/
theorem get?_foldl_set (items : List (κ × υ)) (d : Dict κ υ) (key : κ) :
    get? (items.foldl (fun d item => set item.1 item.2 d) d) key = (get? (ofItems items) key).or (get? d key) := by
  induction items using List.reverseRecOn with
  | nil => rfl
  | append_singleton items item ih =>
    simp only [ofItems, List.foldl_append, List.foldl_cons, List.foldl_nil]
    by_cases same : key = item.1
    · rw [same, get?_set_self, get?_set_self]
      rfl
    · rw [get?_set_of_ne _ same, get?_set_of_ne _ same, ih]
      rfl

/-! ## Dictionaries that record a history

A history lists the writes made so far.  It is functional when no key was ever
written with two values, and then a dictionary can record all of it. -/

def Functional {κ υ : Type*} (history : List (κ × υ)) : Prop :=
  ∀ key first second, (key, first) ∈ history → (key, second) ∈ history → first = second

def Records (d : Dict κ υ) (history : List (κ × υ)) : Prop :=
  ∀ key value, get? d key = some value ↔ (key, value) ∈ history

theorem Records.nil : Records ([] : Dict κ υ) [] := by simp [Records]

theorem Records.functional {d : Dict κ υ} {history : List (κ × υ)} (h : Records d history) :
    Functional history := by
  intro key first second member member'
  exact Option.some.inj (((h key first).mpr member).symm.trans ((h key second).mpr member'))

theorem Functional.append_left {κ υ : Type*} {history later : List (κ × υ)}
    (h : Functional (history ++ later)) : Functional history :=
  fun key first second member member' =>
    h key first second (List.mem_append_left _ member) (List.mem_append_left _ member')

/-- A write that agrees with the history is recorded. -/
theorem Records.set {d : Dict κ υ} {history : List (κ × υ)} (h : Records d history) (key : κ)
    (value : υ) (agrees : ∀ earlier, get? d key = some earlier → earlier = value) :
    Records (d.set key value) (history ++ [(key, value)]) := by
  intro k v
  rw [List.mem_append, List.mem_singleton, ← h k v]
  by_cases same : k = key
  · subst same
    rw [get?_set_self]
    constructor
    · intro written
      exact .inr (by rw [Option.some.inj written])
    · rintro (earlier | written)
      · rw [agrees v earlier]
      · rw [(Prod.mk.inj written).2]
  · rw [get?_set_of_ne _ same]
    simp [same]

end Dict

end EventPlatform.Lib
