import Mathlib

/-! # Calls on a database

A call reads and writes a database and may raise.  What it has written when it raises stays
written, unless an `atomic` block around it rolls it back. -/

namespace EventPlatform.Lib

abbrev Db (σ ε : Type) := ExceptT ε (StateM σ)

namespace Db

variable {σ ε α β : Type} {x : Db σ ε α} {f : α → Db σ ε β} {s s' : σ} {a : α} {b : β} {e : ε}

/-- What the call returns or raises, and the database it leaves. -/
def runOn (x : Db σ ε α) (s : σ) : Except ε α × σ := (ExceptT.run x).run s

/-- `transaction.atomic()`: an exception rolls back what the block has written. -/
def atomic (x : Db σ ε α) : Db σ ε α := ExceptT.mk fun s =>
  match x.runOn s with
  | (.ok a, s') => (.ok a, s')
  | (.error e, _) => (.error e, s)

/-- A check that raises when it fails. -/
def require (ok : Bool) (e : ε) : Db σ ε Unit := if ok then pure () else throw e

/-- A computation that reads and writes nothing, with its errors as the caller sees them. -/
def ofExcept {δ : Type} (g : δ → ε) : Except δ α → Db σ ε α
  | .ok a => pure a
  | .error d => throw (g d)

/-- A call with its errors as the caller sees them. -/
def mapError {δ : Type} (g : δ → ε) (x : Db σ δ α) : Db σ ε α := ExceptT.mk fun s =>
  match x.runOn s with
  | (.ok a, s') => (.ok a, s')
  | (.error d, s') => (.error (g d), s')

@[simp] theorem runOn_pure (a : α) (s : σ) : (pure a : Db σ ε α).runOn s = (.ok a, s) := rfl

@[simp] theorem runOn_throw (e : ε) (s : σ) : (throw e : Db σ ε α).runOn s = (.error e, s) := rfl

@[simp] theorem runOn_get (s : σ) : (get : Db σ ε σ).runOn s = (.ok s, s) := rfl

@[simp] theorem runOn_modify (g : σ → σ) (s : σ) : (modify g : Db σ ε PUnit).runOn s = (.ok ⟨⟩, g s) := rfl

@[simp] theorem runOn_require (ok : Bool) (e : ε) (s : σ) :
    (require ok e).runOn s = if ok then (.ok (), s) else (.error e, s) := by
  simp only [require]
  split <;> rfl

theorem runOn_bind (x : Db σ ε α) (f : α → Db σ ε β) (s : σ) :
    (x >>= f).runOn s = match x.runOn s with
      | (.ok a, s') => (f a).runOn s'
      | (.error e, s') => (.error e, s') := by
  simp only [runOn, ExceptT.run_bind, StateT.run_bind]
  cases (ExceptT.run x).run s with
  | mk result s' => cases result <;> rfl

theorem runOn_map (g : α → β) (x : Db σ ε α) (s : σ) :
    (g <$> x).runOn s = match x.runOn s with
      | (.ok a, s') => (.ok (g a), s')
      | (.error e, s') => (.error e, s') := by
  rw [map_eq_pure_bind, runOn_bind]
  rfl

theorem runOn_bind_ok (ran : x.runOn s = (.ok a, s')) : (x >>= f).runOn s = (f a).runOn s' := by
  rw [runOn_bind, ran]

theorem runOn_bind_error (ran : x.runOn s = (.error e, s')) : (x >>= f).runOn s = (.error e, s') := by
  rw [runOn_bind, ran]

theorem runOn_bind_eq_ok : (x >>= f).runOn s = (.ok b, s') ↔
    ∃ a t, x.runOn s = (.ok a, t) ∧ (f a).runOn t = (.ok b, s') := by
  rw [runOn_bind]
  cases ran : x.runOn s with
  | mk result t =>
    cases result with
    | ok a => simp
    | error e => simp

theorem runOn_require_bind_eq_ok {ok : Bool} {f : Unit → Db σ ε β} :
    (require ok e >>= f).runOn s = (.ok b, s') ↔ ok = true ∧ (f ()).runOn s = (.ok b, s') := by
  rw [runOn_bind, runOn_require]
  cases ok <;> simp

theorem runOn_ofExcept_bind_eq_ok {δ : Type} {g : δ → ε} {result : Except δ α} :
    (ofExcept g result >>= f).runOn s = (.ok b, s') ↔ ∃ a, result = .ok a ∧ (f a).runOn s = (.ok b, s') := by
  rw [runOn_bind]
  cases result <;> simp [ofExcept]

theorem runOn_mapError_eq_ok {δ : Type} {g : δ → ε} {x : Db σ δ α} :
    (mapError g x).runOn s = (.ok a, s') ↔ x.runOn s = (.ok a, s') := by
  have unfolded : (mapError g x).runOn s = match x.runOn s with
      | (.ok a, s') => (.ok a, s')
      | (.error d, s') => (.error (g d), s') := rfl
  rw [unfolded]
  cases x.runOn s with
  | mk result t => cases result <;> simp

theorem runOn_atomic_eq_ok : (atomic x).runOn s = (.ok a, s') ↔ x.runOn s = (.ok a, s') := by
  have unfolded : (atomic x).runOn s = match x.runOn s with
      | (.ok a, s') => (.ok a, s')
      | (.error e, _) => (.error e, s) := rfl
  rw [unfolded]
  cases x.runOn s with
  | mk result t => cases result <;> simp

theorem returns_of_isOk (returns : (x.runOn s).1.isOk = true) : ∃ a s', x.runOn s = (.ok a, s') := by
  cases ran : x.runOn s with
  | mk result s' =>
    rw [ran] at returns
    cases result with
    | ok a => exact ⟨a, s', rfl⟩
    | error e => cases returns

/-! ## Loops -/

variable {ρ : Type} {insert : ρ → Db σ ε Unit} {rows : List ρ}

theorem runOn_forM_cons (row : ρ) (rows : List ρ) (s : σ) :
    ((row :: rows).forM insert).runOn s = match (insert row).runOn s with
      | (.ok _, s') => (rows.forM insert).runOn s'
      | (.error e, s') => (.error e, s') := by
  have unfolded : (row :: rows).forM insert = insert row >>= fun _ => rows.forM insert := rfl
  rw [unfolded, runOn_bind]
  cases (insert row).runOn s with
  | mk result s' => cases result <;> rfl

/-- A loop returns when each of its turns does, in the state that the turns before have left. -/
theorem runOn_forM_ok {after : List ρ → σ} (each : ∀ before row rest, rows = before ++ row :: rest →
    (insert row).runOn (after before) = (.ok (), after (before ++ [row]))) :
    (rows.forM insert).runOn (after []) = (.ok (), after rows) := by
  suffices rest : ∀ before rest, rows = before ++ rest →
      (rest.forM insert).runOn (after before) = (.ok (), after rows) from rest [] rows rfl
  intro before rest split
  induction rest generalizing before with
  | nil =>
    rw [List.append_nil] at split
    rw [split]
    rfl
  | cons row rest ih =>
    rw [runOn_forM_cons, each before row rest split]
    exact ih (before ++ [row]) (by simpa using split)

/-- What a loop has done when it returns, turn by turn. -/
theorem runOn_forM_foldl {add : σ → ρ → σ} (adds : ∀ row s s', (insert row).runOn s = (.ok (), s') → s' = add s row)
    (ran : (rows.forM insert).runOn s = (.ok (), s')) : s' = rows.foldl add s := by
  induction rows generalizing s with
  | nil => cases ran; rfl
  | cons row rows ih =>
    rw [runOn_forM_cons] at ran
    cases first : (insert row).runOn s with
    | mk result t =>
      rw [first] at ran
      cases result with
      | error e => cases ran
      | ok _ =>
        rw [adds row s t first] at ran
        exact ih ran

/-- An invariant of every turn is one of the loop. -/
theorem runOn_forM_invariant {Inv : σ → Prop} (keeps : ∀ row ∈ rows, ∀ s s', Inv s →
    (insert row).runOn s = (.ok (), s') → Inv s') (inv : Inv s)
    (ran : (rows.forM insert).runOn s = (.ok (), s')) : Inv s' := by
  induction rows generalizing s with
  | nil => cases ran; exact inv
  | cons row rows ih =>
    rw [runOn_forM_cons] at ran
    cases first : (insert row).runOn s with
    | mk result t =>
      rw [first] at ran
      cases result with
      | error e => cases ran
      | ok _ =>
        exact ih (fun later member => keeps later (List.mem_cons_of_mem _ member))
          (keeps row List.mem_cons_self s t inv first) ran

/-! ## All or nothing -/

/-- A call that leaves the database as it is. -/
def ReadOnly (x : Db σ ε α) : Prop := ∀ s, (x.runOn s).2 = s

/-- A call that leaves the database as it is when it raises. -/
def AllOrNothing (x : Db σ ε α) : Prop := ∀ s e s', x.runOn s = (.error e, s') → s' = s

theorem ReadOnly.pure (a : α) : ReadOnly (Pure.pure a : Db σ ε α) := fun _ => rfl

theorem ReadOnly.throw (e : ε) : ReadOnly (MonadExcept.throw e : Db σ ε α) := fun _ => rfl

theorem ReadOnly.get : ReadOnly (MonadState.get : Db σ ε σ) := fun _ => rfl

theorem ReadOnly.require (ok : Bool) (e : ε) : ReadOnly (Db.require ok e : Db σ ε Unit) := by
  intro s
  rw [runOn_require]
  split <;> rfl

theorem ReadOnly.ofExcept {δ : Type} (g : δ → ε) (result : Except δ α) :
    ReadOnly (Db.ofExcept g result : Db σ ε α) := by
  intro s
  cases result <;> rfl

theorem ReadOnly.bind (first : ReadOnly x) (rest : ∀ a, ReadOnly (f a)) : ReadOnly (x >>= f) := by
  intro s
  have kept := first s
  rw [runOn_bind]
  cases ran : x.runOn s with
  | mk result t =>
    rw [ran] at kept
    cases result with
    | ok a => exact (rest a t).trans kept
    | error e => exact kept

theorem AllOrNothing.atomic (x : Db σ ε α) : AllOrNothing (atomic x) := by
  intro s e s' raised
  have unfolded : (Db.atomic x).runOn s = match x.runOn s with
      | (.ok a, s') => (.ok a, s')
      | (.error e, _) => (.error e, s) := rfl
  rw [unfolded] at raised
  cases ran : x.runOn s with
  | mk result t =>
    rw [ran] at raised
    cases result with
    | ok a => cases raised
    | error e => cases raised; rfl

theorem AllOrNothing.bind (first : ReadOnly x) (rest : ∀ a, AllOrNothing (f a)) : AllOrNothing (x >>= f) := by
  intro s e s' raised
  have kept := first s
  rw [runOn_bind] at raised
  cases ran : x.runOn s with
  | mk result t =>
    rw [ran] at raised kept
    cases result with
    | ok a => exact (rest a t e s' raised).trans kept
    | error e => cases raised; exact kept

theorem AllOrNothing.mapError {δ : Type} {g : δ → ε} {x : Db σ δ α} (first : AllOrNothing x) :
    AllOrNothing (mapError g x) := by
  intro s e s' raised
  have unfolded : (Db.mapError g x).runOn s = match x.runOn s with
      | (.ok a, s') => (.ok a, s')
      | (.error d, s') => (.error (g d), s') := rfl
  rw [unfolded] at raised
  cases ran : x.runOn s with
  | mk result t =>
    rw [ran] at raised
    cases result with
    | ok a => cases raised
    | error d => cases raised; exact first s d _ ran

/-- What only returns a value after a call raises where the call does. -/
theorem AllOrNothing.of_pure {g : α → β} (first : AllOrNothing x) :
    AllOrNothing (x >>= fun a => Pure.pure (g a)) := by
  intro s e s' raised
  rw [runOn_bind] at raised
  cases ran : x.runOn s with
  | mk result t =>
    rw [ran] at raised
    cases result with
    | ok a => cases raised
    | error d => cases raised; exact first s _ _ ran

/-! ## What a call keeps -/

/-- A call that keeps a property of the database, whether it returns or raises. -/
def Keeps (P : σ → Prop) (x : Db σ ε α) : Prop := ∀ s, P s → P (x.runOn s).2

variable {P : σ → Prop}

theorem ReadOnly.keeps (reads : ReadOnly x) : Keeps P x := by
  intro s kept
  rwa [reads s]

theorem Keeps.pure (a : α) : Keeps P (Pure.pure a : Db σ ε α) := fun _ kept => kept

theorem Keeps.modify {g : σ → σ} (keeps : ∀ s, P s → P (g s)) : Keeps P (modify g : Db σ ε PUnit) := keeps

theorem Keeps.bind (first : Keeps P x) (rest : ∀ a, Keeps P (f a)) : Keeps P (x >>= f) := by
  intro s kept
  have middle := first s kept
  rw [runOn_bind]
  cases ran : x.runOn s with
  | mk result t =>
    rw [ran] at middle
    cases result with
    | ok a => exact rest a t middle
    | error e => exact middle

theorem Keeps.of_runOn {result : Except ε α} (keeps : Keeps P x) (kept : P s) (ran : x.runOn s = (result, s')) :
    P s' := by
  have after := keeps s kept
  rwa [ran] at after

end Db

end EventPlatform.Lib
