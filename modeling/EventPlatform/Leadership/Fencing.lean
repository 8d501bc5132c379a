import EventPlatform.Leadership.Lease
import EventPlatform.Lib.Runs

/-! # Mutual exclusion and fencing of the lease

A stale clock reading is a lower bound of the clock, so the `WHERE` clauses err
on the side of the holder: nobody else gets the lease before it has expired. -/

namespace EventPlatform.Leadership

open EventPlatform.Lib EventPlatform.Scheduling

/-! ## What one statement can do -/

/-- The effects of a statement on the row of its lease. -/
inductive Effect (call : LeaseCall) : Option LeaderLease → Option LeaderLease → Prop where
  | unchanged (row : Option LeaderLease) : Effect call row row
  | takeover (old : LeaderLease) : old.expiresAt < call.now →
      Effect call (some old)
        (some ⟨call.leaderId, call.now, call.newExpires, old.version + 1⟩)
  | insert : Effect call none (some ⟨call.leaderId, call.now, call.newExpires, 1⟩)
  | expiry (old : LeaderLease) (expiresAt : Int) : old.leaderId = call.leaderId →
      Effect call (some old) (some { old with expiresAt })

theorem execute_effect (call : LeaseCall) (row : Option LeaderLease) :
    Effect call row (call.execute row).1 := by
  simp only [LeaseCall.execute]
  cases call.statement with
  | takeOver =>
    cases row with
    | none => exact .unchanged none
    | some row =>
      simp only [LeaseCall.takeOver]
      split
      next expired => exact .takeover row expired
      next => exact .unchanged _
  | get => cases row <;> exact .unchanged _
  | create =>
    cases row with
    | none => exact .insert
    | some row => exact .unchanged _
  | renew =>
    cases row with
    | none => exact .unchanged none
    | some row =>
      simp only [LeaseCall.renew]
      split
      next mine => exact .expiry row _ mine.1
      next => exact .unchanged _
  | release =>
    cases row with
    | none => exact .unchanged none
    | some row =>
      simp only [LeaseCall.release]
      split
      next mine => exact .expiry row _ mine
      next => exact .unchanged _

/-- A call that returns `True` leaves its own id in the row. -/
theorem execute_true {call : LeaseCall} {row : Option LeaderLease}
    (returns : (call.execute row).2 = .returns true) :
    ∃ row', (call.execute row).1 = some row' ∧ row'.leaderId = call.leaderId := by
  simp only [LeaseCall.execute] at returns ⊢
  -- only the branches that write the id, or have found it in the row, return `True`
  cases statement : call.statement with
  | takeOver =>
    simp only [statement] at returns ⊢
    cases row with
    | none => cases returns
    | some row =>
      simp only [LeaseCall.takeOver] at returns ⊢
      split at returns
      next expired => rw [if_pos expired]; exact ⟨_, rfl, rfl⟩
      next => cases returns
  | get =>
    simp only [statement] at returns ⊢
    cases row with
    | none => cases returns
    | some row =>
      simp only [LeaseCall.get, Progress.returns.injEq, decide_eq_true_eq] at returns
      exact ⟨row, rfl, returns.1⟩
  | create =>
    simp only [statement] at returns ⊢
    cases row with
    | none => exact ⟨_, rfl, rfl⟩
    | some row => cases returns
  | renew =>
    simp only [statement] at returns ⊢
    cases row with
    | none => cases returns
    | some row =>
      simp only [LeaseCall.renew] at returns ⊢
      split at returns
      next mine => rw [if_pos mine]; exact ⟨_, rfl, mine.1⟩
      next => cases returns
  | release =>
    simp only [statement] at returns ⊢
    cases row with
    | none => cases returns
    | some row =>
      simp only [LeaseCall.release] at returns ⊢
      split at returns
      next mine => rw [if_pos mine]; exact ⟨_, rfl, mine⟩
      next => cases returns

/-! ## What one step can do -/

variable {s : LeaseState} {action : LeaseAction} {name : String}

/-- The step is a statement of `call`. -/
def Runs (s : LeaseState) (action : LeaseAction) (call : LeaseCall) : Prop :=
  ∃ process, action = .statement process ∧ s.calls process = some call

/-- A row changes only through a statement of a call on its lease. -/
theorem step_effect (s : LeaseState) (action : LeaseAction) (name : String) :
    (s.step action).rows name = s.rows name ∨
      ∃ call, Runs s action call ∧ call.leaseName = name ∧
        (s.step action).rows name = (call.execute (s.rows name)).1 := by
  cases action with
  | pass now => exact .inl rfl
  | call process function leaseName leaderId ttlSeconds =>
    left
    simp only [LeaseState.step]
    cases s.calls process <;> rfl
  | statement process =>
    simp only [LeaseState.step]
    cases pending : s.calls process with
    | none => exact .inl rfl
    | some call =>
      by_cases same : call.leaseName = name
      · subst same
        exact .inr ⟨call, ⟨process, rfl, pending⟩, rfl, by simp⟩
      · exact .inl (by simp [Function.update_of_ne (Ne.symm same)])

theorem step_clock (s : LeaseState) (action : LeaseAction) : s.clock ≤ (s.step action).clock := by
  cases action with
  | pass now => exact le_max_left _ _
  | call process function leaseName leaderId ttlSeconds =>
    simp only [LeaseState.step]
    cases s.calls process <;> exact le_refl _
  | statement process =>
    simp only [LeaseState.step]
    cases s.calls process <;> exact le_refl _

/-- No call has read a time that lies ahead. -/
def Timely (s : LeaseState) : Prop :=
  ∀ process call, s.calls process = some call → call.now ≤ s.clock

theorem Timely.step (timely : Timely s) (action : LeaseAction) : Timely (s.step action) := by
  intro process call pending
  have clock := step_clock s action
  -- the clock has not gone back since the call read it
  suffices call.now ≤ s.clock from le_trans this clock
  cases action with
  | pass now => exact timely process call pending
  | call other function leaseName leaderId ttlSeconds =>
    simp only [LeaseState.step] at pending
    cases busy : s.calls other with
    | some _ =>
      rw [busy] at pending
      exact timely process call pending
    | none =>
      rw [busy] at pending
      simp only [Function.update_apply] at pending
      split at pending
      · cases pending
        exact le_refl _
      · exact timely process call pending
  | statement other =>
    simp only [LeaseState.step] at pending
    cases busy : s.calls other with
    | none =>
      rw [busy] at pending
      exact timely process call pending
    | some running =>
      rw [busy] at pending
      simp only [Function.update_apply] at pending
      split at pending
      · -- the call goes on with the time it has read
        have read := timely other running busy
        generalize (running.execute (s.rows running.leaseName)).2 = progress at pending
        cases progress with
        | next statement => cases pending; exact read
        | returns result => cases pending
      · exact timely process call pending

/-! ## Holding the lease -/

/-- The step lets an acquire or a renew under `leaderId` return `True`. -/
def Grants (s : LeaseState) (action : LeaseAction) (name leaderId : String) : Prop :=
  ∃ call, Runs s action call ∧ call.leaseName = name ∧ call.leaderId = leaderId ∧
    call.statement ≠ .release ∧ (call.execute (s.rows name)).2 = .returns true

/-- A call under `leaderId` makes the stored expiry earlier. -/
def LowersExpiry (s : LeaseState) (action : LeaseAction) (name leaderId : String) : Prop :=
  ∃ call, Runs s action call ∧ call.leaseName = name ∧ call.leaderId = leaderId ∧
    ∃ row row', s.rows name = some row ∧ (s.step action).rows name = some row' ∧
      row'.expiresAt < row.expiresAt

structure Held (name leaderId : String) (until_ : Int) (s : LeaseState) : Prop where
  timely : Timely s
  held : ∃ row, s.rows name = some row ∧ row.leaderId = leaderId ∧ until_ ≤ row.expiresAt

variable {leaderId : String} {until_ : Int}

theorem Grants.row (grants : Grants s action name leaderId) :
    ∃ row, (s.step action).rows name = some row ∧ row.leaderId = leaderId := by
  obtain ⟨call, ⟨process, rfl, pending⟩, rfl, rfl, _, returns⟩ := grants
  obtain ⟨row, stored, mine⟩ := execute_true returns
  exact ⟨row, by simp [LeaseState.step, pending, stored], mine⟩

/-- Until it expires, a held lease stays with its holder. -/
theorem Held.row (held : Held name leaderId until_ s) (live : s.clock ≤ until_)
    (action : LeaseAction) : ∃ row', (s.step action).rows name = some row' ∧
      row'.leaderId = leaderId ∧ (until_ ≤ row'.expiresAt ∨ LowersExpiry s action name leaderId) := by
  obtain ⟨row, stored, mine, expiry⟩ := held.held
  cases step_effect s action name with
  | inl same => exact ⟨row, by rw [same, stored], mine, .inl expiry⟩
  | inr changed =>
    obtain ⟨call, runs, onName, after⟩ := changed
    have read : call.now ≤ s.clock := by
      obtain ⟨process, _, pending⟩ := runs
      exact held.timely process call pending
    have effect := execute_effect call (s.rows name)
    rw [← after, stored] at effect
    generalize result : (s.step action).rows name = row' at effect
    cases effect with
    | unchanged => exact ⟨row, rfl, mine, .inl expiry⟩
    -- a takeover asks for a lease that ran out before the call, and this one lasts
    | takeover _ expired => omega
    | expiry _ expiresAt holder =>
      refine ⟨_, rfl, mine, ?_⟩
      cases le_or_gt until_ expiresAt with
      | inl later => exact .inl later
      | inr earlier =>
        refine .inr ⟨call, runs, onName, by rw [← holder, mine], row, _, stored, result, ?_⟩
        show expiresAt < row.expiresAt
        omega

theorem Held.step (held : Held name leaderId until_ s) (live : s.clock ≤ until_)
    (kept : ¬ LowersExpiry s action name leaderId) : Held name leaderId until_ (s.step action) := by
  obtain ⟨row', stored, mine, expiry⟩ := held.row live action
  exact ⟨held.timely.step action, row', stored, mine, expiry.resolve_right kept⟩

/-! ## Whole runs -/

/-- The lease `name` in a run from the state `start`. -/
structure Fenced (start : LeaseState) (actions : List LeaseAction) (name : String) : Prop where
  /-- Once there is a row it stays. -/
  kept : ∀ v ∈ visited LeaseState.step start actions, ∀ row, v.1.rows name = some row →
    ∃ row', (v.1.step v.2).rows name = some row'
  /-- Only an expired lease changes hands, and its version goes up. -/
  takeover : ∀ v ∈ visited LeaseState.step start actions, ∀ row row',
    v.1.rows name = some row → (v.1.step v.2).rows name = some row' →
    row.leaderId ≠ row'.leaderId → row.expiresAt < v.1.clock ∧ row.version < row'.version
  /-- A lease that was granted is granted to nobody else before the stored expiry,
      unless a call of its holder has made that earlier. -/
  exclusive : ∀ before first middle second after,
    actions = before ++ first :: (middle ++ second :: after) → ∀ leaderId row other,
    Grants (start.run before) first name leaderId →
    ((start.run before).step first).rows name = some row →
    Grants (((start.run before).step first).run middle) second name other →
    (((start.run before).step first).run middle).clock ≤ row.expiresAt →
    other = leaderId ∨ ∃ v ∈ visited LeaseState.step ((start.run before).step first) middle,
      LowersExpiry v.1 v.2 name leaderId

theorem Timely.takeover (timely : Timely s) {row row' : LeaderLease} (before : s.rows name = some row)
    (after : (s.step action).rows name = some row') (changed : row.leaderId ≠ row'.leaderId) :
    row.expiresAt < s.clock ∧ row.version < row'.version := by
  cases step_effect s action name with
  | inl same =>
    rw [same, before] at after
    cases after
    exact absurd rfl changed
  | inr effect =>
    obtain ⟨call, ⟨process, _, pending⟩, _, result⟩ := effect
    have read := timely process call pending
    have effect := execute_effect call (s.rows name)
    rw [← result, before, after] at effect
    cases effect with
    | unchanged => exact absurd rfl changed
    | takeover _ expired => exact ⟨lt_of_lt_of_le expired read, Nat.lt_succ_self _⟩
    | expiry => exact absurd rfl changed

theorem row_kept {row : LeaderLease} (before : s.rows name = some row) :
    ∃ row', (s.step action).rows name = some row' := by
  cases step_effect s action name with
  | inl same => exact ⟨row, by rw [same, before]⟩
  | inr effect =>
    obtain ⟨call, _, _, result⟩ := effect
    have effect := execute_effect call (s.rows name)
    rw [← result, before] at effect
    generalize (s.step action).rows name = after at effect
    cases effect <;> exact ⟨_, rfl⟩

/-- For every interleaving of the statements of any number of calls. -/
theorem lease_fenced (clock : Int) (rows : String → Option LeaderLease) (actions : List LeaseAction)
    (name : String) : Fenced (LeaseState.start clock rows) actions name := by
  have start : Timely (LeaseState.start clock rows) := fun process call pending => by cases pending
  have preserved : ∀ (s : LeaseState) (action : LeaseAction), Timely s → True → Timely (s.step action) :=
    fun s action timely _ => timely.step action
  have timely := visited_invariant preserved start fun (v : LeaseState × LeaseAction)
    (_ : v ∈ visited LeaseState.step _ actions) => trivial
  refine ⟨fun v _ row before => row_kept before,
    fun v member row row' before after changed => (timely v member).takeover before after changed, ?_⟩
  intro before first middle second after split leaderId row other granted stored granted' live
  have timelyFirst : Timely ((LeaseState.start clock rows).run before) :=
    foldl_invariant preserved start fun _ _ => trivial
  generalize (LeaseState.start clock rows).run before = s at *
  by_contra neither
  rw [not_or] at neither
  obtain ⟨different, unlowered⟩ := neither
  obtain ⟨row', stored', mine⟩ := granted.row
  rw [stored] at stored'
  cases stored'
  have held : Held name leaderId row.expiresAt (s.step first) :=
    ⟨timelyFirst.step first, row, stored, mine, le_refl _⟩
  have preserved : ∀ (s : LeaseState) (action : LeaseAction), Held name leaderId row.expiresAt s →
      s.clock ≤ row.expiresAt ∧ ¬ LowersExpiry s action name leaderId →
      Held name leaderId row.expiresAt (s.step action) :=
    fun s action held allowed => held.step allowed.1 allowed.2
  -- the clock has not passed the expiry in any state up to the second grant
  have early : ∀ v ∈ visited LeaseState.step (s.step first) middle, v.1.clock ≤ row.expiresAt :=
    fun v member => le_trans (visited_le_foldl step_clock v member) live
  have stillHeld : Held name leaderId row.expiresAt ((s.step first).run middle) :=
    foldl_invariant preserved held fun v member =>
      ⟨early v member, fun lowers => unlowered ⟨v, member, lowers⟩⟩
  obtain ⟨row₁, after₁, mine₁, _⟩ := stillHeld.row live second
  obtain ⟨row₂, after₂, mine₂⟩ := granted'.row
  rw [after₁] at after₂
  cases after₂
  exact different (mine₂.symm.trans mine₁)

end EventPlatform.Leadership
