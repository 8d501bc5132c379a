import EventPlatform.Leadership.Lease

/-! # Who acquires the lease, and who leads

A call by itself, none of whose statements is overtaken by another process, asked at the
time `now`.  At the very end of a lease `acquire_lease` takes it for live, and
`get_current_leader` for expired. -/

namespace EventPlatform.Leadership

open EventPlatform.Scheduling

/-! ## Whole calls -/

/-- What the statements of a call return when they run one after another. -/
inductive Returns : LeaseCall → Option LeaderLease → Bool → Option LeaderLease → Prop where
  | done {call : LeaseCall} {row after : Option LeaderLease} {result : Bool} :
      call.execute row = (after, .returns result) → Returns call row result after
  | next {call : LeaseCall} {row middle after : Option LeaderLease} {statement : LeaseStatement} {result : Bool} :
      call.execute row = (middle, .next statement) → Returns { call with statement } middle result after →
        Returns call row result after

/-- A call that is just starting. -/
def LeaseFunction.call (function : LeaseFunction) (leaseName leaderId : String) (ttlSeconds now : Int) : LeaseCall :=
  ⟨leaseName, leaderId, ttlSeconds, now, function.entry⟩

def acquireLease (leaderId : String) (ttlSeconds now : Int) : Option LeaderLease → Bool × Option LeaderLease
  | some existing =>
    if existing.expiresAt < now then
      (true, some ⟨leaderId, now, now + seconds ttlSeconds, existing.version + 1⟩)
    else (existing.leaderId = leaderId ∧ now ≤ existing.expiresAt, some existing)
  | none => (true, some ⟨leaderId, now, now + seconds ttlSeconds, 1⟩)

def renewLease (leaderId : String) (ttlSeconds now : Int) : Option LeaderLease → Bool × Option LeaderLease
  | some row =>
    if row.leaderId = leaderId ∧ now ≤ row.expiresAt then
      (true, some { row with expiresAt := now + seconds ttlSeconds })
    else (false, some row)
  | none => (false, none)

def getCurrentLeader (now : Int) (row : Option LeaderLease) : Option LeaderLease :=
  row.filter fun lease => now < lease.expiresAt

def isLeader (leaderId : String) (now : Int) (row : Option LeaderLease) : Bool :=
  (getCurrentLeader now row).any (·.leaderId = leaderId)

variable {leaseName leaderId : String} {ttlSeconds now : Int} {row : Option LeaderLease}

/-- `acquire_lease` always returns, and what it returns is `acquireLease`. -/
theorem returns_acquireLease (leaseName leaderId : String) (ttlSeconds now : Int) (row : Option LeaderLease) :
    Returns (LeaseFunction.acquireLease.call leaseName leaderId ttlSeconds now) row
      (acquireLease leaderId ttlSeconds now row).1 (acquireLease leaderId ttlSeconds now row).2 := by
  cases row with
  | none => exact .next rfl (.next rfl (.done rfl))
  | some existing =>
    by_cases expired : existing.expiresAt < now
    · refine .done ?_
      simp [LeaseFunction.call, LeaseFunction.entry, LeaseCall.execute, LeaseCall.takeOver, LeaseCall.newExpires,
        acquireLease, expired]
    · have live : (LeaseFunction.acquireLease.call leaseName leaderId ttlSeconds now).execute (some existing) =
          (some existing, .next .get) := by
        simp [LeaseFunction.call, LeaseFunction.entry, LeaseCall.execute, LeaseCall.takeOver, expired]
      refine .next live (.done ?_)
      simp only [LeaseFunction.call, LeaseCall.execute, LeaseCall.get, acquireLease, if_neg expired]
      rfl

theorem returns_renewLease (leaseName leaderId : String) (ttlSeconds now : Int) (row : Option LeaderLease) :
    Returns (LeaseFunction.renewLease.call leaseName leaderId ttlSeconds now) row
      (renewLease leaderId ttlSeconds now row).1 (renewLease leaderId ttlSeconds now row).2 := by
  refine .done ?_
  simp only [LeaseFunction.call, LeaseFunction.entry, LeaseCall.execute, LeaseCall.renew, LeaseCall.newExpires]
  cases row with
  | none => rfl
  | some row => by_cases mine : row.leaderId = leaderId ∧ now ≤ row.expiresAt <;> simp only [renewLease, mine] <;> rfl

/-! ## The law -/

theorem isLeader_iff : isLeader leaderId now row = true ↔
    ∃ lease, row = some lease ∧ now < lease.expiresAt ∧ lease.leaderId = leaderId := by
  cases row with
  | none => simp [isLeader, getCurrentLeader]
  | some lease => by_cases live : now < lease.expiresAt <;> simp [isLeader, getCurrentLeader, Option.filter, live]

/-- Whoever is told that it has the lease leads, and whoever is refused has another leader. -/
structure LeadershipAgrees (leaderId : String) (ttlSeconds now : Int) (row : Option LeaderLease) : Prop where
  acquired : (acquireLease leaderId ttlSeconds now row).1 = true →
    isLeader leaderId now (acquireLease leaderId ttlSeconds now row).2 = true
  renewed : (renewLease leaderId ttlSeconds now row).1 = true →
    isLeader leaderId now (renewLease leaderId ttlSeconds now row).2 = true
  refused : (acquireLease leaderId ttlSeconds now row).1 = false →
    ∃ other, other ≠ leaderId ∧ isLeader other now (acquireLease leaderId ttlSeconds now row).2 = true

theorem lt_newExpires (positive : 0 < ttlSeconds) : now < now + seconds ttlSeconds := by
  simp only [seconds]
  omega

theorem isLeader_renewLease (positive : 0 < ttlSeconds) (renewed : (renewLease leaderId ttlSeconds now row).1 = true) :
    isLeader leaderId now (renewLease leaderId ttlSeconds now row).2 = true := by
  cases row with
  | none => cases renewed
  | some lease =>
    simp only [renewLease] at renewed ⊢
    split at renewed
    next mine =>
      rw [if_pos mine]
      exact isLeader_iff.mpr ⟨_, rfl, lt_newExpires positive, mine.1⟩
    next => cases renewed

/-- At the end of a lease nobody leads, and `acquire_lease` still takes it for live. -/
theorem not_agrees_at_expiry {lease : LeaderLease} (ends : lease.expiresAt = now) :
    ¬ LeadershipAgrees leaderId ttlSeconds now (some lease) := by
  intro agrees
  have kept : acquireLease leaderId ttlSeconds now (some lease) = (decide (lease.leaderId = leaderId), some lease) := by
    simp [acquireLease, ends]
  have nobody : ∀ other, isLeader other now (some lease) = false := by
    intro other
    rw [Bool.eq_false_iff, ne_eq, isLeader_iff]
    rintro ⟨_, same, live, -⟩
    cases same
    omega
  by_cases mine : lease.leaderId = leaderId
  · have leads := agrees.acquired (by rw [kept]; exact decide_eq_true mine)
    rw [kept, nobody] at leads
    cases leads
  · obtain ⟨other, -, leads⟩ := agrees.refused (by rw [kept]; exact decide_eq_false mine)
    rw [kept, nobody] at leads
    cases leads

/-- Both calls return, and the functions agree unless they are asked at the very time at which the
    lease ends. -/
theorem leadership_agrees_iff (leaseName leaderId : String) (ttlSeconds now : Int) (row : Option LeaderLease)
    (positive : 0 < ttlSeconds) :
    Returns (LeaseFunction.acquireLease.call leaseName leaderId ttlSeconds now) row
      (acquireLease leaderId ttlSeconds now row).1 (acquireLease leaderId ttlSeconds now row).2 ∧
    Returns (LeaseFunction.renewLease.call leaseName leaderId ttlSeconds now) row
      (renewLease leaderId ttlSeconds now row).1 (renewLease leaderId ttlSeconds now row).2 ∧
    (LeadershipAgrees leaderId ttlSeconds now row ↔ ∀ lease, row = some lease → lease.expiresAt ≠ now) := by
  refine ⟨returns_acquireLease _ _ _ _ _, returns_renewLease _ _ _ _ _, ?_⟩
  constructor
  · rintro agrees lease rfl ends
    exact not_agrees_at_expiry ends agrees
  · intro apart
    cases row with
    | none =>
      have inserted : isLeader leaderId now (acquireLease leaderId ttlSeconds now none).2 = true :=
        isLeader_iff.mpr ⟨_, rfl, lt_newExpires positive, rfl⟩
      exact ⟨fun _ => inserted, isLeader_renewLease positive, fun refused => by cases refused⟩
    | some lease =>
      by_cases expired : lease.expiresAt < now
      -- an expired lease is taken over, and nobody is refused
      · have taken : acquireLease leaderId ttlSeconds now (some lease) =
            (true, some ⟨leaderId, now, now + seconds ttlSeconds, lease.version + 1⟩) := if_pos expired
        refine ⟨fun _ => ?_, isLeader_renewLease positive, fun refused => ?_⟩
        · rw [taken]
          exact isLeader_iff.mpr ⟨_, rfl, lt_newExpires positive, rfl⟩
        · rw [taken] at refused
          cases refused
      · have ends := apart lease rfl
        have live : now < lease.expiresAt := by omega
        -- a live one stays, and its holder leads
        have kept : acquireLease leaderId ttlSeconds now (some lease) =
            (decide (lease.leaderId = leaderId), some lease) := by
          simp [acquireLease, expired, le_of_lt live]
        refine ⟨fun acquired => ?_, isLeader_renewLease positive, fun refused => ?_⟩
        · rw [kept] at acquired ⊢
          exact isLeader_iff.mpr ⟨lease, rfl, live, of_decide_eq_true acquired⟩
        · rw [kept] at refused ⊢
          exact ⟨lease.leaderId, of_decide_eq_false refused, isLeader_iff.mpr ⟨lease, rfl, live, rfl⟩⟩

/-- A lease of half a minute. -/
def halfMinuteLease : LeaderLease := ⟨"leader-1", 0, seconds 30, 1⟩

theorem leadership_agrees_live : LeadershipAgrees "leader-2" 30 (seconds 10) (some halfMinuteLease) := by
  refine (leadership_agrees_iff "orchestrator" "leader-2" 30 (seconds 10) (some halfMinuteLease) (by decide)).2.2.mpr ?_
  intro lease same
  cases same
  decide

/-- Its holder acquires it at its last instant and does not lead; another is refused, and nobody leads. -/
theorem leadership_disagrees_at_expiry :
    ¬ LeadershipAgrees "leader-1" 30 (seconds 30) (some halfMinuteLease) ∧
      ¬ LeadershipAgrees "leader-2" 30 (seconds 30) (some halfMinuteLease) := by
  refine ⟨fun agrees => ?_, fun agrees => ?_⟩
  · have leads := agrees.acquired (by decide)
    exact absurd leads (by decide)
  · obtain ⟨other, -, leads⟩ := agrees.refused (by decide)
    obtain ⟨lease, same, live, -⟩ := isLeader_iff.mp leads
    have kept : (acquireLease "leader-2" 30 (seconds 30) (some halfMinuteLease)).2 = some halfMinuteLease := by decide
    rw [kept] at same
    cases same
    exact absurd live (by decide)

end EventPlatform.Leadership
