import EventPlatform.Operator.AllOrNothing

/-! # What the RECALCULATE row says

The row counts the participants that were removed by the number that `.delete()` returns,
and takes the operator's fields last.  So the count has the cascade in it, and a field of the
operator may stand for any of the five that the call computes. -/

namespace EventPlatform.Operator

open EventPlatform.Lib EventPlatform.Scheduling EventPlatform.Matching EventPlatform.Protocol

/-! ## A true row -/

/-- The counts add up to the participants there were, and the five fields are what the call
    has computed. -/
structure AuditTrue (call : RecalculateCall) (db : Database) (schedule : GeneratedSchedule) (after : Database)
    (details : Payload) : Prop where
  balance : ∃ removed active : Int, details.get? "absent_removed_count" = some (.int removed) ∧
    details.get? "active_participants" = some (.int active) ∧
    removed + active = (db.participantsOf call.eventPk).length
  confirmed : details.get? "confirmed" = some (.bool true)
  absentRemovedCount : details.get? "absent_removed_count" = some (.int (deletedCount db (namedPks call db)))
  activeParticipants : details.get? "active_participants" = some (.int (after.participantsOf call.eventPk).length)
  totalRounds : details.get? "total_rounds" = some (.int schedule.rounds.length)
  violationCount : details.get? "violation_count" = some (.int 0)

/-- No pair and no row of another table is about a named participant. -/
structure NothingHangs (call : RecalculateCall) (db : Database) : Prop where
  pairs : ∀ pair ∈ db.pairs, pair.participantA ∉ namedPks call db ∧ pair.participantB ∉ namedPks call db
  attached : ∀ pid ∈ db.attached, pid ∉ namedPks call db

/-- The participants that stay. -/
def remaining (call : RecalculateCall) (db : Database) : List Participant :=
  (db.participantsOf call.eventPk).filter fun p => ¬ IsNamed call.absentParticipantIds p

/-- `num_rounds` of the event. -/
def roundsAsked (call : RecalculateCall) (db : Database) : Nat :=
  ((db.events.find? (·.event.pk = call.eventPk)).map (·.event.numRounds)).getD 0

/-- What the fields are to say. -/
def auditFields (call : RecalculateCall) (db : Database) : Payload :=
  [("confirmed", .bool true), ("absent_removed_count", .int (namedPks call db).length),
    ("active_participants", .int (remaining call db).length), ("total_rounds", .int (roundsAsked call db)),
    ("violation_count", .int 0)]

/-- If the operator gives the field a value, it is this one. -/
def Leaves (call : RecalculateCall) (field : String × Json) : Prop :=
  ∀ fields, detailFields call.operatorDetails = .ok fields →
    ∀ own, (Dict.ofItems fields).get? field.1 = some own → own = field.2

variable {call : RecalculateCall} {db after : Database} {schedule : GeneratedSchedule} {fields : Payload}

/-! ## The count -/

theorem length_named_add_remaining (call : RecalculateCall) (db : Database) :
    (namedPks call db).length + (remaining call db).length = (db.participantsOf call.eventPk).length := by
  have split := List.length_eq_length_filter_add (l := db.participantsOf call.eventPk)
    fun p => decide (IsNamed call.absentParticipantIds p)
  rw [namedPks, List.length_map, remaining, split]
  simp

/-- The cascade counts nothing exactly when nothing hangs on the named participants. -/
theorem deletedCount_eq_iff :
    deletedCount db (namedPks call db) = (namedPks call db).length ↔ NothingHangs call db := by
  rw [deletedCount]
  constructor
  · intro same
    have noPair : (db.pairs.filter fun pair => pair.participantA ∈ namedPks call db ∨
        pair.participantB ∈ namedPks call db) = [] := List.eq_nil_of_length_eq_zero (by omega)
    have noRow : db.attached.filter (· ∈ namedPks call db) = [] := List.eq_nil_of_length_eq_zero (by omega)
    refine ⟨fun pair member => ?_, fun pid member => ?_⟩
    · simpa using List.filter_eq_nil_iff.mp noPair pair member
    · simpa using List.filter_eq_nil_iff.mp noRow pid member
  · intro hangs
    have noPair : (db.pairs.filter fun pair => pair.participantA ∈ namedPks call db ∨
        pair.participantB ∈ namedPks call db) = [] := by
      apply List.filter_eq_nil_iff.mpr
      intro pair member
      simpa using hangs.pairs pair member
    have noRow : db.attached.filter (· ∈ namedPks call db) = [] := by
      apply List.filter_eq_nil_iff.mpr
      intro pid member
      simpa using hangs.attached pid member
    rw [noPair, noRow]
    rfl

/-! ## The fields -/

/-- A field has the computed value exactly when the operator's own does not replace it. -/
theorem get?_recalculateDetails_eq_iff {absentCount active totalRounds : Nat} {key : String} {computed : Json}
    (known : detailFields call.operatorDetails = .ok fields)
    (first : (recalculateDetails absentCount active totalRounds []).get? key = some computed) :
    (recalculateDetails absentCount active totalRounds fields).get? key = some computed ↔
      Leaves call (key, computed) := by
  have lookup : (recalculateDetails absentCount active totalRounds fields).get? key =
      ((Dict.ofItems fields).get? key).or (some computed) := by
    rw [← first]
    exact Dict.get?_foldl_set fields _ key
  rw [lookup]
  constructor
  · intro same fields' known' own given
    cases known.symm.trans known'
    rw [given] at same
    exact Option.some.inj same
  · intro leaves
    cases given : (Dict.ofItems fields).get? key with
    | none => rfl
    | some own => rw [leaves fields known own given]; rfl

theorem length_rounds_of_accepted {pids : Finset String} {numRounds : Nat}
    (accepted : validateSchedule schedule pids numRounds = []) : schedule.rounds.length = numRounds := by
  have numbers : checkRoundNumbers schedule numRounds = [] := by
    rw [validateSchedule] at accepted
    simp only [List.append_eq_nil_iff] at accepted
    tauto
  rw [checkRoundNumbers, List.append_eq_nil_iff] at numbers
  by_contra different
  simp [different] at numbers

/-! ## The row that is written -/

/-- The written row is true exactly when the cascade and the operator leave it alone. -/
theorem BodyDone.auditTrue_iff (done : BodyDone call db schedule after) :
    AuditTrue call db schedule after done.log.details ↔
      NothingHangs call db ∧ ∀ field ∈ auditFields call db, Leaves call field := by
  obtain ⟨record, pks, persisted, log, fields, selected, own, named, removes, accepted, written, known, logged, rfl⟩ :=
    done
  subst named
  have kept : (deleteParticipants db (namedPks call db)).participantsOf call.eventPk = remaining call db :=
    participantsOf_deleteParticipants removes
  have active : Database.participantsOf { persisted with logs := persisted.logs ++ [log] } call.eventPk =
      remaining call db := by
    obtain ⟨rows, rfl⟩ := persistRows_tables written
    exact kept
  have asked : schedule.rounds.length = roundsAsked call db := by
    rw [length_rounds_of_accepted accepted, roundsAsked, selected]
    rfl
  have people := length_named_add_remaining call db
  rw [kept] at logged
  have details : log.details = recalculateDetails (deletedCount db (namedPks call db)) (remaining call db).length
      schedule.rounds.length fields := by rw [logged]; rfl
  -- what a field asks of the operator's own
  have asks : ∀ {key : String} {computed : Json}, (recalculateDetails (deletedCount db (namedPks call db))
      (remaining call db).length schedule.rounds.length []).get? key = some computed →
        (log.details.get? key = some computed ↔ Leaves call (key, computed)) := by
    intro key computed first
    rw [details]
    exact get?_recalculateDetails_eq_iff known first
  have confirmed := @asks "confirmed" _ rfl
  have removed := @asks "absent_removed_count" _ rfl
  have stayed := @asks "active_participants" _ rfl
  have total := @asks "total_rounds" _ rfl
  have violations := @asks "violation_count" _ rfl
  have forall_fields : (∀ field ∈ auditFields call db, Leaves call field) ↔
      Leaves call ("confirmed", .bool true) ∧ Leaves call ("absent_removed_count", .int (namedPks call db).length) ∧
        Leaves call ("active_participants", .int (remaining call db).length) ∧
        Leaves call ("total_rounds", .int (roundsAsked call db)) ∧ Leaves call ("violation_count", .int 0) := by
    simp [auditFields]
  rw [forall_fields]
  constructor
  · intro audit
    obtain ⟨count, others, countField, othersField, sum⟩ := audit.balance
    have sameCount : (deletedCount db (namedPks call db) : Int) = count := by
      have both := audit.absentRemovedCount.symm.trans countField
      simpa using both
    have sameOthers : ((remaining call db).length : Int) = others := by
      have both := audit.activeParticipants.symm.trans othersField
      rw [active] at both
      simpa using both
    have exact_ : deletedCount db (namedPks call db) = (namedPks call db).length := by omega
    refine ⟨deletedCount_eq_iff.mp exact_, confirmed.mp audit.confirmed, ?_, ?_, ?_, violations.mp audit.violationCount⟩
    · exact exact_ ▸ removed.mp audit.absentRemovedCount
    · exact stayed.mp (active ▸ audit.activeParticipants)
    · exact asked ▸ total.mp audit.totalRounds
  · rintro ⟨hangs, leavesConfirmed, leavesRemoved, leavesActive, leavesTotal, leavesViolations⟩
    have exact_ := deletedCount_eq_iff.mpr hangs
    have removedField := removed.mpr (exact_.symm ▸ leavesRemoved)
    have activeField := stayed.mpr leavesActive
    refine ⟨⟨_, _, removedField, activeField, ?_⟩, confirmed.mpr leavesConfirmed, removedField, ?_,
      total.mpr (asked.symm ▸ leavesTotal), violations.mpr leavesViolations⟩
    · rw [exact_]
      exact_mod_cast people
    · rw [active]
      exact activeField

theorem BodyDone.getLast?_logs (done : BodyDone call db schedule after) : after.logs.getLast? = some done.log := by
  have logs := congrArg Database.logs done.result
  rw [logs, List.getLast?_append]
  rfl

theorem recalculateRows_done (ran : (recalculatePairsPreStart call).runOn db = (.ok schedule, after)) :
    Nonempty (BodyDone call db schedule after) := by
  obtain ⟨_, _, checked⟩ := Db.runOn_ofExcept_bind_eq_ok.mp ran
  obtain ⟨_, _, body⟩ := Db.runOn_ofExcept_bind_eq_ok.mp checked
  exact recalculateRows_ok (Db.runOn_atomic_eq_ok.mp body)

/-- The last log row of a recalculation tells the truth exactly when nothing hung on the
    named participants and the operator's details replace no field by another value. -/
theorem audit_true_iff (ran : (recalculatePairsPreStart call).runOn db = (.ok schedule, after)) :
    ∃ log, after.logs.getLast? = some log ∧ log.event = call.eventPk ∧ log.action = .recalculate ∧
      (AuditTrue call db schedule after log.details ↔
        NothingHangs call db ∧ ∀ field ∈ auditFields call db, Leaves call field) := by
  obtain ⟨done⟩ := recalculateRows_done ran
  refine ⟨done.log, done.getLast?_logs, ?_, ?_, done.auditTrue_iff⟩
  · rw [done.logged]
    rfl
  · rw [done.logged]
    rfl

/-- Cleo has no tag. -/
def cleoUntagged : Database := { cleoAbsent with attached := [] }

theorem audit_true_untagged : ∃ schedule after,
    (recalculatePairsPreStart withoutCleo).runOn cleoUntagged = (.ok schedule, after) ∧
      ∃ log, after.logs.getLast? = some log ∧ log.event = withoutCleo.eventPk ∧ log.action = .recalculate ∧
        (AuditTrue withoutCleo cleoUntagged schedule after log.details ↔
          NothingHangs withoutCleo cleoUntagged ∧
            ∀ field ∈ auditFields withoutCleo cleoUntagged, Leaves withoutCleo field) := by
  have returns : ((recalculatePairsPreStart withoutCleo).runOn cleoUntagged).1.isOk = true := by decide +kernel
  obtain ⟨schedule, after, ran⟩ := Db.returns_of_isOk returns
  exact ⟨schedule, after, ran, audit_true_iff ran⟩

/-- One participant with one tag is removed, and the row counts two. -/
theorem audit_counts_tag : ∃ schedule after log,
    (recalculatePairsPreStart withoutCleo).runOn cleoAbsent = (.ok schedule, after) ∧
      after.logs.getLast? = some log ∧ ¬ AuditTrue withoutCleo cleoAbsent schedule after log.details := by
  have returns : ((recalculatePairsPreStart withoutCleo).runOn cleoAbsent).1.isOk = true := by decide +kernel
  obtain ⟨schedule, after, ran⟩ := Db.returns_of_isOk returns
  obtain ⟨done⟩ := recalculateRows_done ran
  refine ⟨schedule, after, done.log, ran, done.getLast?_logs, fun audit => ?_⟩
  have hangs := (done.auditTrue_iff.mp audit).1
  have named : cleo.pk ∈ namedPks withoutCleo cleoAbsent := by decide +kernel
  exact hangs.attached cleo.pk (by simp [cleoAbsent]) named

end EventPlatform.Operator
