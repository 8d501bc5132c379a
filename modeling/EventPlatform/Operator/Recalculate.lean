import EventPlatform.Operator.EventStatus
import EventPlatform.Operator.TimelineShape
import EventPlatform.Orchestrator.Freeze

/-! # Recalculating the pairs

`recalculate_pairs_pre_start` asks the status of the event whether it has started.  The
dispatcher asks the clock and the rounds, and never touches the status. -/

namespace EventPlatform.Operator

open EventPlatform.Lib EventPlatform.Scheduling EventPlatform.Matching EventPlatform.Protocol
open EventPlatform.Orchestrator

/-! ## The service -/

def forbiddenStatuses : List EventStatus := [.running, .paused, .completed, .cancelled, .active]

inductive RecalculateError where
  | permissionDenied (message : String)
  | validationError (message : String)
  | valueError
  | matchingError (error : MatchingError)
  | integrityError

/-- The rows that a recalculation reads and writes.  `weights` is what the event's
    configuration amounts to, if it is valid; `dependents` counts the rows of other tables
    that go with a participant; `audit` holds the details of the RECALCULATE rows. -/
structure PreStartTables where
  status : EventStatus
  participants : List Participant
  weights : Option ScoringWeights
  store : EventStore
  logs : List OperatorActionLog
  audit : List Payload
  dependents : String → Nat

structure RecalculateRequest where
  absentParticipantIds : List String
  operatorDetails : Payload
  now : Int

def checkConfirmed (operatorConfirmed : Bool) : Except RecalculateError Unit :=
  if operatorConfirmed then .ok ()
  else .error (.permissionDenied "Operator explicit confirmation is required to recalculate pairings.")

def checkStatus (status : EventStatus) : Except RecalculateError Unit :=
  if status ∈ forbiddenStatuses then
    .error (.validationError
      s!"Recalculation is only allowed before the event starts. Current status: '{status.value}'.")
  else .ok ()

/-- What is asked before the rows are touched: `seen` is the status of the caller's own
    copy of the event, `status` that of the locked row. -/
def checkGate (operatorConfirmed : Bool) (seen status : EventStatus) : Except RecalculateError Unit := do
  checkConfirmed operatorConfirmed
  checkStatus seen
  checkStatus status

/-- `id__in`, where an id that is no UUID raises. -/
def absentValues (ids : List String) : Except RecalculateError (List Nat) :=
  ids.mapM fun pid =>
    match uuidValue pid with
    | none => .error (.validationError s!"“{pid}” is not a valid UUID.")
    | some value => .ok value

def IsAbsent (values : List Nat) (participant : Participant) : Prop :=
  ∃ value ∈ values, uuidValue participant.pk = some value

instance (values : List Nat) : DecidablePred (IsAbsent values) :=
  fun participant => inferInstanceAs (Decidable (∃ value ∈ values, uuidValue participant.pk = some value))

/-- `.delete()`: the participants with their pairs and whatever else hangs on them, and
    the number of all the rows deleted. -/
def deleteAbsent (values : List Nat) (tables : PreStartTables) : Nat × PreStartTables :=
  let absent := tables.participants.filter (IsAbsent values)
  let meets (pair : Pair) : Prop := IsAbsent values pair.participantA ∨ IsAbsent values pair.participantB
  let pairs := tables.store.pairs.filter fun pair => meets pair
  (absent.length + pairs.length + (absent.map fun p => tables.dependents p.pk).sum,
    { tables with
      participants := tables.participants.filter fun p => ¬ IsAbsent values p
      store := { tables.store with pairs := tables.store.pairs.filter fun pair => ¬ meets pair } })

/-- The details of the log row; the operator's own come last. -/
def recalculateDetails (absentCount activeParticipants totalRounds : Nat) (operatorDetails : Payload) :
    Payload :=
  operatorDetails.foldl (fun details field => details.set field.1 field.2)
    [("confirmed", .bool true), ("absent_removed_count", .int absentCount),
      ("active_participants", .int activeParticipants), ("total_rounds", .int totalRounds),
      ("violation_count", .int 0)]

/-- The transaction behind the lock; an error rolls all of it back. -/
def recalculateLocked (request : RecalculateRequest) (tables : PreStartTables) :
    Except RecalculateError PreStartTables := do
  let (absentCount, tables) ←
    if request.absentParticipantIds.isEmpty then pure (0, tables)
    else do
      let values ← absentValues request.absentParticipantIds
      pure (deleteAbsent values tables)
  match tables.weights with
  | none => .error .valueError
  | some weights =>
    let event := tables.store.event
    let matchInput := buildMatchInput event tables.participants weights
    let active := matchInput.participants.length
    if active < 2 then
      .error (.matchingError (.matchingError
        s!"Cannot generate schedule: event has fewer than 2 active participants (got {active})."))
    else
      match generateSchedule matchInput with
      | .error error => .error (.matchingError error)
      | .ok schedule =>
        let violations := validateSchedule schedule (tables.participants.map (·.pk)).toFinset event.numRounds
        if 0 < violations.length then
          .error (.matchingError (.matchingError
            s!"Cannot lock schedule: {violations.length} constraint violation(s) detected. Zero violations required (T-21 lock)."))
        else
          match persistSchedule event tables.participants schedule with
          | none => .error .integrityError
          | some store =>
            let totalRounds := schedule.rounds.length
            .ok { tables with
              store := store
              logs := tables.logs ++ [⟨none, .recalculate, .recalculate absentCount active totalRounds, request.now⟩]
              audit := tables.audit ++
                [recalculateDetails absentCount active totalRounds request.operatorDetails] }

/-! ## Runs of an event -/

/-- `lock` is the recalculation that holds the event row. -/
structure EventRun where
  tables : PreStartTables
  transitions : List EventTransitionLog
  realtime : Realtime
  lock : Option RecalculateRequest

def EventRun.start (tables : PreStartTables) : EventRun := ⟨tables, [], .fresh, none⟩

inductive EventAction where
  | tick (o : OrchestratorRealtime) (layer : ChannelLayer) (now : Int)
  | call (c : TimedCall)
  | transition (toStatus : EventStatus) (leaderId : String)
  | recalculateBegin (operatorConfirmed : Bool) (seen : EventStatus) (request : RecalculateRequest)
  | recalculateCommit

namespace EventRun

def step (s : EventRun) : EventAction → EventRun
  | .tick o layer now => { s with realtime := (o.dispatch layer s.tables.store now s.realtime).2 }
  | .call c =>
    match perform ⟨s.tables.store.rounds, s.tables.logs⟩ c with
    | .error _ => s
    | .ok (_, st) =>
      { s with tables := { s.tables with store := { s.tables.store with rounds := st.rounds }, logs := st.logs } }
  | .transition toStatus leaderId =>
    match s.lock with
    -- the event row is locked, and the transition waits
    | some _ => s
    | none =>
      match transitionEvent s.tables.status toStatus leaderId with
      | .error _ => s
      | .ok (status, log) =>
        { s with tables := { s.tables with status := status }, transitions := s.transitions ++ [log] }
  | .recalculateBegin operatorConfirmed seen request =>
    match s.lock with
    | some _ => s
    | none =>
      match checkGate operatorConfirmed seen s.tables.status with
      | .error _ => s
      | .ok _ => { s with lock := some request }
  | .recalculateCommit =>
    match s.lock with
    | none => s
    | some request =>
      match recalculateLocked request s.tables with
      | .error _ => { s with lock := none }
      | .ok tables => { s with tables := tables, lock := none }

end EventRun

/-! ## Before the start -/

def lifecycleTypes : List MessageType :=
  [.serverPairing, .serverRoundStart, .serverRoundWarning, .serverRoundEnd, .serverEventEnd]

/-- A lifecycle message of the event has been dispatched. -/
def EventRun.Started (s : EventRun) : Prop := ∃ p ∈ s.realtime.published, p.message.type ∈ lifecycleTypes

instance (s : EventRun) : Decidable s.Started := inferInstanceAs (Decidable (∃ _ ∈ _, _))

/-- The step replaces the schedule. -/
def EventRun.Recalculates (s : EventRun) : EventAction → Prop
  | .recalculateCommit => ∃ request, s.lock = some request ∧ ∃ tables, recalculateLocked request s.tables = .ok tables
  | _ => False

/-- Once the event has started no schedule is recalculated: its pairs and their rooms stay,
    and its rounds are at most moved. -/
structure OnlyBeforeStart (s : EventRun) (action : EventAction) : Prop where
  before : s.Recalculates action → ¬ s.Started
  kept : s.Started → (s.step action).tables.store.pairs = s.tables.store.pairs ∧
    (s.step action).tables.store.rounds.map (·.number) = s.tables.store.rounds.map (·.number)

/-- A tick that gets a message through finds a status in which nothing is recalculated. -/
def TickInTime (s : EventRun) : EventAction → Prop
  | .tick o layer now =>
    (s.step (.tick o layer now)).realtime.published.length = s.realtime.published.length ∨
      s.tables.status ∈ forbiddenStatuses
  | _ => True

instance (s : EventRun) : (action : EventAction) → Decidable (TickInTime s action)
  | .tick _ _ _ => inferInstanceAs (Decidable (_ ∨ _))
  | .call _ | .transition _ _ | .recalculateBegin _ _ _ | .recalculateCommit => .isTrue trivial

/-! ## The gate over a run -/

variable {s : EventRun} {tables : PreStartTables} {request : RecalculateRequest}

/-- What has been sent was sent under a status that forbids a recalculation, and one that is
    under way has found another status. -/
structure Gated (s : EventRun) : Prop where
  sent : s.realtime.published = [] ∨ s.tables.status ∈ forbiddenStatuses
  locked : s.lock ≠ none → s.tables.status ∉ forbiddenStatuses

/-- No transition leads out of the forbidden statuses. -/
theorem forbidden_of_transition {fromStatus toStatus : EventStatus}
    (forbidden : fromStatus ∈ forbiddenStatuses) (valid : toStatus ∈ validTransitions fromStatus) :
    toStatus ∈ forbiddenStatuses := by
  revert fromStatus toStatus
  have all : ∀ fromStatus ∈ forbiddenStatuses, ∀ toStatus ∈ validTransitions fromStatus,
      toStatus ∈ forbiddenStatuses := by decide
  intro fromStatus toStatus forbidden valid
  exact all fromStatus forbidden toStatus valid

theorem checkStatus_ok {status : EventStatus} {done : Unit} (passed : checkStatus status = .ok done) :
    status ∉ forbiddenStatuses := by
  simp only [checkStatus] at passed
  split at passed
  next => cases passed
  next allowed => exact allowed

theorem checkGate_ok {operatorConfirmed : Bool} {seen status : EventStatus} {done : Unit}
    (passed : checkGate operatorConfirmed seen status = .ok done) : status ∉ forbiddenStatuses := by
  simp only [checkGate, Bind.bind, Except.bind] at passed
  split at passed
  next => cases passed
  next =>
    split at passed
    next => cases passed
    next => exact checkStatus_ok passed

theorem Gated.quiet (gated : Gated s) (held : s.lock ≠ none) : s.realtime.published = [] :=
  gated.sent.resolve_right (gated.locked held)

theorem dispatch_adds (o : OrchestratorRealtime) (layer : ChannelLayer) (store : EventStore) (now : Int)
    (rt : Realtime) : Adds (fun _ => True) rt (o.dispatch layer store now rt).2 := by
  simp only [OrchestratorRealtime.dispatch]
  split
  · exact sendAll_adds (fun _ _ _ _ => trivial) rt
  · exact Adds.refl _ rt

theorem Gated.step (gated : Gated s) (action : EventAction) (inTime : TickInTime s action) :
    Gated (s.step action) := by
  cases action with
  | tick o layer now =>
    refine ⟨?_, gated.locked⟩
    -- a tick in time either sends nothing or finds recalculations forbidden
    rcases inTime with nothing | forbidden
    · obtain ⟨added, appended, _⟩ := dispatch_adds o layer s.tables.store now s.realtime
      simp only [EventRun.step, appended, List.length_append] at nothing
      have none_ : added = [] := List.eq_nil_of_length_eq_zero (by omega)
      simp only [EventRun.step, appended, none_, List.append_nil]
      exact gated.sent
    · exact .inr forbidden
  | call c =>
    simp only [EventRun.step]
    split
    · exact gated
    · exact ⟨gated.sent, gated.locked⟩
  | transition toStatus leaderId =>
    simp only [EventRun.step]
    split
    · exact gated
    next free =>
      split
      · exact gated
      next moved =>
        obtain ⟨rfl, valid⟩ := transitionEvent_ok moved
        exact ⟨gated.sent.imp_right fun forbidden => forbidden_of_transition forbidden valid,
          fun held => absurd free held⟩
  | recalculateBegin operatorConfirmed seen request =>
    simp only [EventRun.step]
    split
    · exact gated
    · split
      · exact gated
      next passed =>
        exact ⟨gated.sent, fun _ => checkGate_ok passed⟩
  | recalculateCommit =>
    simp only [EventRun.step]
    split
    · exact gated
    next held =>
      split
      · exact ⟨gated.sent, fun none_ => absurd rfl none_⟩
      next returned =>
        exact ⟨.inl (gated.quiet (by simp [held])), fun none_ => absurd rfl none_⟩

/-- An accepted action moves rounds, and adds and removes none. -/
theorem perform_numbers {st st' : OperatorState} {c : TimedCall} {payload : ActionPayload}
    (accepted : perform st c = .ok (payload, st')) : st'.rounds.map (·.number) = st.rounds.map (·.number) := by
  -- a shift changes the times of a round and never its number
  have shifted : ∀ number shift, (shiftRounds number shift st.rounds).map (·.number) =
      st.rounds.map (·.number) := by
    intro number shift
    simp only [shiftRounds, List.map_map]
    exact List.map_congr_left fun r _ => shiftRound_number number shift r
  obtain ⟨time, call⟩ := c
  cases call with
  | pause =>
    simp only [perform, pause, ensureLeader, if_true, Bind.bind, Except.bind] at accepted
    split at accepted
    · split at accepted
      · cases accepted
      · split at accepted <;> cases accepted
        rfl
    · cases accepted
  | resume =>
    obtain ⟨_, _, r, _, _, _, _, rounds, _⟩ := resume_ok accepted
    rw [rounds]
    exact shifted r.number _
  | extend extraSeconds =>
    simp only [perform, extend, ensureLeader, if_true, Bind.bind, Except.bind] at accepted
    split at accepted
    · cases accepted
    · split at accepted
      · cases accepted
        exact shifted _ _
      · cases accepted

theorem Gated.onlyBeforeStart (gated : Gated s) (action : EventAction) : OnlyBeforeStart s action := by
  -- while the recalculation holds the event, nothing has been published
  have quiet : s.lock ≠ none → ¬ s.Started := by
    rintro held ⟨p, published, _⟩
    rw [gated.quiet held] at published
    cases published
  refine ⟨fun recalculates => ?_, fun started => ?_⟩
  · cases action with
    | recalculateCommit =>
      obtain ⟨request, held, _⟩ := recalculates
      exact quiet (by simp [held])
    | _ => exact recalculates.elim
  · cases action with
    | tick o layer now => exact ⟨rfl, rfl⟩
    | call c =>
      simp only [EventRun.step]
      split
      · exact ⟨rfl, rfl⟩
      next accepted => exact ⟨rfl, perform_numbers accepted⟩
    | transition toStatus leaderId =>
      simp only [EventRun.step]
      split
      · exact ⟨rfl, rfl⟩
      · split <;> exact ⟨rfl, rfl⟩
    | recalculateBegin operatorConfirmed seen request =>
      simp only [EventRun.step]
      split
      · exact ⟨rfl, rfl⟩
      · split <;> exact ⟨rfl, rfl⟩
    | recalculateCommit =>
      simp only [EventRun.step]
      split
      · exact ⟨rfl, rfl⟩
      next held => exact absurd started (quiet (by simp [held]))

/-- An event is recalculated only before its start when its status has left the ones before
    the start by the time of the first message. -/
theorem recalculated_only_before_start (tables : PreStartTables) (actions : List EventAction)
    (inTime : ∀ v ∈ visited EventRun.step (.start tables) actions, TickInTime v.1 v.2) :
    ∀ v ∈ visited EventRun.step (.start tables) actions, OnlyBeforeStart v.1 v.2 := by
  have start : Gated (.start tables) := ⟨.inl rfl, fun held => absurd rfl held⟩
  have gated := @visited_invariant _ _ EventRun.step Gated TickInTime
    (fun _ action gated inTime => gated.step action inTime) _ _ start inTime
  exact fun v member => (gated v member).onlyBeforeStart v.2

/-! ## A locked event -/

/-- A schedule has been persisted, and the event is locked. -/
def lockedEvent : PreStartTables where
  status := .locked
  participants := fourVisitors
  weights := some .default
  store := ⟨twoRoundEvent, plannedRounds twoRoundEvent twoRoundEvent.startTime,
    [⟨1, visitor 0, visitor 1, "room-1"⟩]⟩
  logs := []
  audit := []
  dependents _ := 0

def leaderTick (now : Int) : EventAction := .tick ⟨true, 15⟩ reliable now

def confirmedRecalculation : List EventAction :=
  [.recalculateBegin true .locked ⟨[], [], twoRoundEvent.startTime⟩, .recalculateCommit]

/-- Recalculated, set running, and only then in the preconnect of the first round. -/
def startedInTime : List EventAction :=
  confirmedRecalculation ++ [.transition .running "leader", leaderTick (twoRoundEvent.startTime - seconds 10)]
    ++ confirmedRecalculation

/-- The second recalculation has passed the gate. -/
def secondRecalculation : EventRun := (startedInTime.take 5).foldl EventRun.step (.start lockedEvent)

theorem started_in_time_is_final :
    secondRecalculation.Started ∧ OnlyBeforeStart secondRecalculation .recalculateCommit := by
  have split : startedInTime = startedInTime.take 5 ++ [EventAction.recalculateCommit] :=
    (List.take_append_drop 5 startedInTime).symm
  have visit : (secondRecalculation, EventAction.recalculateCommit) ∈
      visited EventRun.step (.start lockedEvent) startedInTime := by
    apply mem_visited.mpr
    refine ⟨startedInTime.take 5, [], split, ?_⟩
    dsimp only [secondRecalculation]
  have before := recalculated_only_before_start lockedEvent startedInTime (by decide +kernel)
    (secondRecalculation, EventAction.recalculateCommit) visit
  -- the pair is taken apart here, as the unifier would run the five steps
  dsimp only at before
  exact ⟨by decide +kernel, before⟩

/-- The pairing of the first round goes out while the event is still locked. -/
def startedWhileLocked : List EventAction :=
  leaderTick (twoRoundEvent.startTime - seconds 10) :: confirmedRecalculation

/-- The schedule is replaced all the same. -/
theorem locked_event_is_recalculated :
    ¬ ∀ v ∈ visited EventRun.step (.start lockedEvent) startedWhileLocked, OnlyBeforeStart v.1 v.2 := by
  intro final
  let s : EventRun := (startedWhileLocked.take 2).foldl EventRun.step (.start lockedEvent)
  have split : startedWhileLocked = startedWhileLocked.take 2 ++ [EventAction.recalculateCommit] :=
    (List.take_append_drop 2 startedWhileLocked).symm
  have visit : (s, EventAction.recalculateCommit) ∈ visited EventRun.step (.start lockedEvent) startedWhileLocked :=
    mem_visited.mpr ⟨startedWhileLocked.take 2, [], split, rfl⟩
  have started : s.Started := by decide +kernel
  have returns : (recalculateLocked ⟨[], [], twoRoundEvent.startTime⟩ s.tables).isOk = true := by decide +kernel
  refine (final _ visit).before ⟨⟨[], [], twoRoundEvent.startTime⟩, rfl, ?_⟩ started
  cases result : recalculateLocked ⟨[], [], twoRoundEvent.startTime⟩ s.tables with
  | ok tables => exact ⟨tables, rfl⟩
  | error _ =>
    rw [result] at returns
    cases returns

end EventPlatform.Operator
