import EventPlatform.Scheduling.Stored

/-! # Recalculation is all or nothing

`recalculate_pairs_pre_start` on the tables of all events: it deletes the absent
participants with what hangs on them, runs the engine and the validator, replaces the rounds
and pairs and adds a log row, and may raise at any of these steps. -/

namespace EventPlatform.Operator

open EventPlatform.Lib EventPlatform.Scheduling EventPlatform.Matching EventPlatform.Protocol

/-! ## The service on the tables -/

/-- `operator_details`: a dictionary, which may hold what JSON cannot, or something else. -/
inductive OperatorDetails where
  | absent
  | fields (fields : Payload)
  | unserializable
  | noDictionary

/-- Where the database may fail, whatever the rows are. -/
inductive RecalculateStep where
  | selectEvent
  | deleteAbsent
  | selectParticipants
  | persist
  | releaseSavepoint
  | insertLog
  | commit
deriving DecidableEq

structure RecalculateCall where
  eventPk : String
  seen : EventStatus
  operatorConfirmed : Bool
  absentParticipantIds : List String
  operatorDetails : OperatorDetails
  now : Int
  fails : RecalculateStep → Bool

inductive RecalculateFailure where
  | raised (error : RecalculateError)
  | doesNotExist
  | database (error : DatabaseError)
  | statement (step : RecalculateStep)
  | typeError

abbrev RecalculateDb := Db Database RecalculateFailure

def runStatement (call : RecalculateCall) (step : RecalculateStep) : RecalculateDb Unit :=
  Db.require (!call.fails step) (.statement step)

/-- `select_for_update().get(pk=event.pk)` -/
def lockEvent (call : RecalculateCall) : RecalculateDb EventRecord := do
  runStatement call .selectEvent
  let db ← get
  match db.events.find? (·.event.pk = call.eventPk) with
  | none => throw .doesNotExist
  | some record => pure record

/-- The participants with these ids, and what hangs on them. -/
def deleteParticipants (db : Database) (pks : List String) : Database :=
  { db with
    participants := db.participants.filter (·.participant.pk ∉ pks)
    pairs := db.pairs.filter fun pair => pair.participantA ∉ pks ∧ pair.participantB ∉ pks
    attached := db.attached.filter (· ∉ pks) }

/-- The number that `.delete()` returns. -/
def deletedCount (db : Database) (pks : List String) : Nat :=
  pks.length + (db.pairs.filter fun pair => pair.participantA ∈ pks ∨ pair.participantB ∈ pks).length
    + (db.attached.filter (· ∈ pks)).length

def removeAbsent (call : RecalculateCall) : RecalculateDb Nat :=
  if call.absentParticipantIds.isEmpty then pure 0
  else do
    let values ← Db.ofExcept .raised (absentValues call.absentParticipantIds)
    runStatement call .deleteAbsent
    let db ← get
    let pks := ((db.participantsOf call.eventPk).filter (IsAbsent values)).map (·.pk)
    modify fun db => deleteParticipants db pks
    return deletedCount db pks

def readMatchInput (call : RecalculateCall) (record : EventRecord) : RecalculateDb MatchInput := do
  runStatement call .selectParticipants
  let db ← get
  match record.weights with
  | none => throw (.raised .valueError)
  | some weights => pure (buildMatchInput record.event (db.participantsOf call.eventPk) weights)

def fewParticipants (active : Nat) : RecalculateError :=
  .matchingError (.matchingError
    s!"Cannot generate schedule: event has fewer than 2 active participants (got {active}).")

def violationsFound (count : Nat) : RecalculateError :=
  .matchingError (.matchingError
    s!"Cannot lock schedule: {count} constraint violation(s) detected. Zero violations required (T-21 lock).")

/-- The engine and the validator. -/
def checkedSchedule (record : EventRecord) (matchInput : MatchInput) : Except RecalculateError GeneratedSchedule :=
  if matchInput.participants.length < 2 then .error (fewParticipants matchInput.participants.length)
  else
    match generateSchedule matchInput with
    | .error error => .error (.matchingError error)
    | .ok schedule =>
      let violations := validateSchedule schedule (matchInput.participants.map (·.pid)).toFinset record.event.numRounds
      if 0 < violations.length then .error (violationsFound violations.length) else .ok schedule

/-- `**(operator_details or {})` in a JSON column. -/
def detailFields : OperatorDetails → Except RecalculateFailure Payload
  | .absent => .ok []
  | .fields fields => .ok fields
  | .unserializable | .noDictionary => .error .typeError

def recalculateLog (call : RecalculateCall) (absentCount active totalRounds : Nat) (fields : Payload) :
    ActionLogRecord where
  event := call.eventPk
  round := none
  action := .recalculate
  details := recalculateDetails absentCount active totalRounds fields
  performedAt := call.now

def insertLog (call : RecalculateCall) (absentCount active totalRounds : Nat) : RecalculateDb Unit := do
  let fields ← Db.ofExcept id (detailFields call.operatorDetails)
  runStatement call .insertLog
  modify fun db => { db with logs := db.logs ++ [recalculateLog call absentCount active totalRounds fields] }

/-- The body of the transaction. -/
def recalculateRows (call : RecalculateCall) : RecalculateDb GeneratedSchedule := do
  let record ← lockEvent call
  Db.ofExcept .raised (checkStatus record.status)
  let absentCount ← removeAbsent call
  let matchInput ← readMatchInput call record
  let schedule ← Db.ofExcept .raised (checkedSchedule record matchInput)
  runStatement call .persist
  Db.mapError .database (persistRows record.event schedule)
  runStatement call .releaseSavepoint
  insertLog call absentCount matchInput.participants.length schedule.rounds.length
  runStatement call .commit
  return schedule

def recalculatePairsPreStart (call : RecalculateCall) : RecalculateDb GeneratedSchedule := do
  Db.ofExcept .raised (checkConfirmed call.operatorConfirmed)
  Db.ofExcept .raised (checkStatus call.seen)
  Db.atomic (recalculateRows call)

/-! ## What a recalculation leaves -/

/-- A participant is named when one of the ids is a text of its UUID. -/
def IsNamed (ids : List String) (participant : Participant) : Prop :=
  ∃ pid ∈ ids, ∃ value, uuidValue pid = some value ∧ uuidValue participant.pk = some value

instance decidableIsNamed (ids : List String) : DecidablePred (IsNamed ids) := fun participant =>
  decidable_of_iff (∃ pid ∈ ids, (uuidValue pid).isSome ∧ uuidValue pid = uuidValue participant.pk) (by
    constructor
    · rintro ⟨pid, member, isUuid, same⟩
      obtain ⟨value, found⟩ := Option.isSome_iff_exists.mp isUuid
      exact ⟨pid, member, value, found, same ▸ found⟩
    · rintro ⟨pid, member, value, found, same⟩
      exact ⟨pid, member, by simp [found], by rw [found, same]⟩)

/-- The ids of the named participants. -/
def namedPks (call : RecalculateCall) (db : Database) : List String :=
  ((db.participantsOf call.eventPk).filter (IsNamed call.absentParticipantIds)).map (·.pk)

/-- The rows of other tables that hang on participants of the event. -/
def attachedOf (db : Database) (eventPk : String) : List String := db.attached.filter (· ∈ db.pidsOf eventPk)

/-- What primary keys, the trigger on pairs and the services promise of the rows of the
    tables taken together. -/
structure Linked (db : Database) : Prop where
  distinct : ∀ eventPk, DistinctUuids (db.pidsOf eventPk)
  oneEvent : ∀ p ∈ db.participants, ∀ q ∈ db.participants, p.participant.pk = q.participant.pk → p.event = q.event
  roundHome : ∀ pair ∈ db.pairs, pair.round.1 = pair.event
  pairHome : ∀ pair ∈ db.pairs, ∀ p ∈ db.participants,
    p.participant.pk = pair.participantA ∨ p.participant.pk = pair.participantB → p.event = pair.event
  logHome : ∀ log ∈ db.logs, ∀ round, log.round = some round → round.1 = log.event

/-- No row of another event has changed. -/
structure OthersKept (eventPk : String) (db after : Database) : Prop where
  events : after.events = db.events
  participants : ∀ other, other ≠ eventPk → after.participantsOf other = db.participantsOf other
  rounds : ∀ other, other ≠ eventPk → after.roundsOf other = db.roundsOf other
  pairs : ∀ other, other ≠ eventPk → after.pairsOf other = db.pairsOf other
  logs : ∀ other, other ≠ eventPk → after.logsOf other = db.logsOf other
  attached : ∀ other, other ≠ eventPk → attachedOf after other = attachedOf db other

/-- The named participants are gone, and the rounds and pairs are those of the schedule,
    which is valid for the others.  The old log rows have lost their rounds, and one
    RECALCULATE row is new. -/
structure Recalculated (call : RecalculateCall) (db : Database) (schedule : GeneratedSchedule) (after : Database) :
    Prop where
  participants : after.participantsOf call.eventPk =
    (db.participantsOf call.eventPk).filter fun p => ¬ IsNamed call.absentParticipantIds p
  stored : ∃ record ∈ db.events, record.event.pk = call.eventPk ∧
    validateSchedule schedule (after.pidsOf call.eventPk) record.event.numRounds = [] ∧
    after.roundsOf call.eventPk = schedule.rounds.map (roundRecord record.event) ∧
    after.pairsOf call.eventPk = (schedulePairs schedule).map (storedPair record.event) ∧
    (after.readSchedule call.eventPk).map (fun r => ((r.1 : Int), r.2)) =
      schedule.rounds.map fun r => (r.number, r.pairs.map fun sp => (sp.pidA, sp.pidB))
  logs : ∃ log, log.event = call.eventPk ∧ log.round = none ∧ log.action = .recalculate ∧
    after.logsOf call.eventPk = ((db.logsOf call.eventPk).map fun old => { old with round := none }) ++ [log]
  others : OthersKept call.eventPk db after

variable {call : RecalculateCall} {db after : Database} {record : EventRecord} {schedule : GeneratedSchedule}
  {pks : List String} {event : Event}

/-! ## When it raises -/

theorem allOrNothing_recalculatePairsPreStart (call : RecalculateCall) :
    Db.AllOrNothing (recalculatePairsPreStart call) :=
  Db.AllOrNothing.bind (Db.ReadOnly.ofExcept _ _) fun _ =>
    Db.AllOrNothing.bind (Db.ReadOnly.ofExcept _ _) fun _ => Db.AllOrNothing.atomic _

/-! ## The statements when they succeed -/

theorem runOn_runStatement_bind {β : Type} {step : RecalculateStep} {f : Unit → RecalculateDb β} {b : β} :
    (runStatement call step >>= f).runOn db = (.ok b, after) ↔
      (!call.fails step) = true ∧ (f ()).runOn db = (.ok b, after) := Db.runOn_require_bind_eq_ok

theorem lockEvent_ok (ran : (lockEvent call).runOn db = (.ok record, after)) :
    db.events.find? (·.event.pk = call.eventPk) = some record ∧ record.event.pk = call.eventPk ∧ after = db := by
  obtain ⟨_, read⟩ := runOn_runStatement_bind.mp ran
  rw [Db.runOn_bind_ok (Db.runOn_get db)] at read
  cases row : db.events.find? (·.event.pk = call.eventPk) with
  | none =>
    rw [row] at read
    cases read
  | some other =>
    rw [row] at read
    cases read
    exact ⟨rfl, by simpa using List.find?_some row, rfl⟩

theorem isAbsent_iff {ids : List String} {values : List Nat} (read : absentValues ids = .ok values)
    (participant : Participant) : IsAbsent values participant ↔ IsNamed ids participant := by
  -- the ids have been read one by one, each to its value
  have parsed : values.map some = ids.map uuidValue := by
    induction ids generalizing values with
    | nil =>
      cases read
      rfl
    | cons pid ids ih =>
      simp only [absentValues, List.mapM_cons, Bind.bind, Except.bind] at read
      cases value : uuidValue pid with
      | none =>
        rw [value] at read
        cases read
      | some v =>
        rw [value] at read
        simp only at read
        cases rest : absentValues ids with
        | error error =>
          rw [absentValues] at rest
          rw [rest] at read
          cases read
        | ok values' =>
          have tail := ih rest
          rw [absentValues] at rest
          rw [rest] at read
          cases read
          simp [value, tail]
  have mem : ∀ value, value ∈ values ↔ ∃ pid ∈ ids, uuidValue pid = some value := by
    intro value
    have listed : some value ∈ values.map some ↔ some value ∈ ids.map uuidValue := by rw [parsed]
    simpa using listed
  simp only [IsAbsent, IsNamed, mem]
  constructor
  · rintro ⟨value, ⟨pid, member, found⟩, same⟩
    exact ⟨pid, member, value, found, same⟩
  · rintro ⟨pid, member, value, found, same⟩
    exact ⟨value, ⟨pid, member, found⟩, same⟩

/-- The deleted ids are those of the named participants. -/
structure Removes (call : RecalculateCall) (db : Database) (pks : List String) : Prop where
  own : ∀ pid ∈ pks, pid ∈ (db.participantsOf call.eventPk).map (·.pk)
  named : ∀ p ∈ db.participantsOf call.eventPk, p.pk ∈ pks ↔ IsNamed call.absentParticipantIds p

theorem removes_absent {values : List Nat} (read : absentValues call.absentParticipantIds = .ok values) :
    Removes call db (((db.participantsOf call.eventPk).filter (IsAbsent values)).map (·.pk)) where
  own := fun pid member => by
    obtain ⟨p, found, rfl⟩ := List.mem_map.mp member
    exact List.mem_map_of_mem (List.mem_of_mem_filter found)
  named := fun p member => by
    rw [← isAbsent_iff read p]
    constructor
    · intro listed
      obtain ⟨q, found, same⟩ := List.mem_map.mp listed
      have absent : IsAbsent values q := by simpa using (List.mem_filter.mp found).2
      rw [IsAbsent, ← same]
      exact absent
    · intro absent
      exact List.mem_map_of_mem (List.mem_filter.mpr ⟨member, by simpa using absent⟩)

theorem removeAbsent_ok {count : Nat} (ran : (removeAbsent call).runOn db = (.ok count, after)) :
    Removes call db (namedPks call db) ∧ after = deleteParticipants db (namedPks call db) ∧
      count = deletedCount db (namedPks call db) := by
  rw [removeAbsent] at ran
  by_cases empty : call.absentParticipantIds.isEmpty
  · rw [if_pos empty] at ran
    cases ran
    have noneNamed : namedPks call db = [] := by simp [namedPks, IsNamed, List.isEmpty_iff.mp empty]
    rw [noneNamed]
    refine ⟨⟨by simp, fun p _ => by simp [IsNamed, List.isEmpty_iff.mp empty]⟩, ?_, ?_⟩
    · simp [deleteParticipants]
    · simp [deletedCount]
  · rw [if_neg empty] at ran
    obtain ⟨values, read, rest⟩ := Db.runOn_ofExcept_bind_eq_ok.mp ran
    obtain ⟨_, deleted⟩ := runOn_runStatement_bind.mp rest
    rw [Db.runOn_bind_ok (Db.runOn_get _), Db.runOn_bind_ok (Db.runOn_modify _ _)] at deleted
    cases deleted
    have same : namedPks call db = ((db.participantsOf call.eventPk).filter (IsAbsent values)).map (·.pk) := by
      rw [namedPks]
      congr 1
      exact List.filter_congr fun p _ => by simp [isAbsent_iff read p]
    rw [same]
    exact ⟨removes_absent read, rfl, rfl⟩

theorem readMatchInput_ok {matchInput : MatchInput}
    (ran : (readMatchInput call record).runOn db = (.ok matchInput, after)) :
    (∃ weights, matchInput = buildMatchInput record.event (db.participantsOf call.eventPk) weights) ∧ after = db := by
  obtain ⟨_, read⟩ := runOn_runStatement_bind.mp ran
  rw [Db.runOn_bind_ok (Db.runOn_get db)] at read
  cases configured : record.weights with
  | none =>
    rw [configured] at read
    cases read
  | some weights =>
    rw [configured] at read
    cases read
    exact ⟨⟨weights, rfl⟩, rfl⟩

theorem checkedSchedule_ok {matchInput : MatchInput} (checked : checkedSchedule record matchInput = .ok schedule) :
    validateSchedule schedule (participantIds matchInput) record.event.numRounds = [] := by
  simp only [checkedSchedule] at checked
  split at checked
  · cases checked
  · split at checked
    · cases checked
    · split at checked
      · cases checked
      next clean =>
        cases checked
        exact List.length_eq_zero_iff.mp (Nat.eq_zero_of_not_pos clean)

theorem insertLog_ok {absentCount active totalRounds : Nat}
    (ran : (insertLog call absentCount active totalRounds).runOn db = (.ok (), after)) :
    ∃ fields, detailFields call.operatorDetails = .ok fields ∧ after =
      { db with logs := db.logs ++ [recalculateLog call absentCount active totalRounds fields] } := by
  obtain ⟨fields, known, rest⟩ := Db.runOn_ofExcept_bind_eq_ok.mp ran
  obtain ⟨_, inserted⟩ := runOn_runStatement_bind.mp rest
  cases inserted
  exact ⟨fields, known, rfl⟩

/-- What the body has done when it returns. -/
structure BodyDone (call : RecalculateCall) (db : Database) (schedule : GeneratedSchedule) (after : Database) where
  record : EventRecord
  pks : List String
  persisted : Database
  log : ActionLogRecord
  fields : Payload
  selected : db.events.find? (·.event.pk = call.eventPk) = some record
  own : record.event.pk = call.eventPk
  named : pks = namedPks call db
  removes : Removes call db pks
  accepted : validateSchedule schedule ((deleteParticipants db pks).pidsOf call.eventPk) record.event.numRounds = []
  written : (persistRows record.event schedule).runOn (deleteParticipants db pks) = (.ok (), persisted)
  known : detailFields call.operatorDetails = .ok fields
  logged : log = recalculateLog call (deletedCount db pks) ((deleteParticipants db pks).participantsOf call.eventPk).length
    schedule.rounds.length fields
  result : after = { persisted with logs := persisted.logs ++ [log] }

theorem recalculateRows_ok (ran : (recalculateRows call).runOn db = (.ok schedule, after)) :
    Nonempty (BodyDone call db schedule after) := by
  obtain ⟨record, seen, locked, checkingStatus⟩ := Db.runOn_bind_eq_ok.mp ran
  obtain ⟨selected, own, unchanged⟩ := lockEvent_ok locked
  rw [unchanged] at checkingStatus
  obtain ⟨_, _, removing⟩ := Db.runOn_ofExcept_bind_eq_ok.mp checkingStatus
  obtain ⟨absentCount, _, removed, reading⟩ := Db.runOn_bind_eq_ok.mp removing
  obtain ⟨removes, rfl, rfl⟩ := removeAbsent_ok removed
  obtain ⟨matchInput, _, read, checking⟩ := Db.runOn_bind_eq_ok.mp reading
  obtain ⟨⟨weights, built⟩, rfl⟩ := readMatchInput_ok read
  obtain ⟨found, checked, persisting⟩ := Db.runOn_ofExcept_bind_eq_ok.mp checking
  obtain ⟨_, writing⟩ := runOn_runStatement_bind.mp persisting
  obtain ⟨_, persisted, mapped, releasing⟩ := Db.runOn_bind_eq_ok.mp writing
  have written := Db.runOn_mapError_eq_ok.mp mapped
  obtain ⟨_, logging⟩ := runOn_runStatement_bind.mp releasing
  obtain ⟨_, _, inserted, committing⟩ := Db.runOn_bind_eq_ok.mp logging
  obtain ⟨fields, known, rfl⟩ := insertLog_ok inserted
  obtain ⟨_, last⟩ := runOn_runStatement_bind.mp committing
  cases last
  -- every statement has returned, each with what it did; what the checks said is put together
  have accepted := checkedSchedule_ok checked
  rw [built, participantIds_buildMatchInput] at accepted
  have active : matchInput.participants.length =
      ((deleteParticipants db (namedPks call db)).participantsOf call.eventPk).length := by
    rw [built, buildMatchInput, List.length_insertionSort, List.length_map]
  exact ⟨⟨record, _, _, _, fields, selected, own, rfl, removes, accepted, written, known, active ▸ rfl, rfl⟩⟩

/-! ## Rows of other events -/

/-- What a filter drops is not looked for. -/
theorem OthersKept.trans {eventPk : String} {db middle after : Database} (first : OthersKept eventPk db middle)
    (second : OthersKept eventPk middle after) : OthersKept eventPk db after where
  events := second.events.trans first.events
  participants := fun other elsewhere => (second.participants other elsewhere).trans (first.participants other elsewhere)
  rounds := fun other elsewhere => (second.rounds other elsewhere).trans (first.rounds other elsewhere)
  pairs := fun other elsewhere => (second.pairs other elsewhere).trans (first.pairs other elsewhere)
  logs := fun other elsewhere => (second.logs other elsewhere).trans (first.logs other elsewhere)
  attached := fun other elsewhere => (second.attached other elsewhere).trans (first.attached other elsewhere)

theorem Removes.home (removes : Removes call db pks) (linked : Linked db) {p : ParticipantRecord}
    (member : p ∈ db.participants) (removed : p.participant.pk ∈ pks) : p.event = call.eventPk := by
  obtain ⟨participant, found, same⟩ := List.mem_map.mp (removes.own _ removed)
  obtain ⟨q, inEvent, rfl⟩ := List.mem_map.mp found
  obtain ⟨listed, event⟩ := List.mem_filter.mp inEvent
  rw [linked.oneEvent p member q listed same.symm]
  exact of_decide_eq_true event

theorem othersKept_deleteParticipants (linked : Linked db) (removes : Removes call db pks) :
    OthersKept call.eventPk db (deleteParticipants db pks) := by
  have participants : ∀ other, other ≠ call.eventPk →
      (deleteParticipants db pks).participantsOf other = db.participantsOf other := by
    intro other elsewhere
    refine congrArg (List.map _) (filter_of_kept fun p member event => ?_)
    have notRemoved : p.participant.pk ∉ pks := fun removed =>
      elsewhere ((of_decide_eq_true event).symm.trans (removes.home linked member removed))
    simp [notRemoved]
  have elsewhereOf : ∀ pid ∈ pks, ∃ p ∈ db.participants, p.participant.pk = pid ∧ p.event = call.eventPk := by
    intro pid removed
    exact mem_pidsOf.mp (List.mem_toFinset.mpr (removes.own pid removed))
  refine
    { events := rfl
      participants := participants
      rounds := fun other elsewhere => rfl
      pairs := fun other elsewhere => filter_of_kept fun pair member event => ?_
      logs := fun other elsewhere => rfl
      attached := fun other elsewhere => ?_ }
  -- a pair of another event would have to be with a participant of this one
  · have apart : ∀ pid ∈ pks, ¬ (pid = pair.participantA ∨ pid = pair.participantB) := by
      intro pid removed isEnd
      obtain ⟨p, listed, rfl, own⟩ := elsewhereOf pid removed
      have home := linked.pairHome pair member p listed isEnd
      exact elsewhere ((of_decide_eq_true event).symm.trans (home.symm.trans own))
    have keptA : pair.participantA ∉ pks := fun removed => apart _ removed (.inl rfl)
    have keptB : pair.participantB ∉ pks := fun removed => apart _ removed (.inr rfl)
    simp [keptA, keptB]
  · have pids : (deleteParticipants db pks).pidsOf other = db.pidsOf other := by
      simp only [Database.pidsOf, participants other elsewhere]
    simp only [attachedOf, pids]
    refine filter_of_kept fun pid _ inOther => ?_
    have notRemoved : pid ∉ pks := by
      intro removed
      obtain ⟨p, listed, own, event⟩ := elsewhereOf pid removed
      -- the participant would be in both events
      obtain ⟨q, listed', other', event'⟩ := mem_pidsOf.mp (of_decide_eq_true inOther)
      have same := linked.oneEvent p listed q listed' (own.trans other'.symm)
      exact elsewhere (event'.symm.trans (same.symm.trans event))
    simpa using notRemoved

theorem storedPair_event : ∀ row ∈ (schedulePairs schedule).map (storedPair event), row.event = event.pk := by
  intro row member
  obtain ⟨x, _, rfl⟩ := List.mem_map.mp member
  rfl

theorem othersKept_withPairs (roundHome : ∀ pair ∈ db.pairs, pair.round.1 = pair.event)
    (logHome : ∀ log ∈ db.logs, ∀ round, log.round = some round → round.1 = log.event) :
    OthersKept event.pk db (withPairs db event schedule ((schedulePairs schedule).map (storedPair event))) where
  events := rfl
  participants := fun other elsewhere => rfl
  rounds := fun other elsewhere =>
    filter_owner_other elsewhere (fun _ _ here => decide_eq_true (here.trans_ne elsewhere)) roundRecord_event
  pairs := fun other elsewhere => by
    refine filter_owner_other elsewhere (fun pair member here => decide_eq_true ?_) storedPair_event
    rw [roundHome pair member, here]
    exact elsewhere
  logs := fun other elsewhere => by
    change (db.logs.map _).filter _ = db.logs.filter _
    rw [List.filter_map]
    refine (List.map_congr_left fun log member => ?_).trans (List.map_id _)
    obtain ⟨listed, own⟩ := List.mem_filter.mp member
    have event_ : log.event = other := of_decide_eq_true own
    -- a log is about a round of its own event, so it does not lose it
    have kept : log.round.filter (·.1 ≠ event.pk) = log.round := by
      cases round : log.round with
      | none => rfl
      | some r => simp [Option.filter, logHome log listed r round, event_, elsewhere]
    rw [kept]
    rfl
  attached := fun other elsewhere => rfl

theorem othersKept_insertLog {log : ActionLogRecord} {eventPk : String} (own : log.event = eventPk) :
    OthersKept eventPk db { db with logs := db.logs ++ [log] } where
  events := rfl
  participants := fun other elsewhere => rfl
  rounds := fun other elsewhere => rfl
  pairs := fun other elsewhere => rfl
  logs := fun other elsewhere => by simp [Database.logsOf, own, Ne.symm elsewhere]
  attached := fun other elsewhere => rfl

/-! ## Rows of the event -/

theorem participantsOf_deleteParticipants (removes : Removes call db pks) :
    (deleteParticipants db pks).participantsOf call.eventPk =
      (db.participantsOf call.eventPk).filter fun p => ¬ IsNamed call.absentParticipantIds p := by
  rw [Database.participantsOf, Database.participantsOf, List.filter_map]
  congr 1
  rw [deleteParticipants, List.filter_filter, List.filter_filter]
  apply List.filter_congr
  intro p member
  by_cases own : p.event = call.eventPk
  · have inEvent : p.participant ∈ db.participantsOf call.eventPk :=
      List.mem_map_of_mem (List.mem_filter.mpr ⟨member, by simpa using own⟩)
    simp [own, removes.named p.participant inEvent]
  · simp [own]

theorem pairsOf_withPairs (roundHome : ∀ pair ∈ db.pairs, pair.round.1 = pair.event) :
    (withPairs db event schedule ((schedulePairs schedule).map (storedPair event))).pairsOf event.pk =
      (schedulePairs schedule).map (storedPair event) := by
  refine filter_owner_replaced (fun pair member kept => ?_) storedPair_event
  rw [← roundHome pair member]
  exact of_decide_eq_true kept

theorem logsOf_withPairs
    (logHome : ∀ log ∈ db.logs, ∀ round, log.round = some round → round.1 = log.event) :
    (withPairs db event schedule ((schedulePairs schedule).map (storedPair event))).logsOf event.pk =
      (db.logsOf event.pk).map fun old => { old with round := none } := by
  change (db.logs.map _).filter _ = _
  rw [List.filter_map, Database.logsOf]
  refine List.map_congr_left fun log member => ?_
  obtain ⟨listed, own⟩ := List.mem_filter.mp member
  have event_ : log.event = event.pk := of_decide_eq_true own
  have lost : log.round.filter (·.1 ≠ event.pk) = none := by
    cases round : log.round with
    | none => rfl
    | some r => simp [Option.filter, logHome log listed r round, event_]
  rw [lost]

/-! ## All or nothing -/

theorem distinct_deleteParticipants (linked : Linked db) :
    DistinctUuids ((deleteParticipants db pks).pidsOf call.eventPk) := by
  have subset : ∀ pid ∈ (deleteParticipants db pks).pidsOf call.eventPk, pid ∈ db.pidsOf call.eventPk := by
    intro pid member
    obtain ⟨p, listed, same, event⟩ := mem_pidsOf.mp member
    exact mem_pidsOf.mpr ⟨p, List.mem_of_mem_filter listed, same, event⟩
  have distinct := linked.distinct call.eventPk
  exact ⟨fun pid member => distinct.valid pid (subset pid member),
    fun x memberX y memberY => distinct.injective x (subset x memberX) y (subset y memberY)⟩

/-- The rows of the event after the schedule has been written and the log row added. -/
structure Rewritten (event : Event) (db : Database) (schedule : GeneratedSchedule) (log : ActionLogRecord)
    (after : Database) : Prop where
  participants : after.participantsOf event.pk = db.participantsOf event.pk
  rounds : after.roundsOf event.pk = schedule.rounds.map (roundRecord event)
  pairs : after.pairsOf event.pk = (schedulePairs schedule).map (storedPair event)
  readBack : (after.readSchedule event.pk).map (fun r => ((r.1 : Int), r.2)) =
    schedule.rounds.map fun r => (r.number, r.pairs.map fun sp => (sp.pidA, sp.pidB))
  logs : after.logsOf event.pk = ((db.logsOf event.pk).map fun old => { old with round := none }) ++ [log]
  others : OthersKept event.pk db after

theorem rewritten_of_persisted {persisted : Database} {log : ActionLogRecord}
    (valid : ValidSchedule (db.pidsOf event.pk) event.numRounds schedule)
    (written : (persistRows event schedule).runOn db = (.ok (), persisted))
    (roundHome : ∀ pair ∈ db.pairs, pair.round.1 = pair.event)
    (logHome : ∀ log ∈ db.logs, ∀ round, log.round = some round → round.1 = log.event)
    (own : log.event = event.pk) :
    Rewritten event db schedule log { persisted with logs := persisted.logs ++ [log] } := by
  have rows := persistRows_written valid written
  subst rows
  exact
    { participants := rfl
      rounds := roundsOf_withPairs ((schedulePairs schedule).map (storedPair event))
      pairs := pairsOf_withPairs roundHome
      readBack := readSchedule_of_valid valid
      logs := by
        have old : (withPairs db event schedule ((schedulePairs schedule).map (storedPair event))).logsOf event.pk = _ :=
          logsOf_withPairs logHome
        rw [← old]
        simp [Database.logsOf, own]
      others := (othersKept_withPairs roundHome logHome).trans (othersKept_insertLog own) }

theorem BodyDone.recalculated (done : BodyDone call db schedule after) (linked : Linked db) :
    Recalculated call db schedule after := by
  obtain ⟨record, pks, persisted, log, fields, selected, own, _, removes, accepted, written, _, logged, rfl⟩ := done
  have ofEvent : log.event = call.eventPk ∧ log.round = none ∧ log.action = .recalculate := by
    rw [logged]
    exact ⟨rfl, rfl, rfl⟩
  have valid := validSchedule_of_accepted (distinct_deleteParticipants linked) (Int.natCast_nonneg _) accepted
  have roundHome : ∀ pair ∈ (deleteParticipants db pks).pairs, pair.round.1 = pair.event := fun pair member =>
    linked.roundHome pair (List.mem_of_mem_filter member)
  rw [← own] at valid
  have rewritten := rewritten_of_persisted valid written roundHome linked.logHome (ofEvent.1.trans own.symm)
  have participants := rewritten.participants.trans (own ▸ participantsOf_deleteParticipants removes)
  have pids : Database.pidsOf { persisted with logs := persisted.logs ++ [log] } call.eventPk =
      (deleteParticipants db pks).pidsOf call.eventPk := by
    rw [← own, Database.pidsOf, rewritten.participants]
    rfl
  exact
    { participants := own ▸ participants
      stored := ⟨record, List.mem_of_find?_eq_some selected, own, pids ▸ accepted, own ▸ rewritten.rounds, own ▸ rewritten.pairs,
        own ▸ rewritten.readBack⟩
      logs := ⟨log, ofEvent.1, ofEvent.2.1, ofEvent.2.2, own ▸ rewritten.logs⟩
      others := (othersKept_deleteParticipants linked removes).trans (own ▸ rewritten.others) }

/-- A recalculation that raises has changed nothing, and one that returns has done all of
    it. -/
theorem recalculation_all_or_nothing (linked : Linked db) :
    (∀ raised, (recalculatePairsPreStart call).runOn db = (.error raised, after) → after = db) ∧
      ∀ schedule, (recalculatePairsPreStart call).runOn db = (.ok schedule, after) →
        Recalculated call db schedule after := by
  constructor
  · intro raised ran
    exact allOrNothing_recalculatePairsPreStart call db raised after ran
  · intro schedule ran
    obtain ⟨_, _, checked⟩ := Db.runOn_ofExcept_bind_eq_ok.mp ran
    obtain ⟨_, _, body⟩ := Db.runOn_ofExcept_bind_eq_ok.mp checked
    obtain ⟨done⟩ := recalculateRows_ok (Db.runOn_atomic_eq_ok.mp body)
    exact done.recalculated linked

def ann : Participant := ⟨"00000000-0000-0000-0000-000000000001", "Ann", []⟩

def ben : Participant := ⟨"00000000-0000-0000-0000-000000000002", "Ben", []⟩

def cleo : Participant := ⟨"00000000-0000-0000-0000-000000000003", "Cleo", []⟩

/-- Cleo has registered after the schedule was made, and does not come. -/
def cleoAbsent : Database where
  events := [⟨oneRoundEvent, .locked, some ScoringWeights.default⟩]
  participants := [⟨oneRoundEvent.pk, ann⟩, ⟨oneRoundEvent.pk, ben⟩, ⟨oneRoundEvent.pk, cleo⟩]
  rounds := onePairSchedule.rounds.map (roundRecord oneRoundEvent)
  pairs := (schedulePairs onePairSchedule).map (storedPair oneRoundEvent)
  logs := []
  attached := [cleo.pk]

def withoutCleo : RecalculateCall where
  eventPk := oneRoundEvent.pk
  seen := .locked
  operatorConfirmed := true
  absentParticipantIds := [cleo.pk]
  operatorDetails := .absent
  now := 0
  fails := fun _ => false

theorem linked_cleoAbsent : Linked cleoAbsent where
  distinct := by
    intro eventPk
    by_cases own : oneRoundEvent.pk = eventPk
    · subst own
      constructor <;> decide +kernel
    · have nobody : cleoAbsent.pidsOf eventPk = ∅ := by
        simp [Database.pidsOf, Database.participantsOf, cleoAbsent, own]
      constructor <;> simp [nobody]
  oneEvent := by simp [cleoAbsent]
  roundHome := by simp [cleoAbsent, schedulePairs, onePairSchedule, storedPair]
  pairHome := by simp [cleoAbsent, schedulePairs, onePairSchedule, storedPair]
  logHome := by simp [cleoAbsent]

theorem recalculated_withoutCleo : ∃ schedule after,
    (recalculatePairsPreStart withoutCleo).runOn cleoAbsent = (.ok schedule, after) ∧
      Recalculated withoutCleo cleoAbsent schedule after := by
  have returns : ((recalculatePairsPreStart withoutCleo).runOn cleoAbsent).1.isOk = true := by decide +kernel
  obtain ⟨schedule, after, ran⟩ := Db.returns_of_isOk returns
  exact ⟨schedule, after, ran, (recalculation_all_or_nothing linked_cleoAbsent).2 schedule ran⟩

end EventPlatform.Operator
