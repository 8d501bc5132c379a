import EventPlatform.Operator.ScheduleWriters
import EventPlatform.Presence.Recording

/-! # Reports on the connection of a pair

Each of a pair reports how it is connected.  The view updates the row in which the participant comes
first, or else the one in which it comes second; other reports and the writers of the schedule come
between its statements. -/

namespace EventPlatform.Presence

open EventPlatform.Lib EventPlatform.Scheduling EventPlatform.Protocol EventPlatform.Operator

/-! ## A report -/

inductive ConnectionType where
  | direct
  | relay
deriving DecidableEq

def ConnectionType.value : ConnectionType → String
  | direct => "direct"
  | relay => "relay"

def readConnectionType : Json → Option ConnectionType
  | .str text => [ConnectionType.direct, .relay].find? (·.value = text)
  | _ => none

/-- `isinstance(value, int)`, which a `bool` is. -/
def readPyInt : Json → Option Int
  | .int value => some value
  | .bool value => some value.toInt
  | _ => none

/-- The two columns of a side, which are written together. -/
structure ConnectionReport where
  connectionType : ConnectionType
  connectionTimeMs : Nat
deriving DecidableEq

structure SubmittedReport where
  participantId : String
  roomId : String
  report : ConnectionReport
deriving DecidableEq

/-- What becomes of the body: a value, no UTF-8 or no JSON, or another exception. -/
inductive ReportBody where
  | loaded (data : Json)
  | malformed
  | raises

inductive ReportResponse where
  | unauthorized
  | invalidJson
  | invalidTarget
  | invalidTime
  | pairNotFound
  | recorded
  | serverError
deriving DecidableEq

def ReportResponse.status : ReportResponse → Nat
  | unauthorized => 401
  | invalidJson | invalidTarget | invalidTime => 400
  | pairNotFound => 404
  | recorded => 200
  | serverError => 500

def ReportResponse.error : ReportResponse → Option (String × String)
  | unauthorized => some ("unauthorized", "Participant session required")
  | invalidJson => some ("invalid_json", "Malformed JSON payload")
  | invalidTarget => some ("invalid_payload", "Valid room_id and connection_type (direct/relay) required")
  | invalidTime => some ("invalid_payload", "connection_time_ms must be a non-negative integer")
  | pairNotFound => some ("pair_not_found", "No matching pair found for this room and participant")
  | recorded | serverError => none

/-- The fields of a payload; a room may be any JSON value, of which the query takes the text. -/
def readFields (python : PythonLibrary) (participantId : String) (data : Payload) :
    Except ReportResponse SubmittedReport :=
  let roomId := (data.get? "room_id").getD .null
  match truthy python roomId, (data.get? "connection_type").bind readConnectionType with
  | true, some connectionType =>
    match (data.get? "connection_time_ms").bind readPyInt with
    | some connectionTimeMs =>
      if connectionTimeMs < 0 then .error .invalidTime
      else .ok ⟨participantId, strJson python roomId, connectionType, connectionTimeMs.toNat⟩
    | none => .error .invalidTime
  | _, _ => .error .invalidTarget

/-- The view up to its first update. -/
def readReport (python : PythonLibrary) : Option String → ReportBody → Except ReportResponse SubmittedReport
  | none, _ => .error .unauthorized
  | some _, .malformed => .error .invalidJson
  | some _, .raises => .error .serverError
  | some participantId, .loaded data =>
    match data.readDict with
    | none => .error .serverError
    | some data => readFields python participantId data

/-! ## The rows -/

inductive PairSide where
  | a
  | b
deriving DecidableEq

def pairMember (pair : PairRecord) : PairSide → String
  | .a => pair.participantA
  | .b => pair.participantB

/-- What the view does next. -/
inductive ReportViewPc where
  | received
  | update (side : PairSide) (submitted : SubmittedReport)
  | answered (response : ReportResponse)
deriving DecidableEq

/-- `participant` is whom the session resolves to. -/
structure TelemetryRequest where
  participant : Option String
  body : ReportBody
  pc : ReportViewPc

/-- `telemetry` has the columns of the row with a room.  `recorded`, which the code does not keep, are the
    reports that were answered as recorded since their row was written. -/
structure TelemetryState where
  db : Scheduling.Database
  telemetry : String → PairSide → Option ConnectionReport
  requests : List TelemetryRequest
  recorded : List SubmittedReport

inductive TelemetryAction where
  | request (participant : Option String) (body : ReportBody)
  /-- The view goes on; the database may fail it, as it does for a room with a NUL. -/
  | proceed (i : Nat) (fails : Bool)
  | schedule (action : ScheduleAction)

/-- The largest value of a `PositiveIntegerField`. -/
def maxPositiveInteger : Nat := 2147483647

/-- The action gets as far as `persist_schedule` and does not raise. -/
def persists (db : Scheduling.Database) : ScheduleAction → Bool
  | .command eventId dryRun => !dryRun && ((handle eventId dryRun).runOn db).1.isOk
  | .report eventPk request => (matchingReportView eventPk request db).1.any (·.scheduleLocked)
  | .recalculate call => ((recalculatePairsPreStart call).runOn db).1.isOk

/-- The event whose rows an action deletes and writes anew. -/
def persistedEvent (db : Scheduling.Database) (action : ScheduleAction) : Option EventRecord :=
  if persists db action then action.target db else none

namespace TelemetryState

def start (db : Scheduling.Database) : TelemetryState := ⟨db, fun _ _ => none, [], []⟩

def putRequest (s : TelemetryState) (i : Nat) (request : TelemetryRequest) : TelemetryState :=
  { s with requests := s.requests.set i request }

/-- The `UPDATE` of the row in which the participant has this side; `none` if there is no such row. -/
def updateSide (s : TelemetryState) (side : PairSide) (submitted : SubmittedReport) : Option TelemetryState :=
  if s.db.pairs.any fun pair => pair.roomId = submitted.roomId ∧ pairMember pair side = submitted.participantId then
    some { s with
      telemetry := Function.update s.telemetry submitted.roomId
        (Function.update (s.telemetry submitted.roomId) side (some submitted.report))
      recorded := s.recorded ++ [submitted] }
  else none

/-- `submit_connection_report`, one step. -/
def submitConnectionReport (python : PythonLibrary) (s : TelemetryState) (i : Nat) (request : TelemetryRequest)
    (fails : Bool) : TelemetryState :=
  match request.pc with
  | .received =>
    let pc := match readReport python request.participant request.body with
      | .error response => .answered response
      | .ok submitted => .update .a submitted
    s.putRequest i { request with pc := if fails then .answered .serverError else pc }
  | .update side submitted =>
    if fails ∨ maxPositiveInteger < submitted.report.connectionTimeMs then
      s.putRequest i { request with pc := .answered .serverError }
    else
      match s.updateSide side submitted, side with
      | some updated, _ => updated.putRequest i { request with pc := .answered .recorded }
      | none, .a => s.putRequest i { request with pc := .update .b submitted }
      | none, .b => s.putRequest i { request with pc := .answered .pairNotFound }
  | .answered _ => s

/-- The new rows of an event have nothing in their columns. -/
def reschedule (s : TelemetryState) (action : ScheduleAction) : TelemetryState :=
  let after := action.run s.db
  match persistedEvent s.db action with
  | none => { s with db := after }
  | some record =>
    let rooms := (after.pairsOf record.event.pk).map (·.roomId)
    { s with
      db := after
      telemetry := fun room => if room ∈ rooms then fun _ => none else s.telemetry room
      recorded := s.recorded.filter (·.roomId ∉ rooms) }

def step (python : PythonLibrary) (s : TelemetryState) : TelemetryAction → TelemetryState
  | .request participant body => { s with requests := s.requests ++ [⟨participant, body, .received⟩] }
  | .proceed i fails =>
    match s.requests[i]? with
    | none => s
    | some request => s.submitConnectionReport python i request fails
  | .schedule action => s.reschedule action

end TelemetryState

/-- The last of these reports that is of the participant and for the room. -/
def lastReport (reports : List SubmittedReport) (roomId participantId : String) : Option ConnectionReport :=
  ((reports.filter fun r => r.roomId = roomId ∧ r.participantId = participantId).getLast?).map (·.report)

/-! ## The writers of the schedule -/

section Writers

variable {db : Scheduling.Database} {action : ScheduleAction}

theorem kept_of_not_ok {σ ε α : Type} {x : Db σ ε α} {s : σ} (allOrNothing : Db.AllOrNothing x)
    (raised : (x.runOn s).1.isOk = false) : (x.runOn s).2 = s := by
  cases ran : x.runOn s with
  | mk result after =>
    rw [ran] at raised
    cases result with
    | ok _ => cases raised
    | error e => exact allOrNothing s e after ran

theorem runMatching_locks (record : EventRecord) (action : String) (page : MatchingReportPage) :
    (runMatching record action page db).2 = db ∨ (runMatching record action page db).1.scheduleLocked = true := by
  simp only [runMatching]
  split
  · exact .inl rfl
  · split
    · exact .inl rfl
    · split
      · exact .inl rfl
      next schedule _ =>
        split
        · exact .inl rfl
        · split
          · exact .inl rfl
          · cases ran : (persistRows record.event schedule).runOn db with
            | mk result after =>
              cases result with
              | ok _ => exact .inr rfl
              | error error => exact .inl (Db.AllOrNothing.atomic _ db error after ran)

theorem matchingReportView_locks (eventPk : String) (request : ReportRequest) :
    (matchingReportView eventPk request db).2 = db ∨
      (matchingReportView eventPk request db).1.any (·.scheduleLocked) = true := by
  simp only [matchingReportView]
  cases db.events.find? (·.event.pk = eventPk) with
  | none => exact .inl rfl
  | some record =>
    cases request with
    | get => exact .inl rfl
    | post action confirmed =>
      simp only
      split
      · exact .inl rfl
      · split
        · exact .inl rfl
        · split
          · exact .inl rfl
          · exact runMatching_locks record action _

/-- An action that does not persist writes nothing. -/
theorem run_of_not_persists (fails : persists db action = false) : action.run db = db := by
  cases action with
  | command eventId dryRun =>
    cases ran : (handle eventId dryRun).runOn db with
    | mk result after =>
      simp only [ScheduleAction.run, ran]
      cases result with
      | error failure => exact allOrNothing_handle eventId dryRun db failure after ran
      | ok schedule =>
        have dry : dryRun = true := by simpa [persists, ran, Except.isOk, Except.toBool] using fails
        obtain ⟨_, _, _, written⟩ := handle_ok ran
        rwa [if_pos dry] at written
  | report eventPk request =>
    cases matchingReportView_locks eventPk request with
    | inl kept => exact kept
    | inr locked => exact absurd (fails.symm.trans locked) Bool.false_ne_true
  | recalculate call => exact kept_of_not_ok (allOrNothing_recalculatePairsPreStart call) fails

/-- An action writes nothing, or only the rows of the event that it persists are new. -/
theorem run_persistedEvent (sound : SoundTables db) :
    (persistedEvent db action = none ∧ action.run db = db) ∨
      ∃ record, persistedEvent db action = some record ∧ SoundTables (action.run db) ∧
        ∀ other, other ≠ record.event.pk → (action.run db).pairsOf other = db.pairsOf other := by
  cases done : persists db action with
  | false => exact .inl ⟨by simp [persistedEvent, done], run_of_not_persists done⟩
  | true =>
    have event : persistedEvent db action = action.target db := by simp [persistedEvent, done]
    rw [event]
    cases action.run_cases sound with
    | inl kept =>
      cases target : action.target db with
      | none => exact .inl ⟨rfl, kept⟩
      | some record => exact .inr ⟨record, rfl, kept.symm ▸ sound, fun _ _ => by rw [kept]⟩
    | inr written =>
      obtain ⟨record, target, replaced⟩ := written
      exact .inr ⟨record, target, replaced.sound, replaced.others.pairs⟩

end Writers

/-! ## What the rows show -/

section Shown

variable {s s' : TelemetryState} {side : PairSide} {submitted : SubmittedReport} {pair : PairRecord}

/-- The columns of a side hold the last report that was recorded for it. -/
structure TelemetrySound (s : TelemetryState) : Prop where
  tables : SoundTables s.db
  shown : ∀ pair ∈ s.db.pairs, ∀ side,
    s.telemetry pair.roomId side = lastReport s.recorded pair.roomId (pairMember pair side)

theorem pair_of_room {db : Scheduling.Database} {other : PairRecord} (sound : SoundTables db) (member : pair ∈ db.pairs)
    (member' : other ∈ db.pairs) (same : pair.roomId = other.roomId) : pair = other := by
  have distinct : (db.pairs.map (·.roomId)).Nodup := List.pairwise_map.mpr sound.constraints.uniqueRoom
  exact List.inj_on_of_nodup_map distinct member member' same

theorem pairMember_ne {db : Scheduling.Database} {side' : PairSide} (sound : SoundTables db) (member : pair ∈ db.pairs)
    (different : side' ≠ side) : pairMember pair side' ≠ pairMember pair side := by
  have apart := (sound.constraints.ordered pair member).ne
  cases side <;> cases side' <;> simp_all [pairMember, eq_comm]

theorem lastReport_append (reports : List SubmittedReport) (r : SubmittedReport) (roomId participantId : String) :
    lastReport (reports ++ [r]) roomId participantId =
      if r.roomId = roomId ∧ r.participantId = participantId then some r.report
      else lastReport reports roomId participantId := by
  simp only [lastReport, List.filter_append]
  split_ifs with here <;> simp [here]

/-- Reports for other rooms do not count. -/
theorem lastReport_filter {rooms : List String} {roomId : String} (reports : List SubmittedReport)
    (participantId : String) : lastReport (reports.filter (·.roomId ∉ rooms)) roomId participantId =
      if roomId ∈ rooms then none else lastReport reports roomId participantId := by
  simp only [lastReport, List.filter_filter]
  split_ifs with cleared
  · have nothing : reports.filter (fun r => decide (r.roomId = roomId ∧ r.participantId = participantId) &&
        decide (r.roomId ∉ rooms)) = [] := by
      simp only [List.filter_eq_nil_iff]
      grind
    rw [nothing]
    rfl
  · congr 2
    apply List.filter_congr
    grind

/-- An update is seen in the row of the room, on the side of the participant, and nowhere else. -/
theorem TelemetrySound.updateSide (sound : TelemetrySound s) (updated : s.updateSide side submitted = some s') :
    TelemetrySound s' := by
  simp only [TelemetryState.updateSide] at updated
  split_ifs at updated with found
  cases updated
  obtain ⟨row, inRows, seated⟩ := List.any_eq_true.mp found
  obtain ⟨room, member⟩ := of_decide_eq_true seated
  refine ⟨sound.tables, fun pair inRows' side' => ?_⟩
  simp only [lastReport_append]
  by_cases sameRoom : pair.roomId = submitted.roomId
  · obtain rfl := pair_of_room sound.tables inRows' inRows (sameRoom.trans room.symm)
    by_cases sameSide : side' = side
    · subst sameSide
      simp [room, member]
    · have other := pairMember_ne sound.tables inRows' sameSide
      have was := sound.shown pair inRows' side'
      rw [member] at other
      rw [room] at was
      simpa [room, Function.update_of_ne sameSide, other.symm] using was
  · simp [Function.update_of_ne sameRoom, Ne.symm sameRoom, sound.shown pair inRows' side']

/-- A new row is blank, and the others keep what they have. -/
theorem TelemetrySound.reschedule (sound : TelemetrySound s) (action : ScheduleAction) :
    TelemetrySound (s.reschedule action) := by
  simp only [TelemetryState.reschedule]
  cases run_persistedEvent sound.tables with
  | inl unwritten =>
    rw [unwritten.1, unwritten.2]
    exact sound
  | inr written =>
    obtain ⟨record, persisted, tables, others⟩ := written
    rw [persisted]
    refine ⟨tables, fun pair inRows side => ?_⟩
    simp only [lastReport_filter]
    split_ifs with new
    · rfl
    · have elsewhere : pair.event ≠ record.event.pk := fun here =>
        new (List.mem_map_of_mem (List.mem_filter.mpr ⟨inRows, decide_eq_true here⟩))
      have kept : pair ∈ s.db.pairsOf pair.event :=
        others pair.event elsewhere ▸ List.mem_filter.mpr ⟨inRows, decide_eq_true rfl⟩
      exact sound.shown pair (List.mem_of_mem_filter kept) side

/-- Every step keeps what the rows show in line with the answers. -/
theorem TelemetrySound.step {python : PythonLibrary} (sound : TelemetrySound s) (action : TelemetryAction) :
    TelemetrySound (s.step python action) := by
  cases action with
  | request participant body => exact ⟨sound.tables, sound.shown⟩
  | schedule action => exact sound.reschedule action
  | proceed i fails =>
    simp only [TelemetryState.step]
    cases s.requests[i]? with
    | none => exact sound
    | some request =>
      simp only [TelemetryState.submitConnectionReport]
      split
      · exact ⟨sound.tables, sound.shown⟩
      next side submitted _ =>
        split
        · exact ⟨sound.tables, sound.shown⟩
        · split
          next updated found =>
            have kept := sound.updateSide found
            exact ⟨kept.tables, kept.shown⟩
          · exact ⟨sound.tables, sound.shown⟩
          · exact ⟨sound.tables, sound.shown⟩
      · exact sound

end Shown

/-! ## Whole runs -/

def runTelemetry (python : PythonLibrary) (db : Scheduling.Database) (actions : List TelemetryAction) : TelemetryState :=
  actions.foldl (TelemetryState.step python) (.start db)

/-- However reports, failures of the database and writers of the schedule interleave, each side of a stored
    pair shows the last report that its participant was told is recorded since the row was written. -/
theorem shows_last_report (python : PythonLibrary) (db : Scheduling.Database) (sound : SoundTables db)
    (actions : List TelemetryAction) : ∀ pair ∈ (runTelemetry python db actions).db.pairs, ∀ side,
      (runTelemetry python db actions).telemetry pair.roomId side =
        lastReport (runTelemetry python db actions).recorded pair.roomId (pairMember pair side) := by
  have begun : TelemetrySound (.start db) := ⟨sound, fun _ _ _ => rfl⟩
  have preserved : ∀ s action, TelemetrySound s → True → TelemetrySound (TelemetryState.step python s action) :=
    fun _ action sound _ => sound.step action
  exact (foldl_preserves preserved begun fun _ _ => trivial : TelemetrySound (runTelemetry python db actions)).shown

/-- Ann reports on the room that she has with Ben; the recalculation without Cleo comes between her updates. -/
def annReports : List TelemetryAction :=
  [.request (some ann.pk) (.loaded (.dict [("room_id", .str (roomId oneRoundEvent 1 ann.pk ben.pk)),
      ("connection_type", .str "direct"), ("connection_time_ms", .int 240)])),
    .proceed 0 false, .schedule (.recalculate withoutCleo), .proceed 0 false]

theorem shows_last_report_annReports : SoundTables cleoAbsent ∧
    ∀ pair ∈ (runTelemetry cpython cleoAbsent annReports).db.pairs, ∀ side,
      (runTelemetry cpython cleoAbsent annReports).telemetry pair.roomId side =
        lastReport (runTelemetry cpython cleoAbsent annReports).recorded pair.roomId (pairMember pair side) :=
  ⟨soundTables_cleoAbsent, shows_last_report cpython cleoAbsent soundTables_cleoAbsent annReports⟩

example : (runTelemetry cpython cleoAbsent annReports).recorded.length = 1 := by decide +kernel

end EventPlatform.Presence
