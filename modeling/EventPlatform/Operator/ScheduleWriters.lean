import EventPlatform.Matching.Report
import EventPlatform.Operator.AllOrNothing

/-! # The three writers of a schedule

A schedule is written by the `generate_schedule` command, by the matching report of the admin
site and by a recalculation before the start.  Each has its own checks, and each replaces what
the others have written. -/

namespace EventPlatform.Operator

open EventPlatform.Lib EventPlatform.Scheduling EventPlatform.Matching EventPlatform.Protocol

/-! ## Texts -/

def MatchingError.text : MatchingError → String
  | .matchingError message => message
  | .matchingImpossibleError message => message

def ViolationKind.text : ViolationKind → String
  | .wrongRoundCount => "WRONG_ROUND_COUNT"
  | .wrongRoundNumbers => "WRONG_ROUND_NUMBERS"
  | .unmatchedInEvenEvent => "UNMATCHED_IN_EVEN_EVENT"
  | .missingUnmatched => "MISSING_UNMATCHED"
  | .unknownParticipant => "UNKNOWN_PARTICIPANT"
  | .wrongPairCount => "WRONG_PAIR_COUNT"
  | .selfPair => "SELF_PAIR"
  | .wrongCanonicalOrder => "WRONG_CANONICAL_ORDER"
  | .duplicateInRound => "DUPLICATE_IN_ROUND"
  | .scoreOutOfRange => "SCORE_OUT_OF_RANGE"
  | .repeatedPartner => "REPEATED_PARTNER"
  | .unmatchedPaired => "UNMATCHED_PAIRED"
  | .unmatchedTwice => "UNMATCHED_TWICE"

/-- `str()` of a UUID. -/
def uuidText (value : Nat) : String :=
  let digits := (Nat.toDigits 16 value).leftpad 32 '0'
  "-".intercalate ([digits.take 8, (digits.drop 8).take 4, (digits.drop 12).take 4, (digits.drop 16).take 4,
    digits.drop 20].map String.ofList)

/-- `get_status_display()` -/
def EventStatus.display : EventStatus → String
  | .draft => "Draft"
  | .scheduled => "Scheduled"
  | .active => "Active"
  | .completed => "Completed"
  | .cancelled => "Cancelled"
  | .registrationOpen => "Registration Open"
  | .locked => "Locked"
  | .running => "Running"
  | .paused => "Paused"

/-! ## The command -/

/-- The `CommandError` of invalid weights goes on with the text of their `ValueError`. -/
inductive CommandFailure where
  | commandError (message : String)
  | invalidWeights (message : String)
  | database (error : DatabaseError)
deriving DecidableEq

def violationsText (violations : List ScheduleViolation) : String :=
  "\n".intercalate (violations.map fun v => s!"- {ViolationKind.text v.kind}: {v.detail}")

/-- The event of a primary key, which may be given in any text of its UUID. -/
def findEvent (db : Database) (value : Nat) : Option EventRecord :=
  db.events.find? fun record => uuidValue record.event.pk = some value

/-- `if not dry_run: persist_schedule(event, schedule)` -/
def persistUnless (dryRun : Bool) (event : EventColumns) (schedule : GeneratedSchedule) :
    Db Database CommandFailure Unit :=
  if dryRun then pure () else Db.mapError .database (persistRows event schedule)

/-- `generate_schedule.Command.handle` -/
def handle (eventId : String) (dryRun : Bool) : Db Database CommandFailure GeneratedSchedule := do
  let value ← Db.ofExcept CommandFailure.commandError ((uuidValue eventId).elim (.error s!"Invalid UUID: {eventId}") .ok)
  let db ← get
  let record ← Db.ofExcept CommandFailure.commandError
    ((findEvent db value).elim (.error s!"Event {uuidText value} does not exist") .ok)
  let weights ← Db.ofExcept CommandFailure.invalidWeights
    (record.weights.elim (.error s!"Invalid scoring weights on event {record.event.pk}: ") .ok)
  let matchInput := buildMatchInput record.event (db.participantsOf record.event.pk) weights
  Db.require (2 ≤ matchInput.participants.length) (.commandError <|
    s!"Cannot generate schedule: event has fewer than 2 participants (got {matchInput.participants.length}).")
  let schedule ← Db.ofExcept (fun error => .commandError (MatchingError.text error)) (generateSchedule matchInput)
  let violations := validateSchedule schedule (participantIds matchInput) record.event.numRounds
  Db.require violations.isEmpty (.commandError s!"Generated schedule is invalid:\n{violationsText violations}")
  persistUnless dryRun record.event schedule
  return schedule

/-! ## The matching report -/

inductive ReportRequest where
  | get
  | post (action : String) (confirmed : Option String)
deriving DecidableEq

/-- What `error_message` shows; an unexpected error goes on with the text of its exception. -/
inductive ReportMessage where
  | text (message : String)
  | invalidWeights
  | database (error : DatabaseError)
deriving DecidableEq

structure MatchingReportPage where
  report : Option MatchingReport
  errorMessage : Option ReportMessage
  canRun : Bool
  hasSchedule : Bool
  scheduleLocked : Bool
  needsConfirmation : Bool
deriving DecidableEq

/-- `_MATCHING_RUNNABLE_STATES` -/
def matchingRunnableStates : List EventStatus := [.scheduled, .active, .completed]

def notAvailable (status : EventStatus) : String :=
  s!"Matching is not available for events in '{EventStatus.display status}' state. " ++
    "The event must be Scheduled, Active, or Completed."

def cannotLock (violationCount : Nat) : String :=
  s!"Cannot lock result: {violationCount} constraint violation(s) were detected. " ++
    "All violations must be zero before the schedule can be locked."

/-- The `try` block of the view. -/
def runMatching (record : EventRecord) (action : String) (page : MatchingReportPage) (db : Database) :
    MatchingReportPage × Database :=
  match record.weights with
  | none => ({ page with errorMessage := some .invalidWeights }, db)
  | some weights =>
    let matchInput := buildMatchInput record.event (db.participantsOf record.event.pk) weights
    if matchInput.participants.length < 2 then
      ({ page with errorMessage := some (.text
        s!"Cannot run matching: event has fewer than 2 participants (got {matchInput.participants.length}).") }, db)
    else
      match generateSchedule matchInput with
      | .error error => ({ page with errorMessage := some (.text (MatchingError.text error)) }, db)
      | .ok schedule =>
        let violations := validateSchedule schedule (participantIds matchInput) record.event.numRounds
        let report := buildReport schedule violations
        let page := { page with report := some report }
        if action ≠ "lock" then (page, db)
        else if ¬ report.canLock then
          ({ page with errorMessage := some (.text (cannotLock report.violationCount)) }, db)
        else
          match (persistRows record.event schedule).runOn db with
          | (.ok (), after) => ({ page with scheduleLocked := true, hasSchedule := true }, after)
          | (.error error, after) => ({ page with errorMessage := some (.database error) }, after)

/-- `EventAdmin.matching_report_view`; `none` is a page that is not found. -/
def matchingReportView (eventPk : String) (request : ReportRequest) (db : Database) :
    Option MatchingReportPage × Database :=
  match db.events.find? (·.event.pk = eventPk) with
  | none => (none, db)
  | some record =>
    let page : MatchingReportPage :=
      { report := none
        errorMessage := none
        canRun := record.status ∈ matchingRunnableStates
        hasSchedule := !(db.roundsOf record.event.pk).isEmpty
        scheduleLocked := false
        needsConfirmation := false }
    match request with
    | .get => (some page, db)
    | .post action confirmed =>
      if action ∉ ["run", "lock"] then (some page, db)
      else if ¬ page.canRun then
        (some { page with errorMessage := some (.text (notAvailable record.status)) }, db)
      else if page.hasSchedule ∧ confirmed ≠ some "yes" then (some { page with needsConfirmation := true }, db)
      else (runMatching record action page db).map some id

/-! ## Runs -/

inductive ScheduleAction where
  | command (eventId : String) (dryRun : Bool)
  | report (eventPk : String) (request : ReportRequest)
  | recalculate (call : RecalculateCall)

def ScheduleAction.run (db : Database) : ScheduleAction → Database
  | .command eventId dryRun => ((handle eventId dryRun).runOn db).2
  | .report eventPk request => (matchingReportView eventPk request db).2
  | .recalculate call => ((recalculatePairsPreStart call).runOn db).2

/-- A lock, confirmed when there is a schedule to replace. -/
def ReportRequest.locks (hasSchedule : Bool) : ReportRequest → Bool
  | .get => false
  | .post action confirmed => action = "lock" && (!hasSchedule || confirmed = some "yes")

/-- The event whose schedule an action may replace. -/
def ScheduleAction.target (db : Database) : ScheduleAction → Option EventRecord
  | .command eventId dryRun => if dryRun then none else (uuidValue eventId).bind (findEvent db)
  | .report eventPk request =>
    (db.events.find? (·.event.pk = eventPk)).filter fun record =>
      record.status ∈ matchingRunnableStates ∧ request.locks (!(db.roundsOf record.event.pk).isEmpty)
  | .recalculate call =>
    (db.events.find? (·.event.pk = call.eventPk)).filter fun record =>
      call.operatorConfirmed ∧ call.seen ∉ forbiddenStatuses ∧ record.status ∉ forbiddenStatuses

/-! ## What the tables keep -/

/-- The constraints, the keys and the links of the tables. -/
structure SoundTables (db : Database) : Prop where
  constraints : Constraints db
  linked : Linked db
  keys : (db.events.map (·.event.pk)).Nodup

section Tables

variable {db after : Database} {record : EventRecord} {schedule : GeneratedSchedule} {pks : List String}

theorem SoundTables.unique (sound : SoundTables db) {other : EventRecord} (member : record ∈ db.events)
    (member' : other ∈ db.events) (same : record.event.pk = other.event.pk) : record = other :=
  List.inj_on_of_nodup_map sound.keys member member' same

theorem Linked.deleteParticipants (linked : Linked db) (pks : List String) :
    Linked (deleteParticipants db pks) where
  distinct := fun eventPk => by
    have subset : ∀ pid ∈ (Operator.deleteParticipants db pks).pidsOf eventPk, pid ∈ db.pidsOf eventPk := by
      intro pid member
      obtain ⟨p, listed, rest⟩ := mem_pidsOf.mp member
      exact mem_pidsOf.mpr ⟨p, List.mem_of_mem_filter listed, rest⟩
    have distinct := linked.distinct eventPk
    exact ⟨fun pid member => distinct.valid pid (subset pid member),
      fun x memberX y memberY => distinct.injective x (subset x memberX) y (subset y memberY)⟩
  oneEvent := fun p member q member' =>
    linked.oneEvent p (List.mem_of_mem_filter member) q (List.mem_of_mem_filter member')
  roundHome := fun pair member => linked.roundHome pair (List.mem_of_mem_filter member)
  pairHome := fun pair member p member' =>
    linked.pairHome pair (List.mem_of_mem_filter member) p (List.mem_of_mem_filter member')
  logHome := linked.logHome

theorem Constraints.deleteParticipants (constraints : Constraints db) (pks : List String) :
    Constraints (deleteParticipants db pks) where
  roundNumber := constraints.roundNumber
  roundEnds := constraints.roundEnds
  home := fun pair member => constraints.home pair (List.mem_of_mem_filter member)
  ordered := fun pair member => constraints.ordered pair (List.mem_of_mem_filter member)
  onePair := constraints.onePair.filter _
  uniquePair := constraints.uniquePair.filter _
  uniqueA := constraints.uniqueA.filter _
  uniqueB := constraints.uniqueB.filter _
  uniqueRoom := constraints.uniqueRoom.filter _

theorem SoundTables.deleteParticipants (sound : SoundTables db) (pks : List String) : SoundTables (deleteParticipants db pks) :=
  ⟨Constraints.deleteParticipants sound.constraints pks, Linked.deleteParticipants sound.linked pks, sound.keys⟩

/-- A log row about no round changes nothing else. -/
theorem SoundTables.insertLog (sound : SoundTables db) {log : ActionLogRecord} (about : log.round = none) :
    SoundTables { db with logs := db.logs ++ [log] } := by
  refine ⟨{ sound.constraints with }, { sound.linked with logHome := ?_ }, sound.keys⟩
  intro row member round known
  cases List.mem_append.mp member with
  | inl old => exact sound.linked.logHome row old round known
  | inr new =>
    rw [List.mem_singleton.mp new, about] at known
    cases known

/-- The pairs of a valid schedule are between participants of the event. -/
theorem Linked.withPairs (linked : Linked db)
    (valid : ValidSchedule (db.pidsOf record.event.pk) record.event.numRounds schedule) :
    Linked (withPairs db record.event schedule ((schedulePairs schedule).map (storedPair record.event))) where
  distinct := linked.distinct
  oneEvent := linked.oneEvent
  roundHome := by
    intro pair member
    cases List.mem_append.mp member with
    | inl old => exact linked.roundHome pair (List.mem_of_mem_filter old)
    | inr new =>
      obtain ⟨x, _, rfl⟩ := List.mem_map.mp new
      rfl
  pairHome := by
    intro pair member p listed isEnd
    cases List.mem_append.mp member with
    | inl old => exact linked.pairHome pair (List.mem_of_mem_filter old) p listed isEnd
    | inr new =>
      obtain ⟨x, inSchedule, rfl⟩ := List.mem_map.mp new
      obtain ⟨memberA, memberB⟩ := members_of_valid valid inSchedule
      have known : p.participant.pk ∈ db.pidsOf record.event.pk := by
        cases isEnd with
        | inl first => rw [first]; exact memberA
        | inr second => rw [second]; exact memberB
      obtain ⟨q, listed', same, event⟩ := mem_pidsOf.mp known
      exact (linked.oneEvent p listed q listed' same.symm).trans event
  logHome := by
    intro log member round known
    obtain ⟨old, inLogs, rfl⟩ := List.mem_map.mp member
    exact linked.logHome old inLogs round (Option.filter_eq_some_iff.mp known).1

theorem SoundTables.persist (sound : SoundTables db)
    (valid : ValidSchedule (db.pidsOf record.event.pk) record.event.numRounds schedule)
    (written : (persistRows record.event schedule).runOn db = (.ok (), after)) : SoundTables after := by
  have constraints := persistRows_constraints sound.constraints written
  rw [persistRows_written valid written] at constraints ⊢
  exact ⟨constraints, Linked.withPairs sound.linked valid, sound.keys⟩

end Tables

/-! ## What an action writes -/

/-- The rounds and pairs of an event are those of a schedule that the validator accepts for its
    participants. -/
def Scheduled (db : Database) (record : EventRecord) : Prop :=
  ∃ schedule, validateSchedule schedule (db.pidsOf record.event.pk) record.event.numRounds = [] ∧
    db.roundsOf record.event.pk = schedule.rounds.map (roundRecord record.event) ∧
    db.pairsOf record.event.pk = (schedulePairs schedule).map (storedPair record.event)

/-- The schedule of one event has been replaced by a valid one, and nothing of another event has
    changed. -/
structure Replaced (db : Database) (record : EventRecord) (after : Database) : Prop where
  sound : SoundTables after
  scheduled : Scheduled after record
  participants : (after.participantsOf record.event.pk).Sublist (db.participantsOf record.event.pk)
  others : OthersKept record.event.pk db after

section Writers

variable {db after : Database} {record : EventRecord} {schedule : GeneratedSchedule}

theorem replaced_of_persisted (sound : SoundTables db)
    (accepted : validateSchedule schedule (db.pidsOf record.event.pk) record.event.numRounds = [])
    (written : (persistRows record.event schedule).runOn db = (.ok (), after)) : Replaced db record after := by
  have valid := validSchedule_of_accepted (sound.linked.distinct _) (Int.natCast_nonneg _) accepted
  have soundAfter := sound.persist valid written
  rw [persistRows_written valid written] at soundAfter ⊢
  exact
    { sound := soundAfter
      scheduled := ⟨schedule, accepted, roundsOf_withPairs _, pairsOf_withPairs sound.linked.roundHome⟩
      participants := List.Sublist.refl _
      others := othersKept_withPairs sound.linked.roundHome sound.linked.logHome }

theorem participantIds_record (weights : ScoringWeights) :
    participantIds (buildMatchInput record.event (db.participantsOf record.event.pk) weights) =
      db.pidsOf record.event.pk := participantIds_buildMatchInput _ _ _

/-- A command that raises has written nothing. -/
theorem allOrNothing_handle (eventId : String) (dryRun : Bool) : Db.AllOrNothing (handle eventId dryRun) := by
  refine .bind (.ofExcept _ _) fun value => .bind .get fun db => .bind (.ofExcept _ _) fun record =>
    .bind (.ofExcept _ _) fun weights => .bind (.require _ _) fun _ => .bind (.ofExcept _ _) fun schedule =>
    .bind (.require _ _) fun _ => .of_pure ?_
  cases dryRun with
  | true => intro s e s' raised; cases raised
  | false => exact .mapError (.atomic _)

/-- A command that returns has found an event and, unless it was a dry run, persisted an
    accepted schedule. -/
theorem handle_ok {eventId : String} {dryRun : Bool}
    (ran : (handle eventId dryRun).runOn db = (.ok schedule, after)) :
    ∃ record, (uuidValue eventId).bind (findEvent db) = some record ∧
      validateSchedule schedule (db.pidsOf record.event.pk) record.event.numRounds = [] ∧
      if dryRun then after = db else (persistRows record.event schedule).runOn db = (.ok (), after) := by
  obtain ⟨value, parsed, reading⟩ := Db.runOn_ofExcept_bind_eq_ok.mp ran
  rw [Db.runOn_bind_ok (Db.runOn_get db)] at reading
  obtain ⟨record, found, weighing⟩ := Db.runOn_ofExcept_bind_eq_ok.mp reading
  obtain ⟨weights, _, counting⟩ := Db.runOn_ofExcept_bind_eq_ok.mp weighing
  obtain ⟨_, matching⟩ := Db.runOn_require_bind_eq_ok.mp counting
  obtain ⟨generated, _, checking⟩ := Db.runOn_ofExcept_bind_eq_ok.mp matching
  obtain ⟨clean, writing⟩ := Db.runOn_require_bind_eq_ok.mp checking
  obtain ⟨_, _, written, returned⟩ := Db.runOn_bind_eq_ok.mp writing
  cases returned
  rw [List.isEmpty_iff, participantIds_record] at clean
  refine ⟨record, ?_, clean, ?_⟩
  · cases known : uuidValue eventId with
    | none => rw [known] at parsed; cases parsed
    | some _ =>
      rw [known] at parsed
      cases parsed
      cases row : findEvent db value with
      | none => rw [row] at found; cases found
      | some _ => rw [row] at found; cases found; simpa using row
  · cases dryRun with
    | true => cases written; rfl
    | false => exact Db.runOn_mapError_eq_ok.mp written

/-- What a run of the matching leaves: the tables as they were, or a locked schedule. -/
theorem runMatching_cases (record : EventRecord) (action : String) (page : MatchingReportPage) (db : Database) :
    (runMatching record action page db).2 = db ∨ action = "lock" ∧ ∃ schedule,
      validateSchedule schedule (db.pidsOf record.event.pk) record.event.numRounds = [] ∧
        (persistRows record.event schedule).runOn db = (.ok (), (runMatching record action page db).2) := by
  simp only [runMatching]
  split
  · exact .inl rfl
  next weights _ =>
    rw [participantIds_record]
    split
    · exact .inl rfl
    · split
      · exact .inl rfl
      next schedule _ =>
        split
        · exact .inl rfl
        next locks =>
          split
          · exact .inl rfl
          next canLock =>
            rw [not_not, canLock_buildReport, List.isEmpty_iff] at canLock
            rw [not_not] at locks
            cases ran : (persistRows record.event schedule).runOn db with
            | mk result after =>
              cases result with
              | ok _ => exact .inr ⟨locks, schedule, canLock, ran⟩
              | error error => exact .inl (Db.AllOrNothing.atomic _ db error after ran)

theorem matchingReportView_writes (sound : SoundTables db) (eventPk : String) (request : ReportRequest) :
    (matchingReportView eventPk request db).2 = db ∨
      ∃ record, (ScheduleAction.report eventPk request).target db = some record ∧
        Replaced db record (matchingReportView eventPk request db).2 := by
  simp only [matchingReportView, ScheduleAction.target]
  cases row : db.events.find? (·.event.pk = eventPk) with
  | none => exact .inl rfl
  | some record =>
    cases request with
    | get => exact .inl rfl
    | post action confirmed =>
      simp only
      split
      · exact .inl rfl
      · split
        · exact .inl rfl
        next canRun =>
          split
          · exact .inl rfl
          next unconfirmed =>
            rw [not_not, decide_eq_true_eq] at canRun
            cases runMatching_cases record action _ db with
            | inl kept => exact .inl kept
            | inr written =>
              obtain ⟨isLock, schedule, accepted, ran⟩ := written
              refine .inr ⟨record, ?_, replaced_of_persisted sound accepted ran⟩
              -- a schedule that is there is only replaced with a confirmation
              have confirms : (db.roundsOf record.event.pk).isEmpty = true ∨ confirmed = some "yes" := by
                by_cases empty : (db.roundsOf record.event.pk).isEmpty = true
                · exact .inl empty
                · exact .inr (not_not.mp fun missing => unconfirmed ⟨by simpa using empty, missing⟩)
              cases confirms with
              | inl empty => simp [Option.filter, canRun, ReportRequest.locks, isLock, empty]
              | inr yes => simp [Option.filter, canRun, ReportRequest.locks, isLock, yes]

theorem handle_writes (sound : SoundTables db) (eventId : String) (dryRun : Bool) :
    ((handle eventId dryRun).runOn db).2 = db ∨
      ∃ record, (ScheduleAction.command eventId dryRun).target db = some record ∧
        Replaced db record ((handle eventId dryRun).runOn db).2 := by
  cases ran : (handle eventId dryRun).runOn db with
  | mk result after =>
    cases result with
    | error failure => exact .inl (allOrNothing_handle eventId dryRun db failure after ran)
    | ok schedule =>
      obtain ⟨record, found, accepted, written⟩ := handle_ok ran
      cases dryRun with
      | true => exact .inl written
      | false => exact .inr ⟨record, found, replaced_of_persisted sound accepted written⟩

/-- The status is checked again under the lock. -/
theorem recalculateRows_status {call : RecalculateCall}
    (ran : (recalculateRows call).runOn db = (.ok schedule, after)) :
    ∃ record, db.events.find? (·.event.pk = call.eventPk) = some record ∧ record.status ∉ forbiddenStatuses := by
  obtain ⟨record, _, locked, checkingStatus⟩ := Db.runOn_bind_eq_ok.mp ran
  obtain ⟨done, checked, _⟩ := Db.runOn_ofExcept_bind_eq_ok.mp checkingStatus
  exact ⟨record, (lockEvent_ok locked).1, checkStatus_ok checked⟩

theorem BodyDone.replaced {call : RecalculateCall} (done : BodyDone call db schedule after) (sound : SoundTables db) :
    Replaced db done.record after := by
  obtain ⟨record, pks, persisted, log, fields, _, own, _, removes, accepted, written, _, logged, rfl⟩ := done
  rw [← own] at accepted
  have replaced := replaced_of_persisted (sound.deleteParticipants pks) accepted written
  have about : log.round = none ∧ log.event = record.event.pk := by
    rw [logged, own]
    exact ⟨rfl, rfl⟩
  have deleted := othersKept_deleteParticipants sound.linked removes
  rw [← own] at deleted
  have fewer : ((deleteParticipants db pks).participantsOf record.event.pk).Sublist
      (db.participantsOf record.event.pk) := (List.filter_sublist.filter _).map _
  exact
    { sound := replaced.sound.insertLog about.1
      scheduled := replaced.scheduled
      participants := replaced.participants.trans fewer
      others := (deleted.trans replaced.others).trans (othersKept_insertLog about.2) }

theorem recalculate_writes (sound : SoundTables db) (call : RecalculateCall) :
    ((recalculatePairsPreStart call).runOn db).2 = db ∨
      ∃ record, (ScheduleAction.recalculate call).target db = some record ∧
        Replaced db record ((recalculatePairsPreStart call).runOn db).2 := by
  cases ran : (recalculatePairsPreStart call).runOn db with
  | mk result after =>
    cases result with
    | error failure => exact .inl (allOrNothing_recalculatePairsPreStart call db failure after ran)
    | ok schedule =>
      obtain ⟨_, confirmed, checking⟩ := Db.runOn_ofExcept_bind_eq_ok.mp ran
      obtain ⟨_, seen, body⟩ := Db.runOn_ofExcept_bind_eq_ok.mp checking
      have rows := Db.runOn_atomic_eq_ok.mp body
      obtain ⟨record, found, allowed⟩ := recalculateRows_status rows
      obtain ⟨done⟩ := recalculateRows_ok rows
      have same : done.record = record := Option.some.inj (done.selected.symm.trans found)
      have isConfirmed : call.operatorConfirmed = true := by
        simp only [checkConfirmed] at confirmed
        split at confirmed
        next yes => exact yes
        next => cases confirmed
      refine .inr ⟨record, ?_, same ▸ done.replaced sound⟩
      simp [ScheduleAction.target, found, Option.filter, isConfirmed, checkStatus_ok seen, allowed]

end Writers

/-- An action leaves the tables as they are, or replaces the schedule of the event that it may
    write, and of no other. -/
theorem ScheduleAction.run_cases {db : Database} (sound : SoundTables db) (action : ScheduleAction) :
    action.run db = db ∨ ∃ record, action.target db = some record ∧ Replaced db record (action.run db) := by
  cases action with
  | command eventId dryRun => exact handle_writes sound eventId dryRun
  | report eventPk request => exact matchingReportView_writes sound eventPk request
  | recalculate call => exact recalculate_writes sound call

theorem ScheduleAction.target_mem {db : Database} {action : ScheduleAction} {record : EventRecord}
    (target : action.target db = some record) : record ∈ db.events := by
  cases action with
  | command eventId dryRun =>
    simp only [ScheduleAction.target] at target
    split at target
    · cases target
    · obtain ⟨_, _, found⟩ := Option.bind_eq_some_iff.mp target
      exact List.mem_of_find?_eq_some found
  | report eventPk request => exact List.mem_of_find?_eq_some (Option.filter_eq_some_iff.mp target).1
  | recalculate call => exact List.mem_of_find?_eq_some (Option.filter_eq_some_iff.mp target).1

/-! ## Whole runs -/

/-- The rows of an event are as they were at the start. -/
def NeverScheduled (start db : Database) (record : EventRecord) : Prop :=
  db.participantsOf record.event.pk = start.participantsOf record.event.pk ∧
    db.roundsOf record.event.pk = start.roundsOf record.event.pk ∧
    db.pairsOf record.event.pk = start.pairsOf record.event.pk

structure ScheduleInv (start db : Database) : Prop where
  sound : SoundTables db
  events : db.events = start.events
  schedules : ∀ record ∈ start.events, Scheduled db record ∨ NeverScheduled start db record

theorem ScheduleInv.run {start db : Database} (inv : ScheduleInv start db) (action : ScheduleAction) :
    ScheduleInv start (action.run db) := by
  cases action.run_cases inv.sound with
  | inl kept => rwa [kept]
  | inr written =>
    obtain ⟨record, target, replaced⟩ := written
    have listed := ScheduleAction.target_mem target
    refine ⟨replaced.sound, replaced.others.events.trans inv.events, fun other member => ?_⟩
    by_cases same : other.event.pk = record.event.pk
    · rw [← inv.events] at member
      rw [inv.sound.unique member listed same]
      exact .inl replaced.scheduled
    · -- nothing of another event has changed
      have participants := replaced.others.participants _ same
      have rounds := replaced.others.rounds _ same
      have pairs := replaced.others.pairs _ same
      cases inv.schedules other member with
      | inl scheduled =>
        obtain ⟨schedule, accepted, storedRounds, storedPairs⟩ := scheduled
        refine .inl ⟨schedule, ?_, rounds.trans storedRounds, pairs.trans storedPairs⟩
        rw [Database.pidsOf, participants]
        exact accepted
      | inr unwritten =>
        obtain ⟨sameParticipants, sameRounds, samePairs⟩ := unwritten
        exact .inr ⟨participants.trans sameParticipants, rounds.trans sameRounds, pairs.trans samePairs⟩

/-- Whatever commands, locked reports and recalculations are made in whatever order, the
    schedule of every event is valid for its participants, or nobody has written it yet. -/
theorem stored_schedules_valid (start : Database) (sound : SoundTables start) (actions : List ScheduleAction) :
    ScheduleInv start (actions.foldl ScheduleAction.run start) := by
  have begun : ScheduleInv start start := ⟨sound, rfl, fun _ _ => .inr ⟨rfl, rfl, rfl⟩⟩
  have preserved : ∀ db action, ScheduleInv start db → True → ScheduleInv start (ScheduleAction.run db action) :=
    fun _ action inv _ => inv.run action
  exact foldl_preserves preserved begun fun _ _ => trivial

theorem soundTables_cleoAbsent : SoundTables cleoAbsent where
  constraints :=
    { roundNumber := by simp [cleoAbsent, onePairSchedule]
      roundEnds := by decide +kernel
      home := by simp [cleoAbsent, schedulePairs, onePairSchedule, storedPair]
      ordered := by
        simp only [cleoAbsent, schedulePairs, onePairSchedule]
        decide +kernel
      onePair := by simp [cleoAbsent, schedulePairs, onePairSchedule]
      uniquePair := by simp [cleoAbsent, schedulePairs, onePairSchedule]
      uniqueA := by simp [cleoAbsent, schedulePairs, onePairSchedule]
      uniqueB := by simp [cleoAbsent, schedulePairs, onePairSchedule]
      uniqueRoom := by simp [cleoAbsent, schedulePairs, onePairSchedule] }
  linked := linked_cleoAbsent
  keys := by simp [cleoAbsent]

/-- A dry run, a lock of an event that cannot run, a recalculation and a command. -/
def fourWrites : List ScheduleAction :=
  [.command oneRoundEvent.pk true, .report oneRoundEvent.pk (.post "lock" (some "yes")), .recalculate withoutCleo,
    .command oneRoundEvent.pk false]

theorem fourWrites_valid : ScheduleInv cleoAbsent (fourWrites.foldl ScheduleAction.run cleoAbsent) :=
  stored_schedules_valid cleoAbsent soundTables_cleoAbsent fourWrites

/-- Every change of the tables in such a run is a confirmed one: it replaces the schedule of the
    one event that the action names, and a dry run, an unconfirmed lock or a recalculation after
    the start replaces none. -/
theorem written_only_when_confirmed (start : Database) (sound : SoundTables start) (actions : List ScheduleAction) :
    ∀ v ∈ visited ScheduleAction.run start actions, v.2.run v.1 = v.1 ∨
      ∃ record, v.2.target v.1 = some record ∧ Replaced v.1 record (v.2.run v.1) := by
  have preserved : ∀ db action, SoundTables db → True → SoundTables (ScheduleAction.run db action) := by
    intro db action sound _
    cases action.run_cases sound with
    | inl kept => rwa [kept]
    | inr written =>
      obtain ⟨_, _, replaced⟩ := written
      exact replaced.sound
  have always := @visited_invariant _ _ _ SoundTables _ preserved start actions sound fun _ _ => trivial
  exact fun v member => v.2.run_cases (always v member)

theorem fourWrites_confirmed : SoundTables cleoAbsent ∧
    ∀ v ∈ visited ScheduleAction.run cleoAbsent fourWrites, v.2.run v.1 = v.1 ∨
      ∃ record, v.2.target v.1 = some record ∧ Replaced v.1 record (v.2.run v.1) :=
  ⟨soundTables_cleoAbsent, written_only_when_confirmed cleoAbsent soundTables_cleoAbsent fourWrites⟩

end EventPlatform.Operator
