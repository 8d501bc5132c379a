import EventPlatform.Presence.Inbound
import EventPlatform.Presence.Status

/-! # The log of a disconnection

The cause that is written down is what the last telemetry message said, of whatever
type; `dict.get` raises on one that cannot be hashed. -/

namespace EventPlatform.Presence

open EventPlatform.Lib EventPlatform.Scheduling EventPlatform.Protocol

/-! ## Closing a connection -/

/-- The values of `DisconnectionCause`. -/
def disconnectionCauses : List String := ["network", "tab_closed", "permission_denied"]

/-- A whole row of the log. -/
structure DisconnectionRow extends DisconnectionLog where
  eventId : String
  participantId : String
  round : Option Round
  cause : String
  detail : String

/-- The rows that a close writes to. -/
structure DisconnectionRows where
  logs : List DisconnectionRow
  status : ParticipantStatus

/-- What a close finds: the time, the event's rounds, and which of its operations succeed. -/
structure ClosingServices where
  now : Int
  rounds : List Round
  layer : Option (String → Bool)
  creates : Bool
  saves : Bool

/-- `bool` of a JSON value. -/
def truthy (python : PythonLibrary) : Json → Bool
  | .null => false
  | .bool value => value
  | .int value => value ≠ 0
  | .float text => python.floatTruthy text
  | .str value => value ≠ ""
  | .list items => ¬ items.isEmpty
  | .dict fields => ¬ fields.isEmpty

/-- `hash` raises a `TypeError`. -/
def Unhashable : Json → Prop
  | .list _ => True
  | .dict _ => True
  | _ => False

instance decidableUnhashable : DecidablePred Unhashable
  | .list _ | .dict _ => .isTrue trivial
  | .null | .bool _ | .int _ | .float _ | .str _ => .isFalse id

/-- `valid_causes.get(cause, DisconnectionCause.NETWORK)`; `none` where it raises. -/
def storedCause (cause : Json) : Option String :=
  if Unhashable cause then none
  else
    match cause with
    | .str value => if value ∈ disconnectionCauses then some value else some "network"
    | _ => some "network"

/-- `_record_disconnection`; an exception leaves the rows as they are at that point. -/
def recordDisconnection (services : ClosingServices) (participant : ParticipantRow) (cause : Json)
    (detail : String) (rows : DisconnectionRows) : DisconnectionRows :=
  let activeRound := services.rounds.find? fun r => r.startsAt ≤ services.now ∧ services.now ≤ r.endsAt
  match storedCause cause with
  | none => rows
  | some cause =>
    if services.creates then
      let row : DisconnectionRow :=
        { disconnectedAt := services.now
          reconnectedAt := none
          eventId := participant.eventId
          participantId := participant.pk
          round := activeRound
          cause := cause
          detail := detail }
      let logs := rows.logs ++ [row]
      if services.saves then ⟨logs, .disconnected⟩ else ⟨logs, rows.status⟩
    else rows

/-- The cause of a close without telemetry. -/
def closeCause (closeCode : Int) : Json := if closeCode = 1001 then .str "tab_closed" else .str "network"

/-- `group_discard` of the groups that the consumer has joined. -/
def Discards (services : ClosingServices) (consumer : ParticipantConsumer) : Prop :=
  ∀ works ∈ services.layer, ∀ group ∈ consumer.participantGroup.toList ++ consumer.eventGroup.toList,
    works group = true

instance (services : ClosingServices) (consumer : ParticipantConsumer) : Decidable (Discards services consumer) :=
  inferInstanceAs (Decidable (∀ works ∈ services.layer, ∀ group ∈ _, _))

/-- `disconnect` up to `_on_live_socket_closed`, which writes to neither table. -/
def disconnect (python : PythonLibrary) (services : ClosingServices) (consumer : ParticipantConsumer)
    (closeCode : Int) (rows : DisconnectionRows) : DisconnectionRows :=
  -- an exception of the channel layer ends the handler before anything is recorded
  if ¬ Discards services consumer then rows
  else
    match consumer.participant with
    | none => rows
    | some participant =>
      if consumer.handshakeComplete ∧ ¬ consumer.sessionReplaced then
        let cause := consumer.lastTelemetryCause
        let cause := if truthy python cause then cause else closeCause closeCode
        recordDisconnection services participant cause consumer.lastTelemetryDetail rows
      else rows

/-! ## What the frames leave behind -/

/-- The last telemetry message of the frames. -/
def lastTelemetry (python : PythonLibrary) (frames : List Inbound) : Option (Json × String) :=
  (frames.filterMap fun inbound => inbound.raw.bind (telemetry python)).getLast?

/-- The consumer after its frames. -/
def handleFrames (python : PythonLibrary) (settings : InboundSettings) (consumer : ParticipantConsumer)
    (frames : List Inbound) : ParticipantConsumer :=
  frames.foldl (fun consumer inbound => (receive python settings inbound consumer).consumer) consumer

/-- A list or an object that is not empty. -/
def IsCollection : Json → Prop
  | .list (_ :: _) => True
  | .dict (_ :: _) => True
  | _ => False

instance decidableIsCollection : DecidablePred IsCollection
  | .list (_ :: _) => .isTrue trivial
  | .dict (_ :: _) => .isTrue trivial
  | .list [] | .dict [] | .null | .bool _ | .int _ | .float _ | .str _ => .isFalse id

/-- One new row with a cause of the enumeration, and the status that goes with it. -/
def Recorded (participant : ParticipantRow) (before after : DisconnectionRows) : Prop :=
  (∃ row, after.logs = before.logs ++ [row] ∧ row.participantId = participant.pk ∧
    row.cause ∈ disconnectionCauses) ∧ after.status = .disconnected

variable {python : PythonLibrary} {settings : InboundSettings} {services : ClosingServices}
  {consumer : ParticipantConsumer} {inbound : Inbound} {participant : ParticipantRow}
  {rows : DisconnectionRows} {cause : Json}

/-- What a close reads of the consumer, where the handshake is over. -/
structure ParticipantConsumer.Leaves (before after : ParticipantConsumer)
    (telemetered : Option (Json × String)) : Prop where
  participant : after.participant = before.participant
  handshakeComplete : after.handshakeComplete = before.handshakeComplete
  sessionReplaced : after.sessionReplaced = before.sessionReplaced
  participantGroup : after.participantGroup = before.participantGroup
  eventGroup : after.eventGroup = before.eventGroup
  cause : after.lastTelemetryCause = (telemetered.map (·.1)).getD before.lastTelemetryCause

theorem receive_leaves (python : PythonLibrary) (settings : InboundSettings) (inbound : Inbound)
    (greeted : consumer.handshakeComplete = true) :
    consumer.Leaves (receive python settings inbound consumer).consumer
      (inbound.raw.bind (telemetry python)) := by
  rcases receive_cases python settings inbound consumer with ⟨missing, same⟩ |
    ⟨raw, cause, detail, there, sent, same⟩ | ⟨raw, _, there, sent, _, same⟩ |
    ⟨raw, there, sent, ⟨_, same⟩ | ⟨_, after, _, unchanged | ⟨waiting, _⟩, same⟩⟩
  · rw [same, missing]
    exact ⟨rfl, rfl, rfl, rfl, rfl, rfl⟩
  · rw [same, there, Option.bind_some, sent]
    exact ⟨rfl, rfl, rfl, rfl, rfl, rfl⟩
  · rw [same, there, Option.bind_some, sent]
    exact ⟨rfl, rfl, rfl, rfl, rfl, rfl⟩
  · rw [same, there, Option.bind_some, sent]
    exact ⟨rfl, rfl, rfl, rfl, rfl, rfl⟩
  · rw [same, unchanged, there, Option.bind_some, sent]
    exact ⟨rfl, rfl, rfl, rfl, rfl, rfl⟩
  · -- the handshake is not completed a second time
    exact absurd (greeted.symm.trans waiting) (by decide)

theorem lastTelemetry_cons (inbound : Inbound) (frames : List Inbound) :
    lastTelemetry python (inbound :: frames) =
      (lastTelemetry python frames).or (inbound.raw.bind (telemetry python)) := by
  simp only [lastTelemetry, filterMap_cons_toList]
  cases inbound.raw.bind (telemetry python) with
  | none => rw [Option.toList_none, List.nil_append, Option.or_none]
  | some telemetered =>
    rw [Option.toList_some, List.singleton_append, List.getLast?_cons]
    cases (frames.filterMap fun inbound => inbound.raw.bind (telemetry python)).getLast? <;> rfl

theorem handleFrames_leaves (python : PythonLibrary) (settings : InboundSettings) (frames : List Inbound)
    (greeted : consumer.handshakeComplete = true) :
    consumer.Leaves (handleFrames python settings consumer frames) (lastTelemetry python frames) := by
  induction frames generalizing consumer with
  | nil => exact ⟨rfl, rfl, rfl, rfl, rfl, rfl⟩
  | cons inbound frames ih =>
    have first := receive_leaves python settings inbound greeted
    have rest := ih (first.handshakeComplete.trans greeted)
    refine ⟨rest.participant.trans first.participant, rest.handshakeComplete.trans first.handshakeComplete,
      rest.sessionReplaced.trans first.sessionReplaced, rest.participantGroup.trans first.participantGroup,
      rest.eventGroup.trans first.eventGroup, rest.cause.trans ?_⟩
    rw [first.cause, lastTelemetry_cons]
    cases lastTelemetry python frames <;> rfl

/-! ## When the close is recorded -/

/-- The cause of a truthy value that can be hashed is one of the enumeration. -/
theorem storedCause_some (hashable : ¬ Unhashable cause) :
    ∃ value ∈ disconnectionCauses, storedCause cause = some value := by
  simp only [storedCause]
  rw [if_neg hashable]
  split
  · split
    next member => exact ⟨_, member, rfl⟩
    next => exact ⟨"network", by decide, rfl⟩
  · exact ⟨"network", by decide, rfl⟩

/-- A cause that a close cannot look up is a collection; an empty one is not looked up. -/
theorem unhashable_iff (python : PythonLibrary) (cause : Json) (closeCode : Int) :
    Unhashable (if truthy python cause then cause else closeCause closeCode) ↔ IsCollection cause := by
  -- the cause that a close code stands for is a text
  have default : ¬ Unhashable (closeCause closeCode) := by
    simp only [closeCause]
    split <;> exact id
  by_cases true_ : truthy python cause = true
  · rw [if_pos true_]
    cases cause with
    | list items => cases items with
      | nil => cases true_
      | cons _ _ => exact Iff.rfl
    | dict fields => cases fields with
      | nil => cases true_
      | cons _ _ => exact Iff.rfl
    | _ => exact Iff.rfl
  · rw [if_neg true_]
    refine iff_of_false default fun collection => true_ ?_
    cases cause with
    | list items => cases items with
      | nil => cases collection
      | cons _ _ => rfl
    | dict fields => cases fields with
      | nil => cases collection
      | cons _ _ => rfl
    | _ => cases collection

theorem recordDisconnection_ok (hashable : ¬ Unhashable cause) (accepts : services.creates = true ∧
    services.saves = true) (detail : String) :
    Recorded participant rows (recordDisconnection services participant cause detail rows) := by
  obtain ⟨value, member, stored⟩ := storedCause_some hashable
  simp only [recordDisconnection, stored, accepts.1, accepts.2, if_true]
  exact ⟨⟨_, rfl, rfl, member⟩, rfl⟩

/-- A close that leaves the rows as they are has not recorded anything. -/
theorem not_recorded_self (participant : ParticipantRow) (rows : DisconnectionRows) :
    ¬ Recorded participant rows rows := by
  rintro ⟨⟨row, same, _⟩, _⟩
  simpa using congrArg List.length same

/-- The close of a connection is recorded exactly when the channel layer lets it leave its
    groups and the last telemetry cause is no list and no object with something in it. -/
theorem disconnect_recorded (python : PythonLibrary) (settings : InboundSettings)
    (consumer : ParticipantConsumer) (participant : ParticipantRow)
    (authenticated : consumer.authenticated = true ∧ consumer.participant = some participant)
    (greeted : consumer.handshakeComplete = true) (current : consumer.sessionReplaced = false)
    (frames : List Inbound) (services : ClosingServices)
    (accepts : services.creates = true ∧ services.saves = true) (closeCode : Int) (rows : DisconnectionRows) :
    Recorded participant rows
      (disconnect python services (handleFrames python settings consumer frames) closeCode rows) ↔
    Discards services consumer ∧
      ¬ IsCollection (((lastTelemetry python frames).map (·.1)).getD consumer.lastTelemetryCause) := by
  have left := handleFrames_leaves python settings frames greeted
  -- the frames have left alone which groups the connection is in
  have groups : Discards services (handleFrames python settings consumer frames) ↔
      Discards services consumer := by
    simp only [Discards, left.participantGroup, left.eventGroup]
  have goesOn : (handleFrames python settings consumer frames).handshakeComplete = true ∧
      ¬ (handleFrames python settings consumer frames).sessionReplaced = true := by
    rw [left.handshakeComplete, left.sessionReplaced, greeted, current]
    simp
  simp only [disconnect, left.participant, authenticated.2]
  rw [← left.cause]
  by_cases discards : Discards services consumer
  · rw [if_neg (not_not.mpr (groups.mpr discards)), if_pos goesOn]
    rw [← unhashable_iff python _ closeCode]
    constructor
    · intro recorded
      refine ⟨discards, fun unhashable => not_recorded_self participant rows ?_⟩
      simpa only [recordDisconnection, storedCause, if_pos unhashable] using recorded
    · rintro ⟨_, hashable⟩
      exact recordDisconnection_ok hashable accepts _
  · rw [if_pos fun kept => discards (groups.mp kept)]
    exact iff_of_false (not_recorded_self participant rows) fun kept => discards kept.1

/-! ## A cause of the wrong type -/

/-- Ida's connection after its handshake. -/
def idaConnected : ParticipantConsumer :=
  { ParticipantConsumer.connect (some idaRow) 0 with
    handshakeComplete := true
    participantGroup := some "participant_ida"
    eventGroup := some "event_event-1" }

def acceptsAll : ClosingServices := ⟨0, [], some fun _ => true, true, true⟩

/-- A telemetry message with the given JSON text as its cause. -/
def causeFrame (cause : String) : Inbound :=
  ⟨1, some ("\x7b\"type\": \"client.telemetry\", \"payload\": \x7b\"cause\": " ++ cause ++ "\x7d\x7d"), none,
    idaServices⟩

theorem named_cause_is_recorded : Recorded idaRow ⟨[], .active⟩
    (disconnect cpython acceptsAll
      (handleFrames cpython .default idaConnected [causeFrame "\"permission_denied\""]) 1006 ⟨[], .active⟩) := by
  refine (disconnect_recorded cpython .default idaConnected idaRow ⟨rfl, rfl⟩ rfl rfl
    [causeFrame "\"permission_denied\""] acceptsAll ⟨rfl, rfl⟩ 1006 ⟨[], .active⟩).mpr ⟨by decide +kernel, by decide +kernel⟩

/-- A list as the cause leaves the close without a row. -/
theorem list_cause_is_not_recorded : ¬ Recorded idaRow ⟨[], .active⟩
    (disconnect cpython acceptsAll
      (handleFrames cpython .default idaConnected [causeFrame "[\"network\"]"]) 1006 ⟨[], .active⟩) := by
  rintro ⟨_, status⟩
  have kept : (disconnect cpython acceptsAll (handleFrames cpython .default idaConnected
      [causeFrame "[\"network\"]"]) 1006 ⟨[], .active⟩).status = .active := by decide +kernel
  rw [kept] at status
  cases status

end EventPlatform.Presence
