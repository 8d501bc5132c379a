import EventPlatform.Operator.Service
import EventPlatform.Orchestrator.Dispatch

/-! # What a call room knows

`CallRoomState` is the timer, the partner and the phase that a page shows.  Only
messages change it: each handler builds the next state from the payload and
from what it keeps. -/

namespace EventPlatform.CallRoom

open EventPlatform.Lib EventPlatform.Operator EventPlatform.Orchestrator EventPlatform.Protocol

inductive CallRoomPhase where
  | idle
  | preconnecting
  | inRound
  | roundEnding
  | eventEnded
  | disconnected
deriving DecidableEq

inductive PartnerPresence where
  | connected
  | reconnecting
  | gone
deriving DecidableEq

structure PartnerInfo where
  partnerId : String
  roomId : String
  roundNumber : Int
  roundStartTs : Int
  roundEndTs : Int
  isOfferer : Bool
  displayName : String
  tags : List String
deriving DecidableEq

/-- Extract partner metadata from a `server.pairing` payload; `none` stands for an
    exception.  The builders put text wherever `str` is applied. -/
def parsePairingPayload (payload : Payload) : Option PartnerInfo := do
  let tags := match payload.get? "partner_tags" with
    | some (.list tags) => tags.filterMap Json.readStr
    | _ => []
  let displayName := match payload.get? "partner_display_name" with
    | some (.str name) => if isBlank name then "Partner" else name
    | _ => "Partner"
  let partnerId ← (payload.get? "partner_id").bind Json.readStr
  let roomId ← (payload.get? "room_id").bind Json.readStr
  let roundNumber ← (payload.get? "round_number").bind Json.readInt
  let roundStartTs ← (payload.get? "round_start_ts").bind Json.readInt
  let roundEndTs ← (payload.get? "round_end_ts").bind Json.readInt
  let isOfferer := ((payload.get? "is_offerer").bind Json.readBool).getD false
  return ⟨partnerId, roomId, roundNumber, roundStartTs, roundEndTs, isOfferer, displayName, tags⟩

/-! ## The state and its handlers -/

structure CallRoomState where
  phase : CallRoomPhase := .idle
  roundNumber : Option Int := none
  roundEndTs : Option Int := none
  serverWarningActive : Bool := false
  partner : Option PartnerInfo := none
  eventEndReason : Option String := none
  isPaused : Bool := false
  pausedRemainingMs : Option Int := none
  partnerPresence : Option PartnerPresence := none
deriving DecidableEq

/-- `int(payload.get(field, default))`. -/
def getInt (payload : Payload) (field : String) (default : Int) : Int :=
  ((payload.get? field).bind Json.readInt).getD default

/-- The payload of an operator's message.  Instants are what `isoformat` and
    `fromisoformat` carry over. -/
structure OperatorPayload where
  roundNumber : Option Int
  remainingSeconds : Option Int
  endsAt : Option Int
  extendedBySeconds : Option Int

namespace CallRoomState

def onPairing (payload : Payload) : Option CallRoomState := do
  let partner ← parsePairingPayload payload
  return {
    phase := .preconnecting
    roundNumber := some partner.roundNumber
    roundEndTs := some partner.roundEndTs
    serverWarningActive := false
    partner := some partner
    eventEndReason := none
    isPaused := false
    pausedRemainingMs := none
    partnerPresence := some .connected }

def onRoundStart (s : CallRoomState) (payload : Payload) : CallRoomState :=
  { phase := .inRound
    roundNumber := some (getInt payload "round_number" (s.roundNumber.getD 0))
    roundEndTs := s.roundEndTs
    serverWarningActive := false
    partner := s.partner
    eventEndReason := none
    isPaused := false
    pausedRemainingMs := none
    partnerPresence := s.partnerPresence }

/-- `round_end_ts or self.round_end_ts` keeps the old value for zero. -/
def onRoundWarning (s : CallRoomState) (payload : Payload) : CallRoomState :=
  let roundEndTs := getInt payload "round_end_ts" (s.roundEndTs.getD 0)
  { phase := s.phase
    roundNumber := some (getInt payload "round_number" (s.roundNumber.getD 0))
    roundEndTs := if roundEndTs = 0 then s.roundEndTs else some roundEndTs
    serverWarningActive := true
    partner := s.partner
    eventEndReason := none
    isPaused := s.isPaused
    pausedRemainingMs := s.pausedRemainingMs
    partnerPresence := s.partnerPresence }

def onRoundEnd (s : CallRoomState) (payload : Payload) : CallRoomState :=
  { phase := .roundEnding
    roundNumber := some (getInt payload "round_number" (s.roundNumber.getD 0))
    roundEndTs := s.roundEndTs
    serverWarningActive := false
    partner := none
    eventEndReason := none
    isPaused := false
    pausedRemainingMs := none
    partnerPresence := none }

def onEventEnd (s : CallRoomState) (payload : Payload) : CallRoomState :=
  { phase := .eventEnded
    roundNumber := s.roundNumber
    roundEndTs := s.roundEndTs
    serverWarningActive := false
    partner := none
    eventEndReason := some (((payload.get? "reason").bind Json.readStr).getD "completed")
    isPaused := false
    pausedRemainingMs := none
    partnerPresence := none }

/-- Freeze the round timer during an operator pause. -/
def onOperatorPause (s : CallRoomState) (payload : OperatorPayload) : CallRoomState :=
  { s with
    roundNumber := some (payload.roundNumber.getD (s.roundNumber.getD 0))
    isPaused := true
    pausedRemainingMs := some (payload.remainingSeconds.getD 0 * 1000) }

/-- Resume the round timer with the new end from the operator. -/
def onOperatorResume (s : CallRoomState) (payload : OperatorPayload) : CallRoomState :=
  { s with
    roundNumber := some (payload.roundNumber.getD (s.roundNumber.getD 0))
    roundEndTs := match payload.endsAt with
      | some endsAt => some (datetimeToUnixMs endsAt)
      | none => s.roundEndTs
    serverWarningActive := false
    isPaused := false
    pausedRemainingMs := none }

/-- Extend the current round's end; without a new end, by the seconds. -/
def onOperatorExtend (s : CallRoomState) (payload : OperatorPayload) : CallRoomState :=
  { s with
    roundNumber := some (payload.roundNumber.getD (s.roundNumber.getD 0))
    roundEndTs := match payload.endsAt, payload.extendedBySeconds, s.roundEndTs with
      | some endsAt, _, _ => some (datetimeToUnixMs endsAt)
      | none, some extendedBySeconds, some roundEndTs =>
        if roundEndTs = 0 then some roundEndTs else some (roundEndTs + extendedBySeconds * 1000)
      | none, _, _ => s.roundEndTs }

end CallRoomState

/-! ## Messages -/

/-- What a socket brings to its page about the round. -/
inductive RoomMessage where
  | envelope (message : Envelope)
  | operator (payload : ActionPayload)

/-- The fields an action's message carries. -/
def operatorPayload : ActionPayload → OperatorPayload
  | .pause roundNumber remainingSeconds _ => ⟨some roundNumber, some remainingSeconds, none, none⟩
  | .resume roundNumber _ endsAt remainingSeconds =>
    ⟨some roundNumber, some remainingSeconds, some endsAt, none⟩
  | .extend roundNumber extendedBySeconds endsAt =>
    ⟨some roundNumber, none, some endsAt, some extendedBySeconds⟩

namespace CallRoomState

/-- The handler of the message's type; an exception leaves the state as it was. -/
def receive (s : CallRoomState) : RoomMessage → CallRoomState
  | .envelope message =>
    match message.type with
    | .serverPairing => (onPairing message.payload).getD s
    | .serverRoundStart => s.onRoundStart message.payload
    | .serverRoundWarning => s.onRoundWarning message.payload
    | .serverRoundEnd => s.onRoundEnd message.payload
    | .serverEventEnd => s.onEventEnd message.payload
    | _ => s
  | .operator payload =>
    match payload with
    | .pause .. => s.onOperatorPause (operatorPayload payload)
    | .resume .. => s.onOperatorResume (operatorPayload payload)
    | .extend .. => s.onOperatorExtend (operatorPayload payload)

/-- The fields a participant sees: phase, round, partner, end, pause and warning. -/
def shown (s : CallRoomState) :
    CallRoomPhase × Option Int × Option PartnerInfo × Option Int × Bool × Bool :=
  (s.phase, s.roundNumber, s.partner, s.roundEndTs, s.isPaused, s.serverWarningActive)

end CallRoomState

/-! ## The orchestrator's messages -/

variable {message : Envelope} {recipient : PairingRecipient} {r : Scheduling.Round} {now : Int}

/-- What a page reads out of the pairing it is sent. -/
def partnerOf (recipient : PairingRecipient) (r : Scheduling.Round) : PartnerInfo :=
  ⟨recipient.partnerId, recipient.roomId, r.number, datetimeToUnixMs r.startsAt,
    datetimeToUnixMs r.endsAt, recipient.isOfferer,
    if isBlank recipient.partnerDisplayName then "Partner" else recipient.partnerDisplayName,
    recipient.partnerTags⟩

theorem receive_pairing (built : pairingMessage recipient r = .ok message) (s : CallRoomState) :
    s.receive (.envelope message) =
      { phase := .preconnecting
        roundNumber := some r.number
        roundEndTs := some (datetimeToUnixMs r.endsAt)
        serverWarningActive := false
        partner := some (partnerOf recipient r)
        eventEndReason := none
        isPaused := false
        pausedRemainingMs := none
        partnerPresence := some .connected } := by
  obtain ⟨_, rfl⟩ := buildMessage_ok.mp built
  have strings : (recipient.partnerTags.map Json.str).filterMap Json.readStr =
      recipient.partnerTags := by
    simp [List.filterMap_map, Function.comp_def, Json.readStr]
  simp [CallRoomState.receive, CallRoomState.onPairing, parsePairingPayload, pairingPayload,
    Dict.get?_cons, Json.readStr, Json.readInt, Json.readBool, partnerOf, strings]

theorem receive_roundStart
    (built : buildServerRoundStart r.number recipient.roomId (datetimeToUnixMs now) = .ok message)
    (s : CallRoomState) : s.receive (.envelope message) =
      { s with
        phase := .inRound
        roundNumber := some r.number
        serverWarningActive := false
        eventEndReason := none
        isPaused := false
        pausedRemainingMs := none } := by
  obtain ⟨_, rfl⟩ := buildMessage_ok.mp built
  simp [CallRoomState.receive, CallRoomState.onRoundStart, getInt, Dict.get?_cons, Json.readInt]

/-- A warning names the stored end of its round. -/
theorem receive_warning {remaining : Int}
    (built : buildServerRoundWarning r.number (datetimeToUnixMs now) remaining
      (datetimeToUnixMs r.endsAt) = .ok message)
    (s : CallRoomState) : s.receive (.envelope message) =
      { s with
        roundNumber := some r.number
        roundEndTs := some (datetimeToUnixMs r.endsAt)
        serverWarningActive := true
        eventEndReason := none } := by
  have positive := (buildServerRoundWarning_ok.mp ⟨_, built⟩).2.2.2
  obtain ⟨_, rfl⟩ := buildMessage_ok.mp built
  simp [CallRoomState.receive, CallRoomState.onRoundWarning, getInt, Dict.get?_cons, Json.readInt,
    positive.ne']

end EventPlatform.CallRoom
