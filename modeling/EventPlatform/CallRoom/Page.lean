import EventPlatform.CallRoom.State
import EventPlatform.CallRoom.Transport

/-! # What a page knows

`CallRoomController` keeps the fields of `CallRoomState` for the page it drives.
Each handler is run to completion; the fields it waits for its media with are
those it has set before. -/

namespace EventPlatform.CallRoom

open EventPlatform.Lib EventPlatform.Operator EventPlatform.Orchestrator EventPlatform.Protocol

/-! ## Presence in the protocol -/

/-- The first of the fields that holds a text. -/
def firstText (payload : Payload) (fields : List String) : Option String :=
  fields.findSome? fun field => ((payload.get? field).bind Json.readStr).filter (· ≠ "")

def presenceFields : List String := ["state", "presence", "status"]

/-- `lower` and `toLowerCase`, of which only Latin letters matter here. -/
def lowerCase (text : String) : String := String.ofList (text.toList.map Char.toLower)

def PartnerPresence.value : PartnerPresence → String
  | .connected => "connected"
  | .reconnecting => "reconnecting"
  | .gone => "gone"

/-- `partner_presence_from_protocol`, which also looks one level deeper. -/
def partnerPresenceFromProtocol (payload : Payload) : Option PartnerPresence := do
  let inner := (payload.get? "payload").bind Json.readDict
  let raw ← firstText payload presenceFields <|> inner.bind fun inner => firstText inner presenceFields
  let val := lowerCase raw
  if val = "disconnected" ∨ val = "gone" then some .gone
  else if val = "reconnecting" then some .reconnecting
  else if val = "connected" then some .connected
  else none

def CallRoomState.onPartnerState (s : CallRoomState) (payload : Payload) : CallRoomState :=
  { s with partnerPresence := partnerPresenceFromProtocol payload }

/-- The handler of the message's type, `server.partner_state` included. -/
def CallRoomState.handleMessage (s : CallRoomState) : RoomMessage → CallRoomState
  | .envelope message =>
    match message.type with
    | .serverPartnerState => s.onPartnerState message.payload
    | _ => s.receive (.envelope message)
  | .operator payload => s.receive (.operator payload)

/-! ## The page -/

/-- The partner as the page keeps it.  Round numbers are small; instants need not be. -/
structure PagePartner where
  partnerId : String
  roomId : String
  roundNumber : Int
  roundStartTs : Number
  roundEndTs : Number
  isOfferer : Bool
  displayName : String
  tags : List String
deriving DecidableEq

structure CallRoomPage where
  phase : CallRoomPhase := .idle
  roundEndTs : Option Number := none
  roundNumber : Option Int := none
  serverWarningActive : Bool := false
  isPaused : Bool := false
  partnerPresence : Option String := none
  partner : Option PagePartner := none
  eventEndReason : Option String := none
deriving DecidableEq

/-- White space and line ends of the browser's language. -/
def isTrimmed (c : Char) : Bool :=
  c.toNat ∈ [9, 10, 11, 12, 13, 32, 160, 5760, 8232, 8233, 8239, 8287, 12288, 65279] ∨
    (8192 ≤ c.toNat ∧ c.toNat ≤ 8202)

/-- `Date.parse` of what `isoformat` wrote: the digits below a millisecond are dropped. -/
def dateParse (t : Int) : Number := .finite ((t / 1000 : Int) : ℚ)

/-- `Number(payload.field)` -/
def getNumber (payload : Payload) (field : String) : Number :=
  ((payload.get? field).bind Json.readInt).elim .nan fun n => .ofExact n

namespace CallRoomPage

/-- `parsePairingPayload` of the page, for a payload that has every field. -/
def parsePairingPayload (payload : Payload) : PagePartner where
  partnerId := ((payload.get? "partner_id").bind Json.readStr).getD "undefined"
  roomId := ((payload.get? "room_id").bind Json.readStr).getD "undefined"
  roundNumber := getInt payload "round_number" 0
  roundStartTs := getNumber payload "round_start_ts"
  roundEndTs := getNumber payload "round_end_ts"
  isOfferer := ((payload.get? "is_offerer").bind Json.readBool).getD false
  displayName := match payload.get? "partner_display_name" with
    | some (.str name) => if name.toList.all isTrimmed then "Partner" else name
    | _ => "Partner"
  tags := match payload.get? "partner_tags" with
    | some (.list tags) => tags.filterMap Json.readStr
    | _ => []

/-- The transport that a message finds serves the partner. -/
def isSamePartnerAssignment (page : CallRoomPage) (negotiator : Option FailoverMediaTransport) : Bool :=
  match negotiator, page.partner with
  | some negotiator, some partner =>
    negotiator.active.pc && negotiator.active.roomId == partner.roomId &&
      negotiator.active.partnerId == partner.partnerId
  | _, _ => false

def sameAssignment (page : CallRoomPage) (negotiator : Option FailoverMediaTransport) (next : PagePartner) : Bool :=
  match page.partner with
  | some partner =>
    partner.partnerId == next.partnerId && partner.roomId == next.roomId &&
      partner.roundNumber == next.roundNumber && page.isSamePartnerAssignment negotiator
  | none => false

def onPairing (page : CallRoomPage) (negotiator : Option FailoverMediaTransport) (payload : Payload) :
    CallRoomPage :=
  let next := parsePairingPayload payload
  { page with
    partner := some next
    roundNumber := some next.roundNumber
    roundEndTs := some next.roundEndTs
    serverWarningActive := false
    isPaused := false
    partnerPresence := some "connected"
    -- the assignment there is goes on in the phase it is in
    phase := if page.sameAssignment negotiator next then page.phase else .preconnecting }

def onRoundStart (page : CallRoomPage) (payload : Payload) : CallRoomPage :=
  { page with
    roundNumber := some (getInt payload "round_number" (page.roundNumber.getD 0))
    phase := .inRound
    serverWarningActive := false
    isPaused := false }

/-- The end named by a message, unless it names none or zero. -/
def onRoundWarning (page : CallRoomPage) (payload : Payload) : CallRoomPage :=
  let named := ((payload.get? "round_end_ts").bind Json.readInt).filter (· ≠ 0)
  { page with
    serverWarningActive := true
    roundEndTs := named.map (.ofExact ·) <|> page.roundEndTs }

def onRoundEnd (page : CallRoomPage) (payload : Payload) : CallRoomPage :=
  { page with
    roundNumber := some (getInt payload "round_number" (page.roundNumber.getD 0))
    phase := .roundEnding
    serverWarningActive := false
    isPaused := false
    partner := none }

def onEventEnd (page : CallRoomPage) (payload : Payload) : CallRoomPage :=
  { page with
    eventEndReason := some ((firstText payload ["reason"]).getD "completed")
    phase := .eventEnded
    isPaused := false }

/-- `payload[field]` as a text, unless it counts as false.  `coerced` is what the browser
    makes of a value that is no text. -/
def textOf (coerced : Json → Option String) (payload : Payload) (field : String) : Option String :=
  (payload.get? field).bind fun value =>
    match value with
    | .str text => if text = "" then none else some text
    | value => coerced value

/-- The state is about another partner or another room. -/
def ignores (coerced : Json → Option String) (page : CallRoomPage) (payload : Payload) : Bool :=
  match page.partner with
  | some partner =>
    (textOf coerced payload "room_id" <|> textOf coerced payload "roomId").any (· ≠ partner.roomId) ||
      (textOf coerced payload "partner_id" <|> textOf coerced payload "partnerId").any (· ≠ partner.partnerId)
  | none => false

/-- `partnerPresenceFromProtocol` of the page, which returns a state it does not know. -/
def partnerPresenceFromProtocol (payload : Payload) : Option String :=
  (firstText payload presenceFields).map fun raw =>
    let val := lowerCase raw
    if val = "disconnected" ∨ val = "gone" then "gone" else val

def onPartnerState (coerced : Json → Option String) (page : CallRoomPage) (payload : Payload) : CallRoomPage :=
  if page.ignores coerced payload then page
  else { page with partnerPresence := some ((partnerPresenceFromProtocol payload).getD "gone") }

def onOperatorPause (page : CallRoomPage) : CallRoomPage := { page with isPaused := true }

def onOperatorResume (page : CallRoomPage) (payload : OperatorPayload) : CallRoomPage :=
  { page with
    isPaused := false
    roundEndTs := payload.endsAt.map dateParse <|> page.roundEndTs }

def onOperatorExtend (page : CallRoomPage) (payload : OperatorPayload) : CallRoomPage :=
  { page with
    roundEndTs := match payload.endsAt, payload.extendedBySeconds, page.roundEndTs with
      | some endsAt, _, _ => some (dateParse endsAt)
      | none, some extendedBySeconds, some roundEndTs =>
        if extendedBySeconds = 0 ∨ roundEndTs.truthy = false then some roundEndTs
        else some (roundEndTs.add (.mul (.ofExact extendedBySeconds) (.finite 1000)))
      | none, _, _ => page.roundEndTs }

/-- `_handleMessage`, with the transport that the message finds. -/
def handleMessage (coerced : Json → Option String) (page : CallRoomPage)
    (negotiator : Option FailoverMediaTransport) : RoomMessage → CallRoomPage
  | .envelope message =>
    match message.type with
    | .serverPairing => page.onPairing negotiator message.payload
    | .serverRoundStart => page.onRoundStart message.payload
    | .serverRoundWarning => page.onRoundWarning message.payload
    | .serverRoundEnd => page.onRoundEnd message.payload
    | .serverEventEnd => page.onEventEnd message.payload
    | .serverPartnerState => page.onPartnerState coerced message.payload
    | _ => page
  | .operator payload =>
    match payload with
    | .pause .. => page.onOperatorPause
    | .resume .. => page.onOperatorResume (operatorPayload payload)
    | .extend .. => page.onOperatorExtend (operatorPayload payload)

end CallRoomPage

end EventPlatform.CallRoom
