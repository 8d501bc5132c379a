import EventPlatform.Lib.Dict
import EventPlatform.Lib.PyText

/-! # Protocol messages and their validators

A payload is a JSON object; each message type has a validator that reads the
fields it needs and raises a `ProtocolError` at the first field that is missing,
of the wrong type or out of range. -/

namespace EventPlatform.Protocol

open EventPlatform.Lib

/-! ## JSON values -/

/-- What `json.loads` produces.  A float is kept by its text: no validator looks
    at its value. -/
inductive Json where
  | null
  | bool (value : Bool)
  | int (value : Int)
  | float (text : String)
  | str (value : String)
  | list (items : List Json)
  | dict (fields : List (String × Json))

abbrev Payload := Dict String Json

namespace Json

/-- `type(value).__name__`. -/
def typeName : Json → String
  | null => "NoneType"
  | bool _ => "bool"
  | int _ => "int"
  | float _ => "float"
  | str _ => "str"
  | list _ => "list"
  | dict _ => "dict"

def readBool : Json → Option Bool
  | bool value => some value
  | _ => none

def readInt : Json → Option Int
  | int value => some value
  | _ => none

def readStr : Json → Option String
  | str value => some value
  | _ => none

def readList : Json → Option (List Json)
  | list items => some items
  | _ => none

def readDict : Json → Option Payload
  | dict fields => some fields
  | _ => none

end Json

/-- The types a validator asks for, as Python prints them. -/
inductive PyType where
  | bool
  | int
  | str
  | list
deriving DecidableEq

def PyType.text : PyType → String
  | bool => "<class 'bool'>"
  | int => "<class 'int'>"
  | str => "<class 'str'>"
  | list => "<class 'list'>"

/-! ## Constants -/

inductive MessageType where
  | clientHello
  | serverHello
  | clientClockSync
  | serverClockSync
  | clientPing
  | serverPong
  | serverPairing
  | clientReady
  | serverRoundStart
  | serverRoundWarning
  | serverRoundEnd
  | serverPartnerState
  | clientWebrtcOffer
  | serverWebrtcOffer
  | clientWebrtcAnswer
  | serverWebrtcAnswer
  | clientWebrtcIce
  | serverWebrtcIce
  | serverTurnCredentials
  | serverEventEnd
  | serverError
deriving DecidableEq

def MessageType.value : MessageType → String
  | clientHello => "client.hello"
  | serverHello => "server.hello"
  | clientClockSync => "client.clock_sync"
  | serverClockSync => "server.clock_sync"
  | clientPing => "client.ping"
  | serverPong => "server.pong"
  | serverPairing => "server.pairing"
  | clientReady => "client.ready"
  | serverRoundStart => "server.round_start"
  | serverRoundWarning => "server.round_warning"
  | serverRoundEnd => "server.round_end"
  | serverPartnerState => "server.partner_state"
  | clientWebrtcOffer => "client.webrtc.offer"
  | serverWebrtcOffer => "server.webrtc.offer"
  | clientWebrtcAnswer => "client.webrtc.answer"
  | serverWebrtcAnswer => "server.webrtc.answer"
  | clientWebrtcIce => "client.webrtc.ice_candidate"
  | serverWebrtcIce => "server.webrtc.ice_candidate"
  | serverTurnCredentials => "server.turn_credentials"
  | serverEventEnd => "server.event_end"
  | serverError => "server.error"

/-- The error codes the validators use. -/
inductive ErrorCode where
  | invalidJson
  | invalidMessage
  | unknownType
  | versionMismatch
deriving DecidableEq

def ErrorCode.value : ErrorCode → String
  | invalidJson => "ERR_INVALID_JSON"
  | invalidMessage => "ERR_INVALID_MESSAGE"
  | unknownType => "ERR_UNKNOWN_TYPE"
  | versionMismatch => "ERR_VERSION_MISMATCH"

/-- The values of `PartnerState`. -/
def partnerStates : List String := ["connected", "disconnected", "reconnecting"]

/-- The values of `EventEndReason`. -/
def eventEndReasons : List String := ["completed", "cancelled", "error"]

structure ProtocolError where
  code : ErrorCode
  message : String
  originalType : Option String
  detail : Payload

abbrev Checked (α : Type) := Except ProtocolError α

def invalid (message : String) (originalType : MessageType) (detail : Payload) : ProtocolError :=
  ⟨.invalidMessage, message, some originalType.value, detail⟩

def raiseIf (bad : Prop) [Decidable bad] (error : ProtocolError) : Checked Unit :=
  if bad then .error error else .ok ()

/-! ## Field helpers -/

/-- `_require`: `read` is the test `isinstance(value, expected_type)`.  A `bool`
    is not accepted where an `int` is expected. -/
def require {α : Type} (payload : Payload) (field : String) (expectedType : PyType)
    (read : Json → Option α) (originalType : MessageType) : Checked α :=
  match payload.get? field with
  | none =>
    .error (invalid s!"Missing required field: '{field}'" originalType [("field", .str field)])
  | some value =>
    if value.readBool.isSome ∧ expectedType = .int then
      .error (invalid s!"Field '{field}' must be {expectedType.text} (got bool)" originalType
        [("field", .str field), ("got", .str value.typeName)])
    else
      match read value with
      | none =>
        .error (invalid s!"Field '{field}' must be {expectedType.text} (got {value.typeName})"
          originalType [("field", .str field), ("got", .str value.typeName)])
      | some result => .ok result

def requireStr (payload : Payload) (field : String) (originalType : MessageType) :
    Checked String :=
  require payload field .str Json.readStr originalType

def requireInt (payload : Payload) (field : String) (originalType : MessageType) : Checked Int :=
  require payload field .int Json.readInt originalType

def requireList (payload : Payload) (field : String) (originalType : MessageType) :
    Checked (List Json) :=
  require payload field .list Json.readList originalType

def requirePositiveInt (payload : Payload) (field : String) (originalType : MessageType) :
    Checked Int := do
  let value ← requireInt payload field originalType
  raiseIf (value ≤ 0) (invalid s!"Field '{field}' must be a positive integer (got {value})"
    originalType [("field", .str field), ("got", .int value)])
  return value

def requireNonnegInt (payload : Payload) (field : String) (originalType : MessageType) :
    Checked Int := do
  let value ← requireInt payload field originalType
  raiseIf (value < 0) (invalid s!"Field '{field}' must be >= 0 (got {value})"
    originalType [("field", .str field), ("got", .int value)])
  return value

def requireNonemptyStr (payload : Payload) (field : String) (originalType : MessageType) :
    Checked String := do
  let value ← requireStr payload field originalType
  raiseIf (isBlank value) (invalid s!"Field '{field}' must not be blank"
    originalType [("field", .str field)])
  return value

/-- The range check that five validators repeat. -/
def requireRoundNumber (payload : Payload) (originalType : MessageType) : Checked Int := do
  let roundNumber ← requireInt payload "round_number" originalType
  raiseIf (¬ (1 ≤ roundNumber ∧ roundNumber ≤ 6))
    (invalid "Field 'round_number' must be between 1 and 6"
      originalType [("field", .str "round_number"), ("got", .int roundNumber)])
  return roundNumber

/-- `if field in payload and not good(payload[field])`. -/
def checkOptional (payload : Payload) (field : String) (good : Json → Bool) (message : String)
    (originalType : MessageType) : Checked Unit :=
  match payload.get? field with
  | none => .ok ()
  | some value => if good value then .ok () else .error (invalid message originalType [])

/-- `sorted(values)` as Python prints it. -/
def sortedText (values : List String) : String := pyReprList (values.insertionSort (· ≤ ·))

/-- A field that holds a member of an enumeration. -/
def requireMember (payload : Payload) (field : String) (values : List String)
    (originalType : MessageType) : Checked String := do
  let value ← requireNonemptyStr payload field originalType
  raiseIf (value ∉ values)
    (invalid s!"Field '{field}' must be one of {sortedText values} (got {pyRepr value})"
      originalType [("field", .str field), ("got", .str value)])
  return value

/-! ## Client payloads -/

def validateClientHello (payload : Payload) : Checked Unit := do
  discard (requirePositiveInt payload "client_ts" .clientHello)

def validateClientClockSync (payload : Payload) : Checked Unit := do
  discard (requirePositiveInt payload "client_ts" .clientClockSync)

def validateClientPing (payload : Payload) : Checked Unit := do
  discard (requirePositiveInt payload "client_ts" .clientPing)

def validateClientReady (payload : Payload) : Checked Unit := do
  discard (requireRoundNumber payload .clientReady)

/-- The fields shared by the session descriptions in both directions. -/
def validateDescription (payload : Payload) (fields : List String) (originalType : MessageType) :
    Checked Unit :=
  fields.forM fun field => discard (requireNonemptyStr payload field originalType)

def validateClientWebrtcOffer (payload : Payload) : Checked Unit :=
  validateDescription payload ["room_id", "sdp"] .clientWebrtcOffer

def validateClientWebrtcAnswer (payload : Payload) : Checked Unit :=
  validateDescription payload ["room_id", "sdp"] .clientWebrtcAnswer

def validateClientWebrtcIce (payload : Payload) : Checked Unit := do
  validateDescription payload ["room_id", "candidate", "sdp_mid"] .clientWebrtcIce
  discard (requireNonnegInt payload "sdp_mline_index" .clientWebrtcIce)

/-! ## Server payloads -/

def validateCapacity (capacity : Json) : Checked Unit := do
  match capacity.readDict with
  | none => throw (invalid "Optional field 'capacity' must be an object" .serverHello [])
  | some capacity =>
    let maxParticipants ← requirePositiveInt capacity "max_participants" .serverHello
    raiseIf (maxParticipants < 2)
      (invalid "Field 'capacity.max_participants' must be at least 2" .serverHello [])

def validateServerHello (payload : Payload) : Checked Unit := do
  discard (requireNonemptyStr payload "participant_id" .serverHello)
  discard (requirePositiveInt payload "server_ts" .serverHello)
  discard (requirePositiveInt payload "client_ts_echo" .serverHello)
  discard (requireNonemptyStr payload "event_id" .serverHello)
  let versions ← requireList payload "supported_versions" .serverHello
  raiseIf (versions.isEmpty)
    (invalid "Field 'supported_versions' must not be empty" .serverHello [])
  raiseIf (¬ versions.all (·.readInt.isSome))
    (invalid "Each element of 'supported_versions' must be an integer" .serverHello [])
  match payload.get? "capacity" with
  | none => return
  | some capacity => validateCapacity capacity

def validateServerClockSync (payload : Payload) : Checked Unit := do
  discard (requirePositiveInt payload "client_ts_echo" .serverClockSync)
  discard (requirePositiveInt payload "server_ts" .serverClockSync)

def validateServerPong (payload : Payload) : Checked Unit := do
  discard (requirePositiveInt payload "client_ts_echo" .serverPong)
  discard (requirePositiveInt payload "server_ts" .serverPong)

def validateServerPairing (payload : Payload) : Checked Unit := do
  discard (requireRoundNumber payload .serverPairing)
  discard (requireNonemptyStr payload "room_id" .serverPairing)
  discard (requireNonemptyStr payload "partner_id" .serverPairing)
  discard (require payload "is_offerer" .bool Json.readBool .serverPairing)
  discard (requirePositiveInt payload "round_start_ts" .serverPairing)
  discard (requirePositiveInt payload "round_end_ts" .serverPairing)
  checkOptional payload "partner_display_name" (·.readStr.isSome)
    "Optional field 'partner_display_name' must be a string" .serverPairing
  checkOptional payload "partner_tags" (fun tags => tags.readList.any (·.all (·.readStr.isSome)))
    "Optional field 'partner_tags' must be a list of strings" .serverPairing

def validateServerRoundStart (payload : Payload) : Checked Unit := do
  discard (requireRoundNumber payload .serverRoundStart)
  discard (requireNonemptyStr payload "room_id" .serverRoundStart)
  discard (requirePositiveInt payload "server_ts" .serverRoundStart)

def validateServerRoundWarning (payload : Payload) : Checked Unit := do
  discard (requireRoundNumber payload .serverRoundWarning)
  discard (requirePositiveInt payload "server_ts" .serverRoundWarning)
  discard (requireNonnegInt payload "remaining_seconds" .serverRoundWarning)
  discard (requirePositiveInt payload "round_end_ts" .serverRoundWarning)

def validateServerRoundEnd (payload : Payload) : Checked Unit := do
  discard (requireRoundNumber payload .serverRoundEnd)
  discard (requirePositiveInt payload "server_ts" .serverRoundEnd)

def validateServerPartnerState (payload : Payload) : Checked Unit := do
  discard (requireNonemptyStr payload "partner_id" .serverPartnerState)
  discard (requireMember payload "state" partnerStates .serverPartnerState)
  discard (requirePositiveInt payload "server_ts" .serverPartnerState)

def validateServerWebrtcOffer (payload : Payload) : Checked Unit :=
  validateDescription payload ["room_id", "from_participant_id", "sdp"] .serverWebrtcOffer

def validateServerWebrtcAnswer (payload : Payload) : Checked Unit :=
  validateDescription payload ["room_id", "from_participant_id", "sdp"] .serverWebrtcAnswer

def validateServerWebrtcIce (payload : Payload) : Checked Unit := do
  validateDescription payload ["room_id", "from_participant_id", "candidate", "sdp_mid"]
    .serverWebrtcIce
  discard (requireNonnegInt payload "sdp_mline_index" .serverWebrtcIce)

def validateServerTurnCredentials (payload : Payload) : Checked Unit := do
  let urls ← requireList payload "urls" .serverTurnCredentials
  raiseIf (urls.isEmpty) (invalid "Field 'urls' must not be empty" .serverTurnCredentials [])
  raiseIf (¬ urls.all (fun url => url.readStr.any fun url => !isBlank url))
    (invalid "Each element of 'urls' must be a non-empty string" .serverTurnCredentials [])
  discard (requireNonemptyStr payload "username" .serverTurnCredentials)
  discard (requireNonemptyStr payload "credential" .serverTurnCredentials)
  discard (requirePositiveInt payload "ttl" .serverTurnCredentials)

def validateServerEventEnd (payload : Payload) : Checked Unit := do
  discard (requireMember payload "reason" eventEndReasons .serverEventEnd)
  discard (requirePositiveInt payload "server_ts" .serverEventEnd)
  checkOptional payload "message" (·.readStr.isSome)
    "Optional field 'message' must be a string" .serverEventEnd

def validateServerError (payload : Payload) : Checked Unit := do
  discard (requireNonemptyStr payload "code" .serverError)
  discard (requireNonemptyStr payload "message" .serverError)
  checkOptional payload "original_type" (·.readStr.isSome)
    "Optional field 'original_type' must be a string" .serverError
  checkOptional payload "detail" (·.readDict.isSome)
    "Optional field 'detail' must be an object" .serverError

/-- `_PAYLOAD_VALIDATORS`, which has an entry for every message type. -/
def validatePayload : MessageType → Payload → Checked Unit
  | .clientHello => validateClientHello
  | .clientClockSync => validateClientClockSync
  | .clientPing => validateClientPing
  | .clientReady => validateClientReady
  | .clientWebrtcOffer => validateClientWebrtcOffer
  | .clientWebrtcAnswer => validateClientWebrtcAnswer
  | .clientWebrtcIce => validateClientWebrtcIce
  | .serverHello => validateServerHello
  | .serverClockSync => validateServerClockSync
  | .serverPong => validateServerPong
  | .serverPairing => validateServerPairing
  | .serverRoundStart => validateServerRoundStart
  | .serverRoundWarning => validateServerRoundWarning
  | .serverRoundEnd => validateServerRoundEnd
  | .serverPartnerState => validateServerPartnerState
  | .serverWebrtcOffer => validateServerWebrtcOffer
  | .serverWebrtcAnswer => validateServerWebrtcAnswer
  | .serverWebrtcIce => validateServerWebrtcIce
  | .serverTurnCredentials => validateServerTurnCredentials
  | .serverEventEnd => validateServerEventEnd
  | .serverError => validateServerError

/-! ## When a field is accepted -/

variable {payload : Payload} {field : String} {originalType : MessageType}

/-- `value` was read from the field. -/
def Holds (payload : Payload) (field : String) (value : Json) : Prop :=
  payload.get? field = some value

theorem bind_ok {ε α β : Type} {x : Except ε α} {f : α → Except ε β} {b : β} :
    (x >>= f) = .ok b ↔ ∃ a, x = .ok a ∧ f a = .ok b := by
  cases x with
  | error e => simp [Bind.bind, Except.bind]
  | ok a => simp [Bind.bind, Except.bind]

theorem then_ok {β : Type} {x : Checked Unit} {y : Checked β} {b : β} :
    (do x; y) = .ok b ↔ x = .ok () ∧ y = .ok b := by
  rw [bind_ok]
  exact ⟨fun ⟨_, done, next⟩ => ⟨done, next⟩, fun ⟨done, next⟩ => ⟨(), done, next⟩⟩

theorem pure_ok {α : Type} {a b : α} : (pure a : Checked α) = .ok b ↔ a = b := by
  simp [pure, Except.pure]

theorem discard_ok {α : Type} {x : Checked α} : discard x = .ok () ↔ ∃ a, x = .ok a := by
  cases x with
  | error e => simp [discard, Functor.discard, Functor.mapConst, Except.map]
  | ok a => simp [discard, Functor.discard, Functor.mapConst, Except.map]

theorem raiseIf_ok {bad : Prop} [Decidable bad] {error : ProtocolError} :
    raiseIf bad error = .ok () ↔ ¬ bad := by
  simp only [raiseIf]
  split <;> simp [*]

theorem requireInt_ok {value : Int} : requireInt payload field originalType = .ok value ↔
    Holds payload field (.int value) := by
  simp only [requireInt, require, Holds]
  cases payload.get? field with
  | none => simp
  | some found => cases found <;> simp [Json.readBool, Json.readInt]

theorem requireStr_ok {value : String} : requireStr payload field originalType = .ok value ↔
    Holds payload field (.str value) := by
  simp only [requireStr, require, Holds]
  cases payload.get? field with
  | none => simp
  | some found => cases found <;> simp [Json.readStr]

theorem requireBool_ok {value : Bool} :
    require payload field .bool Json.readBool originalType = .ok value ↔
      Holds payload field (.bool value) := by
  simp only [require, Holds]
  cases payload.get? field with
  | none => simp
  | some found => cases found <;> simp [Json.readBool]

/-- A value that is read and then guarded. -/
theorem guarded_ok {α : Type} {x : Checked α} {value : α} {bad : α → Prop} [DecidablePred bad]
    {error : α → ProtocolError} :
    (do let a ← x; raiseIf (bad a) (error a); return a : Checked α) = .ok value ↔
      x = .ok value ∧ ¬ bad value := by
  rw [bind_ok]
  simp only [then_ok, raiseIf_ok, pure_ok]
  constructor
  · rintro ⟨a, read, good, rfl⟩
    exact ⟨read, good⟩
  · rintro ⟨read, good⟩
    exact ⟨value, read, good, rfl⟩

theorem requirePositiveInt_ok {value : Int} :
    requirePositiveInt payload field originalType = .ok value ↔
      Holds payload field (.int value) ∧ 0 < value := by
  rw [requirePositiveInt, guarded_ok, requireInt_ok, not_le]

theorem requireNonnegInt_ok {value : Int} :
    requireNonnegInt payload field originalType = .ok value ↔
      Holds payload field (.int value) ∧ 0 ≤ value := by
  rw [requireNonnegInt, guarded_ok, requireInt_ok, not_lt]

theorem requireNonemptyStr_ok {value : String} :
    requireNonemptyStr payload field originalType = .ok value ↔
      Holds payload field (.str value) ∧ isBlank value = false := by
  rw [requireNonemptyStr, guarded_ok, requireStr_ok, Bool.not_eq_true]

theorem requireRoundNumber_ok {value : Int} :
    requireRoundNumber payload originalType = .ok value ↔
      Holds payload "round_number" (.int value) ∧ 1 ≤ value ∧ value ≤ 6 := by
  rw [requireRoundNumber, guarded_ok, requireInt_ok, not_not]

theorem requireMember_ok {value : String} {values : List String} :
    requireMember payload field values originalType = .ok value ↔
      (Holds payload field (.str value) ∧ isBlank value = false) ∧ value ∈ values := by
  rw [requireMember, guarded_ok, requireNonemptyStr_ok, not_not]

theorem checkOptional_ok {good : Json → Bool} {message : String} :
    checkOptional payload field good message originalType = .ok () ↔
      ∀ value, Holds payload field value → good value = true := by
  simp only [checkOptional, Holds]
  cases payload.get? field with
  | none => simp
  | some found =>
    simp only [Option.some.injEq, forall_eq']
    split <;> simp [*]

end EventPlatform.Protocol
