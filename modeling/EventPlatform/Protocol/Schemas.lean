import EventPlatform.Protocol.Validators

/-! # Message builders

Every outbound message is validated by the validator of its own type when it is
built.  Each builder below comes with the exact condition under which it
returns a message. -/

namespace EventPlatform.Protocol

open EventPlatform.Lib

/-- The message dict that is serialised. -/
structure Envelope where
  type : MessageType
  version : Int
  payload : Payload

def protocolVersion : Int := 1

def buildMessage (msgType : MessageType) (payload : Payload) : Checked Envelope := do
  validatePayload msgType payload
  return ⟨msgType, protocolVersion, payload⟩

theorem buildMessage_ok {msgType : MessageType} {payload : Payload} {message : Envelope} :
    buildMessage msgType payload = .ok message ↔
      validatePayload msgType payload = .ok () ∧ message = ⟨msgType, protocolVersion, payload⟩ := by
  rw [buildMessage, then_ok, pure_ok, eq_comm (a := message)]

/-- `payload["round_number"]`, when there is one. -/
def Envelope.roundNumber (message : Envelope) : Option Int :=
  (message.payload.get? "round_number").bind Json.readInt

/-! ## Server builders -/

def buildServerHello (participantId : String) (serverTs clientTsEcho : Int) (eventId : String)
    (supportedVersions : List Int) (maxParticipants : Option Int) : Checked Envelope :=
  buildMessage .serverHello
    ([("participant_id", .str participantId), ("server_ts", .int serverTs),
      ("client_ts_echo", .int clientTsEcho), ("event_id", .str eventId),
      ("supported_versions", .list (supportedVersions.map .int))]
      ++ (maxParticipants.map fun n => ("capacity", Json.dict [("max_participants", .int n)])).toList)

def buildServerClockSync (clientTsEcho serverTs : Int) : Checked Envelope :=
  buildMessage .serverClockSync [("client_ts_echo", .int clientTsEcho), ("server_ts", .int serverTs)]

def buildServerPong (clientTsEcho serverTs : Int) : Checked Envelope :=
  buildMessage .serverPong [("client_ts_echo", .int clientTsEcho), ("server_ts", .int serverTs)]

def pairingPayload (roundNumber : Int) (roomId partnerId : String) (roundStartTs roundEndTs : Int)
    (isOfferer : Bool) (partnerDisplayName : Option String) (partnerTags : Option (List String)) :
    Payload :=
  [("round_number", .int roundNumber), ("room_id", .str roomId), ("partner_id", .str partnerId),
    ("round_start_ts", .int roundStartTs), ("round_end_ts", .int roundEndTs),
    ("is_offerer", .bool isOfferer)]
  ++ (partnerDisplayName.map fun name => ("partner_display_name", Json.str name)).toList
  ++ (partnerTags.map fun tags => ("partner_tags", Json.list (tags.map .str))).toList

def buildServerPairing (roundNumber : Int) (roomId partnerId : String)
    (roundStartTs roundEndTs : Int) (isOfferer : Bool) (partnerDisplayName : Option String)
    (partnerTags : Option (List String)) : Checked Envelope :=
  buildMessage .serverPairing (pairingPayload roundNumber roomId partnerId roundStartTs roundEndTs
    isOfferer partnerDisplayName partnerTags)

def buildServerRoundStart (roundNumber : Int) (roomId : String) (serverTs : Int) :
    Checked Envelope :=
  buildMessage .serverRoundStart
    [("round_number", .int roundNumber), ("room_id", .str roomId), ("server_ts", .int serverTs)]

def buildServerRoundWarning (roundNumber serverTs remainingSeconds roundEndTs : Int) :
    Checked Envelope :=
  buildMessage .serverRoundWarning
    [("round_number", .int roundNumber), ("server_ts", .int serverTs),
      ("remaining_seconds", .int remainingSeconds), ("round_end_ts", .int roundEndTs)]

def buildServerRoundEnd (roundNumber serverTs : Int) : Checked Envelope :=
  buildMessage .serverRoundEnd [("round_number", .int roundNumber), ("server_ts", .int serverTs)]

def buildServerEventEnd (reason : String) (serverTs : Int) (message : Option String) :
    Checked Envelope :=
  buildMessage .serverEventEnd
    ([("reason", .str reason), ("server_ts", .int serverTs)]
      ++ (message.map fun text => ("message", Json.str text)).toList)

def buildServerWebrtcOffer (roomId fromParticipantId sdp : String) : Checked Envelope :=
  buildMessage .serverWebrtcOffer
    [("room_id", .str roomId), ("from_participant_id", .str fromParticipantId), ("sdp", .str sdp)]

def buildServerWebrtcAnswer (roomId fromParticipantId sdp : String) : Checked Envelope :=
  buildMessage .serverWebrtcAnswer
    [("room_id", .str roomId), ("from_participant_id", .str fromParticipantId), ("sdp", .str sdp)]

def buildServerIceCandidate (roomId fromParticipantId candidate sdpMid : String)
    (sdpMlineIndex : Int) : Checked Envelope :=
  buildMessage .serverWebrtcIce
    [("room_id", .str roomId), ("from_participant_id", .str fromParticipantId),
      ("candidate", .str candidate), ("sdp_mid", .str sdpMid), ("sdp_mline_index", .int sdpMlineIndex)]

def buildServerError (code message : String) (originalType : Option String)
    (detail : Option Payload) : Checked Envelope :=
  buildMessage .serverError
    ([("code", .str code), ("message", .str message)]
      ++ (originalType.map fun text => ("original_type", Json.str text)).toList
      ++ (detail.map fun fields => ("detail", Json.dict fields)).toList)

/-! ## What the builders accept -/

/-- The envelope a builder returns when its payload is accepted. -/
theorem build_ok_iff {msgType : MessageType} {payload : Payload} {accepted : Prop}
    (valid : validatePayload msgType payload = .ok () ↔ accepted) :
    (∃ message, buildMessage msgType payload = .ok message) ↔ accepted := by
  simp only [buildMessage_ok, exists_and_left, exists_eq, and_true, valid]

theorem buildServerRoundEnd_ok {roundNumber serverTs : Int} :
    (∃ message, buildServerRoundEnd roundNumber serverTs = .ok message) ↔
      (1 ≤ roundNumber ∧ roundNumber ≤ 6) ∧ 0 < serverTs := by
  apply build_ok_iff
  simp [validatePayload, validateServerRoundEnd, then_ok, discard_ok, requireRoundNumber_ok,
    requirePositiveInt_ok, Holds, Dict.get?_cons]

theorem buildServerRoundStart_ok {roundNumber serverTs : Int} {roomId : String} :
    (∃ message, buildServerRoundStart roundNumber roomId serverTs = .ok message) ↔
      (1 ≤ roundNumber ∧ roundNumber ≤ 6) ∧ isBlank roomId = false ∧ 0 < serverTs := by
  apply build_ok_iff
  simp [validatePayload, validateServerRoundStart, then_ok, discard_ok, requireRoundNumber_ok,
    requirePositiveInt_ok, requireNonemptyStr_ok, Holds, Dict.get?_cons]

theorem buildServerRoundWarning_ok {roundNumber serverTs remainingSeconds roundEndTs : Int} :
    (∃ message, buildServerRoundWarning roundNumber serverTs remainingSeconds roundEndTs =
      .ok message) ↔
      (1 ≤ roundNumber ∧ roundNumber ≤ 6) ∧ 0 < serverTs ∧ 0 ≤ remainingSeconds ∧
        0 < roundEndTs := by
  apply build_ok_iff
  simp [validatePayload, validateServerRoundWarning, then_ok, discard_ok, requireRoundNumber_ok,
    requirePositiveInt_ok, requireNonnegInt_ok, Holds, Dict.get?_cons]

theorem isBlank_of_mem_eventEndReasons {reason : String} (member : reason ∈ eventEndReasons) :
    isBlank reason = false := by
  revert reason
  decide

theorem buildServerEventEnd_ok {reason : String} {serverTs : Int} {message : Option String} :
    (∃ envelope, buildServerEventEnd reason serverTs message = .ok envelope) ↔
      reason ∈ eventEndReasons ∧ 0 < serverTs := by
  apply build_ok_iff
  cases message <;>
  · simp [validatePayload, validateServerEventEnd, then_ok, discard_ok, requireMember_ok,
      requirePositiveInt_ok, checkOptional_ok, Holds, Dict.get?_cons, Json.readStr]
    exact fun _ member => isBlank_of_mem_eventEndReasons member

theorem validateServerPairing_ok {payload : Payload} :
    validateServerPairing payload = .ok () ↔
      (∃ value, Holds payload "round_number" (.int value) ∧ 1 ≤ value ∧ value ≤ 6) ∧
      (∃ value, Holds payload "room_id" (.str value) ∧ isBlank value = false) ∧
      (∃ value, Holds payload "partner_id" (.str value) ∧ isBlank value = false) ∧
      (∃ value, Holds payload "is_offerer" (.bool value)) ∧
      (∃ value, Holds payload "round_start_ts" (.int value) ∧ 0 < value) ∧
      (∃ value, Holds payload "round_end_ts" (.int value) ∧ 0 < value) ∧
      (∀ value, Holds payload "partner_display_name" value → value.readStr.isSome = true) ∧
      ∀ value, Holds payload "partner_tags" value →
        value.readList.any (·.all (·.readStr.isSome)) = true := by
  simp only [validateServerPairing, then_ok, discard_ok, requireRoundNumber_ok,
    requirePositiveInt_ok, requireNonemptyStr_ok, requireBool_ok, checkOptional_ok]

theorem buildServerPairing_ok {roundNumber roundStartTs roundEndTs : Int} {roomId partnerId : String}
    {isOfferer : Bool} {partnerDisplayName : Option String} {partnerTags : Option (List String)} :
    (∃ message, buildServerPairing roundNumber roomId partnerId roundStartTs roundEndTs isOfferer
      partnerDisplayName partnerTags = .ok message) ↔
      (1 ≤ roundNumber ∧ roundNumber ≤ 6) ∧ isBlank roomId = false ∧ isBlank partnerId = false ∧
        0 < roundStartTs ∧ 0 < roundEndTs := by
  apply build_ok_iff
  rw [validatePayload, validateServerPairing_ok]
  cases partnerDisplayName <;> cases partnerTags <;>
  simp [pairingPayload, Holds, Dict.get?_cons, Json.readStr, Json.readList]

theorem validateDescription_ok {payload : Payload} {fields : List String}
    {originalType : MessageType} : validateDescription payload fields originalType = .ok () ↔
      ∀ field ∈ fields, ∃ value, Holds payload field (.str value) ∧ isBlank value = false := by
  induction fields with
  | nil => simp [validateDescription, pure, Except.pure]
  | cons field fields ih =>
    show (do
      discard (requireNonemptyStr payload field originalType)
      validateDescription payload fields originalType) = .ok () ↔ _
    rw [then_ok, ih, discard_ok, List.forall_mem_cons]
    simp only [requireNonemptyStr_ok]

theorem buildServerWebrtcOffer_ok {roomId fromParticipantId sdp : String} :
    (∃ message, buildServerWebrtcOffer roomId fromParticipantId sdp = .ok message) ↔
      isBlank roomId = false ∧ isBlank fromParticipantId = false ∧ isBlank sdp = false := by
  apply build_ok_iff
  simp [validatePayload, validateServerWebrtcOffer, validateDescription_ok, Holds, Dict.get?_cons]

theorem buildServerWebrtcAnswer_ok {roomId fromParticipantId sdp : String} :
    (∃ message, buildServerWebrtcAnswer roomId fromParticipantId sdp = .ok message) ↔
      isBlank roomId = false ∧ isBlank fromParticipantId = false ∧ isBlank sdp = false := by
  apply build_ok_iff
  simp [validatePayload, validateServerWebrtcAnswer, validateDescription_ok, Holds, Dict.get?_cons]

theorem buildServerIceCandidate_ok {roomId fromParticipantId candidate sdpMid : String}
    {sdpMlineIndex : Int} : (∃ message, buildServerIceCandidate roomId fromParticipantId candidate
      sdpMid sdpMlineIndex = .ok message) ↔
      (isBlank roomId = false ∧ isBlank fromParticipantId = false ∧ isBlank candidate = false ∧
        isBlank sdpMid = false) ∧ 0 ≤ sdpMlineIndex := by
  apply build_ok_iff
  rw [validatePayload, validateServerWebrtcIce, then_ok, discard_ok, validateDescription_ok]
  -- the fields are split off before their values are looked up
  simp only [requireNonnegInt_ok, List.forall_mem_cons, List.not_mem_nil, false_implies, implies_true]
  simp [Holds, Dict.get?_cons]

theorem buildServerError_ok {code message : String} {originalType : Option String}
    {detail : Option Payload} :
    (∃ envelope, buildServerError code message originalType detail = .ok envelope) ↔
      isBlank code = false ∧ isBlank message = false := by
  apply build_ok_iff
  cases originalType <;> cases detail <;>
  simp [validatePayload, validateServerError, then_ok, discard_ok, requireNonemptyStr_ok,
    checkOptional_ok, Holds, Dict.get?_cons, Json.readStr, Json.readDict]

end EventPlatform.Protocol
