import EventPlatform.Protocol.JsonText
import EventPlatform.Protocol.Schemas

/-! # Inbound messages

`validate_message` checks a frame in the order of the protocol's validation rules.
The field tables of the protocol are stated here on their own, and the validators
accept exactly what the tables admit. -/

namespace EventPlatform.Protocol

open EventPlatform.Lib

/-! ## The validator of a frame -/

inductive Frame where
  | text (raw : String)
  | bytes (raw : List UInt8)

def Frame.decoded : Frame → String
  | text raw => raw
  | bytes raw => decodeReplace raw

/-- An exception that leaves `validate_message`. -/
inductive PyError where
  | protocol (error : ProtocolError)
  | value

def clientMessageTypes : List MessageType :=
  [.clientHello, .clientClockSync, .clientPing, .clientReady, .clientWebrtcOffer, .clientWebrtcAnswer,
    .clientWebrtcIce]

def serverMessageTypes : List MessageType :=
  [.serverHello, .serverClockSync, .serverPong, .serverPairing, .serverRoundStart, .serverRoundWarning,
    .serverRoundEnd, .serverPartnerState, .serverWebrtcOffer, .serverWebrtcAnswer, .serverWebrtcIce,
    .serverTurnCredentials, .serverEventEnd, .serverError]

def allKnownTypes : List String := (clientMessageTypes ++ serverMessageTypes).map (·.value)

/-- The members of the enumeration, in its order. -/
def messageTypes : List MessageType :=
  [.clientHello, .serverHello, .clientClockSync, .serverClockSync, .clientPing, .serverPong,
    .serverPairing, .clientReady, .serverRoundStart, .serverRoundWarning, .serverRoundEnd,
    .serverPartnerState, .clientWebrtcOffer, .serverWebrtcOffer, .clientWebrtcAnswer,
    .serverWebrtcAnswer, .clientWebrtcIce, .serverWebrtcIce, .serverTurnCredentials, .serverEventEnd,
    .serverError]

/-- `MessageType(value)`, which raises a `ValueError` where there is none. -/
def MessageType.ofValue? (value : String) : Option MessageType :=
  messageTypes.find? (·.value = value)

def supportedVersions : List Int := [1]

/-- An error about the envelope. -/
def malformed (message : String) (originalType : Option String) : ProtocolError :=
  ⟨.invalidMessage, message, originalType, []⟩

def parseJson (loads : String → Except String Json) (raw : Frame) : Checked Json :=
  match loads raw.decoded with
  | .error exc => .error ⟨.invalidJson, s!"Message is not valid JSON: {exc}", none, []⟩
  | .ok data => .ok data

def requireObject (data : Json) : Checked Payload :=
  match data.readDict with
  | none => .error (malformed "Message must be a JSON object" none)
  | some data => .ok data

def requireVersion (data : Payload) : Checked Unit :=
  match data.get? "version" with
  | none => .error (malformed "Missing required envelope field: 'version'" none)
  | some version =>
    match version.readInt with
    | none => .error (malformed "Envelope field 'version' must be an integer" none)
    | some version =>
      raiseIf (version ∉ supportedVersions) ⟨.versionMismatch,
        s!"Protocol version {version} is not supported. Supported versions: {supportedVersions}", none,
        [("received", .int version), ("supported", .list (supportedVersions.map .int))]⟩

def requireType (data : Payload) : Checked String :=
  match data.get? "type" with
  | none => .error (malformed "Missing required envelope field: 'type'" none)
  | some msgType =>
    match msgType.readStr with
    | none => .error (malformed "Envelope field 'type' must be a string" none)
    | some msgType =>
      if msgType ∈ allKnownTypes then .ok msgType
      else .error ⟨.unknownType, s!"Unknown message type: {pyRepr msgType}", some msgType, []⟩

def requirePayload (data : Payload) (msgType : String) : Checked Payload :=
  match data.get? "payload" with
  | none => .error (malformed "Missing required envelope field: 'payload'" (some msgType))
  | some payload =>
    match payload.readDict with
    | none => .error (malformed "Envelope field 'payload' must be a JSON object" (some msgType))
    | some payload => .ok payload

/-- `_PAYLOAD_VALIDATORS.get(msg_type)` -/
def payloadValidator (msgType : String) : Option (Payload → Checked Unit) :=
  (MessageType.ofValue? msgType).map validatePayload

/-- The checks of `validate_message`, one after another. -/
def checkMessage (loads : String → Except String Json) (raw : Frame) : Checked (String × Payload) := do
  let data ← parseJson loads raw
  let data ← requireObject data
  requireVersion data
  let msgType ← requireType data
  let payload ← requirePayload data msgType
  match payloadValidator msgType with
  | none => return (msgType, payload)
  | some validator =>
    validator payload
    return (msgType, payload)

def validateMessage (loads : String → Except String Json) (raw : Frame) :
    Except PyError (MessageType × Payload) :=
  match checkMessage loads raw with
  | .error error => .error (.protocol error)
  | .ok (msgType, payload) =>
    match MessageType.ofValue? msgType with
    | none => .error .value
    | some msgType => .ok (msgType, payload)

/-! ## The field tables -/

/-- The declared kind of a field. -/
inductive FieldKind where
  | int (lowest highest : Option Int)
  | bool
  | str
  | nonblank
  | member (values : List String)
  | list (element : FieldKind)
  | nonempty (element : FieldKind)
  | object
  | record (field : String) (kind : FieldKind)

/-- A Unix time in milliseconds. -/
abbrev FieldKind.timestamp : FieldKind := .int (some 1) none

abbrev FieldKind.count : FieldKind := .int (some 0) none

abbrev FieldKind.round : FieldKind := .int (some 1) (some 6)

/-- The field is there, and what it holds is right. -/
def Has (payload : Payload) (field : String) (right : Json → Prop) : Prop :=
  ∃ value, Holds payload field value ∧ right value

def FieldKind.Admits : FieldKind → Json → Prop
  | int lowest highest, value =>
    ∃ n, value = .int n ∧ (∀ l ∈ lowest, l ≤ n) ∧ ∀ h ∈ highest, n ≤ h
  | bool, value => ∃ b, value = .bool b
  | str, value => ∃ s, value = .str s
  | nonblank, value => ∃ s, value = .str s ∧ isBlank s = false
  | member values, value => ∃ s, value = .str s ∧ s ∈ values
  | list element, value => ∃ items, value = .list items ∧ ∀ item ∈ items, element.Admits item
  | nonempty element, value =>
    ∃ items, value = .list items ∧ items ≠ [] ∧ ∀ item ∈ items, element.Admits item
  | object, value => ∃ fields, value = .dict fields
  | record field kind, value => ∃ fields, value = .dict fields ∧ Has fields field kind.Admits

structure Schema where
  required : List (String × FieldKind)
  optional : List (String × FieldKind)

def Schema.Accepts (schema : Schema) (payload : Payload) : Prop :=
  (∀ field ∈ schema.required, Has payload field.1 field.2.Admits) ∧
    ∀ field ∈ schema.optional, ∀ value, Holds payload field.1 value → field.2.Admits value

def schema : MessageType → Schema
  | .clientHello => ⟨[("client_ts", .timestamp)], []⟩
  | .clientClockSync => ⟨[("client_ts", .timestamp)], []⟩
  | .clientPing => ⟨[("client_ts", .timestamp)], []⟩
  | .clientReady => ⟨[("round_number", .round)], []⟩
  | .clientWebrtcOffer => ⟨[("room_id", .nonblank), ("sdp", .nonblank)], []⟩
  | .clientWebrtcAnswer => ⟨[("room_id", .nonblank), ("sdp", .nonblank)], []⟩
  | .clientWebrtcIce =>
    ⟨[("room_id", .nonblank), ("candidate", .nonblank), ("sdp_mid", .nonblank),
      ("sdp_mline_index", .count)], []⟩
  | .serverHello =>
    ⟨[("participant_id", .nonblank), ("server_ts", .timestamp), ("client_ts_echo", .timestamp),
      ("event_id", .nonblank), ("supported_versions", .nonempty (.int none none))],
      [("capacity", .record "max_participants" (.int (some 2) none))]⟩
  | .serverClockSync => ⟨[("client_ts_echo", .timestamp), ("server_ts", .timestamp)], []⟩
  | .serverPong => ⟨[("client_ts_echo", .timestamp), ("server_ts", .timestamp)], []⟩
  | .serverPairing =>
    ⟨[("round_number", .round), ("room_id", .nonblank), ("partner_id", .nonblank), ("is_offerer", .bool),
      ("round_start_ts", .timestamp), ("round_end_ts", .timestamp)],
      [("partner_display_name", .str), ("partner_tags", .list .str)]⟩
  | .serverRoundStart =>
    ⟨[("round_number", .round), ("room_id", .nonblank), ("server_ts", .timestamp)], []⟩
  | .serverRoundWarning =>
    ⟨[("round_number", .round), ("server_ts", .timestamp), ("remaining_seconds", .count),
      ("round_end_ts", .timestamp)], []⟩
  | .serverRoundEnd => ⟨[("round_number", .round), ("server_ts", .timestamp)], []⟩
  | .serverPartnerState =>
    ⟨[("partner_id", .nonblank), ("state", .member partnerStates), ("server_ts", .timestamp)], []⟩
  | .serverWebrtcOffer =>
    ⟨[("room_id", .nonblank), ("from_participant_id", .nonblank), ("sdp", .nonblank)], []⟩
  | .serverWebrtcAnswer =>
    ⟨[("room_id", .nonblank), ("from_participant_id", .nonblank), ("sdp", .nonblank)], []⟩
  | .serverWebrtcIce =>
    ⟨[("room_id", .nonblank), ("from_participant_id", .nonblank), ("candidate", .nonblank),
      ("sdp_mid", .nonblank), ("sdp_mline_index", .count)], []⟩
  | .serverTurnCredentials =>
    ⟨[("urls", .nonempty .nonblank), ("username", .nonblank), ("credential", .nonblank),
      ("ttl", .int (some 1) none)], []⟩
  | .serverEventEnd =>
    ⟨[("reason", .member eventEndReasons), ("server_ts", .timestamp)], [("message", .str)]⟩
  | .serverError =>
    ⟨[("code", .nonblank), ("message", .nonblank)], [("original_type", .str), ("detail", .object)]⟩

/-! ## What the helpers admit -/

variable {payload : Payload} {field : String} {originalType : MessageType}

theorem admits_int {lowest highest : Option Int} {value : Json} :
    (FieldKind.int lowest highest).Admits value ↔
      ∃ n, value = .int n ∧ (∀ l ∈ lowest, l ≤ n) ∧ ∀ h ∈ highest, n ≤ h := Iff.rfl

@[simp] theorem admits_bool {value : Json} : FieldKind.bool.Admits value ↔ ∃ b, value = .bool b := Iff.rfl

@[simp] theorem admits_str {value : Json} : FieldKind.str.Admits value ↔ ∃ s, value = .str s := Iff.rfl

@[simp] theorem admits_nonblank {value : Json} :
    FieldKind.nonblank.Admits value ↔ ∃ s, value = .str s ∧ isBlank s = false := Iff.rfl

@[simp] theorem admits_member {values : List String} {value : Json} :
    (FieldKind.member values).Admits value ↔ ∃ s, value = .str s ∧ s ∈ values := Iff.rfl

@[simp] theorem admits_list {element : FieldKind} {value : Json} :
    (FieldKind.list element).Admits value ↔ ∃ items, value = .list items ∧ ∀ item ∈ items, element.Admits item :=
  Iff.rfl

@[simp] theorem admits_nonempty {element : FieldKind} {value : Json} :
    (FieldKind.nonempty element).Admits value ↔
      ∃ items, value = .list items ∧ items ≠ [] ∧ ∀ item ∈ items, element.Admits item := Iff.rfl

@[simp] theorem admits_object {value : Json} : FieldKind.object.Admits value ↔ ∃ fields, value = .dict fields := Iff.rfl

@[simp] theorem admits_record {field : String} {kind : FieldKind} {value : Json} :
    (FieldKind.record field kind).Admits value ↔ ∃ fields, value = .dict fields ∧ Has fields field kind.Admits :=
  Iff.rfl

theorem has_positiveInt : (∃ value, requirePositiveInt payload field originalType = .ok value) ↔
    Has payload field FieldKind.timestamp.Admits := by
  simp only [requirePositiveInt_ok, Has, admits_int, Option.mem_def, Option.some.injEq, forall_eq',
    reduceCtorEq, false_implies, implies_true, and_true]
  constructor
  · rintro ⟨n, holds, positive⟩
    exact ⟨_, holds, n, rfl, positive⟩
  · rintro ⟨_, holds, n, rfl, positive⟩
    exact ⟨n, holds, positive⟩

theorem has_nonnegInt : (∃ value, requireNonnegInt payload field originalType = .ok value) ↔
    Has payload field FieldKind.count.Admits := by
  simp only [requireNonnegInt_ok, Has, admits_int, Option.mem_def, Option.some.injEq, forall_eq',
    reduceCtorEq, false_implies, implies_true, and_true]
  constructor
  · rintro ⟨n, holds, nonneg⟩
    exact ⟨_, holds, n, rfl, nonneg⟩
  · rintro ⟨_, holds, n, rfl, nonneg⟩
    exact ⟨n, holds, nonneg⟩

theorem has_roundNumber : (∃ value, requireRoundNumber payload originalType = .ok value) ↔
    Has payload "round_number" FieldKind.round.Admits := by
  simp only [requireRoundNumber_ok, Has, admits_int, Option.mem_def, Option.some.injEq, forall_eq']
  constructor
  · rintro ⟨n, holds, range⟩
    exact ⟨_, holds, n, rfl, range⟩
  · rintro ⟨_, holds, n, rfl, range⟩
    exact ⟨n, holds, range⟩

theorem has_nonemptyStr : (∃ value, requireNonemptyStr payload field originalType = .ok value) ↔
    Has payload field FieldKind.nonblank.Admits := by
  simp only [requireNonemptyStr_ok, Has, admits_nonblank]
  constructor
  · rintro ⟨text, holds, nonblank⟩
    exact ⟨_, holds, text, rfl, nonblank⟩
  · rintro ⟨_, holds, text, rfl, nonblank⟩
    exact ⟨text, holds, nonblank⟩

theorem has_bool : (∃ value, require payload field .bool Json.readBool originalType = .ok value) ↔
    Has payload field FieldKind.bool.Admits := by
  simp only [requireBool_ok, Has, admits_bool]
  constructor
  · rintro ⟨b, holds⟩
    exact ⟨_, holds, b, rfl⟩
  · rintro ⟨_, holds, b, rfl⟩
    exact ⟨b, holds⟩

theorem has_member {values : List String} (nonblank : ∀ value ∈ values, isBlank value = false) :
    (∃ value, requireMember payload field values originalType = .ok value) ↔
      Has payload field (FieldKind.member values).Admits := by
  simp only [requireMember_ok, Has, admits_member]
  constructor
  · rintro ⟨text, ⟨holds, _⟩, member⟩
    exact ⟨_, holds, text, rfl, member⟩
  · rintro ⟨_, holds, text, rfl, member⟩
    exact ⟨text, ⟨holds, nonblank text member⟩, member⟩

theorem requireList_ok {items : List Json} : requireList payload field originalType = .ok items ↔
    Holds payload field (.list items) := by
  simp only [requireList, require, Holds]
  cases payload.get? field with
  | none => simp
  | some found => cases found <;> simp [Json.readList]

/-- A list that is read, and then must not be empty and hold only good elements. -/
theorem has_nonempty {β : Type} {good : Json → Bool} {element : FieldKind} {emptyError badError : ProtocolError}
    {next : Checked β} {result : β} (admits : ∀ item, good item = true ↔ element.Admits item) :
    (do
      let items ← requireList payload field originalType
      raiseIf items.isEmpty emptyError
      raiseIf (¬ items.all good) badError
      next) = .ok result ↔
      Has payload field (FieldKind.nonempty element).Admits ∧ next = .ok result := by
  rw [bind_ok]
  simp only [then_ok, raiseIf_ok, requireList_ok, Has, admits_nonempty, not_not, List.all_eq_true,
    List.isEmpty_iff, admits]
  constructor
  · rintro ⟨items, holds, nonempty, all, rest⟩
    exact ⟨⟨_, holds, items, rfl, nonempty, all⟩, rest⟩
  · rintro ⟨⟨_, holds, items, rfl, nonempty, all⟩, rest⟩
    exact ⟨items, holds, nonempty, all, rest⟩

theorem readStr_admits {value : Json} : value.readStr.isSome = true ↔ FieldKind.str.Admits value := by
  cases value <;> simp [Json.readStr]

theorem readInt_admits {value : Json} :
    value.readInt.isSome = true ↔ (FieldKind.int none none).Admits value := by
  cases value <;> simp [Json.readInt, admits_int]

theorem readDict_admits {value : Json} : value.readDict.isSome = true ↔ FieldKind.object.Admits value := by
  cases value <;> simp [Json.readDict]

theorem readText_admits {value : Json} :
    (value.readStr.any fun text => !isBlank text) = true ↔ FieldKind.nonblank.Admits value := by
  cases value <;> simp [Json.readStr]

theorem readTags_admits {value : Json} :
    (value.readList.any (·.all (·.readStr.isSome))) = true ↔ (FieldKind.list .str).Admits value := by
  cases value <;> simp [Json.readList, readStr_admits]

theorem validateCapacity_ok {capacity : Json} : validateCapacity capacity = .ok () ↔
    (FieldKind.record "max_participants" (.int (some 2) none)).Admits capacity := by
  cases capacity with
  | dict fields =>
    simp only [validateCapacity, Json.readDict, bind_ok, raiseIf_ok, requirePositiveInt_ok, admits_record, admits_int,
      Has, Option.mem_def, Option.some.injEq, forall_eq', reduceCtorEq, false_implies, implies_true, and_true,
      Json.dict.injEq]
    constructor
    · rintro ⟨n, ⟨holds, _⟩, large⟩
      exact ⟨fields, rfl, _, holds, n, rfl, by omega⟩
    · rintro ⟨_, rfl, _, holds, n, rfl, large⟩
      exact ⟨n, ⟨holds, by omega⟩, by omega⟩
  | _ => simp [validateCapacity, Json.readDict, throw, throwThe, MonadExceptOf.throw]

theorem has_partnerState : (∃ value, requireMember payload field partnerStates originalType = .ok value) ↔
    Has payload field (FieldKind.member partnerStates).Admits :=
  has_member (by decide)

theorem has_eventEndReason :
    (∃ value, requireMember payload field eventEndReasons originalType = .ok value) ↔
      Has payload field (FieldKind.member eventEndReasons).Admits :=
  has_member fun _ => isBlank_of_mem_eventEndReasons

theorem validateDescription_has {fields : List String} : validateDescription payload fields originalType = .ok () ↔
    ∀ field ∈ fields, Has payload field FieldKind.nonblank.Admits := by
  have nonblank : ∀ field, (∃ value, Holds payload field (.str value) ∧ isBlank value = false) ↔
      Has payload field FieldKind.nonblank.Admits := by
    intro field
    rw [← @has_nonemptyStr payload field originalType]
    simp only [requireNonemptyStr_ok]
  simp only [validateDescription_ok, nonblank]

/-- The validator of a type accepts the payloads that its table admits. -/
theorem validatePayload_ok (msgType : MessageType) (payload : Payload) :
    validatePayload msgType payload = .ok () ↔ (schema msgType).Accepts payload := by
  cases msgType <;>
  simp only [validatePayload, Schema.Accepts, schema, List.forall_mem_cons, List.not_mem_nil,
    false_implies, implies_true, and_true]
  case clientHello | clientClockSync | clientPing =>
    simp only [validateClientHello, validateClientClockSync, validateClientPing, discard_ok, has_positiveInt]
  case clientReady => simp only [validateClientReady, discard_ok, has_roundNumber]
  case clientWebrtcOffer | clientWebrtcAnswer | serverWebrtcOffer | serverWebrtcAnswer =>
    simp only [validateClientWebrtcOffer, validateClientWebrtcAnswer, validateServerWebrtcOffer,
      validateServerWebrtcAnswer, validateDescription_has, List.forall_mem_cons, List.not_mem_nil,
      false_implies, implies_true, and_true]
  case clientWebrtcIce | serverWebrtcIce =>
    simp only [validateClientWebrtcIce, validateServerWebrtcIce, validateDescription_has, then_ok, discard_ok,
      has_nonnegInt, List.forall_mem_cons, List.not_mem_nil, false_implies, implies_true, and_true, and_assoc]
  case serverHello =>
    simp only [validateServerHello, then_ok, discard_ok, has_nonemptyStr, has_positiveInt,
      has_nonempty fun _ => readInt_admits, and_assoc]
    refine and_congr_right fun _ => and_congr_right fun _ => and_congr_right fun _ =>
      and_congr_right fun _ => and_congr_right fun _ => ?_
    simp only [Holds]
    cases payload.get? "capacity" with
    | none => simp [pure, Except.pure]
    | some capacity => simpa using validateCapacity_ok
  case serverClockSync | serverPong | serverRoundEnd | serverRoundStart | serverRoundWarning =>
    simp only [validateServerClockSync, validateServerPong, validateServerRoundEnd, validateServerRoundStart,
      validateServerRoundWarning, then_ok, discard_ok, has_positiveInt, has_nonnegInt, has_roundNumber,
      has_nonemptyStr]
  case serverPairing =>
    simp only [validateServerPairing, then_ok, discard_ok, has_roundNumber, has_nonemptyStr, has_bool,
      has_positiveInt, checkOptional_ok, readStr_admits, readTags_admits, and_assoc]
  case serverPartnerState =>
    simp only [validateServerPartnerState, then_ok, discard_ok, has_nonemptyStr, has_partnerState,
      has_positiveInt]
  case serverTurnCredentials =>
    simp only [validateServerTurnCredentials, then_ok, discard_ok, has_nonemptyStr, has_positiveInt,
      has_nonempty fun _ => readText_admits]
  case serverEventEnd =>
    simp only [validateServerEventEnd, then_ok, discard_ok, has_eventEndReason, has_positiveInt,
      checkOptional_ok, readStr_admits, and_assoc]
  case serverError =>
    simp only [validateServerError, then_ok, discard_ok, has_nonemptyStr, checkOptional_ok, readStr_admits,
      readDict_admits, and_assoc]

/-! ## What an error says -/

/-- A schema error can be sent as it is: its code is fixed, its message is not blank
    and its detail can be written. -/
structure ProtocolError.Sendable (error : ProtocolError) : Prop where
  message : isBlank error.message = false
  detail : (Json.dict error.detail).Proper

def Rejects {α : Type} (x : Checked α) : Prop :=
  ∀ error, x = .error error → error.code = .invalidMessage ∧ error.Sendable

theorem isBlank_append (s t : String) : isBlank (s ++ t) = (isBlank s && isBlank t) := by
  simp [isBlank]

theorem nonblank_field : isBlank (toString "Field '") = false := by decide

theorem rejects_bind {α β : Type} {x : Checked α} {f : α → Checked β} (first : Rejects x)
    (rest : ∀ a, Rejects (f a)) : Rejects (x >>= f) := by
  intro error raised
  cases x with
  | error e =>
    cases raised
    exact first error rfl
  | ok a => exact rest a error raised

theorem rejects_then {α : Type} {x : Checked Unit} {y : Checked α} (first : Rejects x) (rest : Rejects y) :
    Rejects (do x; y) := rejects_bind first fun _ => rest

theorem rejects_pure {α : Type} (a : α) : Rejects (pure a : Checked α) := fun _ raised => by cases raised

theorem rejects_discard {α : Type} {x : Checked α} (first : Rejects x) : Rejects (discard x) := by
  intro error raised
  cases x with
  | error e =>
    cases raised
    exact first error rfl
  | ok a => cases raised

theorem rejects_raiseIf {bad : Prop} [Decidable bad] {message : String} {originalType : MessageType}
    {detail : Payload} (nonblank : isBlank message = false) (proper : (Json.dict detail).Proper) :
    Rejects (raiseIf bad (invalid message originalType detail)) := by
  intro error raised
  simp only [raiseIf] at raised
  split at raised
  · cases raised
    exact ⟨rfl, nonblank, proper⟩
  · cases raised

theorem proper_nil : (Json.dict []).Proper := ⟨List.nodup_nil, trivial⟩

theorem proper_field : (Json.dict [("field", .str field)]).Proper := by
  simp [Json.Proper, properFields]

theorem proper_got {got : Json} (proper : got.Proper) :
    (Json.dict [("field", .str field), ("got", got)]).Proper := by
  simp [Json.Proper, properFields, proper]

theorem rejects_require {α : Type} {expectedType : PyType} {read : Json → Option α} :
    Rejects (require payload field expectedType read originalType) := by
  intro error raised
  have missing : isBlank (toString "Missing required field: '") = false := by decide
  simp only [require] at raised
  split at raised
  · cases raised
    exact ⟨rfl, by simp [invalid, isBlank_append, missing], proper_field⟩
  split at raised
  · cases raised
    exact ⟨rfl, by simp [invalid, isBlank_append, nonblank_field], proper_got trivial⟩
  split at raised
  · cases raised
    exact ⟨rfl, by simp [invalid, isBlank_append, nonblank_field], proper_got trivial⟩
  · cases raised

/-- The errors of a value that is read and then guarded. -/
theorem rejects_guarded {α : Type} {x : Checked α} {bad : α → Prop} [DecidablePred bad] {message : α → String}
    {detail : α → Payload} (read : Rejects x) (nonblank : ∀ a, isBlank (message a) = false)
    (proper : ∀ a, (Json.dict (detail a)).Proper) :
    Rejects (do let a ← x; raiseIf (bad a) (invalid (message a) originalType (detail a)); return a) :=
  rejects_bind read fun a => rejects_then (rejects_raiseIf (nonblank a) (proper a)) (rejects_pure a)

theorem rejects_positiveInt : Rejects (requirePositiveInt payload field originalType) := by
  refine rejects_guarded rejects_require (fun value => ?_) fun value => proper_got trivial
  simp [isBlank_append, nonblank_field]

theorem rejects_nonnegInt : Rejects (requireNonnegInt payload field originalType) := by
  refine rejects_guarded rejects_require (fun value => ?_) fun value => proper_got trivial
  simp [isBlank_append, nonblank_field]

theorem rejects_nonemptyStr : Rejects (requireNonemptyStr payload field originalType) := by
  refine rejects_guarded rejects_require (fun value => ?_) fun value => proper_field
  simp [isBlank_append, nonblank_field]

theorem rejects_roundNumber : Rejects (requireRoundNumber payload originalType) :=
  rejects_guarded rejects_require (fun _ => by decide) fun value => proper_got trivial

theorem rejects_member {values : List String} : Rejects (requireMember payload field values originalType) := by
  refine rejects_guarded rejects_nonemptyStr (fun value => ?_) fun value => proper_got trivial
  simp [isBlank_append, nonblank_field]

theorem rejects_checkOptional {good : Json → Bool} {message : String} (nonblank : isBlank message = false) :
    Rejects (checkOptional payload field good message originalType) := by
  intro error raised
  simp only [checkOptional] at raised
  split at raised
  · cases raised
  split at raised
  · cases raised
  · cases raised
    exact ⟨rfl, nonblank, proper_nil⟩

theorem rejects_description {fields : List String} :
    Rejects (validateDescription payload fields originalType) := by
  induction fields with
  | nil => exact rejects_pure ()
  | cons field fields ih => exact rejects_then (rejects_discard rejects_nonemptyStr) ih

theorem rejects_capacity {capacity : Json} : Rejects (validateCapacity capacity) := by
  intro error raised
  simp only [validateCapacity] at raised
  split at raised
  · cases raised
    exact ⟨rfl, by decide, proper_nil⟩
  · exact rejects_bind rejects_positiveInt (fun _ => rejects_raiseIf (by decide) proper_nil) error raised

theorem rejects_validatePayload (msgType : MessageType) (payload : Payload) :
    Rejects (validatePayload msgType payload) := by
  cases msgType
  case serverHello =>
    repeat' first
      | exact rejects_discard rejects_nonemptyStr | exact rejects_discard rejects_positiveInt
      | exact rejects_raiseIf (by decide) proper_nil | apply rejects_then
    refine rejects_bind rejects_require fun versions => rejects_then (rejects_raiseIf (by decide) proper_nil)
      (rejects_then (rejects_raiseIf (by decide) proper_nil) ?_)
    split
    · exact rejects_pure ()
    · exact rejects_capacity
  case serverTurnCredentials =>
    refine rejects_bind rejects_require fun urls => ?_
    repeat' first
      | exact rejects_discard rejects_nonemptyStr | exact rejects_discard rejects_positiveInt
      | exact rejects_raiseIf (by decide) proper_nil | apply rejects_then
  -- the others are sequences of the same few checks
  all_goals
    simp only [validatePayload]
    repeat' first
      | exact rejects_description | exact rejects_discard rejects_nonemptyStr
      | exact rejects_discard rejects_positiveInt | exact rejects_discard rejects_nonnegInt
      | exact rejects_discard rejects_roundNumber | exact rejects_discard rejects_member
      | exact rejects_discard rejects_require | exact rejects_checkOptional (by decide)
      | apply rejects_then

/-! ## The validation rules -/

/-- A rule of the protocol and the code of its failure. -/
structure Rule where
  passes : Except String Json → Prop
  code : ErrorCode

/-- The rules for the frame, its envelope and its payload, in their order. -/
def validationRules : List Rule :=
  [⟨fun decoded => ∃ value, decoded = .ok value, .invalidJson⟩,
    ⟨fun decoded => ∃ data, decoded = .ok (.dict data), .invalidMessage⟩,
    ⟨fun decoded => ∃ data, decoded = .ok (.dict data) ∧ ∃ n, Holds data "version" (.int n),
      .invalidMessage⟩,
    ⟨fun decoded => ∃ data, decoded = .ok (.dict data) ∧
      ∃ n, Holds data "version" (.int n) ∧ n ∈ supportedVersions, .versionMismatch⟩,
    ⟨fun decoded => ∃ data, decoded = .ok (.dict data) ∧ ∃ text, Holds data "type" (.str text),
      .invalidMessage⟩,
    ⟨fun decoded => ∃ data, decoded = .ok (.dict data) ∧
      ∃ msgType : MessageType, Holds data "type" (.str msgType.value), .unknownType⟩,
    ⟨fun decoded => ∃ data, decoded = .ok (.dict data) ∧ ∃ payload, Holds data "payload" (.dict payload),
      .invalidMessage⟩,
    ⟨fun decoded => ∃ data, decoded = .ok (.dict data) ∧ ∃ msgType payload,
      Holds data "type" (.str (MessageType.value msgType)) ∧ Holds data "payload" (.dict payload) ∧
      (schema msgType).Accepts payload, .invalidMessage⟩]

/-- `code` is that of the first rule which does not pass. -/
def FirstFailing : List Rule → Except String Json → ErrorCode → Prop
  | [], _, _ => False
  | rule :: rules, decoded, code =>
    (¬ rule.passes decoded ∧ code = rule.code) ∨ (rule.passes decoded ∧ FirstFailing rules decoded code)

/-- A message of the protocol: a supported version, a known type, and a payload that the
    type's table admits. -/
structure Conforms (decoded : Except String Json) (msgType : MessageType) (payload : Payload) : Prop where
  envelope : ∃ data, decoded = .ok (.dict data) ∧
    (∃ n, Holds data "version" (.int n) ∧ n ∈ supportedVersions) ∧
    Holds data "type" (.str msgType.value) ∧ Holds data "payload" (.dict payload)
  accepted : (schema msgType).Accepts payload

theorem FirstFailing.unique {rules : List Rule} {decoded : Except String Json} {code other : ErrorCode}
    (first : FirstFailing rules decoded code) (second : FirstFailing rules decoded other) : code = other := by
  induction rules with
  | nil => exact first.elim
  | cons rule rules ih =>
    rcases first with ⟨fails, rfl⟩ | ⟨passes, first⟩
    · rcases second with ⟨_, rfl⟩ | ⟨passes, _⟩
      · rfl
      · exact absurd passes fails
    · rcases second with ⟨fails, _⟩ | ⟨_, second⟩
      · exact absurd passes fails
      · exact ih first second

theorem ofValue?_value (msgType : MessageType) : MessageType.ofValue? msgType.value = some msgType := by
  cases msgType <;> rfl

theorem value_injective {first second : MessageType} (same : first.value = second.value) :
    first = second := by
  have found := ofValue?_value first
  rw [same, ofValue?_value] at found
  exact (Option.some.inj found).symm

theorem mem_allKnownTypes {text : String} :
    text ∈ allKnownTypes ↔ ∃ msgType : MessageType, text = msgType.value := by
  constructor
  · intro known
    obtain ⟨msgType, _, rfl⟩ := List.mem_map.mp known
    exact ⟨msgType, rfl⟩
  · rintro ⟨msgType, rfl⟩
    refine List.mem_map_of_mem ?_
    cases msgType <;> decide

/-- What a frame conforms to is unique. -/
theorem Conforms.unique {decoded : Except String Json} {msgType msgType' : MessageType}
    {payload payload' : Payload} (first : Conforms decoded msgType payload)
    (second : Conforms decoded msgType' payload') : msgType = msgType' ∧ payload = payload' := by
  obtain ⟨data, same, _, type, sent⟩ := first.envelope
  obtain ⟨data', same', _, type', sent'⟩ := second.envelope
  cases same.symm.trans same'
  exact ⟨value_injective (Json.str.inj (Option.some.inj (type.symm.trans type'))),
    Json.dict.inj (Option.some.inj (sent.symm.trans sent'))⟩

/-- A frame that conforms fails no rule. -/
theorem Conforms.passes {decoded : Except String Json} {msgType : MessageType} {payload : Payload}
    (conforms : Conforms decoded msgType payload) (code : ErrorCode) :
    ¬ FirstFailing validationRules decoded code := by
  obtain ⟨data, rfl, ⟨n, version, supported⟩, type, sent⟩ := conforms.envelope
  have pass : ∀ rule ∈ validationRules, rule.passes (.ok (.dict data)) := by
    simp only [validationRules, List.forall_mem_cons, List.not_mem_nil, false_implies, implies_true, and_true]
    exact ⟨⟨_, rfl⟩, ⟨_, rfl⟩, ⟨_, rfl, n, version⟩, ⟨_, rfl, n, version, supported⟩, ⟨_, rfl, _, type⟩,
      ⟨_, rfl, msgType, type⟩, ⟨_, rfl, _, sent⟩, ⟨_, rfl, _, _, type, sent, conforms.accepted⟩⟩
  revert pass
  generalize validationRules = rules
  intro pass fails
  induction rules with
  | nil => exact fails
  | cons rule rules ih =>
    rcases fails with ⟨fails, _⟩ | ⟨_, later⟩
    · exact fails (pass rule List.mem_cons_self)
    · exact ih (fun rule member => pass rule (List.mem_cons_of_mem _ member)) later

/-! ## One check after another -/

theorem sendable_malformed {message : String} {originalType : Option String}
    (nonblank : isBlank message = false) : (malformed message originalType).Sendable :=
  ⟨nonblank, proper_nil⟩

theorem requireVersion_cases (data : Payload) :
    (requireVersion data = .ok () ∧ ∃ n, Holds data "version" (.int n) ∧ n ∈ supportedVersions) ∨
    ∃ error, requireVersion data = .error error ∧ error.Sendable ∧
      ((error.code = .invalidMessage ∧ ¬ ∃ n, Holds data "version" (.int n)) ∨
      (error.code = .versionMismatch ∧ (∃ n, Holds data "version" (.int n)) ∧
        ¬ ∃ n, Holds data "version" (.int n) ∧ n ∈ supportedVersions)) := by
  simp only [requireVersion, Holds]
  cases data.get? "version" with
  | none => exact .inr ⟨_, rfl, sendable_malformed (by decide), .inl ⟨rfl, by simp⟩⟩
  | some version =>
    cases version with
    | int n =>
      simp only [Json.readInt, raiseIf]
      split
      next unsupported =>
        have nonblank : isBlank (toString "Protocol version ") = false := by decide
        refine .inr ⟨_, rfl, ⟨?_, ?_⟩, .inr ⟨rfl, ⟨n, rfl⟩, by simpa using unsupported⟩⟩
        · simp [isBlank_append, nonblank]
        · simp [Json.Proper, properFields, supportedVersions, properItems]
      next supported => exact .inl ⟨rfl, n, rfl, not_not.mp supported⟩
    | _ => exact .inr ⟨_, rfl, sendable_malformed (by decide), .inl ⟨rfl, by simp⟩⟩

theorem requireType_cases (data : Payload) :
    (∃ msgType : MessageType, requireType data = .ok msgType.value ∧
      Holds data "type" (.str msgType.value)) ∨
    ∃ error, requireType data = .error error ∧ error.Sendable ∧
      ((error.code = .invalidMessage ∧ ¬ ∃ text, Holds data "type" (.str text)) ∨
      (error.code = .unknownType ∧ (∃ text, Holds data "type" (.str text)) ∧
        ¬ ∃ msgType : MessageType, Holds data "type" (.str msgType.value))) := by
  simp only [requireType, Holds]
  cases data.get? "type" with
  | none => exact .inr ⟨_, rfl, sendable_malformed (by decide), .inl ⟨rfl, by simp⟩⟩
  | some value =>
    cases value with
    | str text =>
      simp only [Json.readStr]
      split
      next known =>
        obtain ⟨msgType, rfl⟩ := mem_allKnownTypes.mp known
        exact .inl ⟨msgType, rfl, rfl⟩
      next unknown =>
        -- the text of the error begins with its own words, so it is not blank
        have nonblank : isBlank (toString "Unknown message type: ") = false := by decide
        refine .inr ⟨_, rfl, ⟨?_, proper_nil⟩, .inr ⟨rfl, ⟨text, rfl⟩, ?_⟩⟩
        · simp [isBlank_append, nonblank]
        · rintro ⟨msgType, same⟩
          exact unknown (mem_allKnownTypes.mpr ⟨msgType, Json.str.inj (Option.some.inj same)⟩)
    | _ => exact .inr ⟨_, rfl, sendable_malformed (by decide), .inl ⟨rfl, by simp⟩⟩

theorem requirePayload_cases (data : Payload) (msgType : String) :
    (∃ payload, requirePayload data msgType = .ok payload ∧ Holds data "payload" (.dict payload)) ∨
    ∃ error, requirePayload data msgType = .error error ∧ error.Sendable ∧
      error.code = .invalidMessage ∧ ¬ ∃ payload, Holds data "payload" (.dict payload) := by
  simp only [requirePayload, Holds]
  cases data.get? "payload" with
  | none => exact .inr ⟨_, rfl, sendable_malformed (by decide), rfl, by simp⟩
  | some value =>
    cases value with
    | dict payload => exact .inl ⟨payload, rfl, rfl⟩
    | _ => exact .inr ⟨_, rfl, sendable_malformed (by decide), rfl, by simp⟩

/-- A frame is returned as the message it conforms to, or the first failing rule is
    reported by an error that can be sent. -/
theorem validateMessage_cases (loads : String → Except String Json) (raw : Frame) :
    (∃ msgType payload, validateMessage loads raw = .ok (msgType, payload) ∧
      Conforms (loads raw.decoded) msgType payload) ∨
    ∃ error, validateMessage loads raw = .error (.protocol error) ∧ error.Sendable ∧
      FirstFailing validationRules (loads raw.decoded) error.code := by
  simp only [validateMessage, checkMessage, parseJson, validationRules, FirstFailing]
  cases loads raw.decoded with
  | error exc =>
    have nonblank : isBlank (toString "Message is not valid JSON: ") = false := by decide
    refine .inr ⟨_, rfl, ⟨?_, proper_nil⟩, .inl ⟨by simp, rfl⟩⟩
    simp [isBlank_append, nonblank]
  | ok value =>
    cases value with
    | dict data =>
      simp only [requireObject, Json.readDict, Bind.bind, Except.bind, Except.ok.injEq, Json.dict.injEq,
        exists_eq', exists_eq_left', not_true_eq_false, false_and, false_or, true_and]
      rcases requireVersion_cases data with ⟨done, version⟩ | ⟨error, raised, sendable, wrong⟩
      case inr =>
        simp only [raised]
        refine .inr ⟨error, rfl, sendable, ?_⟩
        rcases wrong with ⟨code, absent⟩ | ⟨code, present, unsupported⟩
        · exact .inl ⟨absent, code⟩
        · exact .inr ⟨present, .inl ⟨unsupported, code⟩⟩
      have number : ∃ n, Holds data "version" (.int n) := version.imp fun _ => And.left
      simp only [done, number, version, not_true_eq_false, false_and, false_or, true_and]
      rcases requireType_cases data with ⟨msgType, done, type⟩ | ⟨error, raised, sendable, wrong⟩
      case inr =>
        simp only [raised]
        refine .inr ⟨error, rfl, sendable, ?_⟩
        rcases wrong with ⟨code, absent⟩ | ⟨code, present, unknown⟩
        · exact .inl ⟨absent, code⟩
        · exact .inr ⟨present, .inl ⟨unknown, code⟩⟩
      have text : ∃ text, Holds data "type" (.str text) := ⟨_, type⟩
      have known : ∃ msgType : MessageType, Holds data "type" (.str msgType.value) := ⟨_, type⟩
      simp only [done, text, known, not_true_eq_false, false_and, false_or, true_and]
      rcases requirePayload_cases data msgType.value with ⟨payload, done, sent⟩ | ⟨error, raised, sendable, wrong⟩
      case inr =>
        simp only [raised]
        exact .inr ⟨error, rfl, sendable, .inl ⟨wrong.2, wrong.1⟩⟩
      have object : ∃ payload, Holds data "payload" (.dict payload) := ⟨_, sent⟩
      simp only [done, object, not_true_eq_false, false_and, false_or, true_and, payloadValidator,
        ofValue?_value, Option.map_some]
      cases valid : validatePayload msgType payload with
      | ok _ =>
        have accepted := (validatePayload_ok msgType payload).mp valid
        refine .inl ⟨msgType, payload, ?_, ⟨data, rfl, version, type, sent⟩, accepted⟩
        simp only [pure, Except.pure, ofValue?_value]
      | error error =>
        obtain ⟨code, sendable⟩ := rejects_validatePayload msgType payload error valid
        refine .inr ⟨error, rfl, sendable, .inl ⟨?_, code⟩⟩
        rintro ⟨_, _, type', sent', accepted⟩
        -- the type and the payload are the ones just checked
        rw [value_injective (Json.str.inj (Option.some.inj (type'.symm.trans type))),
          Json.dict.inj (Option.some.inj (sent'.symm.trans sent)), ← validatePayload_ok, valid] at accepted
        cases accepted
    | _ => exact .inr ⟨_, rfl, sendable_malformed (by decide), .inr ⟨⟨_, rfl⟩, .inl ⟨by simp, rfl⟩⟩⟩

/-- `validate_message` returns exactly the messages of the protocol, and otherwise raises
    a `ProtocolError` with the code of the first failing rule. -/
theorem validateMessage_decides (loads : String → Except String Json) (raw : Frame) :
    (∀ msgType payload, validateMessage loads raw = .ok (msgType, payload) ↔
      Conforms (loads raw.decoded) msgType payload) ∧
    (∀ code, (∃ error, validateMessage loads raw = .error (.protocol error) ∧ error.code = code) ↔
      FirstFailing validationRules (loads raw.decoded) code) ∧
    ∀ raised, validateMessage loads raw = .error raised → ∃ error, raised = .protocol error := by
  -- a message that conforms passes every rule, so the two outcomes exclude each other
  rcases validateMessage_cases loads raw with ⟨msgType, payload, returned, conforms⟩ |
    ⟨error, raised, _, fails⟩
  · rw [returned]
    refine ⟨fun msgType' payload' => ⟨?_, fun other => ?_⟩, fun code => ⟨?_, fun fails => ?_⟩,
      fun _ impossible => (by cases impossible)⟩
    · intro same
      cases same
      exact conforms
    · obtain ⟨rfl, rfl⟩ := conforms.unique other
      rfl
    · rintro ⟨_, impossible, _⟩
      cases impossible
    · exact absurd fails (conforms.passes code)
  · rw [raised]
    refine ⟨fun msgType payload => ⟨fun impossible => (by cases impossible), fun conforms => ?_⟩,
      fun code => ⟨?_, fun other => ⟨error, rfl, fails.unique other⟩⟩, fun _ same => ⟨error, ?_⟩⟩
    · exact absurd fails (conforms.passes error.code)
    · rintro ⟨_, same, rfl⟩
      cases same
      exact fails
    · cases same
      rfl

end EventPlatform.Protocol
