import EventPlatform.Orchestrator.Dispatch

/-! # Relaying the WebRTC signalling

The consumer looks up the sender's pair by the room of the message alone.  A
participant has a pair, and with it a room, in every round; nothing asks whether
that round is the active one. -/

namespace EventPlatform.Presence

open EventPlatform.Lib EventPlatform.Scheduling EventPlatform.Protocol EventPlatform.Orchestrator

/-! ## The rows of all events -/

/-- `room_id` is unique over all events; a primary key is not blank. -/
structure Database where
  stores : List EventStore
  rooms : ((stores.flatMap (·.pairs)).map (·.roomId)).Nodup
  named : ∀ pair ∈ stores.flatMap (·.pairs),
    isBlank pair.participantA.pk = false ∧ isBlank pair.participantB.pk = false

def Database.pairs (db : Database) : List Pair := db.stores.flatMap (·.pairs)

/-- `Q(participant_a=participant) | Q(participant_b=participant)` -/
def HasMember (pid : String) (pair : Pair) : Prop :=
  pair.participantA.pk = pid ∨ pair.participantB.pk = pid

instance (pid : String) : DecidablePred (HasMember pid) :=
  fun pair => inferInstanceAs (Decidable (pair.participantA.pk = pid ∨ pair.participantB.pk = pid))

def partnerOnPair (pair : Pair) (pid : String) : Participant :=
  if pair.participantA.pk = pid then pair.participantB else pair.participantA

/-- The rows that `current_pair_for_participant` takes the first of. -/
def currentPairs (store : EventStore) (pid : String) (now : Int) : List Pair :=
  match getCurrentPhase preconnectDefault store.rounds now with
  | ⟨phase, some activeRound, _⟩ =>
    if phase = .preconnect ∨ phase = .inRound then
      (store.pairs.filter (·.roundNumber = activeRound.number)).filter (HasMember pid)
    else []
  | _ => []

def resolvePartnerForParticipant (db : Database) (pid roomId : String) : Option Participant :=
  if roomId = "" then none
  else ((db.pairs.filter (·.roomId = roomId)).find? (HasMember pid)).map (partnerOnPair · pid)

/-! ## The handler -/

/-- What a handled message leads to: messages to other participants' groups, replies
    on the own socket, and whether it is closed. -/
structure SignalOutcome where
  relayed : List Publication
  replies : List Envelope
  closed : Bool

/-- `_fatal(ErrorCode.ERR_INTERNAL)`, which ends every exception of a handler. -/
def fatalInternal : SignalOutcome :=
  ⟨[], (buildServerError "ERR_INTERNAL" "An internal server error occurred." none none).toOption.toList,
    true⟩

def sendWrongRoom (roomId : String) (msgType : MessageType) : SignalOutcome :=
  match buildServerError "ERR_WRONG_ROOM" ("Participant is not assigned to room " ++ roomId ++ ".")
      (some msgType.value) none with
  | .ok reply => ⟨[], [reply], false⟩
  | .error _ => fatalInternal

/-- The text of a field; `none` where Python raises. -/
def readText (payload : Payload) (field : String) : Option String :=
  (payload.get? field).bind Json.readStr

/-- The message for the partner; `none` where a field is missing. -/
def outboundSignal (msgType : MessageType) (payload : Payload) (roomId fromId : String) :
    Option (Checked Envelope) :=
  match msgType with
  | .clientWebrtcOffer => do
    let sdp ← readText payload "sdp"
    return buildServerWebrtcOffer roomId fromId sdp
  | .clientWebrtcAnswer => do
    let sdp ← readText payload "sdp"
    return buildServerWebrtcAnswer roomId fromId sdp
  | .clientWebrtcIce => do
    let candidate ← readText payload "candidate"
    let sdpMid ← readText payload "sdp_mid"
    let sdpMlineIndex ← (payload.get? "sdp_mline_index").bind Json.readInt
    return buildServerIceCandidate roomId fromId candidate sdpMid sdpMlineIndex
  | _ => none

/-- `_handle_webrtc_signal` for one of the three client messages.  `layer` is the
    channel layer, if there is one, and whether its `group_send` succeeds. -/
def handleWebrtcSignal (layer : Option Bool) (db : Database) (pid : String) (msgType : MessageType)
    (payload : Payload) : SignalOutcome :=
  match readText payload "room_id" with
  | none => sendWrongRoom "None" msgType
  | some roomId =>
    match resolvePartnerForParticipant db pid roomId with
    | none => sendWrongRoom roomId msgType
    | some partner =>
      match outboundSignal msgType payload roomId pid with
      | some (.ok outbound) =>
        match layer with
        | none => ⟨[], [], false⟩
        | some true => ⟨[⟨participantChannelGroup partner.pk, outbound⟩], [], false⟩
        | some false => fatalInternal
      | _ => fatalInternal

/-! ## What the protocol allows -/

def signalTypes : List MessageType := [.clientWebrtcOffer, .clientWebrtcAnswer, .clientWebrtcIce]

def relayedType : MessageType → MessageType
  | .clientWebrtcOffer => .serverWebrtcOffer
  | .clientWebrtcAnswer => .serverWebrtcAnswer
  | .clientWebrtcIce => .serverWebrtcIce
  | other => other

def signalFields : MessageType → List String
  | .clientWebrtcIce => ["room_id", "candidate", "sdp_mid", "sdp_mline_index"]
  | _ => ["room_id", "sdp"]

/-- The message is the sender's, unchanged but for its name. -/
structure Forwards (pid : String) (msgType : MessageType) (payload : Payload) (message : Envelope) :
    Prop where
  type : message.type = relayedType msgType
  sender : Holds message.payload "from_participant_id" (.str pid)
  unchanged : ∀ field ∈ signalFields msgType, message.payload.get? field = payload.get? field

/-- The room is that of the sender's pair in the active round. -/
def ActiveIn (store : EventStore) (pid : String) (now : Int) (payload : Payload) (pair : Pair) : Prop :=
  pair ∈ currentPairs store pid now ∧ Holds payload "room_id" (.str pair.roomId)

/-- In the active pair's room a message goes to the partner alone; in any other room it
    goes nowhere and the sender is told. -/
structure WithinActivePair (store : EventStore) (pid : String) (now : Int) (msgType : MessageType)
    (payload : Payload) (outcome : SignalOutcome) : Prop where
  relayed : ∀ pair, ActiveIn store pid now payload pair → ∃ message,
    outcome.relayed = [⟨participantChannelGroup (partnerOnPair pair pid).pk, message⟩] ∧
      Forwards pid msgType payload message
  refused : (¬ ∃ pair, ActiveIn store pid now payload pair) → outcome.relayed = [] ∧
    ∃ reply ∈ outcome.replies, reply.type = .serverError ∧
      Holds reply.payload "code" (.str "ERR_WRONG_ROOM")

/-- No pair of the sender has the room, in any round of any event. -/
def Unassigned (db : Database) (pid : String) (payload : Payload) : Prop :=
  ∀ pair ∈ db.pairs, HasMember pid pair → ¬ Holds payload "room_id" (.str pair.roomId)

/-! ## The relayed message -/

variable {db : Database} {store : EventStore} {pid roomId : String} {now : Int}
  {msgType : MessageType} {payload : Payload} {layer : Option Bool}

theorem readText_eq {field value : String} :
    readText payload field = some value ↔ Holds payload field (.str value) := by
  simp only [readText, Holds]
  cases payload.get? field with
  | none => simp
  | some found => cases found <;> simp [Json.readStr]

/-- A valid description has its two texts. -/
theorem description_valid
    (valid : validateDescription payload ["room_id", "sdp"] msgType = .ok ()) :
    ∃ roomId sdp, (Holds payload "room_id" (.str roomId) ∧ isBlank roomId = false) ∧
      Holds payload "sdp" (.str sdp) ∧ isBlank sdp = false := by
  have fields := validateDescription_ok.mp valid
  obtain ⟨roomId, room⟩ := fields "room_id" (by simp)
  obtain ⟨sdp, description⟩ := fields "sdp" (by simp)
  exact ⟨roomId, sdp, room, description⟩

theorem candidate_valid (valid : validateClientWebrtcIce payload = .ok ()) :
    ∃ roomId candidate sdpMid sdpMlineIndex,
      (Holds payload "room_id" (.str roomId) ∧ isBlank roomId = false) ∧
      (Holds payload "candidate" (.str candidate) ∧ isBlank candidate = false) ∧
      (Holds payload "sdp_mid" (.str sdpMid) ∧ isBlank sdpMid = false) ∧
      Holds payload "sdp_mline_index" (.int sdpMlineIndex) ∧ 0 ≤ sdpMlineIndex := by
  simp only [validateClientWebrtcIce] at valid
  rw [then_ok, discard_ok, validateDescription_ok] at valid
  obtain ⟨fields, sdpMlineIndex, index⟩ := valid
  obtain ⟨roomId, room⟩ := fields "room_id" (by simp)
  obtain ⟨candidate, text⟩ := fields "candidate" (by simp)
  obtain ⟨sdpMid, mid⟩ := fields "sdp_mid" (by simp)
  exact ⟨roomId, candidate, sdpMid, sdpMlineIndex, room, text, mid, requireNonnegInt_ok.mp index⟩

theorem signal_room (signal : msgType ∈ signalTypes) (valid : validatePayload msgType payload = .ok ()) :
    ∃ roomId, Holds payload "room_id" (.str roomId) ∧ isBlank roomId = false := by
  simp only [signalTypes, List.mem_cons, List.not_mem_nil, or_false] at signal
  rcases signal with rfl | rfl | rfl
  · obtain ⟨roomId, _, room, _⟩ := description_valid valid
    exact ⟨roomId, room⟩
  · obtain ⟨roomId, _, room, _⟩ := description_valid valid
    exact ⟨roomId, room⟩
  · obtain ⟨roomId, _, _, _, room, _⟩ := candidate_valid valid
    exact ⟨roomId, room⟩

/-- An offer or an answer built anew has the sender's room and description. -/
theorem description_forwards {sdp : String} (fields : signalFields msgType = ["room_id", "sdp"])
    (room : Holds payload "room_id" (.str roomId)) (description : Holds payload "sdp" (.str sdp)) :
    Forwards pid msgType payload ⟨relayedType msgType, protocolVersion,
      [("room_id", .str roomId), ("from_participant_id", .str pid), ("sdp", .str sdp)]⟩ := by
  refine ⟨rfl, by simp [Holds, Dict.get?_cons], fun field member => ?_⟩
  -- every field of the sender's message is copied, and only its name is added
  simp only [fields, List.mem_cons, List.not_mem_nil, or_false] at member
  rcases member with rfl | rfl
  · exact room.symm
  · exact description.symm

/-- Every valid message can be built anew for the partner. -/
theorem outboundSignal_forwards (signal : msgType ∈ signalTypes)
    (valid : validatePayload msgType payload = .ok ()) (room : Holds payload "room_id" (.str roomId))
    (named : isBlank pid = false) : ∃ message,
      outboundSignal msgType payload roomId pid = some (.ok message) ∧
        Forwards pid msgType payload message := by
  -- the room that the validator has read is the one that was looked up
  have same : ∀ {other}, Holds payload "room_id" (.str other) → other = roomId := by
    intro other held
    simp only [Holds] at held room
    rw [room] at held
    cases held
    rfl
  simp only [signalTypes, List.mem_cons, List.not_mem_nil, or_false] at signal
  rcases signal with rfl | rfl | rfl
  · obtain ⟨other, sdp, ⟨held, filled⟩, description, text⟩ := description_valid valid
    rw [same held] at filled
    obtain ⟨message, built⟩ := buildServerWebrtcOffer_ok.mpr ⟨filled, named, text⟩
    refine ⟨message, by simp [outboundSignal, readText_eq.mpr description, built], ?_⟩
    obtain ⟨_, rfl⟩ := buildMessage_ok.mp built
    exact description_forwards rfl room description
  · obtain ⟨other, sdp, ⟨held, filled⟩, description, text⟩ := description_valid valid
    rw [same held] at filled
    obtain ⟨message, built⟩ := buildServerWebrtcAnswer_ok.mpr ⟨filled, named, text⟩
    refine ⟨message, by simp [outboundSignal, readText_eq.mpr description, built], ?_⟩
    obtain ⟨_, rfl⟩ := buildMessage_ok.mp built
    exact description_forwards rfl room description
  · obtain ⟨other, candidate, sdpMid, index, ⟨held, filled⟩, ⟨isCandidate, text⟩, ⟨isMid, mid⟩,
      isIndex, nonneg⟩ := candidate_valid valid
    rw [same held] at filled
    obtain ⟨message, built⟩ := buildServerIceCandidate_ok.mpr ⟨⟨filled, named, text, mid⟩, nonneg⟩
    have read : (payload.get? "sdp_mline_index").bind Json.readInt = some index := by
      rw [isIndex]
      rfl
    refine ⟨message, by simp [outboundSignal, readText_eq.mpr isCandidate, readText_eq.mpr isMid,
      read, built], ?_⟩
    obtain ⟨_, rfl⟩ := buildMessage_ok.mp built
    refine ⟨rfl, by simp [Holds, Dict.get?_cons], fun field member => ?_⟩
    simp only [signalFields, List.mem_cons, List.not_mem_nil, or_false] at member
    rcases member with rfl | rfl | rfl | rfl
    · exact room.symm
    · exact isCandidate.symm
    · exact isMid.symm
    · exact isIndex.symm

/-! ## The lookup by room -/

theorem mem_currentPairs {pair : Pair} (current : pair ∈ currentPairs store pid now) :
    pair ∈ store.pairs ∧ HasMember pid pair := by
  simp only [currentPairs] at current
  split at current
  next =>
    split at current
    · obtain ⟨filtered, member⟩ := List.mem_filter.mp current
      exact ⟨List.mem_of_mem_filter filtered, by simpa using member⟩
    · cases current
  next => cases current

/-- At most one pair has the room. -/
theorem Database.eq_of_room {first second : Pair} (inDb : first ∈ db.pairs) (inDb' : second ∈ db.pairs)
    (same : first.roomId = second.roomId) : first = second :=
  List.inj_on_of_nodup_map db.rooms inDb inDb' same

theorem resolvePartner_some {pair : Pair} (inDb : pair ∈ db.pairs) (member : HasMember pid pair)
    (filled : isBlank pair.roomId = false) :
    resolvePartnerForParticipant db pid pair.roomId = some (partnerOnPair pair pid) := by
  have nonempty : pair.roomId ≠ "" := by
    intro empty
    rw [empty] at filled
    cases filled
  simp only [resolvePartnerForParticipant]
  rw [if_neg nonempty]
  cases found : (db.pairs.filter (·.roomId = pair.roomId)).find? (HasMember pid) with
  | none =>
    have missed := List.find?_eq_none.mp found pair (List.mem_filter.mpr ⟨inDb, by simp⟩)
    simp [member] at missed
  | some other =>
    obtain ⟨inDb', room⟩ := List.mem_filter.mp (List.mem_of_find?_eq_some found)
    rw [db.eq_of_room inDb' inDb (by simpa using room)]
    rfl

theorem resolvePartner_none
    (unassigned : ∀ pair ∈ db.pairs, HasMember pid pair → pair.roomId ≠ roomId) :
    resolvePartnerForParticipant db pid roomId = none := by
  simp only [resolvePartnerForParticipant]
  split
  · rfl
  · rw [Option.map_eq_none_iff, List.find?_eq_none]
    intro pair filtered member
    obtain ⟨inDb, room⟩ := List.mem_filter.mp filtered
    exact unassigned pair inDb (by simpa using member) (by simpa using room)

/-! ## When the rule is kept -/

theorem sendWrongRoom_refuses (roomId : String) (msgType : MessageType) :
    (sendWrongRoom roomId msgType).relayed = [] ∧
      ∃ reply ∈ (sendWrongRoom roomId msgType).replies, reply.type = .serverError ∧
        Holds reply.payload "code" (.str "ERR_WRONG_ROOM") := by
  have text : isBlank ("Participant is not assigned to room " ++ roomId ++ ".") = false := by
    have sentence : "Participant is not assigned to room ".toList.all isSpace = false := by decide
    simp only [isBlank, String.toList_append, List.all_append, sentence, Bool.false_and]
  obtain ⟨reply, built⟩ := (@buildServerError_ok "ERR_WRONG_ROOM" _ (some msgType.value)
    none).mpr ⟨(by decide : isBlank "ERR_WRONG_ROOM" = false), text⟩
  -- `delta`, as an equation of the definition is slow to generate
  delta sendWrongRoom
  rw [built]
  obtain ⟨_, rfl⟩ := buildMessage_ok.mp built
  exact ⟨rfl, _, List.mem_singleton_self _, rfl, by simp [Holds, Dict.get?_cons]⟩

/-- An exception is not a refusal. -/
theorem fatalInternal_not_wrong_room : ¬ ∃ reply ∈ fatalInternal.replies,
    reply.type = .serverError ∧ Holds reply.payload "code" (.str "ERR_WRONG_ROOM") := by
  rintro ⟨reply, member, _, code⟩
  simp only [fatalInternal] at member
  cases built : buildServerError "ERR_INTERNAL" "An internal server error occurred." none none with
  | error e => simp [built, Except.toOption] at member
  | ok message =>
    obtain ⟨_, same⟩ := buildMessage_ok.mp built
    have here : reply = message := by simpa [built, Except.toOption] using member
    rw [here, same] at code
    simp [Holds, Dict.get?_cons] at code

/-- What happens in a room of the sender, whatever the round. -/
theorem handleWebrtcSignal_assigned (layer : Option Bool) (signal : msgType ∈ signalTypes)
    (valid : validatePayload msgType payload = .ok ()) {pair : Pair} (inDb : pair ∈ db.pairs)
    (member : HasMember pid pair) (room : Holds payload "room_id" (.str pair.roomId)) :
    ∃ message, Forwards pid msgType payload message ∧
      handleWebrtcSignal layer db pid msgType payload =
        match layer with
        | none => ⟨[], [], false⟩
        | some true =>
          ⟨[⟨participantChannelGroup (partnerOnPair pair pid).pk, message⟩], [], false⟩
        | some false => fatalInternal := by
  -- the validator has asked for a room that is not blank
  have filled : isBlank pair.roomId = false := by
    obtain ⟨roomId, held, filled⟩ := signal_room signal valid
    simp only [Holds] at room held
    rw [room] at held
    cases held
    exact filled
  have named : isBlank pid = false := by
    obtain ⟨a, b⟩ := db.named pair inDb
    cases member with
    | inl same => exact same ▸ a
    | inr same => exact same ▸ b
  obtain ⟨message, outbound, forwards⟩ := outboundSignal_forwards signal valid room named
  refine ⟨message, forwards, ?_⟩
  simp only [handleWebrtcSignal, readText_eq.mpr room, resolvePartner_some inDb member filled, outbound]

theorem handleWebrtcSignal_unassigned (layer : Option Bool) (signal : msgType ∈ signalTypes)
    (valid : validatePayload msgType payload = .ok ())
    (unassigned : Unassigned db pid payload) :
    ∃ roomId, handleWebrtcSignal layer db pid msgType payload = sendWrongRoom roomId msgType := by
  obtain ⟨roomId, held, _⟩ := signal_room signal valid
  have nobody : resolvePartnerForParticipant db pid roomId = none :=
    resolvePartner_none fun pair inDb member same => unassigned pair inDb member (same ▸ held)
  exact ⟨roomId, by simp only [handleWebrtcSignal, readText_eq.mpr held, nobody]⟩

/-- The rule is kept exactly when the room is none of the sender's, or that of the active
    pair while the channel layer works. -/
theorem signalling_within_active_pair (db : Database) (store : EventStore) (inDb : store ∈ db.stores)
    (pid : String) (now : Int) (layer : Option Bool) (msgType : MessageType)
    (signal : msgType ∈ signalTypes) (payload : Payload)
    (valid : validatePayload msgType payload = .ok ()) :
    WithinActivePair store pid now msgType payload (handleWebrtcSignal layer db pid msgType payload) ↔
      Unassigned db pid payload ∨
        (layer = some true ∧ ∃ pair, ActiveIn store pid now payload pair) := by
  have active : ∀ pair, ActiveIn store pid now payload pair → pair ∈ db.pairs ∧ HasMember pid pair := by
    intro pair active
    obtain ⟨inStore, member⟩ := mem_currentPairs active.1
    exact ⟨List.mem_flatMap.mpr ⟨store, inDb, inStore⟩, member⟩
  constructor
  · intro kept
    by_cases unassigned : Unassigned db pid payload
    · exact .inl unassigned
    · refine .inr ?_
      simp only [Unassigned, not_forall, not_not] at unassigned
      obtain ⟨pair, inDb', member, room⟩ := unassigned
      obtain ⟨message, _, handled⟩ :=
        handleWebrtcSignal_assigned layer signal valid inDb' member room
      rw [handled] at kept
      -- the sender is told nothing, so the room has to be the active one
      have current : ∃ pair, ActiveIn store pid now payload pair := by
        by_contra other
        obtain ⟨_, told⟩ := kept.refused other
        cases layer with
        | none => simp at told
        | some sends =>
          cases sends with
          | true => simp at told
          | false => exact fatalInternal_not_wrong_room told
      obtain ⟨pair', inRoom⟩ := current
      obtain ⟨message', relayed, _⟩ := kept.relayed pair' inRoom
      refine ⟨?_, pair', inRoom⟩
      cases layer with
      | none => cases relayed
      | some sends =>
        cases sends with
        | true => rfl
        | false => cases relayed
  · intro condition
    cases condition with
    | inl unassigned =>
      obtain ⟨roomId, handled⟩ :=
        handleWebrtcSignal_unassigned layer signal valid unassigned
      rw [handled]
      refine ⟨fun pair inRoom => ?_, fun _ => sendWrongRoom_refuses roomId msgType⟩
      obtain ⟨inDb', member⟩ := active pair inRoom
      exact absurd inRoom.2 (unassigned pair inDb' member)
    | inr delivered =>
      obtain ⟨rfl, current⟩ := delivered
      refine ⟨fun pair inRoom => ?_, fun other => absurd current other⟩
      obtain ⟨inDb', member⟩ := active pair inRoom
      obtain ⟨message, forwards, handled⟩ :=
        handleWebrtcSignal_assigned (some true) signal valid inDb' member inRoom.2
      exact ⟨message, by rw [handled], forwards⟩

/-! ## Two rooms of one participant -/

def ida : Participant := ⟨"77777777-7777-4777-8777-777777777777", "Ida", []⟩

def jan : Participant := ⟨"88888888-8888-4888-8888-888888888888", "Jan", []⟩

def kim : Participant := ⟨"99999999-9999-4999-8999-999999999999", "Kim", []⟩

/-- Ida meets Jan in the first round and Kim in the second. -/
def idaMeetsTwo : EventStore :=
  ⟨twoRoundEvent,
    [⟨1, twoRoundEvent.startTime, twoRoundEvent.startTime + seconds 300⟩,
      ⟨2, twoRoundEvent.startTime + seconds 360, twoRoundEvent.startTime + seconds 660⟩],
    [⟨1, ida, jan, "room-1"⟩, ⟨2, ida, kim, "room-2"⟩]⟩

def idaDatabase : Database := ⟨[idaMeetsTwo], by decide, by decide⟩

def offerTo (roomId : String) : Payload := [("room_id", .str roomId), ("sdp", .str "v=0")]

theorem offer_to_active_partner :
    WithinActivePair idaMeetsTwo ida.pk (twoRoundEvent.startTime + seconds 400) .clientWebrtcOffer
      (offerTo "room-2")
      (handleWebrtcSignal (some true) idaDatabase ida.pk .clientWebrtcOffer (offerTo "room-2")) :=
  (signalling_within_active_pair idaDatabase idaMeetsTwo (List.mem_singleton_self _) ida.pk
      (twoRoundEvent.startTime + seconds 400) (some true) .clientWebrtcOffer (by decide)
      (offerTo "room-2") rfl).mpr
    (.inr ⟨rfl, ⟨2, ida, kim, "room-2"⟩, by decide +kernel, rfl⟩)

/-- In the second round Jan still gets Ida's offer to the room of the first. -/
theorem offer_to_former_partner :
    ¬ WithinActivePair idaMeetsTwo ida.pk (twoRoundEvent.startTime + seconds 400) .clientWebrtcOffer
      (offerTo "room-1")
      (handleWebrtcSignal (some true) idaDatabase ida.pk .clientWebrtcOffer (offerTo "room-1")) := by
  intro kept
  have elsewhere : ¬ ∃ pair, ActiveIn idaMeetsTwo ida.pk (twoRoundEvent.startTime + seconds 400)
      (offerTo "room-1") pair := by
    rintro ⟨pair, current, room⟩
    have second : ∀ pair ∈ currentPairs idaMeetsTwo ida.pk (twoRoundEvent.startTime + seconds 400),
        pair.roomId = "room-2" := by decide +kernel
    rw [second pair current] at room
    simp [Holds, offerTo, Dict.get?_cons] at room
  have relayed := congrArg List.length (kept.refused elsewhere).1
  revert relayed
  decide +kernel

end EventPlatform.Presence
