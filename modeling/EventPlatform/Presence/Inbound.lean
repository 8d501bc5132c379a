import EventPlatform.Lib.Runs
import EventPlatform.Lib.SlidingWindow
import EventPlatform.Presence.Signalling
import EventPlatform.Protocol.RoundTrip

/-! # Frames of one connection

`receive` looks for telemetry before it asks for the size of a frame or for its rate,
and a telemetry message never reaches either check. -/

namespace EventPlatform.Presence

open EventPlatform.Lib EventPlatform.Protocol EventPlatform.Orchestrator

/-! ## The consumer -/

/-- What the consumer reads of its participant's row. -/
structure ParticipantRow where
  pk : String
  eventId : String

structure ParticipantConsumer where
  participant : Option ParticipantRow
  authenticated : Bool
  handshakeComplete : Bool
  lastActivity : ℚ
  rateTimestamps : List ℚ
  sessionReplaced : Bool
  lastTelemetryCause : Json
  lastTelemetryDetail : String
  participantGroup : Option String
  eventGroup : Option String

/-- After `connect`; a session that resolves to nobody is not authenticated. -/
def ParticipantConsumer.connect (participant : Option ParticipantRow) (now : ℚ) : ParticipantConsumer :=
  ⟨participant, participant.isSome, false, now, [], false, .null, "", none, none⟩

structure InboundSettings where
  rateLimitMessagesPerMinute : Nat
  maxMessageBytes : Nat

def InboundSettings.default : InboundSettings := ⟨60, 64 * 1024⟩

/-- The standard library: `json.loads` of a text and of bytes, and what Python makes of
    the text of a float. -/
structure PythonLibrary where
  loads : String → Except String Json
  loadsBytes : List UInt8 → Except String Json
  floatStr : String → String
  floatTruthy : String → Bool

/-- What the services answer while one frame is handled.  `layer` is the channel layer, if
    there is one, and whether it works; the last group of a handshake may still be refused. -/
structure Services where
  layer : Option Bool
  joinsEventGroup : Bool
  database : Database
  marksReconnected : Bool
  timestampMs : Int

/-- What a handler does besides changing the consumer. -/
inductive Effect where
  | send (message : Envelope)
  | close (code : Int)
  | groupAdd (group : String)
  | groupSend (publication : Publication)
  | claimExclusiveConnection
  | clearAbsenceWatch
  | markReconnected
  | notifyPartnerPresence (state : String)
  | maybeSendReconnectSnapshot

/-- A handler's effects up to its end, or up to the exception that it raises. -/
structure Handled where
  consumer : ParticipantConsumer
  effects : List Effect
  raised : Bool

/-! ## Replies -/

/-- `_send` of what a builder returns. -/
def sendBuilt (consumer : ParticipantConsumer) (built : Checked Envelope) : Handled :=
  match built with
  | .ok message => ⟨consumer, [.send message], false⟩
  | .error _ => ⟨consumer, [], true⟩

def sendError (consumer : ParticipantConsumer) (code message : String) (originalType : Option String) :
    Handled :=
  sendBuilt consumer (buildServerError code message originalType none)

inductive FatalCode where
  | notAuthenticated
  | rateLimited
  | internal

def FatalCode.value : FatalCode → String
  | notAuthenticated => "ERR_NOT_AUTHENTICATED"
  | rateLimited => "ERR_RATE_LIMITED"
  | internal => "ERR_INTERNAL"

def FatalCode.message : FatalCode → String
  | notAuthenticated => "Authentication is required."
  | rateLimited => "Too many messages; connection closed."
  | internal => "An internal server error occurred."

/-- `ERROR_CLOSE_CODES` -/
def FatalCode.closeCode : FatalCode → Int
  | notAuthenticated => 4001
  | rateLimited => 4003
  | internal => 4004

/-- A message and the close that follows it. -/
def sendThenClose (built : Checked Envelope) (code : Option Int) : List Effect :=
  match built with
  | .ok message => .send message :: (code.map Effect.close).toList
  | .error _ => []

/-- `_fatal` -/
def fatal (code : FatalCode) : List Effect :=
  sendThenClose (buildServerError code.value code.message none none) (some code.closeCode)

def closeMessageTooBig : Int := 1009

/-- `ERROR_CLOSE_CODES`, for the codes of `validate_message`. -/
def closeCodeOf : ErrorCode → Option Int
  | .versionMismatch => some 4002
  | _ => none

/-! ## Messages -/

/-- The groups of a handshake, where there is a channel layer. -/
def joinGroups (services : Services) (consumer : ParticipantConsumer) (participant : ParticipantRow) : Handled :=
  match services.layer with
  | none => ⟨consumer, [], false⟩
  | some works =>
    let group := participantChannelGroup participant.pk
    let consumer := { consumer with participantGroup := some group }
    if works then
      let eventGroup := eventChannelGroup participant.eventId
      let consumer := { consumer with eventGroup := some eventGroup }
      if services.joinsEventGroup then ⟨consumer, [.groupAdd group, .groupAdd eventGroup], false⟩
      else ⟨consumer, [.groupAdd group], true⟩
    else ⟨consumer, [], true⟩

/-- The rest of a handshake; of its last calls only `_mark_reconnected` lets exceptions out. -/
def finishHandshake (services : Services) (consumer : ParticipantConsumer) (participant : ParticipantRow)
    (payload : Payload) : Handled :=
  match (payload.get? "client_ts").bind Json.readInt with
  | none => ⟨consumer, [], true⟩
  | some clientTs =>
    match buildServerHello participant.pk services.timestampMs clientTs participant.eventId
      supportedVersions none with
    | .error _ => ⟨consumer, [], true⟩
    | .ok hello =>
      let claimed := [Effect.send hello, .claimExclusiveConnection, .clearAbsenceWatch]
      if services.marksReconnected then
        ⟨consumer, claimed ++ [.markReconnected, .notifyPartnerPresence "connected",
          .maybeSendReconnectSnapshot], false⟩
      else ⟨consumer, claimed, true⟩

def completeHandshake (services : Services) (consumer : ParticipantConsumer) (payload : Payload) : Handled :=
  match consumer.participant with
  | none => ⟨consumer, fatal .notAuthenticated, false⟩
  | some participant =>
    let joined := joinGroups services { consumer with handshakeComplete := true } participant
    if joined.raised then joined
    else
      let finished := finishHandshake services joined.consumer participant payload
      { finished with effects := joined.effects ++ finished.effects }

/-- A reply that echoes the client's time. -/
def sendTime (services : Services) (consumer : ParticipantConsumer) (payload : Payload)
    (build : Int → Int → Checked Envelope) : Handled :=
  match (payload.get? "client_ts").bind Json.readInt with
  | none => ⟨consumer, [], true⟩
  | some clientTs => sendBuilt consumer (build clientTs services.timestampMs)

/-- `_handle_message`; the exceptions of a signal are already `_fatal` in its outcome. -/
def handleMessage (services : Services) (consumer : ParticipantConsumer) (msgType : MessageType)
    (payload : Payload) : Handled :=
  match consumer.authenticated, consumer.participant with
  | true, some participant =>
    if consumer.handshakeComplete then
      match msgType with
      | .clientPing => sendTime services consumer payload buildServerPong
      | .clientClockSync => sendTime services consumer payload buildServerClockSync
      | .clientHello =>
        sendError consumer "ERR_INVALID_STATE" "client.hello has already been accepted." (some msgType.value)
      | .clientReady => ⟨consumer, [], false⟩
      | .clientWebrtcOffer | .clientWebrtcAnswer | .clientWebrtcIce =>
        let outcome := handleWebrtcSignal services.layer services.database participant.pk msgType payload
        ⟨consumer, outcome.relayed.map .groupSend ++ outcome.replies.map .send
          ++ (if outcome.closed then [.close FatalCode.internal.closeCode] else []), false⟩
      | _ =>
        sendError consumer "ERR_INVALID_STATE" "This message is not available until pairing is implemented."
          (some msgType.value)
    else if msgType ≠ .clientHello then
      sendError consumer "ERR_INVALID_STATE" "client.hello is required before other messages."
        (some msgType.value)
    else completeHandshake services consumer payload
  | _, _ => ⟨consumer, fatal .notAuthenticated, false⟩

/-- What `receive` does with a frame that passes its checks. -/
def serve (python : PythonLibrary) (services : Services) (consumer : ParticipantConsumer) (raw : Frame) :
    ParticipantConsumer × List Effect :=
  match validateMessage python.loads raw with
  | .error (.protocol error) =>
    (consumer, sendThenClose (errorFromProtocolError error) (closeCodeOf error.code))
  | .error .value => (consumer, fatal .internal)
  | .ok (msgType, payload) =>
    let handled := handleMessage services consumer msgType payload
    (handled.consumer, handled.effects ++ if handled.raised then fatal .internal else [])

/-! ## Telemetry -/

mutual

/-- `repr` of a JSON value. -/
def reprJson (python : PythonLibrary) : Json → String
  | .null => "None"
  | .bool true => "True"
  | .bool false => "False"
  | .int value => toString value
  | .float text => python.floatStr text
  | .str value => pyRepr value
  | .list [] => "[]"
  | .list (item :: items) => "[" ++ reprJson python item ++ reprItems python items
  | .dict [] => "\x7b\x7d"
  | .dict ((key, value) :: fields) =>
    "\x7b" ++ pyRepr key ++ ": " ++ reprJson python value ++ reprFields python fields

def reprItems (python : PythonLibrary) : List Json → String
  | [] => "]"
  | item :: items => ", " ++ reprJson python item ++ reprItems python items

def reprFields (python : PythonLibrary) : List (String × Json) → String
  | [] => "\x7d"
  | (key, value) :: fields =>
    ", " ++ pyRepr key ++ ": " ++ reprJson python value ++ reprFields python fields

end

/-- `str` of a JSON value. -/
def strJson (python : PythonLibrary) : Json → String
  | .str value => value
  | value => reprJson python value

def loadsFrame (python : PythonLibrary) : Frame → Except String Json
  | .text raw => python.loads raw
  | .bytes raw => python.loadsBytes raw

/-- The cause and the detail that a telemetry message leaves behind.  An exception on
    the way, also that of a payload without `get`, makes it an ordinary message. -/
def telemetry (python : PythonLibrary) (raw : Frame) : Option (Json × String) := do
  let data ← (loadsFrame python raw).toOption
  let data ← data.readDict
  let msgType ← (data.get? "type").bind Json.readStr
  if msgType ≠ "client.telemetry" then none
  let payload ← ((data.get? "payload").getD (.dict [])).readDict
  return ((payload.get? "cause").getD .null, strJson python ((payload.get? "detail").getD (.str "")))

/-! ## `receive` -/

/-- `len(raw.encode("utf-8"))` or `len(raw)`. -/
def frameSize : Frame → Nat
  | .text raw => raw.utf8ByteSize
  | .bytes raw => raw.length

/-- What `receive` does with a frame: whether it parses it before anything else, what the
    limiter answers where it is asked, and the effects. -/
structure Received where
  consumer : ParticipantConsumer
  parsed : Bool
  withinRateLimit : Option Bool
  effects : List Effect

def rateWindow : ℚ := 60

/-- A frame as it comes in: the time of its arrival, its text or its bytes, and what the
    services answer while it is handled. -/
structure Inbound where
  now : ℚ
  textData : Option String
  bytesData : Option (List UInt8)
  services : Services

def Inbound.raw (inbound : Inbound) : Option Frame :=
  inbound.textData.map Frame.text <|> inbound.bytesData.map Frame.bytes

def receive (python : PythonLibrary) (settings : InboundSettings) (inbound : Inbound)
    (consumer : ParticipantConsumer) : Received :=
  let consumer := { consumer with lastActivity := inbound.now }
  match inbound.raw with
  | none => ⟨consumer, false, none, []⟩
  | some raw =>
    match telemetry python raw with
    | some (cause, detail) =>
      ⟨{ consumer with lastTelemetryCause := cause, lastTelemetryDetail := detail }, true, none, []⟩
    | none =>
      if settings.maxMessageBytes < frameSize raw then
        ⟨consumer, true, none, sendThenClose (buildServerError "ERR_INVALID_MESSAGE"
          "Message exceeds the maximum allowed size." none none) (some closeMessageTooBig)⟩
      else
        let (accepted, rateTimestamps) := SlidingWindow.allow rateWindow
          settings.rateLimitMessagesPerMinute inbound.now consumer.rateTimestamps
        let consumer := { consumer with rateTimestamps := rateTimestamps }
        if accepted then
          let (consumer, effects) := serve python inbound.services consumer raw
          ⟨consumer, true, some true, effects⟩
        else ⟨consumer, true, some false, fatal .rateLimited⟩

/-- What changes a consumer.  The handlers of the channel layer leave it as it is, all but
    that of a replaced session. -/
inductive ConnectionEvent where
  | frame (inbound : Inbound)
  | sessionReplaced

def ConnectionEvent.time : ConnectionEvent → Option ℚ
  | frame inbound => some inbound.now
  | sessionReplaced => none

def nextConsumer (python : PythonLibrary) (settings : InboundSettings) (consumer : ParticipantConsumer) :
    ConnectionEvent → ParticipantConsumer
  | .frame inbound => (receive python settings inbound consumer).consumer
  | .sessionReplaced => { consumer with sessionReplaced := true }

/-! ## The limits -/

/-- The consumer but for the time of its last activity and the limiter's own times. -/
def ParticipantConsumer.settled (consumer : ParticipantConsumer) : ParticipantConsumer :=
  { consumer with lastActivity := 0, rateTimestamps := [] }

/-- A frame does something besides being turned away by the limiter. -/
def Received.Acts (received : Received) (before : ParticipantConsumer) : Prop :=
  received.consumer.settled ≠ before.settled ∨
    (received.effects ≠ [] ∧ received.effects ≠ fatal .rateLimited)

/-- The limits of one connection, over all the events that it handles. -/
structure WithinLimits (python : PythonLibrary) (settings : InboundSettings) (consumer : ParticipantConsumer)
    (events : List ConnectionEvent) : Prop where
  rate : ∀ last, ∀ busy : List (ParticipantConsumer × ConnectionEvent),
    busy.Sublist (visited (nextConsumer python settings) consumer events) →
    (∀ v ∈ busy, ∃ inbound, v.2 = .frame inbound ∧ (last - rateWindow < inbound.now ∧ inbound.now ≤ last) ∧
      (receive python settings inbound v.1).Acts v.1) →
    busy.length ≤ settings.rateLimitMessagesPerMinute
  size : ∀ v ∈ visited (nextConsumer python settings) consumer events, ∀ inbound, v.2 = .frame inbound →
    ∀ raw, inbound.raw = some raw → settings.maxMessageBytes < frameSize raw →
    (receive python settings inbound v.1).parsed = false ∧
      (receive python settings inbound v.1).consumer = { v.1 with lastActivity := inbound.now }
  counted : ∀ v ∈ visited (nextConsumer python settings) consumer events, ∀ inbound, v.2 = .frame inbound →
    ∀ text, inbound.raw = some (.text text) → (receive python settings inbound v.1).withinRateLimit ≠ none

/-- A frame that neither of the early exits of `receive` is for. -/
def Ordinary (python : PythonLibrary) (settings : InboundSettings) (inbound : Inbound) : Prop :=
  ∀ raw, inbound.raw = some raw → frameSize raw ≤ settings.maxMessageBytes ∧ telemetry python raw = none

/-! ## What a frame does -/

variable {python : PythonLibrary} {settings : InboundSettings} {services : Services}
  {consumer : ParticipantConsumer} {inbound : Inbound} {raw : Frame}

/-- A message changes the consumer only when it completes the handshake. -/
def ParticipantConsumer.Greeted (consumer after : ParticipantConsumer) : Prop :=
  after = consumer ∨ (consumer.handshakeComplete = false ∧ ∃ participantGroup eventGroup, after =
    { consumer with
      handshakeComplete := true
      participantGroup := participantGroup
      eventGroup := eventGroup })

theorem sendBuilt_consumer (built : Checked Envelope) : (sendBuilt consumer built).consumer = consumer := by
  cases built <;> rfl

theorem sendTime_consumer (payload : Payload) (build : Int → Int → Checked Envelope) :
    (sendTime services consumer payload build).consumer = consumer := by
  simp only [sendTime]
  split
  · rfl
  · exact sendBuilt_consumer _

theorem joinGroups_consumer (services : Services) (consumer : ParticipantConsumer)
    (participant : ParticipantRow) : ∃ participantGroup eventGroup,
    (joinGroups services consumer participant).consumer =
      { consumer with participantGroup := participantGroup, eventGroup := eventGroup } := by
  simp only [joinGroups]
  split
  · exact ⟨_, _, rfl⟩
  · split
    · split <;> exact ⟨_, _, rfl⟩
    · exact ⟨_, _, rfl⟩

theorem greet_consumer (participant : ParticipantRow) (payload : Payload) :
    (finishHandshake services consumer participant payload).consumer = consumer := by
  simp only [finishHandshake]
  split
  · rfl
  · split
    · rfl
    · split <;> rfl

theorem completeHandshake_greeted (waiting : consumer.handshakeComplete = false) (payload : Payload) :
    consumer.Greeted (completeHandshake services consumer payload).consumer := by
  simp only [completeHandshake]
  split
  · exact .inl rfl
  · next participant _ =>
    refine .inr ⟨waiting, ?_⟩
    obtain ⟨participantGroup, eventGroup, joined⟩ :=
      joinGroups_consumer services { consumer with handshakeComplete := true } participant
    refine ⟨participantGroup, eventGroup, ?_⟩
    split
    · exact joined
    · rw [greet_consumer, joined]

theorem handleMessage_greeted (msgType : MessageType) (payload : Payload) :
    consumer.Greeted (handleMessage services consumer msgType payload).consumer := by
  simp only [handleMessage]
  split
  · by_cases complete : consumer.handshakeComplete = true
    · rw [if_pos complete]
      refine .inl ?_
      split <;> first | exact sendTime_consumer _ _ | exact sendBuilt_consumer _ | rfl
    · rw [if_neg complete]
      split
      · exact .inl (sendBuilt_consumer _)
      · exact completeHandshake_greeted (by simpa using complete) payload
  · exact .inl rfl

theorem serve_greeted (raw : Frame) : consumer.Greeted (serve python services consumer raw).1 := by
  simp only [serve]
  split
  · exact .inl rfl
  · exact .inl rfl
  · exact handleMessage_greeted _ _

/-- What the frame does to the limiter's times, and the four ways through `receive`. -/
theorem receive_cases (python : PythonLibrary) (settings : InboundSettings) (inbound : Inbound)
    (consumer : ParticipantConsumer) :
    let arrived := { consumer with lastActivity := inbound.now }
    let answer := SlidingWindow.allow rateWindow settings.rateLimitMessagesPerMinute inbound.now
      consumer.rateTimestamps
    (inbound.raw = none ∧ receive python settings inbound consumer = ⟨arrived, false, none, []⟩) ∨
    (∃ raw cause detail, inbound.raw = some raw ∧ telemetry python raw = some (cause, detail) ∧
      receive python settings inbound consumer =
        ⟨{ arrived with lastTelemetryCause := cause, lastTelemetryDetail := detail }, true, none, []⟩) ∨
    (∃ raw effects, inbound.raw = some raw ∧ telemetry python raw = none ∧
      settings.maxMessageBytes < frameSize raw ∧
      receive python settings inbound consumer = ⟨arrived, true, none, effects⟩) ∨
    (∃ raw, inbound.raw = some raw ∧ telemetry python raw = none ∧
      ((answer.1 = false ∧ receive python settings inbound consumer =
        ⟨{ arrived with rateTimestamps := answer.2 }, true, some false, fatal .rateLimited⟩) ∨
      (answer.1 = true ∧ ∃ after effects, ({ arrived with rateTimestamps := answer.2 }).Greeted after ∧
        receive python settings inbound consumer = ⟨after, true, some true, effects⟩))) := by
  intro arrived answer
  simp only [receive]
  cases there : inbound.raw with
  | none => exact .inl ⟨rfl, rfl⟩
  | some raw =>
    refine .inr ?_
    cases sent : telemetry python raw with
    | some telemetered =>
      obtain ⟨cause, detail⟩ := telemetered
      exact .inl ⟨raw, cause, detail, rfl, sent, by simp only [sent]; rfl⟩
    | none =>
      refine .inr ?_
      simp only [sent]
      by_cases long : settings.maxMessageBytes < frameSize raw
      · rw [if_pos long]
        exact .inl ⟨raw, _, rfl, sent, long, rfl⟩
      · rw [if_neg long]
        refine .inr ⟨raw, rfl, sent, ?_⟩
        by_cases accepted : answer.1 = true
        · exact .inr ⟨accepted, _, _, serve_greeted raw, if_pos accepted⟩
        · exact .inl ⟨by simpa using accepted, if_neg accepted⟩

/-! ## The limiter over a run -/

/-- The time of a frame that the limiter lets through. -/
def admittedTime (python : PythonLibrary) (settings : InboundSettings)
    (visit : ParticipantConsumer × ConnectionEvent) : Option ℚ :=
  match visit.2 with
  | .frame inbound =>
    if (receive python settings inbound visit.1).withinRateLimit = some true then some inbound.now else none
  | .sessionReplaced => none

theorem ParticipantConsumer.Greeted.rateTimestamps {after : ParticipantConsumer}
    (greeted : consumer.Greeted after) : after.rateTimestamps = consumer.rateTimestamps := by
  obtain rfl | ⟨_, _, _, rfl⟩ := greeted <;> rfl

variable {now : ℚ} {times : List ℚ} {events : List ConnectionEvent}

/-- Whatever exit a frame takes, the limiter keeps the times that it let through. -/
theorem keeps_receive (python : PythonLibrary)
    (keeps : SlidingWindow.Keeps rateWindow settings.rateLimitMessagesPerMinute now times
      consumer.rateTimestamps) (passes : now ≤ inbound.now) :
    SlidingWindow.Keeps rateWindow settings.rateLimitMessagesPerMinute inbound.now
      (times ++ (admittedTime python settings (consumer, .frame inbound)).toList)
      (receive python settings inbound consumer).consumer.rateTimestamps := by
  have asked := keeps.allow passes (by decide +kernel : (0 : ℚ) < rateWindow)
  simp only [admittedTime]
  rcases receive_cases python settings inbound consumer with ⟨_, same⟩ | ⟨_, _, _, _, _, same⟩ |
    ⟨_, _, _, _, _, same⟩ | ⟨_, _, _, ⟨refused, same⟩ | ⟨accepted, after, _, greeted, same⟩⟩
  · rw [same]
    simpa using keeps.wait passes
  · rw [same]
    simpa using keeps.wait passes
  · rw [same]
    simpa using keeps.wait passes
  · rw [same]
    simpa [refused] using asked
  · rw [same, greeted.rateTimestamps]
    simpa [accepted] using asked

theorem filterMap_cons_toList {α β : Type} (f : α → Option β) (a : α) (as : List α) :
    (a :: as).filterMap f = (f a).toList ++ as.filterMap f := by
  cases found : f a <;> simp [found]

theorem keeps_run (python : PythonLibrary)
    (ordered : (now :: events.filterMap ConnectionEvent.time).Pairwise (· ≤ ·))
    (keeps : SlidingWindow.Keeps rateWindow settings.rateLimitMessagesPerMinute now times
      consumer.rateTimestamps) :
    ∃ last kept, SlidingWindow.Keeps rateWindow settings.rateLimitMessagesPerMinute last
      (times ++ (visited (nextConsumer python settings) consumer events).filterMap
        (admittedTime python settings)) kept := by
  induction events generalizing consumer now times with
  | nil => exact ⟨now, _, by simpa [visited] using keeps⟩
  | cons event events ih =>
    rw [visited, filterMap_cons_toList]
    cases event with
    | sessionReplaced => exact @ih { consumer with sessionReplaced := true } now times ordered keeps
    | frame inbound =>
      obtain ⟨first, later⟩ := List.pairwise_cons.mp ordered
      have next := keeps_receive python keeps (first inbound.now List.mem_cons_self)
      have rest := ih later next
      rw [List.append_assoc] at rest
      exact rest

/-- An ordinary frame that acts was let through. -/
theorem Ordinary.admittedTime (ordinary : Ordinary python settings inbound)
    (acts : (receive python settings inbound consumer).Acts consumer) :
    Presence.admittedTime python settings (consumer, .frame inbound) = some inbound.now := by
  simp only [Presence.admittedTime]
  rcases receive_cases python settings inbound consumer with ⟨_, same⟩ | ⟨raw, _, _, there, sent, _⟩ |
    ⟨raw, _, there, _, long, _⟩ | ⟨_, _, _, ⟨_, same⟩ | ⟨_, _, _, _, same⟩⟩
  · rw [same] at acts
    rcases acts with changed | ⟨some, _⟩
    · exact absurd rfl changed
    · exact absurd rfl some
  · rw [(ordinary raw there).2] at sent
    cases sent
  · exact absurd (ordinary raw there).1 (not_le.mpr long)
  · rw [same] at acts
    rcases acts with changed | ⟨_, other⟩
    · exact absurd rfl changed
    · exact absurd rfl other
  · rw [same]
    rfl

/-- Every limit is kept when no frame is too long and none is telemetry; a frame that is
    too long breaks one, and so does telemetry that comes as a text. -/
theorem inbound_limits (python : PythonLibrary) (settings : InboundSettings)
    (participant : Option ParticipantRow) (now : ℚ) (events : List ConnectionEvent)
    (ordered : (now :: events.filterMap ConnectionEvent.time).Pairwise (· ≤ ·)) :
    ((∀ inbound, .frame inbound ∈ events → Ordinary python settings inbound) →
      WithinLimits python settings (.connect participant now) events) ∧
    (WithinLimits python settings (.connect participant now) events →
      ∀ inbound, .frame inbound ∈ events → ∀ raw, inbound.raw = some raw →
        frameSize raw ≤ settings.maxMessageBytes ∧
          (∀ text, raw = .text text → telemetry python raw = none)) := by
  constructor
  · intro ordinary
    have plain : ∀ v ∈ visited (nextConsumer python settings) (.connect participant now) events,
        ∀ inbound, v.2 = .frame inbound → Ordinary python settings inbound := by
      intro v member inbound same
      obtain ⟨before, after, split, _⟩ := mem_visited.mp member
      exact ordinary inbound (by rw [split, same]; simp)
    refine ⟨fun last busy part acting => ?_, fun v member inbound same raw there long => ?_,
      fun v member inbound same text there => ?_⟩
    · have fresh : SlidingWindow.Keeps rateWindow settings.rateLimitMessagesPerMinute now []
          (ParticipantConsumer.connect participant now).rateTimestamps := .nil _ _ _
      obtain ⟨_, _, keeps⟩ := keeps_run python ordered fresh
      rw [List.nil_append] at keeps
      have admitted : ∀ v ∈ busy, admittedTime python settings v = some (v.2.time.getD 0) ∧
          last - rateWindow < v.2.time.getD 0 ∧ v.2.time.getD 0 ≤ last := by
        intro v member
        obtain ⟨inbound, same, inside, acts⟩ := acting v member
        obtain ⟨before, event⟩ := v
        cases same
        exact ⟨(plain _ (part.subset member) inbound rfl).admittedTime acts, inside⟩
      have times : busy.filterMap (admittedTime python settings) = busy.map (·.2.time.getD 0) :=
        List.filterMap_eq_map_iff_forall_eq_some.mpr fun v member => (admitted v member).1
      -- the times of the acting frames are among the admitted ones in the window
      have among : (busy.map (·.2.time.getD 0)).Sublist (SlidingWindow.inWindow rateWindow last
          ((visited (nextConsumer python settings) (.connect participant now) events).filterMap
            (admittedTime python settings))) := by
        have all := (part.filterMap (admittedTime python settings)).filter
          (fun t => decide (last - rateWindow < t ∧ t ≤ last))
        rw [times, List.filter_eq_self.mpr] at all
        · exact all
        · intro t member
          obtain ⟨v, inBusy, rfl⟩ := List.mem_map.mp member
          simpa using (admitted v inBusy).2
      calc busy.length = (busy.map (·.2.time.getD 0)).length := (List.length_map _).symm
        _ ≤ _ := among.length_le
        _ ≤ settings.rateLimitMessagesPerMinute := keeps.sparse last
    · exact absurd (plain v member inbound same raw there).1 (not_le.mpr long)
    · rcases receive_cases python settings inbound v.1 with ⟨missing, _⟩ | ⟨raw, _, _, there', sent, _⟩ |
        ⟨raw, _, there', _, long, _⟩ | ⟨_, _, _, ⟨_, result⟩ | ⟨_, _, _, _, result⟩⟩
      · rw [there] at missing
        cases missing
      · rw [(plain v member inbound same raw there').2] at sent
        cases sent
      · exact absurd (plain v member inbound same raw there').1 (not_le.mpr long)
      · rw [result]
        simp
      · rw [result]
        simp
  · intro kept inbound member raw there
    obtain ⟨before, after, split⟩ := List.append_of_mem member
    have visit : (before.foldl (nextConsumer python settings) (.connect participant now),
        ConnectionEvent.frame inbound) ∈
        visited (nextConsumer python settings) (.connect participant now) events :=
      mem_visited.mpr ⟨before, after, split, rfl⟩
    have size := kept.size _ visit inbound rfl raw there
    have counted := kept.counted _ visit inbound rfl
    rcases receive_cases python settings inbound
      (before.foldl (nextConsumer python settings) (.connect participant now)) with ⟨missing, _⟩ |
      ⟨_, _, _, there', sent, result⟩ | ⟨_, _, there', sent, long, result⟩ | ⟨_, there', sent, rest⟩
    · rw [there] at missing
      cases missing
    · -- telemetry is parsed, and counted nowhere
      rw [result] at size counted
      refine ⟨not_lt.mp fun long => ?_, fun text same => ?_⟩
      · exact absurd (size long).1 (by simp)
      · exact absurd rfl (counted text (by rw [there, same]))
    · cases there.symm.trans there'
      rw [result] at size
      exact absurd (size long).1 (by simp)
    · cases there.symm.trans there'
      refine ⟨not_lt.mp fun long => ?_, fun _ _ => sent⟩
      rcases rest with ⟨_, result⟩ | ⟨_, _, _, _, result⟩
      · rw [result] at size
        exact absurd (size long).1 (by simp)
      · rw [result] at size
        exact absurd (size long).1 (by simp)

/-! ## Telemetry past the limiter -/

/-- The two readers, and floats as they are written. -/
def cpython : PythonLibrary where
  loads := loads
  loadsBytes raw := loads (decodeReplace raw)
  floatStr text := text
  floatTruthy text := (text.toList.takeWhile fun c => c ≠ 'e' ∧ c ≠ 'E').any fun c => c.isAlpha ∨ ('1' ≤ c ∧ c ≤ '9')

def idaServices : Services := ⟨some true, true, idaDatabase, true, 1700000000000⟩

def idaRow : ParticipantRow := ⟨ida.pk, "event-1"⟩

/-- A text that arrives one second after the connection was made. -/
def textFrame (text : String) : ConnectionEvent := .frame ⟨1, some text, none, idaServices⟩

def telemetryText : String := "\x7b\"type\": \"client.telemetry\"\x7d"

def pingText : String := "\x7b\"type\": \"client.ping\"\x7d"

def pingFrame (now : ℚ) : Inbound := ⟨now, some pingText, none, idaServices⟩

/-- Two pings a second, one more than a window takes. -/
def pings : List ConnectionEvent := (List.range 61).map fun i => .frame (pingFrame (i / 2))

theorem ping_within_limits : WithinLimits cpython .default (.connect (some idaRow) 0) pings := by
  refine (inbound_limits cpython .default (some idaRow) 0 pings (by decide +kernel)).1 fun inbound member raw there => ?_
  obtain ⟨i, _, same⟩ := List.mem_map.mp member
  cases same
  cases there
  exact ⟨by decide +kernel, Option.isNone_iff_eq_none.mp (by decide +kernel)⟩

-- the last of them is refused
example : (receive cpython .default (pingFrame 30)
    ((pings.take 60).foldl (nextConsumer cpython .default) (.connect (some idaRow) 0))).withinRateLimit = some false := by
  decide +kernel

/-- A telemetry message is never counted. -/
theorem telemetry_is_not_counted :
    ¬ WithinLimits cpython .default (.connect (some idaRow) 0) [textFrame telemetryText] := by
  intro kept
  have uncounted : (receive cpython .default ⟨1, some telemetryText, none, idaServices⟩
      (.connect (some idaRow) 0)).withinRateLimit = none := by decide +kernel
  exact kept.counted (.connect (some idaRow) 0, textFrame telemetryText) List.mem_cons_self _ rfl telemetryText
    rfl uncounted

end EventPlatform.Presence
