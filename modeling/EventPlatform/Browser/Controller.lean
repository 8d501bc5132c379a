import EventPlatform.Browser.Transport

/-! # The call room controller of the browser

A handler runs up to its first await when its message comes.  What is left of it is a
`Handler`; other handlers run before it goes on, and nothing cancels it. -/

namespace EventPlatform.Browser

inductive CallRoomPhase where
  | idle
  | preconnecting
  | inRound
  | roundEnding
  | eventEnded
  | disconnected
deriving DecidableEq

/-- What `parsePairingPayload` reads. -/
structure Pairing where
  partnerId : String
  roomId : String
  roundNumber : Int
  isOfferer : Bool
deriving DecidableEq

inductive Socket where
  | detached
  | connecting
  | open_
deriving DecidableEq

/-- A `server.error` that says so is a `sessionReplaced` too. -/
inductive ServerMessage where
  | hello
  | pairing (payload : Pairing)
  | roundStart
  | roundEnd
  | eventEnd
  | sessionReplaced
  | operatorPause
  | operatorResume
deriving DecidableEq

/-- Where a handler is suspended; `k` is the number of the transport that it waits for. -/
inductive Handler where
  /-- `_onPairing` at `_loadRtcConfig`. -/
  | iceServers
  /-- `_onPairing` at `ensureLocalMedia`, for the handler of `_mediaPromise` if there is one. -/
  | localMedia (promise : Option Nat)
  /-- `_onPairing` at `acquireLocalMedia`, at `preconnect` or `prepareRound`, and at
      `createManualOffer`. -/
  | acquiring (k : Nat) (call : Call)
  | preparing (k : Nat) (call : Call)
  | offering (k : Nat) (call : Call)
  /-- `_onRoundEnd` at `endRound`. -/
  | endingRound
  /-- `ensureLocalMedia` at `acquireSharedLocalMedia`: its promise is `_mediaPromise`. -/
  | camera (wait : Wait)
  /-- A call after which the controller has nothing left to do, as `_onRoundStart` at `open`. -/
  | background (k : Nat) (call : Call)
  | failed
  | finished
deriving DecidableEq

/-- `transports` are all that were created, and `negotiator` is the number of the current one;
    `offers` counts the offers that went out. -/
structure CallRoomController where
  mediaFallbackRoomId : String
  forceMediaFallbackEnabled : Bool
  phase : CallRoomPhase
  ws : Socket
  reconnectTimer : Bool
  reconnectGaveUp : Bool
  onlineHandler : Bool
  signalingDegraded : Bool
  sharedStream : Option Nat
  mediaPromise : Option Nat
  partner : Option Pairing
  negotiator : Option Nat
  timerInterval : Bool
  transports : List FailoverMediaTransport
  camera : SharedCamera
  handlers : List Handler
  offers : Nat
deriving DecidableEq

namespace CallRoomController

def create (mediaFallbackRoomId : String) (forceMediaFallback : Bool) : CallRoomController :=
  ⟨mediaFallbackRoomId, forceMediaFallback, .idle, .detached, false, false, false, false, none, none, none, none,
    false, [], .create, [], 0⟩

def current (s : CallRoomController) : Option (Nat × FailoverMediaTransport) :=
  s.negotiator.bind fun k => s.transports[k]?.map (k, ·)

def start (h : Handler) (s : CallRoomController) : CallRoomController := { s with handlers := s.handlers ++ [h] }

def settle (i : Nat) (h : Handler) (s : CallRoomController) : CallRoomController :=
  { s with handlers := s.handlers.set i h }

/-- A piece of a call of a transport; an offer goes out only over an open socket. -/
def perform (k : Nat) (p : Progress) (s : CallRoomController) : CallRoomController :=
  { s with
    transports := s.transports.set k p.transport
    camera := p.camera
    offers := if p.offered && s.ws = .open_ then s.offers + 1 else s.offers }

def startTimer (s : CallRoomController) : CallRoomController := { s with timerInterval := true }

def stopTimer (s : CallRoomController) : CallRoomController := { s with timerInterval := false }

/-! ## Media -/

def liveStream (s : CallRoomController) (stream : Option Nat) : Bool := s.camera.streamHasLiveTracks stream

/-- The stream that the controller or its transport has already. -/
def existing (s : CallRoomController) : Option Nat :=
  let localStream := s.current.bind (·.2.active.localStream)
  if s.liveStream s.sharedStream then s.sharedStream else if s.liveStream localStream then localStream else none

/-- With the promise that the caller waits for. -/
def ensureLocalMedia (s : CallRoomController) : CallRoomController × Option Nat :=
  match s.existing with
  | some stream => ({ s with sharedStream := some stream }, none)
  | none =>
    match s.mediaPromise with
    | some promise => ({ s with sharedStream := none }, some promise)
    | none =>
      ({ s with
          sharedStream := none
          mediaPromise := some s.handlers.length
          camera := s.camera.acquireSharedLocalMedia.1
          handlers := s.handlers ++ [.camera s.camera.acquireSharedLocalMedia.2] },
        some s.handlers.length)

def settled (promise : Option Nat) (s : CallRoomController) : Bool :=
  promise.all fun i => s.handlers[i]? = some .finished

/-- `acquireSharedLocalMedia` has answered. -/
def afterCamera (i : Nat) (wait : Wait) (s : CallRoomController) : CallRoomController :=
  match s.camera.arrived wait with
  | none => s
  | some stream => settle i .finished { s with sharedStream := some stream }

/-! ## The next partner -/

def isSamePartnerAssignment (s : CallRoomController) : Bool :=
  match s.current, s.partner with
  | some (_, t), some partner =>
    t.active.pc.isSome && t.active.connectionState != .closed && t.roomId == partner.roomId &&
      t.partnerId == partner.partnerId
  | _, _ => false

def recoverAfterSignalingRestore (s : CallRoomController) : CallRoomController :=
  match s.current with
  | none => s
  | some (k, t) => { s with transports := s.transports.set k t.recoverAfterSignalingRestore }

def onPairing (next : Pairing) (s : CallRoomController) : CallRoomController :=
  let sameAssignment := s.negotiator.isSome && s.partner.any (fun partner =>
    partner.partnerId == next.partnerId && partner.roomId == next.roomId &&
      partner.roundNumber == next.roundNumber) && s.isSamePartnerAssignment
  if sameAssignment then recoverAfterSignalingRestore (startTimer { s with partner := some next })
  else start .iceServers { s with partner := some next, phase := .preconnecting }

def afterIceServers (i : Nat) (s : CallRoomController) : CallRoomController :=
  s.ensureLocalMedia.1.settle i (.localMedia s.ensureLocalMedia.2)

/-- `_createNegotiator` and `acquireLocalMedia`. -/
def createNegotiator (i : Nat) (partner : Pairing) (s : CallRoomController) : CallRoomController :=
  let made := FailoverMediaTransport.create partner.roomId partner.partnerId s.mediaFallbackRoomId
    s.forceMediaFallbackEnabled s.sharedStream s.camera
  let p := made.1.acquireLocalMedia made.2
  let k := s.transports.length
  settle i (.acquiring k p.call)
    { s with negotiator := some k, transports := s.transports ++ [p.transport], camera := p.camera }

def afterLocalMedia (i : Nat) (s : CallRoomController) : CallRoomController :=
  match s.current, s.partner with
  | none, none => s.settle i .failed
  | none, some partner => s.createNegotiator i partner
  | some (k, t), partner =>
    if s.isSamePartnerAssignment then s.startTimer.settle i .finished
    else
      match partner with
      | none => s.settle i .failed
      | some partner =>
        let p := t.prepareRound partner.roomId partner.partnerId s.camera
        (s.perform k p).settle i (.preparing k p.call)

def afterAcquire (i : Nat) (s : CallRoomController) : CallRoomController :=
  match s.current with
  | none => s.settle i .failed
  | some (k, t) =>
    match s.partner with
    | none => settle i .failed { s with sharedStream := t.active.localStream }
    | some partner =>
      let p := t.preconnect partner.roomId partner.partnerId s.camera
      (perform k p { s with sharedStream := t.active.localStream }).settle i (.preparing k p.call)

def afterPrepare (i : Nat) (s : CallRoomController) : CallRoomController :=
  match s.partner with
  | none => s.settle i .failed
  | some partner =>
    if partner.isOfferer then
      match s.current with
      | none => s.settle i .failed
      | some (k, t) =>
        let p := t.createManualOffer s.camera
        (s.perform k p).settle i (.offering k p.call)
    else s.startTimer.settle i .finished

/-! ## Rounds and the end -/

def onServerHello (s : CallRoomController) : CallRoomController :=
  let resumeRound := s.signalingDegraded && s.phase != .disconnected && s.phase != .idle && s.phase != .eventEnded
  let s := { s with signalingDegraded := false }
  if resumeRound then s.ensureLocalMedia.1.recoverAfterSignalingRestore
  else (ensureLocalMedia { s with phase := .idle }).1

def onRoundStart (s : CallRoomController) : CallRoomController :=
  let s := { s with phase := .inRound }
  match s.current with
  | none => s
  | some (k, t) =>
    let p := t.open_ s.camera
    (s.perform k p).start (.background k p.call)

def onRoundEnd (s : CallRoomController) : CallRoomController :=
  let s := { s with phase := .roundEnding }
  match s.current with
  | none => { s with partner := none }
  | some (k, t) => start .endingRound { s with transports := s.transports.set k t.endRound }

def afterRoundEnd (i : Nat) (s : CallRoomController) : CallRoomController := settle i .finished { s with partner := none }

def leaveNegotiator (s : CallRoomController) : CallRoomController :=
  match s.current with
  | none => { s with negotiator := none }
  | some (k, t) =>
    { s with
      negotiator := none
      transports := s.transports.set k (t.leave s.camera).1
      camera := (t.leave s.camera).2 }

/-- What `_onEventEnd`, `_onSessionReplaced` and `disconnect` share. -/
def cleanUp (s : CallRoomController) : CallRoomController :=
  { s.leaveNegotiator with
    ws := .detached
    reconnectTimer := false
    onlineHandler := false
    timerInterval := false
    sharedStream := none
    mediaPromise := none }

def onEventEnd (s : CallRoomController) : CallRoomController :=
  { s.cleanUp with phase := .eventEnded, signalingDegraded := false }

def onSessionReplaced (s : CallRoomController) : CallRoomController := s.cleanUp

def disconnect (s : CallRoomController) : CallRoomController :=
  { s.cleanUp with signalingDegraded := false, reconnectGaveUp := false }

def handleMessage (msg : ServerMessage) (s : CallRoomController) : CallRoomController :=
  match msg with
  | .hello => s.onServerHello
  | .pairing payload => s.onPairing payload
  | .roundStart => s.onRoundStart
  | .roundEnd => s.onRoundEnd
  | .eventEnd => s.onEventEnd
  | .sessionReplaced => s.onSessionReplaced
  | .operatorPause => s.stopTimer
  | .operatorResume => s.startTimer

/-! ## The socket

`exhausted` says that the reconnect window is over. -/

def giveUpReconnect (s : CallRoomController) : CallRoomController :=
  { s with reconnectGaveUp := true, reconnectTimer := false, ws := .detached }

def scheduleReconnect (exhausted : Bool) (s : CallRoomController) : CallRoomController :=
  if s.phase = .eventEnded then s
  else if exhausted then s.giveUpReconnect
  else { s with reconnectTimer := true }

def connect (exhausted : Bool) (s : CallRoomController) : CallRoomController :=
  let s := { s.ensureLocalMedia.1 with onlineHandler := true }
  if s.phase = .eventEnded || s.reconnectGaveUp then s
  else if exhausted then s.giveUpReconnect
  else if s.ws = .open_ then s
  else
    let s := { s with ws := .connecting }
    if s.signalingDegraded || s.phase = .disconnected then s.scheduleReconnect false else s

def onSocketOpen (s : CallRoomController) : CallRoomController :=
  if s.ws = .connecting then { s with ws := .open_, reconnectTimer := false, reconnectGaveUp := false } else s

def onSignalingClosed (exhausted : Bool) (s : CallRoomController) : CallRoomController :=
  if s.phase = .eventEnded then s
  else
    let s := { s with ws := .detached }
    if s.phase = .inRound || s.phase = .preconnecting || s.phase = .roundEnding then
      scheduleReconnect exhausted { s with signalingDegraded := true }
    else scheduleReconnect exhausted (stopTimer { s with phase := .disconnected })

def onReconnectTimer (exhausted : Bool) (s : CallRoomController) : CallRoomController :=
  if !s.reconnectTimer then s
  else if exhausted then s.giveUpReconnect
  else connect false { s with reconnectTimer := false }

def onOnline (s : CallRoomController) : CallRoomController :=
  if s.onlineHandler && s.phase != .eventEnded && (s.signalingDegraded || s.phase = .disconnected) then
    connect false { s with reconnectGaveUp := false, reconnectTimer := false }
  else s

/-! ## The transports -/

def forceMediaFallback (s : CallRoomController) : CallRoomController :=
  let roomId := (s.partner.map (·.roomId) <|> s.current.map (·.2.roomId)).getD ""
  if s.mediaFallbackRoomId = "" || roomId ≠ s.mediaFallbackRoomId then s
  else
    match s.current with
    | none => s
    | some (k, t) =>
      let p := t.activateFallback .forceFallback s.camera
      (s.perform k p).start (.background k p.call)

/-- `onFailure` of the active adapter of a transport. -/
def onFailure (k : Nat) (reason : String) (s : CallRoomController) : CallRoomController :=
  match s.transports[k]? with
  | none => s
  | some t =>
    let p := t.onActiveFailure reason s.camera
    (s.perform k p).start (.background k p.call)

def onQuality (k : Nat) (quality : ConnectionQuality) (s : CallRoomController) : CallRoomController :=
  match s.transports[k]? with
  | none => s
  | some t => { s with transports := s.transports.set k (t.onQuality quality) }

def onConnectionState (k : Nat) (connState : PeerConnectionState) (s : CallRoomController) : CallRoomController :=
  match s.transports[k]? with
  | none => s
  | some t => { s with transports := s.transports.set k (t.onConnectionState connState) }

/-- The `j`-th escalation timer of a transport that has not fired. -/
def onEscalation (k j : Nat) (s : CallRoomController) : CallRoomController :=
  match s.transports[k]? with
  | none => s
  | some t =>
    match t.scheduled[j]? with
    | none => s
    | some gen =>
      let p := FailoverMediaTransport.onEscalationTimeout gen { t with scheduled := t.scheduled.eraseIdx j } s.camera
      (s.perform k p).start (.background k p.call)

/-- A call of a transport goes on to its next await. -/
def advance (i k : Nat) (call : Call) (rest : Nat → Call → Handler) (s : CallRoomController) : CallRoomController :=
  match s.transports[k]? with
  | none => s
  | some t =>
    let p := t.resume call s.camera
    (s.perform k p).settle i (rest k p.call)

def resume (i : Nat) (s : CallRoomController) : CallRoomController :=
  match s.handlers[i]? with
  | none | some .failed | some .finished => s
  | some .iceServers => s.afterIceServers i
  | some (.localMedia promise) => if s.settled promise then s.afterLocalMedia i else s
  | some (.acquiring k call) => if call = .returned then s.afterAcquire i else s.advance i k call .acquiring
  | some (.preparing k call) => if call = .returned then s.afterPrepare i else s.advance i k call .preparing
  | some (.offering k call) =>
    if call = .returned then s.startTimer.settle i .finished else s.advance i k call .offering
  | some .endingRound => s.afterRoundEnd i
  | some (.camera wait) => s.afterCamera i wait
  | some (.background k call) => s.advance i k call .background

end CallRoomController

/-! ## Runs -/

/-- `grant` is the answer to a request of `getUserMedia`, and `resume` the end of an await. -/
inductive ControllerAction where
  | connect (exhausted : Bool)
  | disconnect
  | socketOpen
  | socketClose (replaced exhausted : Bool)
  | message (msg : ServerMessage)
  | reconnectTimer (exhausted : Bool)
  | online
  | forceMediaFallback
  | failure (k : Nat) (reason : String)
  | quality (k : Nat) (quality : ConnectionQuality)
  | connection (k : Nat) (connState : PeerConnectionState)
  | escalation (k j : Nat)
  | grant (request : Nat)
  | resume (i : Nat)
deriving DecidableEq

namespace CallRoomController

def step (s : CallRoomController) : ControllerAction → CallRoomController
  | .connect exhausted => s.connect exhausted
  | .disconnect => s.disconnect
  | .socketOpen => s.onSocketOpen
  | .socketClose replaced exhausted =>
    if s.ws = .detached then s
    else if replaced then s.onSessionReplaced
    else s.onSignalingClosed exhausted
  | .message msg => if s.ws = .open_ then s.handleMessage msg else s
  | .reconnectTimer exhausted => s.onReconnectTimer exhausted
  | .online => s.onOnline
  | .forceMediaFallback => s.forceMediaFallback
  | .failure k reason => s.onFailure k reason
  | .quality k quality => s.onQuality k quality
  | .connection k connState => s.onConnectionState k connState
  | .escalation k j => s.onEscalation k j
  | .grant request => { s with camera := s.camera.grant request }
  | .resume i => s.resume i

/-- The steps in which the controller leaves for good. -/
def ends (s : CallRoomController) : ControllerAction → Bool
  | .message .eventEnd | .message .sessionReplaced => s.ws = .open_
  | .socketClose true _ => s.ws ≠ .detached
  | .disconnect => true
  | _ => false

end CallRoomController

end EventPlatform.Browser
