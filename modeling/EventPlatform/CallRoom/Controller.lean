import EventPlatform.CallRoom.Transport
import EventPlatform.Lib.Runs

/-! # The call room controller

`socket.onmessage` starts a handler for each message and does not wait for it,
so the handlers interleave at their awaits.  A handler is the await it is at;
a step delivers a message or lets one handler go on. -/

namespace EventPlatform.CallRoom

open EventPlatform.Lib

/-! ## Messages -/

structure Partner where
  partnerId : String
  roomId : String
  roundNumber : Int
  isOfferer : Bool
deriving DecidableEq

/-- `other` stands for the messages whose handlers touch neither the transport
    nor the partner. -/
inductive ServerMessage where
  | pairing (payload : Partner)
  | roundStart (roundNumber : Option Int)
  | roundEnd (roundNumber : Option Int)
  | eventEnd
  | sessionReplaced
  | other
deriving DecidableEq

/-! ## Handlers -/

inductive Handler where
  /-- `_onPairing` at `_loadRtcConfig`, `ensureLocalMedia` and `acquireLocalMedia`. -/
  | iceServers
  | localMedia
  | acquiring
  /-- `_onPairing` in `preconnect` or `prepareRound` of a transport. -/
  | preparing (transport : Nat) (call : Call)
  /-- `_onPairing` at `createManualOffer`. -/
  | offering
  /-- `_onRoundStart` in `open` of a transport. -/
  | starting (transport : Nat) (call : Call)
  /-- `_onRoundEnd` at `endRound`. -/
  | ending
  /-- `_onPairing` has caught an error. -/
  | failed
  | finished
deriving DecidableEq

/-- `transports` are all that were created; a handler may hold one that is no
    longer the controller's.  `receiving` says that the socket is the current one. -/
structure CallRoomController where
  mediaFallbackRoomId : String
  forceMediaFallbackEnabled : Bool
  receiving : Bool
  transports : List FailoverMediaTransport
  negotiator : Option Nat
  partner : Option Partner
  roundNumber : Option Int
  handlers : List Handler

inductive RoomEvent where
  | openSocket
  | deliver (message : ServerMessage)
  | resume (handler : Nat)
deriving DecidableEq

namespace CallRoomController

def create (mediaFallbackRoomId : String) (forceMediaFallback : Bool) : CallRoomController :=
  ⟨mediaFallbackRoomId, forceMediaFallback, false, [], none, none, none, []⟩

def transport (s : CallRoomController) : Option FailoverMediaTransport := do
  s.transports[← s.negotiator]?

def setTransport (s : CallRoomController) (i : Nat) (t : FailoverMediaTransport) : CallRoomController :=
  { s with transports := s.transports.set i t }

def goto (s : CallRoomController) (i : Nat) (handler : Handler) : CallRoomController :=
  { s with handlers := s.handlers.set i handler }

def begin_ (s : CallRoomController) (handler : Handler) : CallRoomController :=
  { s with handlers := s.handlers ++ [handler] }

def isSamePartnerAssignment (s : CallRoomController) : Bool :=
  match s.transport, s.partner with
  | some t, some partner =>
    t.active.pc && t.roomId == partner.roomId && t.partnerId == partner.partnerId
  | _, _ => false

/-- The assignment is the one the room already has. -/
def sameAssignment (s : CallRoomController) (next : Partner) : Bool :=
  match s.partner with
  | some partner =>
    partner.partnerId == next.partnerId && partner.roomId == next.roomId &&
      partner.roundNumber == next.roundNumber && s.isSamePartnerAssignment
  | none => false

/-- `_onPairing` up to its first await. -/
def onPairing (s : CallRoomController) (next : Partner) : CallRoomController :=
  { s with partner := some next, roundNumber := some next.roundNumber }.begin_
    (if s.sameAssignment next then .finished else .iceServers)

/-- `_onRoundStart` up to its first await. -/
def onRoundStart (s : CallRoomController) (roundNumber : Option Int) : CallRoomController :=
  let s := { s with roundNumber := roundNumber <|> s.roundNumber }
  match s.negotiator, s.transport with
  | some i, some t => (s.setTransport i t.open_.1).begin_ (.starting i t.open_.2)
  | _, _ => s.begin_ .finished

/-- `_onRoundEnd` up to its first await. -/
def onRoundEnd (s : CallRoomController) (roundNumber : Option Int) : CallRoomController :=
  let s := { s with roundNumber := roundNumber <|> s.roundNumber }
  match s.negotiator, s.transport with
  | some i, some t => (s.setTransport i t.endRound).begin_ .ending
  | _, _ => { s with partner := none }.begin_ .finished

/-- `_onEventEnd` and `_onSessionReplaced`: the transport leaves and the socket is
    detached. -/
def leaveRoom (s : CallRoomController) : CallRoomController :=
  match s.negotiator, s.transport with
  | some i, some t => { s.setTransport i t.leave with negotiator := none, receiving := false }
  | _, _ => { s with receiving := false }

def handleMessage (s : CallRoomController) : ServerMessage → CallRoomController
  | .pairing payload => s.onPairing payload
  | .roundStart roundNumber => s.onRoundStart roundNumber
  | .roundEnd roundNumber => s.onRoundEnd roundNumber
  | .eventEnd | .sessionReplaced => s.leaveRoom
  | .other => s

/-- `_onPairing` has its media: it creates a transport, prepares the one there is,
    or finds it prepared. -/
def assign (s : CallRoomController) (i : Nat) : CallRoomController :=
  match s.negotiator, s.transport, s.partner with
  | some k, some t, some partner =>
    if s.isSamePartnerAssignment then s.goto i .finished
    else
      let (t, call) := t.prepareRound partner.roomId partner.partnerId
      (s.setTransport k t).goto i (.preparing k call)
  | none, _, some partner =>
    { s with
      transports := s.transports ++
        [FailoverMediaTransport.create partner.roomId partner.partnerId s.mediaFallbackRoomId
          s.forceMediaFallbackEnabled]
      negotiator := some s.transports.length }.goto i .acquiring
  -- Without a partner, reading its room throws.
  | _, _, _ => s.goto i .failed

/-- `_onPairing` preconnects the transport it has created. -/
def preconnect (s : CallRoomController) (i : Nat) : CallRoomController :=
  match s.negotiator, s.transport, s.partner with
  | some k, some t, some partner =>
    let (t, call) := t.preconnect partner.roomId partner.partnerId
    (s.setTransport k t).goto i (.preparing k call)
  | _, _, _ => s.goto i .failed

/-- `_onPairing` has its transport prepared: an offerer makes the offer. -/
def offer (s : CallRoomController) (i : Nat) : CallRoomController :=
  match s.partner with
  | some partner =>
    if partner.isOfferer then s.goto i (if s.negotiator.isSome then .offering else .failed)
    else s.goto i .finished
  | none => s.goto i .failed

/-- A handler goes on to its next await. -/
def resume (s : CallRoomController) (i : Nat) : Handler → CallRoomController
  | .iceServers => s.goto i .localMedia
  | .localMedia => s.assign i
  | .acquiring => s.preconnect i
  | .preparing k call =>
    match s.transports[k]? with
    | none => s
    | some t =>
      let s := s.setTransport k (t.resume call).1
      match (t.resume call).2 with
      | some call => s.goto i (.preparing k call)
      | none => s.offer i
  | .offering => s.goto i .finished
  | .starting k call =>
    match s.transports[k]? with
    | none => s
    | some t =>
      let s := s.setTransport k (t.resume call).1
      match (t.resume call).2 with
      | some call => s.goto i (.starting k call)
      | none => s.goto i .finished
  | .ending => { s with partner := none }.goto i .finished
  | .failed | .finished => s

/-- A message on a socket that is not the current one is dropped. -/
def step (s : CallRoomController) : RoomEvent → CallRoomController
  | .openSocket => { s with receiving := true }
  | .deliver message => if s.receiving then s.handleMessage message else s
  | .resume i =>
    match s.handlers[i]? with
    | none => s
    | some handler => s.resume i handler

/-- The controller after a run. -/
def run (s : CallRoomController) (events : List RoomEvent) : CallRoomController :=
  events.foldl step s

end CallRoomController

end EventPlatform.CallRoom
