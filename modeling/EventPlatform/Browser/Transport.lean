import EventPlatform.Browser.Adapter

/-! # The failover transport of the browser

An asynchronous method runs up to its first await when it is called.  What is left of it is a
`Call`, and `resume` is what happens when the await is over. -/

namespace EventPlatform.Browser

def fallbackAllowedForRoom (roomId selectedRoomId : String) : Bool :=
  selectedRoomId != "" && roomId != "" && roomId == selectedRoomId

structure Snapshot where
  stream : Option Nat
  roomId : String
  partnerId : String
  prevState : TransportState
deriving DecidableEq

/-- Who has called `_activateFallback`. -/
inductive Caller where
  | forceFallback
  | opening
  | escalation
  | failure (reason : String)
deriving DecidableEq

/-- What follows `acquireLocalMedia` of an adapter. -/
inductive AfterMedia where
  /-- `acquireLocalMedia` of the transport. -/
  | keep
  /-- `_restorePrimary`, from `switchPartner` if `reopen`. -/
  | restore (newRoomId newPartnerId : String) (reopen : Bool)
  /-- `_activateFallback`. -/
  | relay (snap : Snapshot) (caller : Caller)
deriving DecidableEq

/-- Where a call of the transport is suspended. -/
inductive Call where
  /-- In `acquireLocalMedia` of an adapter, for the shared stream. -/
  | media (adapter : Nat) (wait : Wait) (next : AfterMedia)
  /-- At `acquireLocalMedia` of an adapter. -/
  | hasMedia (stream : Option Nat) (next : AfterMedia)
  /-- In `_activateFallback` at `preconnect` and at `open`. -/
  | relayPreconnect (snap : Snapshot) (caller : Caller)
  | relayOpen (caller : Caller)
  /-- At `_activateFallback`, which has returned. -/
  | answered (caller : Caller) (activated : Bool)
  /-- `open` and `switchPartner` at the adapter. -/
  | opening
  | switched
  /-- `createManualOffer` of an adapter, at `createOffer` and at `setLocalDescription`. -/
  | creatingOffer (adapter pc : Nat)
  | settingOffer (adapter pc : Nat)
  /-- At an adapter, with nothing left to do. -/
  | settling
  | returned
deriving DecidableEq

structure AdapterOptions where
  localStream : Option Nat
  roomId : String
  partnerId : String
deriving DecidableEq

/-- `scheduled` are the generations of the escalation timers that have not fired, cancelled
    ones included; `reports` is what `onFailure` of the caller has been told. -/
structure FailoverMediaTransport where
  active : PerfectNegotiator
  adapterOptions : AdapterOptions
  usingFallback : Bool
  switching : Bool
  selectedRoomId : String
  forceFallbackOnOpen : Bool
  generation : Nat
  fallbackActivations : Nat
  escalationGeneration : Nat
  scheduled : List Nat
  primaryConnected : Bool
  reports : List String
deriving DecidableEq

/-- A transport and the camera after a piece of a call, what is left of the call, and
    whether the piece has sent an offer. -/
structure Progress where
  transport : FailoverMediaTransport
  camera : SharedCamera
  call : Call
  offered : Bool
deriving DecidableEq

namespace FailoverMediaTransport

/-- The constructor, with the stream of the caller. -/
def create (roomId partnerId selectedRoomId : String) (forceFallback : Bool) (localStream : Option Nat)
    (c : SharedCamera) : FailoverMediaTransport × SharedCamera :=
  (⟨.create 0 roomId partnerId localStream, ⟨localStream, roomId, partnerId⟩, false, false, selectedRoomId,
    forceFallback, 0, 0, 0, [], false, []⟩, c.adopt localStream)

def roomId (t : FailoverMediaTransport) : String := t.active.roomId

def partnerId (t : FailoverMediaTransport) : String := t.active.partnerId

def report (t : FailoverMediaTransport) (reason : String) : FailoverMediaTransport :=
  { t with reports := t.reports ++ [reason] }

/-! ## The escalation timer -/

def isPrimaryConnected (t : FailoverMediaTransport) : Bool :=
  !t.usingFallback && (t.primaryConnected ||
    (t.active.pc.isSome && t.active.connectionState = .connected) || t.active.quality = .connected)

def clearEscalationTimer (t : FailoverMediaTransport) : FailoverMediaTransport :=
  { t with escalationGeneration := t.escalationGeneration + 1 }

def armEscalationTimer (t : FailoverMediaTransport) : FailoverMediaTransport :=
  let t := t.clearEscalationTimer
  if t.usingFallback || t.switching then t
  else if t.isPrimaryConnected then { t with primaryConnected := true }
  else { t with scheduled := t.scheduled ++ [t.escalationGeneration] }

/-! ## Adapters come and go -/

def snapshot (t : FailoverMediaTransport) : Snapshot :=
  ⟨t.active.localStream <|> t.adapterOptions.localStream, t.roomId, t.partnerId, t.active.state⟩

/-- A fresh adapter; an empty option is taken from the adapter it replaces. -/
def spawn (t : FailoverMediaTransport) (c : SharedCamera) : FailoverMediaTransport × SharedCamera :=
  let stream := t.adapterOptions.localStream <|> t.active.localStream
  let roomId := if t.adapterOptions.roomId = "" then t.roomId else t.adapterOptions.roomId
  let partnerId := if t.adapterOptions.partnerId = "" then t.partnerId else t.adapterOptions.partnerId
  ({ t with active := .create t.generation roomId partnerId stream }, c.adopt stream)

/-- `acquireLocalMedia` of the active adapter. -/
def acquire (next : AfterMedia) (t : FailoverMediaTransport) (c : SharedCamera) : Progress :=
  if c.streamHasLiveTracks t.active.localStream then
    ⟨{ t with active := t.active.attachTracksToPC }, c, .hasMedia t.active.localStream next, false⟩
  else
    ⟨t, c.acquireSharedLocalMedia.1, .media t.active.id c.acquireSharedLocalMedia.2 next, false⟩

/-- The stream comes to the adapter that asked for it, if that is still the active one. -/
def receiveMedia (t : FailoverMediaTransport) (adapter stream : Nat) : FailoverMediaTransport :=
  if t.active.id = adapter then { t with active := t.active.receiveMedia stream } else t

/-! ## The fallback -/

/-- The guards of `_activateFallback`. -/
def activates (t : FailoverMediaTransport) : Bool :=
  !t.switching && !t.usingFallback && fallbackAllowedForRoom t.roomId t.selectedRoomId

def activateFallback (caller : Caller) (t : FailoverMediaTransport) (c : SharedCamera) : Progress :=
  if !t.activates then ⟨t, c, .answered caller false, false⟩
  else
    let snap := t.snapshot
    let t := { t.clearEscalationTimer with
      switching := true
      generation := t.generation + 1
      active := { t.active.teardownPeerConnection with state := .closed }
      usingFallback := true
      primaryConnected := false
      fallbackActivations := t.fallbackActivations + 1
      adapterOptions := ⟨snap.stream, snap.roomId, snap.partnerId⟩ }
    let (t, c) := t.spawn c
    t.acquire (.relay snap caller) c

def finishActivation (caller : Caller) (t : FailoverMediaTransport) (c : SharedCamera) : Progress :=
  ⟨{ t with switching := false }, c, .answered caller true, false⟩

/-- `_activateFallback` after the relay is preconnected. -/
def reopenRelay (snap : Snapshot) (caller : Caller) (t : FailoverMediaTransport) (c : SharedCamera) : Progress :=
  if snap.prevState = .open_ then ⟨{ t with active := t.active.open_ }, c, .relayOpen caller, false⟩
  else t.finishActivation caller c

def restorePrimary (newRoomId newPartnerId : String) (reopen : Bool) (t : FailoverMediaTransport)
    (c : SharedCamera) : Progress :=
  let snap := t.snapshot
  let t := { t.clearEscalationTimer with
    generation := t.generation + 1
    active := { t.active.teardownPeerConnection with state := .closed }
    usingFallback := false
    primaryConnected := false
    adapterOptions := ⟨snap.stream, newRoomId, newPartnerId⟩ }
  let (t, c) := t.spawn c
  t.acquire (.restore newRoomId newPartnerId reopen) c

def onEscalationTimeout (gen : Nat) (t : FailoverMediaTransport) (c : SharedCamera) : Progress :=
  if gen ≠ t.escalationGeneration || t.usingFallback || t.switching || t.primaryConnected then
    ⟨t, c, .returned, false⟩
  else if !fallbackAllowedForRoom t.roomId t.selectedRoomId then
    ⟨t.report "ESCALATION_FALLBACK_UNAVAILABLE", c, .returned, false⟩
  else activateFallback .escalation t c

/-- `onFailure` of the active adapter. -/
def onActiveFailure (reason : String) (t : FailoverMediaTransport) (c : SharedCamera) : Progress :=
  if t.active.id ≠ t.generation then ⟨t, c, .returned, false⟩
  else activateFallback (.failure reason) t.clearEscalationTimer c

/-- `onStateChange` of the active adapter, which has no quality to report without a connection. -/
def onQuality (quality : ConnectionQuality) (t : FailoverMediaTransport) : FailoverMediaTransport :=
  if t.active.pc.isNone then t
  else
    let t := { t with active := { t.active with quality } }
    if t.active.id = t.generation ∧ quality = .connected then
      { t with primaryConnected := !t.usingFallback }.clearEscalationTimer
    else t

/-- `pc.onconnectionstatechange` of the active adapter, as far as the transport hears of it. -/
def onConnectionState (connState : PeerConnectionState) (t : FailoverMediaTransport) : FailoverMediaTransport :=
  if t.active.pc.isNone then t
  else
    let t := { t with active := { t.active with connectionState := connState } }
    match connState with
    | .connected => t.onQuality .connected
    | .disconnected | .failed => t.onQuality .degraded
    | .closed => t.onQuality .closed
    | .new | .connecting => t

/-! ## The operations -/

def leavesFallback (t : FailoverMediaTransport) (roomId : String) : Bool :=
  t.usingFallback && !fallbackAllowedForRoom roomId t.selectedRoomId

/-- What `preconnect`, `prepareRound`, `switchPartner` and `endRound` begin with. -/
def beginRound (t : FailoverMediaTransport) : FailoverMediaTransport :=
  { t.clearEscalationTimer with primaryConnected := false }

def acquireLocalMedia (t : FailoverMediaTransport) (c : SharedCamera) : Progress := t.acquire .keep c

def preconnect (roomId partnerId : String) (t : FailoverMediaTransport) (c : SharedCamera) : Progress :=
  let t := t.beginRound
  if t.leavesFallback roomId then t.restorePrimary roomId partnerId false c
  else ⟨{ t with active := t.active.preconnect roomId partnerId }, c, .settling, false⟩

def open_ (t : FailoverMediaTransport) (c : SharedCamera) : Progress :=
  ⟨{ t with primaryConnected := false, active := t.active.open_ }, c, .opening, false⟩

def createManualOffer (t : FailoverMediaTransport) (c : SharedCamera) : Progress :=
  match t.active.pc with
  | none => ⟨t, c, .returned, false⟩
  | some pc => ⟨t, c, .creatingOffer t.active.id pc, false⟩

def prepareRound (newRoomId newPartnerId : String) (t : FailoverMediaTransport) (c : SharedCamera) : Progress :=
  let t := t.beginRound
  if t.leavesFallback newRoomId then t.restorePrimary newRoomId newPartnerId false c
  else ⟨{ t with active := t.active.prepareRound newRoomId newPartnerId }, c, .settling, false⟩

def endRound (t : FailoverMediaTransport) : FailoverMediaTransport :=
  { t.beginRound with active := t.active.endRound }

def switchPartner (newRoomId newPartnerId : String) (t : FailoverMediaTransport) (c : SharedCamera) : Progress :=
  let t := t.beginRound
  if t.leavesFallback newRoomId then t.restorePrimary newRoomId newPartnerId true c
  else ⟨{ t with active := t.active.switchPartner newRoomId newPartnerId }, c, .switched, false⟩

def leave (t : FailoverMediaTransport) (c : SharedCamera) : FailoverMediaTransport × SharedCamera :=
  ({ t.clearEscalationTimer with
      generation := t.generation + 1
      active := t.active.leave
      usingFallback := false
      primaryConnected := false },
    c.releaseSharedLocalMedia)

/-- `recoverAfterSignalingRestore` of the active adapter, which reports the state of its
    connection anew. -/
def recoverActive (t : FailoverMediaTransport) : FailoverMediaTransport :=
  if t.active.pc.isNone || t.active.state = .closed then t
  else if t.active.connectionState = .connected then t.onQuality .connected
  else if t.active.connectionState = .closed then t
  else t.onQuality .degraded

def recoverAfterSignalingRestore (t : FailoverMediaTransport) : FailoverMediaTransport :=
  let t := t.clearEscalationTimer.recoverActive
  if t.usingFallback then t
  else
    let t := { t with primaryConnected := t.isPrimaryConnected }
    if t.primaryConnected then t else t.armEscalationTimer

/-! ## After an await -/

/-- `acquireLocalMedia` of the adapter has returned. -/
def afterMedia (stream : Option Nat) (next : AfterMedia) (t : FailoverMediaTransport) (c : SharedCamera) :
    Progress :=
  match next with
  | .keep => ⟨{ t with adapterOptions := { t.adapterOptions with localStream := stream } }, c, .returned, false⟩
  | .restore newRoomId newPartnerId true =>
    ⟨{ t with active := t.active.switchPartner newRoomId newPartnerId }, c, .switched, false⟩
  | .restore newRoomId newPartnerId false =>
    ⟨{ t with active := t.active.prepareRound newRoomId newPartnerId }, c, .settling, false⟩
  | .relay snap caller =>
    if snap.roomId ≠ "" ∧ snap.partnerId ≠ "" then
      ⟨{ t with active := t.active.preconnect snap.roomId snap.partnerId }, c, .relayPreconnect snap caller, false⟩
    else t.reopenRelay snap caller c

/-- `_activateFallback` has returned to its caller. -/
def afterActivation (caller : Caller) (activated : Bool) (t : FailoverMediaTransport) : FailoverMediaTransport :=
  match caller with
  | .forceFallback => t
  | .opening => if t.usingFallback then t else t.armEscalationTimer
  | .escalation => if activated then t else t.report "ESCALATION_FAILED"
  | .failure reason => if activated then t else t.report reason

/-- A call goes on to its next await; one that waits for the camera waits on. -/
def resume (call : Call) (t : FailoverMediaTransport) (c : SharedCamera) : Progress :=
  match call with
  | .media adapter wait next =>
    match c.arrived wait with
    | none => ⟨t, c, call, false⟩
    | some stream => ⟨t.receiveMedia adapter stream, c, .hasMedia (some stream) next, false⟩
  | .hasMedia stream next => t.afterMedia stream next c
  | .relayPreconnect snap caller => t.reopenRelay snap caller c
  | .relayOpen caller => t.finishActivation caller c
  | .answered caller activated => ⟨t.afterActivation caller activated, c, .returned, false⟩
  | .opening =>
    if t.forceFallbackOnOpen then t.activateFallback .opening c
    else ⟨if t.usingFallback then t else t.armEscalationTimer, c, .returned, false⟩
  | .switched => ⟨t.armEscalationTimer, c, .returned, false⟩
  | .creatingOffer adapter pc =>
    ⟨t, c, if t.active.id = adapter ∧ t.active.pc = some pc then .settingOffer adapter pc else .returned, false⟩
  | .settingOffer adapter pc => ⟨t, c, .returned, t.active.id = adapter ∧ t.active.pc = some pc⟩
  | .settling | .returned => ⟨t, c, .returned, false⟩

end FailoverMediaTransport

end EventPlatform.Browser
