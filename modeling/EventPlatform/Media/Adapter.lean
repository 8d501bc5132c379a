import Mathlib

/-! # Media adapters

The in-memory adapters of the server side.  Every method runs to its end when it
is called; a caller's forwarders are or are not among an adapter's listeners. -/

namespace EventPlatform.Media

inductive MediaTransportState where
  | idle
  | preconnecting
  | preconnected
  | open_
  | switching
  | closed
deriving DecidableEq

inductive MediaTransportEvent where
  | connected
  | degraded
  | failed
  | stats
deriving DecidableEq

inductive AdapterKind where
  | direct
  | relay
deriving DecidableEq

def AdapterKind.value : AdapterKind → String
  | .direct => "direct"
  | .relay => "relay"

/-- An event with the keyword arguments that its listeners are called with. -/
structure Signal where
  event : MediaTransportEvent
  reason : String
  roomId : Option String
  partnerId : Option String
deriving DecidableEq

/-- The methods that `call_history` names. -/
inductive Method where
  | preconnect
  | open_
  | switchPartner
  | leave
deriving DecidableEq

/-! ## The shared stream -/

structure SharedLocalMedia where
  streamId : String
  getUserMediaCalls : Nat
  tracksLive : Bool
  acquired : Bool
deriving DecidableEq

namespace SharedLocalMedia

def create (streamId : String) : SharedLocalMedia := ⟨streamId, 0, false, false⟩

def audioTrackId (media : SharedLocalMedia) : String := s!"{media.streamId}-audio"

def videoTrackId (media : SharedLocalMedia) : String := s!"{media.streamId}-video"

def acquire (media : SharedLocalMedia) : SharedLocalMedia :=
  if media.acquired && media.tracksLive then media
  else { media with
    getUserMediaCalls := media.getUserMediaCalls + 1
    acquired := true
    tracksLive := true }

def release (media : SharedLocalMedia) : SharedLocalMedia :=
  { media with tracksLive := false, acquired := false }

end SharedLocalMedia

/-! ## One adapter -/

/-- `bound` says whether the forwarders of the failover transport are among its listeners. -/
structure LifecycleAdapter where
  kind : AdapterKind
  state : MediaTransportState
  callHistory : List Method
  currentRoomId : Option String
  currentPartnerId : Option String
  audioMuted : Bool
  videoMuted : Bool
  peerGeneration : Nat
  peerConnectionId : Option String
  abandonedPeerIds : List String
  attachedTrackIds : List String
  localStreamId : Option String
  bound : Bool
deriving DecidableEq

namespace LifecycleAdapter

def create (kind : AdapterKind) : LifecycleAdapter :=
  ⟨kind, .idle, [], none, none, true, true, 0, none, [], [], none, false⟩

def on (a : LifecycleAdapter) : LifecycleAdapter := { a with bound := true }

def off (a : LifecycleAdapter) : LifecycleAdapter := { a with bound := false }

def replacePeer (a : LifecycleAdapter) : LifecycleAdapter :=
  { a with
    abandonedPeerIds := a.abandonedPeerIds ++ a.peerConnectionId.toList
    peerGeneration := a.peerGeneration + 1
    peerConnectionId := some s!"{a.kind.value}-pc-{a.peerGeneration + 1}" }

def attachSharedTracks (a : LifecycleAdapter) (media : SharedLocalMedia) :
    LifecycleAdapter × SharedLocalMedia :=
  ({ a with
      localStreamId := some media.acquire.streamId
      attachedTrackIds := [media.acquire.audioTrackId, media.acquire.videoTrackId] },
    media.acquire)

def abandon (a : LifecycleAdapter) : LifecycleAdapter :=
  { a with
    abandonedPeerIds := a.abandonedPeerIds ++ a.peerConnectionId.toList
    peerConnectionId := none
    attachedTrackIds := []
    bound := false
    state := .closed }

def preconnect (roomId partnerId : String) (a : LifecycleAdapter) (media : SharedLocalMedia) :
    LifecycleAdapter × SharedLocalMedia :=
  let a := { a with
    callHistory := a.callHistory ++ [Method.preconnect]
    state := .preconnecting
    currentRoomId := some roomId
    currentPartnerId := some partnerId
    audioMuted := true
    videoMuted := true }
  let (a, media) := a.replacePeer.attachSharedTracks media
  ({ a with state := .preconnected }, media)

/-- `open` up to its CONNECTED event. -/
def open_ (a : LifecycleAdapter) (media : SharedLocalMedia) : LifecycleAdapter × SharedLocalMedia :=
  ({ a with
      callHistory := a.callHistory ++ [.open_]
      audioMuted := false
      videoMuted := false
      state := .open_ },
    media)

/-- `switch_partner` up to its CONNECTED event. -/
def switchPartner (newRoomId newPartnerId : String) (a : LifecycleAdapter) (media : SharedLocalMedia) :
    LifecycleAdapter × SharedLocalMedia :=
  let a := { a with
    callHistory := a.callHistory ++ [Method.switchPartner]
    state := .switching
    currentRoomId := some newRoomId
    currentPartnerId := some newPartnerId }
  let (a, media) := a.replacePeer.attachSharedTracks media
  ({ a with audioMuted := false, videoMuted := false, state := .open_ }, media)

def leave (a : LifecycleAdapter) : LifecycleAdapter :=
  abandon { a with
    callHistory := a.callHistory ++ [.leave]
    audioMuted := true
    videoMuted := true
    currentRoomId := none
    currentPartnerId := none }

/-- The CONNECTED event at the end of `open` and of `switch_partner`. -/
def connectedSignal (a : LifecycleAdapter) : Signal := ⟨.connected, "", a.currentRoomId, a.currentPartnerId⟩

@[simp] theorem preconnect_currentRoomId (roomId partnerId : String) (a : LifecycleAdapter)
    (media : SharedLocalMedia) : (a.preconnect roomId partnerId media).1.currentRoomId = some roomId := rfl

@[simp] theorem preconnect_currentPartnerId (roomId partnerId : String) (a : LifecycleAdapter)
    (media : SharedLocalMedia) :
    (a.preconnect roomId partnerId media).1.currentPartnerId = some partnerId := rfl

@[simp] theorem preconnect_bound (roomId partnerId : String) (a : LifecycleAdapter)
    (media : SharedLocalMedia) : (a.preconnect roomId partnerId media).1.bound = a.bound := rfl

@[simp] theorem open_currentRoomId (a : LifecycleAdapter) (media : SharedLocalMedia) :
    (a.open_ media).1.currentRoomId = a.currentRoomId := rfl

@[simp] theorem open_currentPartnerId (a : LifecycleAdapter) (media : SharedLocalMedia) :
    (a.open_ media).1.currentPartnerId = a.currentPartnerId := rfl

@[simp] theorem open_bound (a : LifecycleAdapter) (media : SharedLocalMedia) :
    (a.open_ media).1.bound = a.bound := rfl

@[simp] theorem switchPartner_currentRoomId (newRoomId newPartnerId : String) (a : LifecycleAdapter)
    (media : SharedLocalMedia) :
    (a.switchPartner newRoomId newPartnerId media).1.currentRoomId = some newRoomId := rfl

@[simp] theorem switchPartner_currentPartnerId (newRoomId newPartnerId : String) (a : LifecycleAdapter)
    (media : SharedLocalMedia) :
    (a.switchPartner newRoomId newPartnerId media).1.currentPartnerId = some newPartnerId := rfl

@[simp] theorem switchPartner_bound (newRoomId newPartnerId : String) (a : LifecycleAdapter)
    (media : SharedLocalMedia) : (a.switchPartner newRoomId newPartnerId media).1.bound = a.bound := rfl

end LifecycleAdapter

/-! ## What a call may do besides -/

inductive Raise where
  | atOnce
  | atTheEnd
deriving DecidableEq

/-- How a call of an adapter goes: where it raises, if it does, whether the connection is up
    before it returns, and the events emitted besides. -/
structure Conduct where
  raises : Option Raise
  connects : Bool
  emits : List Signal
deriving DecidableEq

/-- As in `_LifecycleAdapter` itself. -/
def Conduct.plain : Conduct := ⟨none, true, []⟩

/-- How the fallback adapter goes: its factory, its `preconnect` and its `open`. -/
structure FallbackConduct where
  factoryRaises : Bool
  preconnect : Conduct
  opening : Conduct
deriving DecidableEq

def FallbackConduct.plain : FallbackConduct := ⟨false, .plain, .plain⟩

end EventPlatform.Media
