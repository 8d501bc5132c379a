import Mathlib

/-! # The camera and the adapters of the browser

The camera stream belongs to the module, not to an adapter: every adapter attaches the one
stream, and `leave` on any of them stops it. -/

namespace EventPlatform.Browser

/-! ## The shared stream -/

/-- Requests of `getUserMedia` are numbered from 0, and a stream has the number of its
    request.  `settled` are the requests that are answered, `live` the streams with a track
    that has not ended. -/
structure SharedCamera where
  sharedLocalStream : Option Nat
  sharedAcquirePromise : Option Nat
  sharedGetUserMediaCalls : Nat
  settled : List Nat
  live : List Nat
deriving DecidableEq

/-- What a call of `acquireSharedLocalMedia` waits for. -/
inductive Wait where
  | stream (id : Nat)
  | request (id : Nat)
deriving DecidableEq

namespace SharedCamera

def create : SharedCamera := ⟨none, none, 0, [], []⟩

def streamHasLiveTracks (c : SharedCamera) (stream : Option Nat) : Bool := stream.any (decide <| · ∈ c.live)

/-- The promise of the request that is on its way, or of a new one. -/
def requestMedia (c : SharedCamera) : SharedCamera × Wait :=
  match c.sharedAcquirePromise with
  | some promise => (c, .request promise)
  | none =>
    ({ c with
        sharedAcquirePromise := some c.sharedGetUserMediaCalls
        sharedGetUserMediaCalls := c.sharedGetUserMediaCalls + 1 },
      .request c.sharedGetUserMediaCalls)

def acquireSharedLocalMedia (c : SharedCamera) : SharedCamera × Wait :=
  match c.sharedLocalStream with
  | some stream => if stream ∈ c.live then (c, .stream stream) else c.requestMedia
  | none => c.requestMedia

/-- `getUserMedia` answers a request, if need be with the simulated stream. -/
def grant (c : SharedCamera) (request : Nat) : SharedCamera :=
  if request < c.sharedGetUserMediaCalls ∧ request ∉ c.settled then
    { c with
      sharedLocalStream := some request
      settled := request :: c.settled
      live := request :: c.live }
  else c

def releaseSharedLocalMedia (c : SharedCamera) : SharedCamera :=
  { c with
    sharedLocalStream := none
    sharedAcquirePromise := none
    live := c.live.filter fun stream => some stream ≠ c.sharedLocalStream }

/-- The constructor of an adapter that is given a stream. -/
def adopt (c : SharedCamera) : Option Nat → SharedCamera
  | none => c
  | some stream =>
    if c.streamHasLiveTracks c.sharedLocalStream then c else { c with sharedLocalStream := some stream }

/-- The stream, once there is one. -/
def arrived (c : SharedCamera) : Wait → Option Nat
  | .stream id => some id
  | .request id => if id ∈ c.settled then some id else none

end SharedCamera

/-! ## Adapters -/

inductive TransportState where
  | idle
  | preconnected
  | open_
  | closed
deriving DecidableEq

inductive ConnectionQuality where
  | connecting
  | connected
  | degraded
  | failed
  | closed
deriving DecidableEq

/-- `RTCPeerConnection.connectionState` -/
inductive PeerConnectionState where
  | new
  | connecting
  | connected
  | disconnected
  | failed
  | closed
deriving DecidableEq

/-- `id` is the generation of the transport that its callbacks carry, and `pc` the number of
    its peer connection, of which `connectionState` is the state; `attached` says that the tracks
    of `localStream` are on it. -/
structure PerfectNegotiator where
  id : Nat
  roomId : String
  partnerId : String
  state : TransportState
  isMuted : Bool
  quality : ConnectionQuality
  localStream : Option Nat
  pc : Option Nat
  connectionState : PeerConnectionState
  peers : Nat
  attached : Bool
deriving DecidableEq

namespace PerfectNegotiator

def initPeerConnection (n : PerfectNegotiator) : PerfectNegotiator :=
  { n with pc := some n.peers, connectionState := .new, peers := n.peers + 1, attached := false }

def create (id : Nat) (roomId partnerParticipantId : String) (localStream : Option Nat) : PerfectNegotiator :=
  initPeerConnection
    ⟨id, roomId, partnerParticipantId, .idle, false, .connecting, localStream, none, .new, 0, false⟩

def attachTracksToPC (n : PerfectNegotiator) : PerfectNegotiator :=
  { n with attached := n.attached || (n.localStream.isSome && n.pc.isSome) }

def teardownPeerConnection (n : PerfectNegotiator) : PerfectNegotiator :=
  { n with pc := none, attached := false }

def preconnect (n : PerfectNegotiator) (roomId partnerParticipantId : String) : PerfectNegotiator :=
  { n with roomId, partnerId := partnerParticipantId, isMuted := true, state := .preconnected }

def open_ (n : PerfectNegotiator) : PerfectNegotiator := { n with isMuted := false, state := .open_ }

/-- A fresh peer connection for the next partner. -/
def renew (n : PerfectNegotiator) (newRoomId newPartnerId : String) : PerfectNegotiator :=
  { n.teardownPeerConnection with
    roomId := newRoomId, partnerId := newPartnerId }.initPeerConnection.attachTracksToPC

def prepareRound (n : PerfectNegotiator) (newRoomId newPartnerId : String) : PerfectNegotiator :=
  (n.renew newRoomId newPartnerId).preconnect newRoomId newPartnerId

def switchPartner (n : PerfectNegotiator) (newRoomId newPartnerId : String) : PerfectNegotiator :=
  { n.renew newRoomId newPartnerId with isMuted := false, state := .open_ }

def endRound (n : PerfectNegotiator) : PerfectNegotiator :=
  { teardownPeerConnection { n with isMuted := true } with state := .preconnected }

/-- Without the shared stream, which `leave` releases too. -/
def leave (n : PerfectNegotiator) : PerfectNegotiator :=
  { teardownPeerConnection { n with isMuted := true } with localStream := none, state := .closed }

/-- `acquireLocalMedia` has its stream. -/
def receiveMedia (n : PerfectNegotiator) (stream : Nat) : PerfectNegotiator :=
  { n with localStream := some stream }.attachTracksToPC

end PerfectNegotiator

end EventPlatform.Browser
