import Mathlib

/-! # Media transports of the call room

A `FailoverMediaTransport` drives one adapter, a `PerfectNegotiator`, and
replaces it when it falls back to a relay or restores the primary path.  An
asynchronous method runs up to its first await when it is called; what it does
later is `FailoverMediaTransport.resume`. -/

namespace EventPlatform.CallRoom

inductive TransportState where
  | idle
  | preconnected
  | open_
  | closed
deriving DecidableEq

/-! ## Adapters -/

/-- `pc` says whether there is a peer connection.  Only `_teardownPeerConnection`
    closes one, and it drops the reference. -/
structure PerfectNegotiator where
  roomId : String
  partnerId : String
  state : TransportState
  isMuted : Bool
  pc : Bool
deriving DecidableEq

namespace PerfectNegotiator

def create (roomId partnerParticipantId : String) : PerfectNegotiator :=
  ⟨roomId, partnerParticipantId, .idle, false, true⟩

def teardownPeerConnection (n : PerfectNegotiator) : PerfectNegotiator := { n with pc := false }

def detachPeerKeepMedia (n : PerfectNegotiator) : PerfectNegotiator :=
  { n.teardownPeerConnection with state := .closed }

def preconnect (n : PerfectNegotiator) (roomId partnerParticipantId : String) : PerfectNegotiator :=
  { n with roomId, partnerId := partnerParticipantId, isMuted := true, state := .preconnected }

def open_ (n : PerfectNegotiator) : PerfectNegotiator := { n with isMuted := false, state := .open_ }

def prepareRound (n : PerfectNegotiator) (newRoomId newPartnerId : String) : PerfectNegotiator :=
  preconnect { n.teardownPeerConnection with roomId := newRoomId, partnerId := newPartnerId, pc := true }
    newRoomId newPartnerId

def endRound (n : PerfectNegotiator) : PerfectNegotiator :=
  { teardownPeerConnection { n with isMuted := true } with state := .preconnected }

def leave (n : PerfectNegotiator) : PerfectNegotiator :=
  { teardownPeerConnection { n with isMuted := true } with state := .closed }

end PerfectNegotiator

/-! ## Failover -/

def fallbackAllowedForRoom (roomId selectedRoomId : String) : Bool :=
  selectedRoomId != "" && roomId != "" && roomId == selectedRoomId

structure FailoverMediaTransport where
  active : PerfectNegotiator
  usingFallback : Bool
  switching : Bool
  selectedRoomId : String
  forceFallbackOnOpen : Bool
deriving DecidableEq

structure Snapshot where
  roomId : String
  partnerId : String
  prevState : TransportState
deriving DecidableEq

/-- Where a call of an asynchronous method of the transport waits. -/
inductive Call where
  /-- In the adapter, which has changed its state already. -/
  | settling
  /-- In `_restorePrimary`, for the media of the new primary adapter. -/
  | restoring (newRoomId newPartnerId : String)
  /-- In `open`, for the adapter. -/
  | opening
  /-- In `_activateFallback`, for the media, `preconnect` and `open` of the relay. -/
  | relayMedia (snap : Snapshot)
  | relayPreconnect (snap : Snapshot)
  | relayOpen
deriving DecidableEq

namespace FailoverMediaTransport

def create (roomId partnerId selectedRoomId : String) (forceFallback : Bool) :
    FailoverMediaTransport :=
  ⟨.create roomId partnerId, false, false, selectedRoomId, forceFallback⟩

def roomId (t : FailoverMediaTransport) : String := t.active.roomId

def partnerId (t : FailoverMediaTransport) : String := t.active.partnerId

def state (t : FailoverMediaTransport) : TransportState := t.active.state

def isMuted (t : FailoverMediaTransport) : Bool := t.active.isMuted

/-- A fresh adapter; an empty option is taken from the adapter it replaces. -/
def spawn (t : FailoverMediaTransport) (roomId partnerId : String) : PerfectNegotiator :=
  .create (if roomId = "" then t.roomId else roomId) (if partnerId = "" then t.partnerId else partnerId)

def snapshot (t : FailoverMediaTransport) : Snapshot := ⟨t.roomId, t.partnerId, t.state⟩

def detachActive (t : FailoverMediaTransport) : FailoverMediaTransport :=
  { t with active := t.active.detachPeerKeepMedia }

/-- `_restorePrimary` up to its first await. -/
def restorePrimary (t : FailoverMediaTransport) (newRoomId newPartnerId : String) :
    FailoverMediaTransport × Call :=
  ({ t with active := t.detachActive.spawn newRoomId newPartnerId, usingFallback := false },
    .restoring newRoomId newPartnerId)

def leavesFallback (t : FailoverMediaTransport) (roomId : String) : Bool :=
  t.usingFallback && !fallbackAllowedForRoom roomId t.selectedRoomId

def preconnect (t : FailoverMediaTransport) (roomId partnerId : String) :
    FailoverMediaTransport × Call :=
  if t.leavesFallback roomId then t.restorePrimary roomId partnerId
  else ({ t with active := t.active.preconnect roomId partnerId }, .settling)

def prepareRound (t : FailoverMediaTransport) (newRoomId newPartnerId : String) :
    FailoverMediaTransport × Call :=
  if t.leavesFallback newRoomId then t.restorePrimary newRoomId newPartnerId
  else ({ t with active := t.active.prepareRound newRoomId newPartnerId }, .settling)

def open_ (t : FailoverMediaTransport) : FailoverMediaTransport × Call :=
  ({ t with active := t.active.open_ }, .opening)

def endRound (t : FailoverMediaTransport) : FailoverMediaTransport :=
  { t with active := t.active.endRound }

def leave (t : FailoverMediaTransport) : FailoverMediaTransport :=
  { t with active := t.active.leave, usingFallback := false }

/-- `_activateFallback` up to its first await, where it does not return `false`. -/
def activateFallback (t : FailoverMediaTransport) : FailoverMediaTransport × Option Call :=
  if t.switching || t.usingFallback then (t, none)
  else if fallbackAllowedForRoom t.roomId t.selectedRoomId then
    ({ t with
        switching := true
        usingFallback := true
        active := t.detachActive.spawn t.snapshot.roomId t.snapshot.partnerId },
      some (.relayMedia t.snapshot))
  else (t, none)

/-- `_activateFallback` after the relay is preconnected. -/
def reopen (t : FailoverMediaTransport) (snap : Snapshot) : FailoverMediaTransport × Option Call :=
  if snap.prevState = .open_ then ({ t with active := t.active.open_ }, some .relayOpen)
  else ({ t with switching := false }, none)

/-- A call goes on to its next await, or returns. -/
def resume (t : FailoverMediaTransport) : Call → FailoverMediaTransport × Option Call
  | .settling => (t, none)
  | .restoring newRoomId newPartnerId =>
    ({ t with active := t.active.prepareRound newRoomId newPartnerId }, some .settling)
  | .opening => if t.forceFallbackOnOpen then t.activateFallback else (t, none)
  | .relayMedia snap =>
    if snap.roomId ≠ "" ∧ snap.partnerId ≠ "" then
      ({ t with active := t.active.preconnect snap.roomId snap.partnerId },
        some (.relayPreconnect snap))
    else t.reopen snap
  | .relayPreconnect snap => t.reopen snap
  | .relayOpen => ({ t with switching := false }, none)

end FailoverMediaTransport

end EventPlatform.CallRoom
