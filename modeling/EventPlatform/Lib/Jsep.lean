import Mathlib

/-! # Session descriptions of a peer connection

The signalling state machine of JSEP: an offer or an answer is accepted only in its legal
states, and a local rollback takes an offer back.  What is refused changes nothing. -/

namespace EventPlatform.Lib

inductive SdpType where
  | offer
  | answer
  | rollback
deriving DecidableEq

structure SessionDescription where
  type : SdpType
  sdp : String
deriving DecidableEq

inductive SignalingState where
  | stable
  | haveLocalOffer
  | haveRemoteOffer
deriving DecidableEq

structure PeerConnection where
  signalingState : SignalingState
  currentLocalDescription : Option SessionDescription
  currentRemoteDescription : Option SessionDescription
  pendingLocalDescription : Option SessionDescription
  pendingRemoteDescription : Option SessionDescription
deriving DecidableEq

namespace PeerConnection

def create : PeerConnection := ⟨.stable, none, none, none, none⟩

def localDescription (pc : PeerConnection) : Option SessionDescription :=
  pc.pendingLocalDescription <|> pc.currentLocalDescription

def remoteDescription (pc : PeerConnection) : Option SessionDescription :=
  pc.pendingRemoteDescription <|> pc.currentRemoteDescription

def setLocalDescription (pc : PeerConnection) (description : SessionDescription) : Option PeerConnection :=
  match description.type, pc.signalingState with
  | .offer, .stable | .offer, .haveLocalOffer =>
    some { pc with signalingState := .haveLocalOffer, pendingLocalDescription := some description }
  | .answer, .haveRemoteOffer =>
    some ⟨.stable, some description, pc.pendingRemoteDescription, none, none⟩
  | .rollback, .haveLocalOffer | .rollback, .haveRemoteOffer =>
    some { pc with
      signalingState := .stable, pendingLocalDescription := none, pendingRemoteDescription := none }
  | _, _ => none

def setRemoteDescription (pc : PeerConnection) (description : SessionDescription) : Option PeerConnection :=
  match description.type, pc.signalingState with
  | .offer, .stable | .offer, .haveRemoteOffer =>
    some { pc with signalingState := .haveRemoteOffer, pendingRemoteDescription := some description }
  | .answer, .haveLocalOffer =>
    some ⟨.stable, pc.pendingLocalDescription, some description, none, none⟩
  | _, _ => none

/-- `setLocalDescription()` makes an answer to a remote offer, and an offer otherwise. -/
def implicitType (pc : PeerConnection) : SdpType :=
  if pc.signalingState = .haveRemoteOffer then .answer else .offer

/-! ## The connections of an offer and its answer -/

abbrev settled (currentLocal currentRemote : Option SessionDescription) : PeerConnection :=
  ⟨.stable, currentLocal, currentRemote, none, none⟩

abbrev offering (currentLocal currentRemote : Option SessionDescription) (offer : String) : PeerConnection :=
  ⟨.haveLocalOffer, currentLocal, currentRemote, some ⟨.offer, offer⟩, none⟩

abbrev offered (currentLocal currentRemote : Option SessionDescription) (offer : String) : PeerConnection :=
  ⟨.haveRemoteOffer, currentLocal, currentRemote, none, some ⟨.offer, offer⟩⟩

/-- The side that made the answer, and the side that it is for. -/
abbrev answered (offer answer : String) : PeerConnection :=
  settled (some ⟨.answer, answer⟩) (some ⟨.offer, offer⟩)

abbrev accepted (offer answer : String) : PeerConnection :=
  settled (some ⟨.offer, offer⟩) (some ⟨.answer, answer⟩)

end PeerConnection

end EventPlatform.Lib
