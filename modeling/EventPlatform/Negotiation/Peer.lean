import EventPlatform.Lib.Jsep

/-! # Perfect negotiation between two peers

A `PerfectNegotiator` queues what it does to its connection on the connection's operations
chain.  An operation that is done resumes its handler, which runs up to its next await; the
next operation of the chain waits for that. -/

namespace EventPlatform.Negotiation

open EventPlatform.Lib

/-- A string of UTF-16 code units, which is what `<` compares. -/
abbrev JsString := List (Fin 65536)

/-- A signalling message of the room, on its way to the other side. -/
inductive Signal where
  | offer (roomId sdp : String)
  | answer (roomId sdp : String)
deriving DecidableEq

/-- An operation of the chain, by the handler that awaits it. -/
inductive Operation where
  /-- `onnegotiationneeded`: `setLocalDescription()`. -/
  | negotiate
  /-- `createManualOffer`: `createOffer`, then `setLocalDescription(offer)`. -/
  | createOffer
  | setOffer (offer : String)
  /-- `_handleRemoteOffer`: the rollback, `setRemoteDescription` and `setLocalDescription()`. -/
  | rollback (remote : String)
  | setRemoteOffer (remote : String)
  | setAnswer
  /-- `_handleRemoteAnswer`: `setRemoteDescription`. -/
  | setRemoteAnswer (remote : String)
deriving DecidableEq

/-- `answering` and `answered` count the handlers of an offer and of an answer that wait in
    `_applyVideoBitrateCap`; `failures` is what `onFailure` has been called with. -/
structure PerfectNegotiator where
  roomId : String
  isPolite : Bool
  isMakingOffer : Bool
  ignoreOffer : Bool
  pc : PeerConnection
  chain : List Operation
  answering : Nat
  answered : Nat
  failures : List String
deriving DecidableEq

namespace PerfectNegotiator

def create (roomId : String) (myParticipantId partnerParticipantId : JsString) : PerfectNegotiator :=
  ⟨roomId, decide (myParticipantId < partnerParticipantId), false, false, .create, [], 0, 0, []⟩

def enqueue (n : PerfectNegotiator) (operation : Operation) : PerfectNegotiator :=
  { n with chain := n.chain ++ [operation] }

/-- `pc.localDescription.sdp`. -/
def localSdp (n : PerfectNegotiator) : String := (n.pc.localDescription.map (·.sdp)).getD ""

def onFailure (n : PerfectNegotiator) (reason : String) : PerfectNegotiator :=
  { n with failures := n.failures ++ [reason] }

/-! ## Up to the first await -/

def onNegotiationNeeded (n : PerfectNegotiator) : PerfectNegotiator :=
  { n with isMakingOffer := true }.enqueue .negotiate

def createManualOffer (n : PerfectNegotiator) : PerfectNegotiator :=
  { n with isMakingOffer := true }.enqueue .createOffer

def offerCollision (n : PerfectNegotiator) : Bool :=
  n.isMakingOffer || n.pc.signalingState != .stable

def handleRemoteOffer (sdp : String) (n : PerfectNegotiator) : PerfectNegotiator :=
  let collision := n.offerCollision
  let n := { n with ignoreOffer := !n.isPolite && collision }
  if n.ignoreOffer then n
  else if collision then n.enqueue (.rollback sdp)
  else n.enqueue (.setRemoteOffer sdp)

def handleRemoteAnswer (sdp : String) (n : PerfectNegotiator) : PerfectNegotiator :=
  n.enqueue (.setRemoteAnswer sdp)

def handleSignalingMessage (message : Signal) (n : PerfectNegotiator) : PerfectNegotiator :=
  match message with
  | .offer roomId sdp => if roomId ≠ n.roomId then n else handleRemoteOffer sdp n
  | .answer roomId sdp => if roomId ≠ n.roomId then n else handleRemoteAnswer sdp n

/-! ## After an operation -/

/-- A local offer is set, or refused; the offer goes out and the flag is cleared. -/
def setLocalOffer (description : SessionDescription) (n : PerfectNegotiator) :
    PerfectNegotiator × List Signal :=
  match n.pc.setLocalDescription description with
  | some pc =>
    let n := { n with pc, isMakingOffer := false }
    (n, [.offer n.roomId n.localSdp])
  | none => ({ n with isMakingOffer := false }, [])

/-- The operation is done, with `sdp` where it makes a description, and its handler goes on. -/
def perform (operation : Operation) (sdp : String) (n : PerfectNegotiator) :
    PerfectNegotiator × List Signal :=
  match operation with
  | .negotiate => setLocalOffer ⟨n.pc.implicitType, sdp⟩ n
  | .createOffer => (n.enqueue (.setOffer sdp), [])
  | .setOffer offer => setLocalOffer ⟨.offer, offer⟩ n
  | .rollback remote =>
    match n.pc.setLocalDescription ⟨.rollback, ""⟩ with
    | some pc => ({ n with pc }.enqueue (.setRemoteOffer remote), [])
    | none => (n.onFailure "RENEGOTIATION_FAILED", [])
  | .setRemoteOffer remote =>
    match n.pc.setRemoteDescription ⟨.offer, remote⟩ with
    | some pc => ({ n with pc }.enqueue .setAnswer, [])
    | none => (n.onFailure "RENEGOTIATION_FAILED", [])
  | .setAnswer =>
    match n.pc.setLocalDescription ⟨n.pc.implicitType, sdp⟩ with
    | some pc => ({ n with pc, answering := n.answering + 1 }, [])
    | none => (n.onFailure "RENEGOTIATION_FAILED", [])
  | .setRemoteAnswer remote =>
    match n.pc.setRemoteDescription ⟨.answer, remote⟩ with
    | some pc => ({ n with pc, answered := n.answered + 1 }, [])
    | none => (n.onFailure "RENEGOTIATION_FAILED", [])

/-- The head of the chain is done. -/
def settle (sdp : String) (n : PerfectNegotiator) : PerfectNegotiator × List Signal :=
  match n.chain with
  | [] => (n, [])
  | operation :: rest => perform operation sdp { n with chain := rest }

/-- A handler of an offer returns from `_applyVideoBitrateCap`. -/
def sendAnswer (n : PerfectNegotiator) : PerfectNegotiator × List Signal :=
  if n.answering = 0 then (n, [])
  else ({ n with answering := n.answering - 1 }, [.answer n.roomId n.localSdp])

/-- A handler of an answer returns from `_applyVideoBitrateCap`. -/
def finishAnswer (n : PerfectNegotiator) : PerfectNegotiator := { n with answered := n.answered - 1 }

end PerfectNegotiator

/-! ## Two peers and a relay -/

inductive Side where
  | left
  | right
deriving DecidableEq

def Side.other : Side → Side
  | .left => .right
  | .right => .left

/-- `toLeft` and `toRight` are the messages on their way, in the order of their sending. -/
structure Call where
  left : PerfectNegotiator
  right : PerfectNegotiator
  toLeft : List Signal
  toRight : List Signal
deriving DecidableEq

inductive Action where
  | negotiationNeeded (side : Side)
  | createManualOffer (side : Side)
  | settle (side : Side) (sdp : String)
  | sendAnswer (side : Side)
  | finishAnswer (side : Side)
  | deliver (side : Side)
deriving DecidableEq

namespace Call

def create (roomId : String) (leftId rightId : JsString) : Call :=
  ⟨.create roomId leftId rightId, .create roomId rightId leftId, [], []⟩

def peer (c : Call) : Side → PerfectNegotiator
  | .left => c.left
  | .right => c.right

def toward (c : Call) : Side → List Signal
  | .left => c.toLeft
  | .right => c.toRight

/-- A peer goes on, and what it sends is on its way to the other one. -/
def advance (c : Call) (side : Side) (next : PerfectNegotiator × List Signal) : Call :=
  match side with
  | .left => { c with left := next.1, toRight := c.toRight ++ next.2 }
  | .right => { c with right := next.1, toLeft := c.toLeft ++ next.2 }

/-- The first message toward a side is taken off its way. -/
def take (c : Call) (side : Side) : Call :=
  match side with
  | .left => { c with toLeft := c.toLeft.tail }
  | .right => { c with toRight := c.toRight.tail }

def step (c : Call) : Action → Call
  | .negotiationNeeded side => c.advance side ((c.peer side).onNegotiationNeeded, [])
  | .createManualOffer side => c.advance side ((c.peer side).createManualOffer, [])
  | .settle side sdp => c.advance side ((c.peer side).settle sdp)
  | .sendAnswer side => c.advance side (c.peer side).sendAnswer
  | .finishAnswer side => c.advance side ((c.peer side).finishAnswer, [])
  | .deliver side =>
    match c.toward side with
    | [] => c
    | message :: _ => (c.take side).advance side ((c.peer side).handleSignalingMessage message, [])

/-- No message is on its way and no handler is running. -/
structure Quiet (c : Call) : Prop where
  toward : ∀ side, c.toward side = []
  chain : ∀ side, (c.peer side).chain = []
  answering : ∀ side, (c.peer side).answering = 0
  answered : ∀ side, (c.peer side).answered = 0

structure Agreed (c : Call) : Prop where
  stable : ∀ side, (c.peer side).pc.signalingState = .stable
  descriptions : ∀ (side : Side),
    (c.peer side).pc.remoteDescription = (c.peer side.other).pc.localDescription
  failures : ∀ side, (c.peer side).failures = []

end Call

end EventPlatform.Negotiation
