import EventPlatform.Negotiation.Phases
import EventPlatform.Lib.Runs

/-! # Perfect negotiation agrees -/

namespace EventPlatform.Negotiation

open EventPlatform.Lib

def Operation.setsRemoteAnswer : Operation → Bool
  | .setRemoteAnswer _ => true
  | _ => false

namespace PerfectNegotiator

/-! ## When the peers are safe -/

/-- An offer is taken and its answer has not been sent. -/
def Answers (n : PerfectNegotiator) : Prop :=
  0 < n.answering ∨ ∃ operation ∈ n.chain, operation.answersOffer = true

instance (n : PerfectNegotiator) : Decidable n.Answers :=
  inferInstanceAs (Decidable (0 < n.answering ∨ ∃ operation ∈ n.chain, operation.answersOffer = true))

/-- A local offer is set only in `stable` and while no offer is being answered (in
    `have-remote-offer` the manual one is refused and nothing happens), and a rollback
    comes only to an offer. -/
def MayPerform (n : PerfectNegotiator) : Operation → Prop
  | .negotiate => n.pc.signalingState = .stable ∧ ¬ n.Answers
  | .setOffer _ => (n.pc.signalingState = .stable ∧ ¬ n.Answers) ∨ n.pc.signalingState = .haveRemoteOffer
  | .rollback _ => n.pc.signalingState ≠ .stable
  | .createOffer | .setRemoteOffer _ | .setAnswer | .setRemoteAnswer _ => True

instance decidableMayPerform (n : PerfectNegotiator) : DecidablePred n.MayPerform
  | .negotiate => inferInstanceAs (Decidable (n.pc.signalingState = .stable ∧ ¬ n.Answers))
  | .setOffer _ => inferInstanceAs (Decidable
      ((n.pc.signalingState = .stable ∧ ¬ n.Answers) ∨ n.pc.signalingState = .haveRemoteOffer))
  | .rollback _ => inferInstanceAs (Decidable (n.pc.signalingState ≠ .stable))
  | .createOffer | .setRemoteOffer _ | .setAnswer | .setRemoteAnswer _ => inferInstanceAs (Decidable True)

/-- The impolite peer does not ignore an offer for one of its own that has been answered. -/
def MayTake (n : PerfectNegotiator) : Signal → Prop
  | .offer _ _ => n.isPolite = false → n.isMakingOffer = false → n.pc.signalingState ≠ .stable →
      ∀ operation ∈ n.chain, operation.setsRemoteAnswer = false
  | .answer _ _ => True

instance decidableMayTake (n : PerfectNegotiator) : DecidablePred n.MayTake
  | .offer _ _ => inferInstanceAs (Decidable
      (n.isPolite = false → n.isMakingOffer = false → n.pc.signalingState ≠ .stable →
        ∀ operation ∈ n.chain, operation.setsRemoteAnswer = false))
  | .answer _ _ => inferInstanceAs (Decidable True)

/-! ## One peer -/

def view (n : PerfectNegotiator) : View := ⟨n.pc, n.chain.filter (!·.isTrigger), n.answering⟩

/-- The peer is yet to make an offer. -/
def Making (n : PerfectNegotiator) : Prop := ∃ operation ∈ n.chain, operation.isTrigger = true

structure Sound (roomId : String) (isPolite : Bool) (n : PerfectNegotiator) : Prop where
  roomId : n.roomId = roomId
  isPolite : n.isPolite = isPolite
  failures : n.failures = []
  making : n.isMakingOffer = true → n.Making

variable {n m : PerfectNegotiator} {roomId : String} {isPolite : Bool} {operation : Operation}
  {rest : List Operation}

theorem view_enqueue_trigger (trigger : operation.isTrigger = true) : (n.enqueue operation).view = n.view := by
  simp [view, enqueue, trigger]

theorem view_enqueue (handler : operation.isTrigger = false) :
    (n.enqueue operation).view = { n.view with handling := n.view.handling ++ [operation] } := by
  simp [view, enqueue, handler]

theorem making_enqueue_trigger (trigger : operation.isTrigger = true) : (n.enqueue operation).Making :=
  ⟨operation, List.mem_append_right _ (List.mem_singleton_self _), trigger⟩

theorem making_enqueue (held : n.Making) : (n.enqueue operation).Making := by
  obtain ⟨trigger, member, is⟩ := held
  exact ⟨trigger, List.mem_append_left _ member, is⟩

/-- What a peer is without the operation at the head of its chain. -/
theorem view_of_trigger (chain : n.chain = operation :: rest) (trigger : operation.isTrigger = true) :
    { n with chain := rest }.view = n.view := by
  simp [view, chain, trigger]

theorem handling_of_handler (chain : n.chain = operation :: rest) (handler : operation.isTrigger = false) :
    n.view.handling = operation :: { n with chain := rest }.view.handling := by
  simp [view, chain, handler]

theorem making_of_handler (chain : n.chain = operation :: rest) (handler : operation.isTrigger = false) :
    n.Making ↔ { n with chain := rest }.Making := by
  simp [Making, chain, handler]

theorem answers_view : n.view.Answers ↔ n.Answers := by
  unfold View.Answers Answers view
  simp only [List.mem_filter]
  constructor
  · rintro (waits | ⟨operation, member, answers⟩)
    · exact .inl waits
    · exact .inr ⟨operation, member.1, answers⟩
  · rintro (waits | ⟨operation, member, answers⟩)
    · exact .inl waits
    · refine .inr ⟨operation, ⟨member, ?_⟩, answers⟩
      cases operation with
      | setRemoteOffer => rfl
      | setAnswer => rfl
      | negotiate | createOffer | setOffer | rollback | setRemoteAnswer => cases answers

/-! ## One operation -/

/-- An offer that is set goes out. -/
theorem setLocalOffer_accepted (n : PerfectNegotiator) {offer : String} {pc : PeerConnection}
    (accepts : n.pc.setLocalDescription ⟨.offer, offer⟩ = some pc)
    (sent : pc.localDescription = some ⟨.offer, offer⟩) :
    setLocalOffer ⟨.offer, offer⟩ n = ({ n with pc, isMakingOffer := false }, [.offer n.roomId offer]) := by
  simp [setLocalOffer, accepts, localSdp, sent]

theorem setLocalOffer_refused (n : PerfectNegotiator) (offer : String) (taken : n.pc.signalingState = .haveRemoteOffer) :
    setLocalOffer ⟨.offer, offer⟩ n = ({ n with isMakingOffer := false }, []) := by
  simp [setLocalOffer, PeerConnection.setLocalDescription, taken]

namespace Sound

theorem unflagged {chain : List Operation} {pc : PeerConnection} (sound : n.Sound roomId isPolite) :
    Sound roomId isPolite { n with chain, pc, isMakingOffer := false } :=
  ⟨sound.roomId, sound.isPolite, sound.failures, fun flag => by cases flag⟩

theorem handled (sound : n.Sound roomId isPolite) (chain : n.chain = operation :: rest)
    (handler : operation.isTrigger = false) : Sound roomId isPolite { n with chain := rest } :=
  ⟨sound.roomId, sound.isPolite, sound.failures, fun flag =>
    (making_of_handler chain handler).mp (sound.making flag)⟩

theorem enqueue (sound : n.Sound roomId isPolite) (next : Operation) : Sound roomId isPolite (n.enqueue next) :=
  ⟨sound.roomId, sound.isPolite, sound.failures, fun flag => making_enqueue (sound.making flag)⟩

theorem setPc (sound : n.Sound roomId isPolite) (pc : PeerConnection) (answering answered : Nat) :
    Sound roomId isPolite { n with pc, answering, answered } :=
  ⟨sound.roomId, sound.isPolite, sound.failures, sound.making⟩

/-- A trigger that becomes another one. -/
theorem renewed (sound : n.Sound roomId isPolite) (trigger : operation.isTrigger = true) :
    Sound roomId isPolite ({ n with chain := rest }.enqueue operation) :=
  ⟨sound.roomId, sound.isPolite, sound.failures, fun _ => making_enqueue_trigger trigger⟩

end Sound

variable {making : Prop} {toPolite toImpolite : List Signal}

theorem implicitType_of_stable {pc : PeerConnection} (stable : pc.signalingState = .stable) :
    pc.implicitType = .offer := by
  simp [PeerConnection.implicitType, stable]

/-- An operation of the polite peer keeps the phase. -/
theorem polite_performs (sound : n.Sound roomId true)
    (phase : Phase roomId n.view m.view making toPolite toImpolite) (chain : n.chain = operation :: rest)
    (may : n.MayPerform operation) (sdp : String) :
    Sound roomId true (perform operation sdp { n with chain := rest }).1 ∧
      Phase roomId (perform operation sdp { n with chain := rest }).1.view m.view making toPolite
        (toImpolite ++ (perform operation sdp { n with chain := rest }).2) := by
  -- `negotiate` and an accepted `setOffer` both send their offer
  have offers : ∀ offer, operation.isTrigger = true → n.pc.signalingState = .stable → ¬ n.Answers →
      Sound roomId true (setLocalOffer ⟨.offer, offer⟩ { n with chain := rest }).1 ∧
        Phase roomId (setLocalOffer ⟨.offer, offer⟩ { n with chain := rest }).1.view m.view making toPolite
          (toImpolite ++ (setLocalOffer ⟨.offer, offer⟩ { n with chain := rest }).2) := by
    intro offer trigger stable free
    obtain ⟨pc, accepts, sent, next⟩ := phase.politeOffers stable (fun held => free (answers_view.mp held)) offer
    rw [← view_of_trigger chain trigger] at next
    rw [setLocalOffer_accepted { n with chain := rest } accepts sent]
    refine ⟨sound.unflagged, ?_⟩
    rw [sound.roomId]
    exact next
  cases operation with
  | negotiate =>
    have implicit := implicitType_of_stable may.1
    simp only [perform, implicit]
    exact offers sdp rfl may.1 may.2
  | createOffer =>
    have same : ({ n with chain := rest }.enqueue (.setOffer sdp)).view = n.view := by
      rw [view_enqueue_trigger rfl, view_of_trigger chain rfl]
    simp only [perform, List.append_nil, same]
    exact ⟨sound.renewed rfl, phase⟩
  | setOffer offer =>
    rcases may with ⟨stable, free⟩ | taken
    · exact offers offer rfl stable free
    · have same : { n with chain := rest, isMakingOffer := false }.view = n.view := view_of_trigger chain rfl
      -- a remote offer has come first, and the browser refuses this one
      have refused := setLocalOffer_refused { n with chain := rest } offer taken
      simp only [perform, refused, List.append_nil, same]
      exact ⟨sound.unflagged, phase⟩
  | rollback remote =>
    obtain ⟨pc, accepts, next⟩ := phase.politeRollback (handling_of_handler chain rfl) may
    simp only [perform, show n.pc.setLocalDescription ⟨.rollback, ""⟩ = some pc from accepts]
    refine ⟨((sound.handled chain rfl).setPc pc n.answering n.answered).enqueue _, ?_⟩
    rw [view_enqueue rfl, List.append_nil]
    exact next
  | setRemoteOffer remote =>
    obtain ⟨pc, accepts, next⟩ := phase.politeSetRemote (handling_of_handler chain rfl)
    simp only [perform, show n.pc.setRemoteDescription ⟨.offer, remote⟩ = some pc from accepts]
    refine ⟨((sound.handled chain rfl).setPc pc n.answering n.answered).enqueue _, ?_⟩
    rw [view_enqueue rfl, List.append_nil]
    exact next
  | setAnswer =>
    obtain ⟨pc, accepts, next⟩ := phase.politeSetAnswer (handling_of_handler chain rfl) sdp
    simp only [perform, show n.pc.setLocalDescription ⟨n.pc.implicitType, sdp⟩ = some pc from accepts]
    rw [List.append_nil]
    exact ⟨(sound.handled chain rfl).setPc pc (n.answering + 1) n.answered, next⟩
  | setRemoteAnswer remote =>
    obtain ⟨pc, accepts, next⟩ := phase.politeSetRemoteAnswer (handling_of_handler chain rfl)
    simp only [perform, show n.pc.setRemoteDescription ⟨.answer, remote⟩ = some pc from accepts]
    rw [List.append_nil]
    exact ⟨(sound.handled chain rfl).setPc pc n.answering (n.answered + 1), next⟩

/-- An operation of the impolite peer keeps the phase. -/
theorem impolite_performs (sound : n.Sound roomId false)
    (phase : Phase roomId m.view n.view n.Making toPolite toImpolite) (chain : n.chain = operation :: rest)
    (may : n.MayPerform operation) (sdp : String) :
    Sound roomId false (perform operation sdp { n with chain := rest }).1 ∧
      Phase roomId m.view (perform operation sdp { n with chain := rest }).1.view
        (perform operation sdp { n with chain := rest }).1.Making
        (toPolite ++ (perform operation sdp { n with chain := rest }).2) toImpolite := by
  -- `negotiate` and an accepted `setOffer` both send their offer
  have offers : ∀ offer, operation.isTrigger = true → n.pc.signalingState = .stable → ¬ n.Answers →
      Sound roomId false (setLocalOffer ⟨.offer, offer⟩ { n with chain := rest }).1 ∧
        Phase roomId m.view (setLocalOffer ⟨.offer, offer⟩ { n with chain := rest }).1.view
          (setLocalOffer ⟨.offer, offer⟩ { n with chain := rest }).1.Making
          (toPolite ++ (setLocalOffer ⟨.offer, offer⟩ { n with chain := rest }).2) toImpolite := by
    intro offer trigger stable free
    obtain ⟨pc, accepts, sent, next⟩ :=
      phase.impoliteOffers stable (fun held => free (answers_view.mp held)) offer
    rw [← view_of_trigger chain trigger] at next
    rw [setLocalOffer_accepted { n with chain := rest } accepts sent]
    refine ⟨sound.unflagged, ?_⟩
    rw [sound.roomId]
    exact next _
  have later : operation.isTrigger = false → n.Making → { n with chain := rest }.Making :=
    fun handler => (making_of_handler chain handler).mp
  cases operation with
  | negotiate =>
    have implicit := implicitType_of_stable may.1
    simp only [perform, implicit]
    exact offers sdp rfl may.1 may.2
  | createOffer =>
    have same : ({ n with chain := rest }.enqueue (.setOffer sdp)).view = n.view := by
      rw [view_enqueue_trigger rfl, view_of_trigger chain rfl]
    simp only [perform, List.append_nil, same]
    exact ⟨sound.renewed rfl, phase.mono fun _ => making_enqueue_trigger rfl⟩
  | setOffer offer =>
    rcases may with ⟨stable, free⟩ | taken
    · exact offers offer rfl stable free
    · have same : { n with chain := rest, isMakingOffer := false }.view = n.view := view_of_trigger chain rfl
      -- a remote offer has come first, and the browser refuses this one
      have refused := setLocalOffer_refused { n with chain := rest } offer taken
      simp only [perform, refused, List.append_nil, same]
      exact ⟨sound.unflagged, phase.impoliteRefuses taken _⟩
  | rollback remote => exact absurd (handling_of_handler chain rfl) phase.impoliteNoRollback
  | setRemoteOffer remote =>
    obtain ⟨pc, accepts, next⟩ := phase.impoliteSetRemote (handling_of_handler chain rfl)
    simp only [perform, show n.pc.setRemoteDescription ⟨.offer, remote⟩ = some pc from accepts]
    refine ⟨((sound.handled chain rfl).setPc pc n.answering n.answered).enqueue _, ?_⟩
    rw [view_enqueue rfl, List.append_nil]
    exact next.mono fun held => making_enqueue (later rfl held)
  | setAnswer =>
    obtain ⟨pc, accepts, next⟩ := phase.impoliteSetAnswer (handling_of_handler chain rfl) sdp
    simp only [perform, show n.pc.setLocalDescription ⟨n.pc.implicitType, sdp⟩ = some pc from accepts]
    rw [List.append_nil]
    exact ⟨(sound.handled chain rfl).setPc pc (n.answering + 1) n.answered, next.mono (later rfl)⟩
  | setRemoteAnswer remote =>
    obtain ⟨pc, accepts, next⟩ := phase.impoliteSetRemoteAnswer (handling_of_handler chain rfl)
    simp only [perform, show n.pc.setRemoteDescription ⟨.answer, remote⟩ = some pc from accepts]
    rw [List.append_nil]
    exact ⟨(sound.handled chain rfl).setPc pc n.answering (n.answered + 1), next.mono (later rfl)⟩

/-! ## A trigger, a reply and a message -/

theorem Sound.triggered (sound : n.Sound roomId isPolite) (trigger : operation.isTrigger = true) :
    Sound roomId isPolite ({ n with isMakingOffer := true }.enqueue operation) :=
  ⟨sound.roomId, sound.isPolite, sound.failures, fun _ => making_enqueue_trigger trigger⟩

theorem Sound.replied (sound : n.Sound roomId isPolite) (answering answered : Nat) :
    Sound roomId isPolite { n with answering, answered } :=
  sound.setPc n.pc answering answered

theorem sendAnswer_waiting {a : String} (waits : n.answering ≠ 0)
    (set : n.pc.localDescription = some ⟨.answer, a⟩) :
    n.sendAnswer = ({ n with answering := n.answering - 1 }, [.answer n.roomId a]) := by
  simp [sendAnswer, waits, localSdp, set]

theorem sendAnswer_none (none_waits : n.answering = 0) : n.sendAnswer = (n, []) := by
  simp [sendAnswer, none_waits]

/-- A message of the room to the polite peer. -/
theorem polite_takes {message : Signal} {messages : List Signal} (sound : n.Sound roomId true)
    (phase : Phase roomId n.view m.view making (message :: messages) toImpolite) :
    Sound roomId true (n.handleSignalingMessage message) ∧
      Phase roomId (n.handleSignalingMessage message).view m.view making messages toImpolite := by
  cases message with
  | offer roomOf sdp =>
    obtain ⟨here, rolled, taken⟩ := phase.politeTakesOffer
    have flagged : Sound roomId true { n with ignoreOffer := false } :=
      ⟨sound.roomId, sound.isPolite, sound.failures, sound.making⟩
    cases collision : n.offerCollision with
    | true =>
      have result : n.handleSignalingMessage (.offer roomOf sdp) =
          { n with ignoreOffer := false }.enqueue (.rollback sdp) := by
        simp [handleSignalingMessage, here, sound.roomId, handleRemoteOffer, collision, sound.isPolite]
      rw [result, view_enqueue rfl]
      exact ⟨flagged.enqueue _, rolled⟩
    | false =>
      have stable : n.pc.signalingState = .stable := by
        have both : n.isMakingOffer = false ∧ n.pc.signalingState = .stable := by
          simpa [offerCollision] using collision
        exact both.2
      have result : n.handleSignalingMessage (.offer roomOf sdp) =
          { n with ignoreOffer := false }.enqueue (.setRemoteOffer sdp) := by
        simp [handleSignalingMessage, here, sound.roomId, handleRemoteOffer, collision, sound.isPolite]
      rw [result, view_enqueue rfl]
      exact ⟨flagged.enqueue _, taken stable⟩
  | answer roomOf sdp =>
    obtain ⟨here, taken⟩ := phase.politeTakesAnswer
    have result : n.handleSignalingMessage (.answer roomOf sdp) = n.enqueue (.setRemoteAnswer sdp) := by
      simp [handleSignalingMessage, here, sound.roomId, handleRemoteAnswer]
    rw [result, view_enqueue rfl]
    exact ⟨sound.enqueue _, taken⟩

/-- What the impolite peer may ignore. -/
theorem ignores_soundly {roomOf sdp : String} (sound : n.Sound roomId false) (may : n.MayTake (.offer roomOf sdp))
    (collision : n.offerCollision = true) :
    n.Making ∨ (n.view.pc.signalingState ≠ .stable ∧ ∀ remote, .setRemoteAnswer remote ∉ n.view.handling) := by
  cases flag : n.isMakingOffer with
  | true => exact .inl (sound.making flag)
  | false =>
    have set : n.pc.signalingState ≠ .stable := by simpa [offerCollision, flag] using collision
    refine .inr ⟨set, fun remote member => ?_⟩
    have waiting := may sound.isPolite flag set _ (List.mem_filter.mp member).1
    cases waiting

/-- A message of the room to the impolite peer. -/
theorem impolite_takes {message : Signal} {messages : List Signal} (sound : n.Sound roomId false)
    (phase : Phase roomId m.view n.view n.Making toPolite (message :: messages)) (may : n.MayTake message) :
    Sound roomId false (n.handleSignalingMessage message) ∧
      Phase roomId m.view (n.handleSignalingMessage message).view (n.handleSignalingMessage message).Making
        toPolite messages := by
  cases message with
  | offer roomOf sdp =>
    cases collision : n.offerCollision with
    | true =>
      obtain ⟨here, ignored⟩ := phase.impoliteIgnores (ignores_soundly sound may collision)
      have result : n.handleSignalingMessage (.offer roomOf sdp) = { n with ignoreOffer := true } := by
        simp [handleSignalingMessage, here, sound.roomId, handleRemoteOffer, collision, sound.isPolite]
      rw [result]
      exact ⟨⟨sound.roomId, sound.isPolite, sound.failures, sound.making⟩, ignored⟩
    | false =>
      have stable : n.pc.signalingState = .stable := by
        have both : n.isMakingOffer = false ∧ n.pc.signalingState = .stable := by
          simpa [offerCollision] using collision
        exact both.2
      obtain ⟨here, taken⟩ := phase.impoliteTakesOffer stable
      have result : n.handleSignalingMessage (.offer roomOf sdp) =
          { n with ignoreOffer := false }.enqueue (.setRemoteOffer sdp) := by
        simp [handleSignalingMessage, here, sound.roomId, handleRemoteOffer, collision, sound.isPolite]
      -- the flag is cleared before the offer is taken
      have flagged : Sound roomId false { n with ignoreOffer := false } :=
        ⟨sound.roomId, sound.isPolite, sound.failures, sound.making⟩
      rw [result, view_enqueue rfl]
      exact ⟨flagged.enqueue _, taken.mono making_enqueue⟩
  | answer roomOf sdp =>
    obtain ⟨here, taken⟩ := phase.impoliteTakesAnswer
    have result : n.handleSignalingMessage (.answer roomOf sdp) = n.enqueue (.setRemoteAnswer sdp) := by
      simp [handleSignalingMessage, here, sound.roomId, handleRemoteAnswer]
    rw [result, view_enqueue rfl]
    exact ⟨sound.enqueue _, taken.mono making_enqueue⟩

end PerfectNegotiator

namespace Call

def Orderly (c : Call) : Action → Prop
  | .settle side _ => ∀ operation ∈ (c.peer side).chain.head?, (c.peer side).MayPerform operation
  | .deliver side => ∀ message ∈ (c.toward side).head?, (c.peer side).MayTake message
  | .negotiationNeeded _ | .createManualOffer _ | .sendAnswer _ | .finishAnswer _ => True

instance decidableOrderly (c : Call) : DecidablePred c.Orderly
  | .settle side _ => inferInstanceAs (Decidable
      (∀ operation ∈ (c.peer side).chain.head?, (c.peer side).MayPerform operation))
  | .deliver side => inferInstanceAs (Decidable
      (∀ message ∈ (c.toward side).head?, (c.peer side).MayTake message))
  | .negotiationNeeded _ | .createManualOffer _ | .sendAnswer _ | .finishAnswer _ =>
    inferInstanceAs (Decidable True)

/-! ## The invariant -/

/-- The peers are sound, the polite one on this side, and what they do is in some phase. -/
structure Negotiates (roomId : String) (polite : Side) (c : Call) : Prop where
  yields : (c.peer polite).Sound roomId true
  insists : (c.peer polite.other).Sound roomId false
  phase : Phase roomId (c.peer polite).view (c.peer polite.other).view (c.peer polite.other).Making
    (c.toward polite) (c.toward polite.other)

variable {c : Call} {roomId : String} {side polite : Side} {next : PerfectNegotiator × List Signal}

@[simp] theorem advance_peer : (c.advance side next).peer side = next.1 := by
  cases side <;> rfl

@[simp] theorem advance_peer_other : (c.advance side next).peer side.other = c.peer side.other := by
  cases side <;> rfl

@[simp] theorem advance_toward : (c.advance side next).toward side = c.toward side := by
  cases side <;> rfl

@[simp] theorem advance_toward_other :
    (c.advance side next).toward side.other = c.toward side.other ++ next.2 := by
  cases side <;> rfl

@[simp] theorem other_other (side : Side) : side.other.other = side := by
  cases side <;> rfl

theorem polite_or_impolite (polite side : Side) : side = polite ∨ side = polite.other := by
  cases polite <;> cases side <;> simp [Side.other]

/-- The polite peer goes on. -/
theorem advance_polite (insists : (c.peer polite.other).Sound roomId false) (yields : next.1.Sound roomId true)
    (phase : Phase roomId next.1.view (c.peer polite.other).view (c.peer polite.other).Making
      (c.toward polite) (c.toward polite.other ++ next.2)) :
    Negotiates roomId polite (c.advance polite next) := by
  refine ⟨?_, ?_, ?_⟩
  · rw [advance_peer]
    exact yields
  · rw [advance_peer_other]
    exact insists
  · rw [advance_peer, advance_peer_other, advance_toward, advance_toward_other]
    exact phase

/-- The impolite peer goes on. -/
theorem advance_impolite (yields : (c.peer polite).Sound roomId true) (insists : next.1.Sound roomId false)
    (phase : Phase roomId (c.peer polite).view next.1.view next.1.Making
      (c.toward polite ++ next.2) (c.toward polite.other)) :
    Negotiates roomId polite (c.advance polite.other next) := by
  have peer : (c.advance polite.other next).peer polite = c.peer polite := by
    cases polite <;> rfl
  have toward : (c.advance polite.other next).toward polite = c.toward polite ++ next.2 := by
    cases polite <;> rfl
  refine ⟨?_, ?_, ?_⟩
  · rw [peer]
    exact yields
  · rw [advance_peer]
    exact insists
  · rw [peer, advance_peer, toward, advance_toward]
    exact phase

@[simp] theorem take_peer (side other : Side) : (c.take side).peer other = c.peer other := by
  cases side <;> cases other <;> rfl

@[simp] theorem take_toward (side : Side) : (c.take side).toward side = (c.toward side).tail := by
  cases side <;> rfl

@[simp] theorem take_toward_other (side : Side) : (c.take side).toward side.other = c.toward side.other := by
  cases side <;> rfl

/-! ## One step -/

theorem trigger_negotiates (holds : Negotiates roomId polite c) {operation : Operation}
    (trigger : operation.isTrigger = true) (side : Side) :
    Negotiates roomId polite
      (c.advance side ({ c.peer side with isMakingOffer := true }.enqueue operation, [])) := by
  rcases polite_or_impolite polite side with rfl | rfl
  · refine advance_polite holds.insists (holds.yields.triggered trigger) ?_
    rw [PerfectNegotiator.view_enqueue_trigger trigger, List.append_nil]
    exact holds.phase
  · refine advance_impolite holds.yields (holds.insists.triggered trigger) ?_
    rw [PerfectNegotiator.view_enqueue_trigger trigger, List.append_nil]
    exact holds.phase.mono fun _ => PerfectNegotiator.making_enqueue_trigger trigger

theorem settle_negotiates (holds : Negotiates roomId polite c) {side : Side} (sdp : String)
    (orderly : c.Orderly (.settle side sdp)) :
    Negotiates roomId polite (c.advance side ((c.peer side).settle sdp)) := by
  -- what is settled is the operation in front, if there is one
  have settles : ∀ operation rest, (c.peer side).chain = operation :: rest →
      (c.peer side).settle sdp = PerfectNegotiator.perform operation sdp { c.peer side with chain := rest } ∧
        (c.peer side).MayPerform operation := fun operation rest chain => by
    refine ⟨by rw [PerfectNegotiator.settle, chain], orderly operation ?_⟩
    rw [chain]
    rfl
  have idle : (c.peer side).chain = [] → (c.peer side).settle sdp = (c.peer side, []) := fun chain => by
    rw [PerfectNegotiator.settle, chain]
  rcases polite_or_impolite polite side with rfl | rfl
  · cases chain : (c.peer side).chain with
    | nil =>
      rw [idle chain]
      exact advance_polite holds.insists holds.yields (by rw [List.append_nil]; exact holds.phase)
    | cons operation rest =>
      obtain ⟨result, may⟩ := settles operation rest chain
      rw [result]
      obtain ⟨sound, phase⟩ := PerfectNegotiator.polite_performs holds.yields holds.phase chain may sdp
      exact advance_polite holds.insists sound phase
  · cases chain : (c.peer polite.other).chain with
    | nil =>
      rw [idle chain]
      exact advance_impolite holds.yields holds.insists (by rw [List.append_nil]; exact holds.phase)
    | cons operation rest =>
      obtain ⟨result, may⟩ := settles operation rest chain
      rw [result]
      obtain ⟨sound, phase⟩ := PerfectNegotiator.impolite_performs holds.insists holds.phase chain may sdp
      exact advance_impolite holds.yields sound phase

theorem sendAnswer_negotiates (holds : Negotiates roomId polite c) (side : Side) :
    Negotiates roomId polite (c.advance side (c.peer side).sendAnswer) := by
  rcases polite_or_impolite polite side with rfl | rfl
  · by_cases none_waits : (c.peer side).answering = 0
    · rw [PerfectNegotiator.sendAnswer_none none_waits]
      exact advance_polite holds.insists holds.yields (by rw [List.append_nil]; exact holds.phase)
    · obtain ⟨a, set, next⟩ := holds.phase.politeReplies none_waits
      rw [PerfectNegotiator.sendAnswer_waiting none_waits set]
      refine advance_polite holds.insists (holds.yields.replied _ _) ?_
      rw [holds.yields.roomId]
      exact next
  · by_cases none_waits : (c.peer polite.other).answering = 0
    · rw [PerfectNegotiator.sendAnswer_none none_waits]
      exact advance_impolite holds.yields holds.insists (by rw [List.append_nil]; exact holds.phase)
    · obtain ⟨a, set, next⟩ := holds.phase.impoliteReplies none_waits
      rw [PerfectNegotiator.sendAnswer_waiting none_waits set]
      refine advance_impolite holds.yields (holds.insists.replied _ _) ?_
      rw [holds.insists.roomId]
      exact next

theorem finishAnswer_negotiates (holds : Negotiates roomId polite c) (side : Side) :
    Negotiates roomId polite (c.advance side ((c.peer side).finishAnswer, [])) := by
  rcases polite_or_impolite polite side with rfl | rfl
  · exact advance_polite holds.insists (holds.yields.replied _ _) (by rw [List.append_nil]; exact holds.phase)
  · exact advance_impolite holds.yields (holds.insists.replied _ _) (by rw [List.append_nil]; exact holds.phase)

theorem deliver_negotiates (holds : Negotiates roomId polite c) {side : Side} {message : Signal}
    {messages : List Signal} (first : c.toward side = message :: messages)
    (may : (c.peer side).MayTake message) :
    Negotiates roomId polite ((c.take side).advance side ((c.peer side).handleSignalingMessage message, [])) := by
  have phase := holds.phase
  rcases polite_or_impolite polite side with rfl | rfl
  · rw [first] at phase
    obtain ⟨sound, next⟩ := PerfectNegotiator.polite_takes holds.yields phase
    refine advance_polite (by rw [take_peer]; exact holds.insists) sound ?_
    rw [take_peer, take_toward, take_toward_other, first, List.append_nil]
    exact next
  · rw [first] at phase
    obtain ⟨sound, next⟩ := PerfectNegotiator.impolite_takes holds.insists phase may
    have kept : (c.take polite.other).toward polite = c.toward polite := by
      cases polite <;> rfl
    refine advance_impolite (by rw [take_peer]; exact holds.yields) sound ?_
    rw [take_peer, take_toward, kept, first, List.append_nil]
    exact next

theorem step_negotiates (holds : Negotiates roomId polite c) {action : Action} (orderly : c.Orderly action) :
    Negotiates roomId polite (c.step action) := by
  cases action with
  | negotiationNeeded side => exact trigger_negotiates holds rfl side
  | createManualOffer side => exact trigger_negotiates holds rfl side
  | settle side sdp => exact settle_negotiates holds sdp orderly
  | sendAnswer side => exact sendAnswer_negotiates holds side
  | finishAnswer side => exact finishAnswer_negotiates holds side
  | deliver side =>
    cases first : c.toward side with
    | nil => simpa only [step, first] using holds
    | cons message messages =>
      have may : (c.peer side).MayTake message := orderly message (by rw [first]; rfl)
      simpa only [step, first] using deliver_negotiates holds first may

/-! ## Whole runs -/

/-- The peer with the smaller id is the polite one. -/
theorem create_negotiates {leftId rightId : JsString} (different : leftId ≠ rightId) :
    ∃ polite, Negotiates roomId polite (create roomId leftId rightId) := by
  have starts : ∀ isPolite, PerfectNegotiator.Sound roomId isPolite
      ⟨roomId, isPolite, false, false, .create, [], 0, 0, []⟩ := fun isPolite =>
    ⟨rfl, rfl, rfl, fun flag => by cases flag⟩
  rcases lt_or_gt_of_ne different with below | above
  · have other : ¬ rightId < leftId := lt_asymm below
    refine ⟨.left, ?_, ?_, .settled⟩
    · simpa [create, peer, PerfectNegotiator.create, below] using starts true
    · simpa [create, peer, Side.other, PerfectNegotiator.create, other] using starts false
  · have other : ¬ leftId < rightId := lt_asymm above
    refine ⟨.right, ?_, ?_, .settled⟩
    · simpa [create, peer, PerfectNegotiator.create, above] using starts true
    · simpa [create, peer, Side.other, PerfectNegotiator.create, other] using starts false

theorem Negotiates.agreed (holds : Negotiates roomId polite c) (quiet : c.Quiet) : c.Agreed := by
  have chains : ∀ side, (c.peer side).view.handling = [] := fun side => by
    simp [PerfectNegotiator.view, quiet.chain side]
  have unmade : ¬ (c.peer polite.other).Making := by
    rintro ⟨operation, member, -⟩
    rw [quiet.chain] at member
    cases member
  obtain ⟨l, r, here, there⟩ := holds.phase.quiet ⟨quiet.toward _, quiet.toward _⟩ ⟨chains _, chains _⟩
    ⟨quiet.answering _, quiet.answering _⟩ unmade
  have herePc : (c.peer polite).pc = .settled l r := here
  have therePc : (c.peer polite.other).pc = .settled r l := there
  refine ⟨fun side => ?_, fun side => ?_, fun side => ?_⟩
  · rcases polite_or_impolite polite side with rfl | rfl
    · rw [herePc]
    · rw [therePc]
  · rcases polite_or_impolite polite side with rfl | rfl
    · rw [herePc, therePc]
      rfl
    · rw [other_other, herePc, therePc]
      rfl
  · rcases polite_or_impolite polite side with rfl | rfl
    · exact holds.yields.failures
    · exact holds.insists.failures

end Call

/-- In a run whose steps are all orderly, the peers agree whenever nothing is left to do. -/
theorem negotiation_agrees (roomId : String) (leftId rightId : JsString) (different : leftId ≠ rightId)
    (actions : List Action)
    (orderly : ∀ v ∈ visited Call.step (.create roomId leftId rightId) actions, v.1.Orderly v.2)
    (quiet : (actions.foldl Call.step (.create roomId leftId rightId)).Quiet) :
    (actions.foldl Call.step (.create roomId leftId rightId)).Agreed := by
  obtain ⟨polite, starts⟩ := Call.create_negotiates different
  have keeps : ∀ (c : Call) (action : Action), Call.Negotiates roomId polite c → c.Orderly action →
      Call.Negotiates roomId polite (c.step action) :=
    fun _ _ holds orderly => Call.step_negotiates holds orderly
  exact (foldl_invariant keeps starts orderly).agreed quiet

/-- Two offers cross: the polite peer takes its own back. -/
theorem crossing_offers_agree :
    ([.negotiationNeeded .left, .negotiationNeeded .right, .settle .left "offer-l", .settle .right "offer-r",
      .deliver .left, .deliver .right, .settle .left "", .settle .left "", .settle .left "answer-l",
      .sendAnswer .left, .deliver .right, .settle .right "", .finishAnswer .right].foldl Call.step
        (.create "room" [97] [98])).Agreed := by
  refine negotiation_agrees "room" [97] [98] (by decide) _ (by decide +kernel) ⟨?_, ?_, ?_, ?_⟩
  · intro side
    cases side <;> decide +kernel
  · intro side
    cases side <;> decide +kernel
  · intro side
    cases side <;> decide +kernel
  · intro side
    cases side <;> decide +kernel

/-- The polite peer is still in `createOffer` when an offer arrives: its rollback comes before
    there is an offer to take back. -/
theorem manual_offer_crosses :
    let c := [.createManualOffer .left, .negotiationNeeded .right, .settle .right "offer-r", .deliver .left,
      .settle .left "offer-l", .settle .left "", .settle .left "", .deliver .right].foldl Call.step
        (.create "room" [97] [98])
    c.Quiet ∧ ¬ c.Agreed ∧ c.left.failures = ["RENEGOTIATION_FAILED"] ∧
      c.left.pc.signalingState = .haveLocalOffer ∧ c.right.pc.signalingState = .haveLocalOffer := by
  refine ⟨⟨?_, ?_, ?_, ?_⟩, fun agreed => ?_, by decide +kernel, by decide +kernel, by decide +kernel⟩
  · intro side
    cases side <;> decide +kernel
  · intro side
    cases side <;> decide +kernel
  · intro side
    cases side <;> decide +kernel
  · intro side
    cases side <;> decide +kernel
  · have stable := agreed.stable .left
    revert stable
    decide +kernel

end EventPlatform.Negotiation
