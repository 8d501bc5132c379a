import EventPlatform.Negotiation.Peer

/-! # Where an offer and its answer can be

Between a polite and an impolite peer there is one offer that counts, or two that cross; the
offers of the polite peer that the other one has yet to ignore are `stale`. -/

namespace EventPlatform.Negotiation

open EventPlatform.Lib PeerConnection

def Operation.isTrigger : Operation → Bool
  | .negotiate | .createOffer | .setOffer _ => true
  | .rollback _ | .setRemoteOffer _ | .setAnswer | .setRemoteAnswer _ => false

/-- A peer without the offers that it is yet to make. -/
structure View where
  pc : PeerConnection
  handling : List Operation
  answering : Nat

/-- The operations between an offer that is taken and its answer. -/
def Operation.answersOffer : Operation → Bool
  | .setRemoteOffer _ | .setAnswer => true
  | _ => false

/-- The peer has taken an offer and has not sent its answer. -/
def View.Answers (v : View) : Prop := 0 < v.answering ∨ ∃ operation ∈ v.handling, operation.answersOffer = true

def Offers (roomId : String) (messages : List Signal) : Prop :=
  ∀ message ∈ messages, ∃ sdp, message = .offer roomId sdp

theorem Offers.snoc {roomId : String} {messages : List Signal} (offers : Offers roomId messages) (sdp : String) :
    Offers roomId (messages ++ [.offer roomId sdp]) := by
  intro message member
  rcases List.mem_append.mp member with old | new
  · exact offers message old
  · exact ⟨sdp, List.mem_singleton.mp new⟩

theorem Offers.cons {roomId roomOf sdp : String} {messages : List Signal}
    (offers : Offers roomId (.offer roomOf sdp :: messages)) : roomOf = roomId ∧ Offers roomId messages := by
  obtain ⟨_, same⟩ := offers _ List.mem_cons_self
  cases same
  exact ⟨rfl, fun message member => offers message (List.mem_cons_of_mem _ member)⟩

/-- `making` says that the impolite peer is yet to make an offer. -/
inductive Phase (roomId : String) :
    (polite impolite : View) → (making : Prop) → (toPolite toImpolite : List Signal) → Prop where
  | settled {l r : Option SessionDescription} {making : Prop} :
    Phase roomId ⟨.settled l r, [], 0⟩ ⟨.settled r l, [], 0⟩ making [] []
  -- The offer `o` of the polite peer.
  | politeOffer {l r : Option SessionDescription} {o : String} {making : Prop} :
    Phase roomId ⟨.offering l r o, [], 0⟩ ⟨.settled r l, [], 0⟩ making [] [.offer roomId o]
  | politeTaken {l r : Option SessionDescription} {o : String} {making : Prop} :
    Phase roomId ⟨.offering l r o, [], 0⟩ ⟨.settled r l, [.setRemoteOffer o], 0⟩ making [] []
  | politeSet {l r : Option SessionDescription} {o : String} {making : Prop} :
    Phase roomId ⟨.offering l r o, [], 0⟩ ⟨.offered r l o, [.setAnswer], 0⟩ making [] []
  | politeAnswered {l r : Option SessionDescription} {o a : String} {making : Prop} :
    Phase roomId ⟨.offering l r o, [], 0⟩ ⟨.answered o a, [], 1⟩ making [] []
  | politeReplied {l r : Option SessionDescription} {o a : String} {making : Prop} :
    Phase roomId ⟨.offering l r o, [], 0⟩ ⟨.answered o a, [], 0⟩ making [.answer roomId a] []
  | politeDone {l r : Option SessionDescription} {o a : String} {making : Prop} :
    Phase roomId ⟨.offering l r o, [.setRemoteAnswer a], 0⟩ ⟨.answered o a, [], 0⟩ making [] []
  -- The impolite peer has answered `o` and makes an offer `b` of its own.
  | nextReplied {l r : Option SessionDescription} {o a b : String} {making : Prop} :
    Phase roomId ⟨.offering l r o, [], 0⟩
      ⟨.offering (some ⟨.answer, a⟩) (some ⟨.offer, o⟩) b, [], 0⟩ making
      [.answer roomId a, .offer roomId b] []
  | nextDone {l r : Option SessionDescription} {o a b : String} {making : Prop} :
    Phase roomId ⟨.offering l r o, [.setRemoteAnswer a], 0⟩
      ⟨.offering (some ⟨.answer, a⟩) (some ⟨.offer, o⟩) b, [], 0⟩ making [.offer roomId b] []
  | nextRollback {l r : Option SessionDescription} {o a b : String} {making : Prop} :
    Phase roomId ⟨.offering l r o, [.setRemoteAnswer a, .rollback b], 0⟩
      ⟨.offering (some ⟨.answer, a⟩) (some ⟨.offer, o⟩) b, [], 0⟩ making [] []
  -- The offer `b` of the impolite peer, and one of the polite peer that it crosses.
  | impoliteOffer {l r : Option SessionDescription} {b : String} {stale : List Signal} {making : Prop}
      (offers : Offers roomId stale) :
    Phase roomId ⟨.settled l r, [], 0⟩ ⟨.offering r l b, [], 0⟩ making
      [.offer roomId b] stale
  | crossing {l r : Option SessionDescription} {o b : String} {stale : List Signal} {making : Prop}
      (offers : Offers roomId stale) :
    Phase roomId ⟨.offering l r o, [], 0⟩ ⟨.offering r l b, [], 0⟩ making
      [.offer roomId b] stale
  | impoliteRollback {l r : Option SessionDescription} {b : String} {stale : List Signal} {making : Prop}
      (offers : Offers roomId stale) :
    Phase roomId ⟨.settled l r, [.rollback b], 0⟩ ⟨.offering r l b, [], 0⟩ making
      [] stale
  | crossingRollback {l r : Option SessionDescription} {o b : String} {stale : List Signal} {making : Prop}
      (offers : Offers roomId stale) :
    Phase roomId ⟨.offering l r o, [.rollback b], 0⟩ ⟨.offering r l b, [], 0⟩ making
      [] stale
  | impoliteTaken {l r : Option SessionDescription} {b : String} {stale : List Signal} {making : Prop}
      (offers : Offers roomId stale) :
    Phase roomId ⟨.settled l r, [.setRemoteOffer b], 0⟩ ⟨.offering r l b, [], 0⟩ making
      [] stale
  | impoliteSet {l r : Option SessionDescription} {b : String} {stale : List Signal} {making : Prop}
      (offers : Offers roomId stale) :
    Phase roomId ⟨.offered l r b, [.setAnswer], 0⟩ ⟨.offering r l b, [], 0⟩ making
      [] stale
  | impoliteAnswered {l r : Option SessionDescription} {a b : String} {stale : List Signal} {making : Prop}
      (offers : Offers roomId stale) :
    Phase roomId ⟨.answered b a, [], 1⟩ ⟨.offering r l b, [], 0⟩ making [] stale
  | impoliteReplied {l r : Option SessionDescription} {a b : String} {stale : List Signal} {making : Prop}
      (offers : Offers roomId stale) :
    Phase roomId ⟨.answered b a, [], 0⟩ ⟨.offering r l b, [], 0⟩ making
      [] (stale ++ [.answer roomId a])
  | impoliteDone {l r : Option SessionDescription} {a b : String} {making : Prop} :
    Phase roomId ⟨.answered b a, [], 0⟩ ⟨.offering r l b, [.setRemoteAnswer a], 0⟩ making [] []
  -- The polite peer has answered `b` and makes an offer `o` of its own.
  | politeNextReplied {l r : Option SessionDescription} {o a b : String} {stale : List Signal} {making : Prop}
      (offers : Offers roomId stale) :
    Phase roomId ⟨.offering (some ⟨.answer, a⟩) (some ⟨.offer, b⟩) o, [], 0⟩ ⟨.offering r l b, [], 0⟩ making
      [] (stale ++ [.answer roomId a, .offer roomId o])
  | politeNextDone {l r : Option SessionDescription} {o a b : String} {making : Prop} :
    Phase roomId ⟨.offering (some ⟨.answer, a⟩) (some ⟨.offer, b⟩) o, [], 0⟩
      ⟨.offering r l b, [.setRemoteAnswer a], 0⟩ making [] [.offer roomId o]
  -- The offer of the polite peer was ignored for one that is still to be made.
  | ignoredDone {l r : Option SessionDescription} {o a b : String} {making : Prop} (soon : making) :
    Phase roomId ⟨.offering (some ⟨.answer, a⟩) (some ⟨.offer, b⟩) o, [], 0⟩
      ⟨.offering r l b, [.setRemoteAnswer a], 0⟩ making [] []
  | ignored {l r : Option SessionDescription} {o : String} {making : Prop} (soon : making) :
    Phase roomId ⟨.offering l r o, [], 0⟩ ⟨.settled r l, [], 0⟩ making [] []

namespace Phase

variable {roomId : String} {p q : View} {making : Prop} {toPolite toImpolite : List Signal}

theorem mono (phase : Phase roomId p q making toPolite toImpolite) {soon : Prop} (still : making → soon) :
    Phase roomId p q soon toPolite toImpolite := by
  cases phase with
  | ignoredDone held => exact .ignoredDone (still held)
  | ignored held => exact .ignored (still held)
  | _ => constructor <;> assumption

/-! ## Offers -/

/-- The polite peer sets an offer. -/
theorem politeOffers (phase : Phase roomId p q making toPolite toImpolite)
    (stable : p.pc.signalingState = .stable) (free : ¬ p.Answers) (o : String) :
    ∃ pc, p.pc.setLocalDescription ⟨.offer, o⟩ = some pc ∧ pc.localDescription = some ⟨.offer, o⟩ ∧
      Phase roomId { p with pc } q making toPolite (toImpolite ++ [.offer roomId o]) := by
  cases phase with
  | settled => exact ⟨_, rfl, rfl, .politeOffer⟩
  | impoliteOffer offers => exact ⟨_, rfl, rfl, .crossing (offers.snoc o)⟩
  | impoliteRollback offers => exact ⟨_, rfl, rfl, .crossingRollback (offers.snoc o)⟩
  | impoliteReplied offers =>
    refine ⟨_, rfl, rfl, ?_⟩
    rw [List.append_assoc]
    exact .politeNextReplied offers
  | impoliteDone => exact ⟨_, rfl, rfl, .politeNextDone⟩
  | impoliteTaken => simp [View.Answers, Operation.answersOffer] at free
  | impoliteAnswered => simp [View.Answers, Operation.answersOffer] at free
  | _ => cases stable

/-- The impolite peer sets an offer. -/
theorem impoliteOffers (phase : Phase roomId p q making toPolite toImpolite)
    (stable : q.pc.signalingState = .stable) (free : ¬ q.Answers) (b : String) :
    ∃ pc, q.pc.setLocalDescription ⟨.offer, b⟩ = some pc ∧ pc.localDescription = some ⟨.offer, b⟩ ∧
      ∀ soon : Prop, Phase roomId p { q with pc } soon (toPolite ++ [.offer roomId b]) toImpolite := by
  have none_stale : Offers roomId [] := fun message member => by cases member
  have own_stale : ∀ o, Offers roomId [.offer roomId o] := fun o => none_stale.snoc o
  cases phase with
  | settled => exact ⟨_, rfl, rfl, fun _ => .impoliteOffer none_stale⟩
  | politeOffer => exact ⟨_, rfl, rfl, fun _ => .crossing (own_stale _)⟩
  | politeReplied => exact ⟨_, rfl, rfl, fun _ => .nextReplied⟩
  | politeDone => exact ⟨_, rfl, rfl, fun _ => .nextDone⟩
  | ignored => exact ⟨_, rfl, rfl, fun _ => .crossing none_stale⟩
  | politeTaken => simp [View.Answers, Operation.answersOffer] at free
  | politeAnswered => simp [View.Answers, Operation.answersOffer] at free
  | _ => cases stable

/-! ## The polite peer -/

variable {rest : List Operation} {remote : String}

theorem politeRollback (phase : Phase roomId p q making toPolite toImpolite)
    (head : p.handling = .rollback remote :: rest) (set : p.pc.signalingState ≠ .stable) :
    ∃ pc, p.pc.setLocalDescription ⟨.rollback, ""⟩ = some pc ∧
      Phase roomId ⟨pc, rest ++ [.setRemoteOffer remote], p.answering⟩ q making toPolite toImpolite := by
  cases phase with
  | crossingRollback offers =>
    cases head
    exact ⟨_, rfl, .impoliteTaken offers⟩
  | impoliteRollback => exact absurd rfl set
  | _ => cases head

theorem politeSetRemote (phase : Phase roomId p q making toPolite toImpolite)
    (head : p.handling = .setRemoteOffer remote :: rest) :
    ∃ pc, p.pc.setRemoteDescription ⟨.offer, remote⟩ = some pc ∧
      Phase roomId ⟨pc, rest ++ [.setAnswer], p.answering⟩ q making toPolite toImpolite := by
  cases phase with
  | impoliteTaken offers =>
    cases head
    exact ⟨_, rfl, .impoliteSet offers⟩
  | _ => cases head

theorem politeSetAnswer (phase : Phase roomId p q making toPolite toImpolite)
    (head : p.handling = .setAnswer :: rest) (a : String) :
    ∃ pc, p.pc.setLocalDescription ⟨p.pc.implicitType, a⟩ = some pc ∧
      Phase roomId ⟨pc, rest, p.answering + 1⟩ q making toPolite toImpolite := by
  cases phase with
  | impoliteSet offers =>
    cases head
    exact ⟨_, rfl, .impoliteAnswered offers⟩
  | _ => cases head

theorem politeReplies (phase : Phase roomId p q making toPolite toImpolite) (waits : p.answering ≠ 0) :
    ∃ a, p.pc.localDescription = some ⟨.answer, a⟩ ∧
      Phase roomId { p with answering := p.answering - 1 } q making toPolite
        (toImpolite ++ [.answer roomId a]) := by
  cases phase with
  | impoliteAnswered offers => exact ⟨_, rfl, .impoliteReplied offers⟩
  | _ => exact absurd rfl waits

theorem politeSetRemoteAnswer (phase : Phase roomId p q making toPolite toImpolite)
    (head : p.handling = .setRemoteAnswer remote :: rest) :
    ∃ pc, p.pc.setRemoteDescription ⟨.answer, remote⟩ = some pc ∧
      Phase roomId ⟨pc, rest, p.answering⟩ q making toPolite toImpolite := by
  have none_stale : Offers roomId [] := fun message member => by cases member
  cases phase with
  | politeDone =>
    cases head
    exact ⟨_, rfl, .settled⟩
  | nextDone =>
    cases head
    exact ⟨_, rfl, .impoliteOffer none_stale⟩
  | nextRollback =>
    cases head
    exact ⟨_, rfl, .impoliteRollback none_stale⟩
  | _ => cases head

theorem politeTakesOffer {roomOf sdp : String} {messages : List Signal}
    (phase : Phase roomId p q making (.offer roomOf sdp :: messages) toImpolite) :
    roomOf = roomId ∧
      Phase roomId { p with handling := p.handling ++ [.rollback sdp] } q making messages toImpolite ∧
      (p.pc.signalingState = .stable →
        Phase roomId { p with handling := p.handling ++ [.setRemoteOffer sdp] } q making messages toImpolite) := by
  cases phase with
  | nextDone => exact ⟨rfl, .nextRollback, fun stable => by cases stable⟩
  | impoliteOffer offers => exact ⟨rfl, .impoliteRollback offers, fun _ => .impoliteTaken offers⟩
  | crossing offers => exact ⟨rfl, .crossingRollback offers, fun stable => by cases stable⟩

theorem politeTakesAnswer {roomOf sdp : String} {messages : List Signal}
    (phase : Phase roomId p q making (.answer roomOf sdp :: messages) toImpolite) :
    roomOf = roomId ∧
      Phase roomId { p with handling := p.handling ++ [.setRemoteAnswer sdp] } q making messages toImpolite := by
  cases phase with
  | politeReplied => exact ⟨rfl, .politeDone⟩
  | nextReplied => exact ⟨rfl, .nextDone⟩

/-! ## The impolite peer -/

theorem impoliteNoRollback (phase : Phase roomId p q making toPolite toImpolite) :
    q.handling ≠ .rollback remote :: rest := by
  intro head
  cases phase with
  | _ => cases head

theorem impoliteSetRemote (phase : Phase roomId p q making toPolite toImpolite)
    (head : q.handling = .setRemoteOffer remote :: rest) :
    ∃ pc, q.pc.setRemoteDescription ⟨.offer, remote⟩ = some pc ∧
      Phase roomId p ⟨pc, rest ++ [.setAnswer], q.answering⟩ making toPolite toImpolite := by
  cases phase with
  | politeTaken =>
    cases head
    exact ⟨_, rfl, .politeSet⟩
  | _ => cases head

theorem impoliteSetAnswer (phase : Phase roomId p q making toPolite toImpolite)
    (head : q.handling = .setAnswer :: rest) (a : String) :
    ∃ pc, q.pc.setLocalDescription ⟨q.pc.implicitType, a⟩ = some pc ∧
      Phase roomId p ⟨pc, rest, q.answering + 1⟩ making toPolite toImpolite := by
  cases phase with
  | politeSet =>
    cases head
    exact ⟨_, rfl, .politeAnswered⟩
  | _ => cases head

theorem impoliteReplies (phase : Phase roomId p q making toPolite toImpolite) (waits : q.answering ≠ 0) :
    ∃ a, q.pc.localDescription = some ⟨.answer, a⟩ ∧
      Phase roomId p { q with answering := q.answering - 1 } making
        (toPolite ++ [.answer roomId a]) toImpolite := by
  cases phase with
  | politeAnswered => exact ⟨_, rfl, .politeReplied⟩
  | _ => exact absurd rfl waits

theorem impoliteSetRemoteAnswer (phase : Phase roomId p q making toPolite toImpolite)
    (head : q.handling = .setRemoteAnswer remote :: rest) :
    ∃ pc, q.pc.setRemoteDescription ⟨.answer, remote⟩ = some pc ∧
      Phase roomId p ⟨pc, rest, q.answering⟩ making toPolite toImpolite := by
  cases phase with
  | impoliteDone =>
    cases head
    exact ⟨_, rfl, .settled⟩
  | politeNextDone =>
    cases head
    exact ⟨_, rfl, .politeOffer⟩
  | ignoredDone soon =>
    cases head
    exact ⟨_, rfl, .ignored soon⟩
  | _ => cases head

/-- While it answers an offer, the impolite peer has ignored none. -/
theorem impoliteRefuses (phase : Phase roomId p q making toPolite toImpolite)
    (taken : q.pc.signalingState = .haveRemoteOffer) (soon : Prop) :
    Phase roomId p q soon toPolite toImpolite := by
  cases phase with
  | politeSet => exact .politeSet
  | _ => cases taken

/-- An offer that is ignored: it is stale, or the impolite peer is yet to make its own. -/
theorem impoliteIgnores {roomOf sdp : String} {messages : List Signal}
    (phase : Phase roomId p q making toPolite (.offer roomOf sdp :: messages))
    (sound : making ∨ (q.pc.signalingState ≠ .stable ∧ ∀ remote, .setRemoteAnswer remote ∉ q.handling)) :
    roomOf = roomId ∧ Phase roomId p q making toPolite messages := by
  generalize sent : Signal.offer roomOf sdp :: messages = toImpolite at phase
  -- in every phase that has stale offers under way the first of them is this one
  cases phase with
  | politeOffer =>
    cases sent
    -- the offer is the live one: it is lost, and the offer of the impolite peer will win
    exact ⟨rfl, .ignored (sound.resolve_right fun held => held.1 rfl)⟩
  | politeNextDone =>
    cases sent
    refine ⟨rfl, .ignoredDone (sound.resolve_right fun held => ?_)⟩
    exact held.2 _ List.mem_cons_self
  | impoliteOffer offers =>
    cases sent
    exact ⟨offers.cons.1, .impoliteOffer offers.cons.2⟩
  | crossing offers =>
    cases sent
    exact ⟨offers.cons.1, .crossing offers.cons.2⟩
  | impoliteRollback offers =>
    cases sent
    exact ⟨offers.cons.1, .impoliteRollback offers.cons.2⟩
  | crossingRollback offers =>
    cases sent
    exact ⟨offers.cons.1, .crossingRollback offers.cons.2⟩
  | impoliteTaken offers =>
    cases sent
    exact ⟨offers.cons.1, .impoliteTaken offers.cons.2⟩
  | impoliteSet offers =>
    cases sent
    exact ⟨offers.cons.1, .impoliteSet offers.cons.2⟩
  | impoliteAnswered offers =>
    cases sent
    exact ⟨offers.cons.1, .impoliteAnswered offers.cons.2⟩
  | @impoliteReplied _ _ _ _ stale _ offers =>
    cases stale with
    | nil => cases sent
    | cons first stale =>
      cases sent
      exact ⟨offers.cons.1, .impoliteReplied offers.cons.2⟩
  | @politeNextReplied _ _ _ _ _ stale _ offers =>
    cases stale with
    | nil => cases sent
    | cons first stale =>
      cases sent
      exact ⟨offers.cons.1, .politeNextReplied offers.cons.2⟩
  | _ => cases sent

theorem impoliteTakesOffer {roomOf sdp : String} {messages : List Signal}
    (phase : Phase roomId p q making toPolite (.offer roomOf sdp :: messages))
    (stable : q.pc.signalingState = .stable) :
    roomOf = roomId ∧
      Phase roomId p { q with handling := q.handling ++ [.setRemoteOffer sdp] } making toPolite messages := by
  generalize sent : Signal.offer roomOf sdp :: messages = toImpolite at phase
  cases phase with
  | politeOffer =>
    cases sent
    exact ⟨rfl, .politeTaken⟩
  | settled | politeTaken | politeAnswered | politeReplied | politeDone | ignored => cases sent
  | _ => cases stable

/-- The answer comes after the stale offers. -/
theorem Offers.no_answer {stale messages : List Signal} {roomOf sdp : String} (offers : Offers roomId stale)
    (sent : .answer roomOf sdp :: messages = stale) : False := by
  cases sent
  obtain ⟨_, same⟩ := offers _ List.mem_cons_self
  cases same

theorem impoliteTakesAnswer {roomOf sdp : String} {messages : List Signal}
    (phase : Phase roomId p q making toPolite (.answer roomOf sdp :: messages)) :
    roomOf = roomId ∧
      Phase roomId p { q with handling := q.handling ++ [.setRemoteAnswer sdp] } making toPolite messages := by
  generalize sent : Signal.answer roomOf sdp :: messages = toImpolite at phase
  cases phase with
  | @impoliteReplied _ _ _ _ stale _ offers =>
    cases stale with
    | nil =>
      cases sent
      exact ⟨rfl, .impoliteDone⟩
    | cons first stale => exact (Offers.no_answer offers (by injection sent with one; rw [one])).elim
  | @politeNextReplied _ _ _ _ _ stale _ offers =>
    cases stale with
    | nil =>
      cases sent
      exact ⟨rfl, .politeNextDone⟩
    | cons first stale => exact (Offers.no_answer offers (by injection sent with one; rw [one])).elim
  | impoliteOffer offers | crossing offers | impoliteRollback offers | crossingRollback offers
  | impoliteTaken offers | impoliteSet offers | impoliteAnswered offers =>
    exact (Offers.no_answer offers sent).elim
  | _ => cases sent

/-! ## Nothing left to do -/

theorem quiet (phase : Phase roomId p q making toPolite toImpolite) (delivered : toPolite = [] ∧ toImpolite = [])
    (idle : p.handling = [] ∧ q.handling = []) (answering : p.answering = 0 ∧ q.answering = 0)
    (unmade : ¬ making) : ∃ l r, p.pc = .settled l r ∧ q.pc = .settled r l := by
  cases phase with
  | settled => exact ⟨_, _, rfl, rfl⟩
  | ignored soon | ignoredDone soon => exact absurd soon unmade
  | politeOffer => cases delivered.2
  | politeReplied | nextReplied | nextDone | impoliteOffer | crossing => cases delivered.1
  | politeTaken | politeSet | impoliteDone | politeNextDone => cases idle.2
  | politeDone | nextRollback | impoliteRollback | crossingRollback | impoliteTaken | impoliteSet => cases idle.1
  | politeAnswered => cases answering.2
  | impoliteAnswered => cases answering.1
  | @impoliteReplied _ _ _ _ stale | @politeNextReplied _ _ _ _ _ stale => simp at delivered

end Phase

end EventPlatform.Negotiation
