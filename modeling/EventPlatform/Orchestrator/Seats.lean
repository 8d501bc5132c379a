import EventPlatform.Lib.Runs
import EventPlatform.Orchestrator.Lifecycle
import EventPlatform.Orchestrator.Snapshot

/-! # Who hears what about a pair?

A pair has two seats.  A participant hears of pairs in two ways: by what is
published to the participant's own group, and by the snapshot of a
reconnect.  Whatever the operator and the ticks have done, both speak of the
participant's own seat, and the two seats of a room never hear the same
part. -/

namespace EventPlatform.Orchestrator

open EventPlatform.Lib EventPlatform.Scheduling EventPlatform.Protocol EventPlatform.Operator

/-! ## Seats -/

/-- The participant takes part in round `n` in this place. -/
def Seat (pairs : List Pair) (n : Nat) (pid : String) (recipient : PairingRecipient) : Prop :=
  ∃ pair ∈ pairs, pair.roundNumber = n ∧ recipient ∈ pairRecipients pair ∧ recipient.participantId = pid

/-- The pairs as the database keeps them: nobody is in two seats of a round, and no two pairs share a room. -/
structure Seated (pairs : List Pair) : Prop where
  once : ∀ n, (((pairs.filter (·.roundNumber = n)).flatMap pairRecipients).map (·.participantId)).Nodup
  rooms : (pairs.map (·.roomId)).Nodup

def textField (message : Envelope) (field : String) : Option String :=
  (message.payload.get? field).bind Json.readStr

def flagField (message : Envelope) (field : String) : Option Bool :=
  (message.payload.get? field).bind Json.readBool

/-- The message is about this seat. -/
structure Names (message : Envelope) (n : Nat) (recipient : PairingRecipient) : Prop where
  roundNumber : message.roundNumber = some (n : Int)
  room : textField message "room_id" = some recipient.roomId
  part : message.type = .serverPairing →
    textField message "partner_id" = some recipient.partnerId ∧
      flagField message "is_offerer" = some recipient.isOfferer

theorem names_pairing {recipient : PairingRecipient} {r : Round} {message : Envelope}
    (built : pairingMessage recipient r = .ok message) : Names message r.number recipient := by
  obtain ⟨_, rfl⟩ := buildMessage_ok.mp built
  refine ⟨?_, ?_, fun _ => ⟨?_, ?_⟩⟩ <;>
  simp [Envelope.roundNumber, textField, flagField, pairingPayload, Dict.get?_cons, Json.readInt, Json.readStr,
    Json.readBool]

theorem names_roundStart {recipient : PairingRecipient} {r : Round} {serverTs : Int} {message : Envelope}
    (built : buildServerRoundStart r.number recipient.roomId serverTs = .ok message) :
    Names message r.number recipient := by
  obtain ⟨_, rfl⟩ := buildMessage_ok.mp built
  refine ⟨?_, ?_, fun type => (by cases type)⟩ <;>
  simp [Envelope.roundNumber, textField, Dict.get?_cons, Json.readInt, Json.readStr]

theorem seat_of_selected {store : EventStore} {r : Round} {recipient : PairingRecipient}
    (selected : recipient ∈ selectPairingRecipients store r) :
    Seat store.pairs r.number recipient.participantId recipient := by
  obtain ⟨pair, filtered, ends⟩ := List.mem_flatMap.mp selected
  obtain ⟨member, number⟩ := List.mem_filter.mp filtered
  exact ⟨pair, member, of_decide_eq_true number, ends, rfl⟩

/-! ## What is published -/

/-- What is published to a participant's own group is about the participant's seat. -/
def OwnSeat (pairs : List Pair) (p : Publication) : Prop :=
  ∀ pid, p.group = participantChannelGroup pid → ∃ n recipient, Seat pairs n pid recipient ∧ Names p.message n recipient

theorem ownSeat_jobs {store : EventStore} {now : Int} {item : Lifecycle} {p : Publication}
    (job : OneOf (item.jobs store now) p) : OwnSeat store.pairs p := by
  intro pid own
  -- a message to one of the seats of a round
  have seat : ∀ recipient r, recipient ∈ selectPairingRecipients store r → recipient.group = p.group →
      Names p.message r.number recipient → ∃ n recipient, Seat store.pairs n pid recipient ∧ Names p.message n recipient := by
    intro recipient r selected group names
    have same := participantChannelGroup_inj.mp ((recipient_group selected).symm.trans (group.trans own))
    exact ⟨r.number, recipient, same ▸ seat_of_selected selected, names⟩
  -- a message to everybody
  have everybody : p.group ≠ eventChannelGroup store.event.pk := fun event =>
    participantChannelGroup_ne _ _ (own.symm.trans event)
  cases item with
  | pairing r =>
    obtain ⟨recipient, selected, same⟩ := List.mem_map.mp job
    obtain ⟨group, built⟩ := Prod.mk.inj same
    exact seat recipient r selected group (names_pairing built)
  | roundStart r =>
    obtain ⟨recipient, selected, same⟩ := List.mem_map.mp job
    obtain ⟨group, built⟩ := Prod.mk.inj same
    exact seat recipient r selected group (names_roundStart built)
  | warning r | roundEnd r | eventEnd => exact absurd (Prod.mk.inj (List.mem_singleton.mp job)).1 everybody

variable {event : Event} {pairs : List Pair}

theorem ownSeat_step (live : Live) (action : LiveAction) (own : ∀ p ∈ live.realtime.published, OwnSeat pairs p) :
    ∀ p ∈ (live.step event pairs action).realtime.published, OwnSeat pairs p := by
  cases action with
  | tick o layer time =>
    let store : EventStore := ⟨event, live.operator.rounds, pairs⟩
    have adds : Adds (OwnSeat pairs) live.realtime (o.dispatch layer store time live.realtime).2 := by
      cases leads : o.isLeader with
      | false => rw [dispatch_follower leads]; exact Adds.refl _ _
      | true =>
        rw [dispatch_leader leads]
        exact sendAll_adds (fun _ _ _ job => ownSeat_jobs job) _
    obtain ⟨added, appended, all⟩ := adds
    intro p member
    simp only [Live.step, store] at member appended
    rw [appended] at member
    cases List.mem_append.mp member with
    | inl old => exact own p old
    | inr new => exact all p new
  | call c =>
    simp only [Live.step]
    cases perform live.operator c with
    | error _ => exact own
    | ok accepted => exact own

/-! ## What a snapshot says -/

theorem names_snapshot {store : EventStore} {pid : String} {t : Int} {messages : List Envelope} {message : Envelope}
    (snapshot : reconnectSnapshotMessages store pid t = .ok messages) (member : message ∈ messages)
    (type : message.type ≠ .serverEventEnd) :
    ∃ n recipient, Seat store.pairs n pid recipient ∧ Names message n recipient := by
  -- the first recipient that has the participant's id, if there is one
  have seat : ∀ r recipient rest, (selectPairingRecipients store r).filter (·.participantId = pid) = recipient :: rest →
      Names message r.number recipient → ∃ n recipient, Seat store.pairs n pid recipient ∧ Names message n recipient := by
    intro r recipient rest found names
    obtain ⟨selected, same⟩ := List.mem_filter.mp (found ▸ List.mem_cons_self)
    exact ⟨r.number, recipient, of_decide_eq_true same ▸ seat_of_selected selected, names⟩
  unfold reconnectSnapshotMessages at snapshot
  split at snapshot
  · obtain ⟨ended, built, result⟩ := bind_ok.mp snapshot
    rw [← pure_ok.mp result, List.mem_singleton] at member
    obtain ⟨_, rfl⟩ := buildMessage_ok.mp built
    exact absurd (congrArg Envelope.type member) type
  · next r _ _ _ =>
    split_ifs at snapshot
    · split at snapshot
      · rw [← pure_ok.mp snapshot] at member
        cases member
      · next recipient rest found =>
        obtain ⟨pairing, built, snapshot⟩ := bind_ok.mp snapshot
        obtain ⟨roundStart, built', result⟩ := bind_ok.mp snapshot
        rw [← pure_ok.mp result] at member
        simp only [List.mem_cons, List.not_mem_nil, or_false] at member
        cases member with
        | inl first => exact seat r recipient rest found (first ▸ names_pairing built)
        | inr second => exact seat r recipient rest found (second ▸ names_roundStart built')
    · split at snapshot
      · rw [← pure_ok.mp snapshot] at member
        cases member
      · next recipient rest found =>
        obtain ⟨pairing, built, result⟩ := bind_ok.mp snapshot
        rw [← pure_ok.mp result, List.mem_singleton] at member
        exact seat r recipient rest found (member ▸ names_pairing built)
    · rw [← pure_ok.mp snapshot] at member
      cases member
  · rw [← pure_ok.mp snapshot] at member
    cases member

/-! ## What a participant hears -/

/-- In the course of the run the message is published to the participant's group, or a reconnect at some moment
    of it shows the message to the participant. -/
inductive Heard (event : Event) (pairs : List Pair) (start : Live) (actions : List LiveAction) (pid : String)
    (message : Envelope) : Prop
  | published (member : ⟨participantChannelGroup pid, message⟩ ∈
      (actions.foldl (Live.step event pairs) start).realtime.published) : Heard event pairs start actions pid message
  | snapshot {n : Nat} {t : Int} {messages : List Envelope}
      (shown : reconnectSnapshotMessages ⟨event, (stateAt (Live.step event pairs) start actions n).operator.rounds, pairs⟩
        pid t = .ok messages) (member : message ∈ messages) : Heard event pairs start actions pid message

variable {start : Live} {actions : List LiveAction} {pid pid' : String} {message message' : Envelope}

/-- Whatever is said to a participant about a pair is about the participant's own seat. -/
theorem hears_own_seat (unsaid : start.realtime.published = []) (heard : Heard event pairs start actions pid message)
    (type : message.type ≠ .serverEventEnd) :
    ∃ n recipient, Seat pairs n pid recipient ∧ Names message n recipient := by
  cases heard with
  | published member =>
    have own : ∀ p ∈ start.realtime.published, OwnSeat pairs p := by
      intro p member
      rw [unsaid] at member
      cases member
    have kept : ∀ (live : Live) (action : LiveAction), (∀ p ∈ live.realtime.published, OwnSeat pairs p) → True →
        ∀ p ∈ (live.step event pairs action).realtime.published, OwnSeat pairs p :=
      fun live action own _ => ownSeat_step live action own
    exact foldl_preserves kept own (fun _ _ => trivial) _ member pid rfl
  | snapshot shown member => exact names_snapshot shown member type

theorem Seat.of_recipients {n : Nat} {recipient : PairingRecipient} (seat : Seat pairs n pid recipient) :
    recipient ∈ (pairs.filter (·.roundNumber = n)).flatMap pairRecipients ∧ recipient.participantId = pid := by
  obtain ⟨pair, member, number, inPair, same⟩ := seat
  exact ⟨List.mem_flatMap.mpr ⟨pair, List.mem_filter.mpr ⟨member, decide_eq_true number⟩, inPair⟩, same⟩

/-- A participant has one seat in a round. -/
theorem Seated.seat_unique {n : Nat} {recipient recipient' : PairingRecipient} (seated : Seated pairs)
    (seat : Seat pairs n pid recipient) (seat' : Seat pairs n pid recipient') : recipient = recipient' := by
  obtain ⟨member, same⟩ := seat.of_recipients
  obtain ⟨member', same'⟩ := seat'.of_recipients
  exact List.inj_on_of_nodup_map (seated.once n) member member' (same.trans same'.symm)

/-- Two different participants with seats of one room are each other's partners and have different parts. -/
theorem Seated.partners {n n' : Nat} {recipient recipient' : PairingRecipient} (seated : Seated pairs)
    (seat : Seat pairs n pid recipient) (seat' : Seat pairs n' pid' recipient') (room : recipient.roomId = recipient'.roomId)
    (different : pid ≠ pid') :
    recipient.partnerId = pid' ∧ recipient'.partnerId = pid ∧ recipient'.isOfferer = !recipient.isOfferer := by
  obtain ⟨pair, member, _, inPair, rfl⟩ := seat
  obtain ⟨pair', member', _, inPair', rfl⟩ := seat'
  have rooms : ∀ (pair : Pair) recipient, recipient ∈ pairRecipients pair → recipient.roomId = pair.roomId := by
    intro pair recipient inPair
    simp only [pairRecipients, List.mem_cons, List.not_mem_nil, or_false] at inPair
    cases inPair with
    | inl a => rw [a]
    | inr b => rw [b]
  rw [rooms pair recipient inPair, rooms pair' recipient' inPair'] at room
  obtain rfl := List.inj_on_of_nodup_map seated.rooms member member' room
  simp only [pairRecipients, List.mem_cons, List.not_mem_nil, or_false] at inPair inPair'
  rcases inPair with rfl | rfl <;> rcases inPair' with rfl | rfl
  · exact absurd rfl different
  · exact ⟨rfl, rfl, rfl⟩
  · exact ⟨rfl, rfl, rfl⟩
  · exact absurd rfl different

/-- All pairings that a participant hears of for one round name the same room, partner and part.  Two
    participants that hear of the same room are each other's partners, and just one of them is to make
    the offer. -/
theorem each_hears_one_partner (event : Event) (pairs : List Pair) (seated : Seated pairs) (start : Live)
    (unsaid : start.realtime.published = []) (actions : List LiveAction) {pid pid' : String}
    {message message' : Envelope} (heard : Heard event pairs start actions pid message)
    (heard' : Heard event pairs start actions pid' message') (type : message.type = .serverPairing)
    (type' : message'.type = .serverPairing) :
    (pid = pid' → message.roundNumber = message'.roundNumber →
      textField message "room_id" = textField message' "room_id" ∧
        textField message "partner_id" = textField message' "partner_id" ∧
        flagField message "is_offerer" = flagField message' "is_offerer") ∧
    (pid ≠ pid' → textField message "room_id" = textField message' "room_id" →
      textField message "partner_id" = some pid' ∧ textField message' "partner_id" = some pid ∧
        ∃ part, flagField message "is_offerer" = some part ∧ flagField message' "is_offerer" = some (!part)) := by
  obtain ⟨n, recipient, seat, names⟩ := hears_own_seat unsaid heard (by rw [type]; decide)
  obtain ⟨n', recipient', seat', names'⟩ := hears_own_seat unsaid heard' (by rw [type']; decide)
  obtain ⟨partner, part⟩ := names.part type
  obtain ⟨partner', part'⟩ := names'.part type'
  constructor
  · rintro rfl number
    rw [names.roundNumber, names'.roundNumber, Option.some.injEq, Nat.cast_inj] at number
    subst number
    obtain rfl := seated.seat_unique seat seat'
    exact ⟨names.room.trans names'.room.symm, partner.trans partner'.symm, part.trans part'.symm⟩
  · intro different room
    rw [names.room, names'.room, Option.some.injEq] at room
    obtain ⟨partners, partners', parts⟩ := seated.partners seat seat' room different
    rw [partner, partner', part, part', partners, partners', parts]
    exact ⟨rfl, rfl, recipient.isOfferer, rfl, rfl⟩

/-- A tick of the leader at the start of the first round. -/
def firstTick : List LiveAction := [.tick leader reliable twoRoundEvent.startTime]

theorem seated_twoMeetings : Seated twoMeetings := by
  refine ⟨fun n => ?_, by decide⟩
  by_cases first : n = 1
  · subst first
    decide
  · by_cases second : n = 2
    · subst second
      decide
    · simp [twoMeetings, Ne.symm first, Ne.symm second]

theorem each_hears_one_partner_firstTick : ∃ message message',
    Heard twoRoundEvent twoMeetings ⟨freshTwoRounds, .fresh⟩ firstTick ada.pk message ∧
    Heard twoRoundEvent twoMeetings ⟨freshTwoRounds, .fresh⟩ firstTick ben.pk message' ∧
    (ada.pk = ben.pk → message.roundNumber = message'.roundNumber →
      textField message "room_id" = textField message' "room_id" ∧
        textField message "partner_id" = textField message' "partner_id" ∧
        flagField message "is_offerer" = flagField message' "is_offerer") ∧
    (ada.pk ≠ ben.pk → textField message "room_id" = textField message' "room_id" →
      textField message "partner_id" = some ben.pk ∧ textField message' "partner_id" = some ada.pk ∧
        ∃ part, flagField message "is_offerer" = some part ∧ flagField message' "is_offerer" = some (!part)) := by
  have said : ∀ pid ∈ [ada.pk, ben.pk],
      ∃ p ∈ (firstTick.foldl (Live.step twoRoundEvent twoMeetings) ⟨freshTwoRounds, .fresh⟩).realtime.published,
        p.group = participantChannelGroup pid ∧ p.message.type = .serverPairing := by
    decide +kernel
  obtain ⟨⟨_, message⟩, member, rfl, type⟩ := said ada.pk (by simp)
  obtain ⟨⟨_, message'⟩, member', rfl, type'⟩ := said ben.pk (by simp)
  exact ⟨message, message', .published member, .published member',
    each_hears_one_partner twoRoundEvent twoMeetings seated_twoMeetings ⟨freshTwoRounds, .fresh⟩ rfl firstTick (.published member)
      (.published member') type type'⟩

end EventPlatform.Orchestrator
