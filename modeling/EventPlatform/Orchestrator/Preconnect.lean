import EventPlatform.Operator.JoinTokens
import EventPlatform.Orchestrator.Seats

/-! # The preconnect service

A second sender, besides the orchestrator, that tells both members of a pair about their next
room.  It has its own window of 25 seconds, where the scheduler has a phase of 20. -/

namespace EventPlatform.Orchestrator

open EventPlatform.Lib EventPlatform.Scheduling EventPlatform.Protocol EventPlatform.Operator

/-- `PRECONNECT_WINDOW_SECONDS` -/
def preconnectWindow : Int := seconds 25

/-- `get_upcoming_round` -/
def upcomingRound (rounds : List Round) (now : Int) : Option Round :=
  match getCurrentPhase preconnectDefault rounds now with
  | ⟨.preconnect, some targetRound, _⟩ => some targetRound
  | _ =>
    ((rounds.filter fun r => now < r.startsAt ∧ r.startsAt ≤ now + preconnectWindow).insertionSort
      fun r s => r.number ≤ s.number).head?

/-! ## Messages -/

structure PreconnectNotice where
  roundNumber : Nat
  roomId : String
  peerId : String
  peerName : String
  isInitiator : Bool
  startsAt : Int
  secondsUntilStart : Int
  mediaMuted : Bool
deriving DecidableEq

/-- The payloads of `round.preconnect`, to a participant and to a room, and of `round.start`. -/
inductive PreconnectMessage where
  | participant (notice : PreconnectNotice)
  | room (roundNumber : Nat) (roomId : String) (startsAt secondsUntilStart : Int)
  | roundStart (roundNumber : Nat) (roomId : String) (endsAt : Int) (mediaMuted : Bool)
deriving DecidableEq

def roomChannelGroup (roomId : String) : String := s!"room_{roomId}"

def secondsUntilStart (roundObj : Round) (now : Int) : Int := max ((roundObj.startsAt - now).tdiv (seconds 1)) 0

def preconnectNotice (pair : Pair) (peer : Participant) (isInitiator : Bool) (roundObj : Round) (now : Int) :
    PreconnectNotice where
  roundNumber := roundObj.number
  roomId := pair.roomId
  peerId := peer.pk
  peerName := peer.displayName
  isInitiator := isInitiator
  startsAt := roundObj.startsAt
  secondsUntilStart := secondsUntilStart roundObj now
  mediaMuted := true

def preconnectJobs (pair : Pair) (roundObj : Round) (now : Int) : List (String × PreconnectMessage) :=
  [(participantChannelGroup pair.participantA.pk,
      .participant (preconnectNotice pair pair.participantB true roundObj now)),
    (participantChannelGroup pair.participantB.pk,
      .participant (preconnectNotice pair pair.participantA false roundObj now)),
    (roomChannelGroup pair.roomId,
      .room roundObj.number pair.roomId roundObj.startsAt (secondsUntilStart roundObj now))]

/-! ## Sending -/

inductive PreconnectError where
  | noUpcomingRound
  | noPairs (roundNumber : Nat)
  /-- `group_send` has raised. -/
  | channelLayer
deriving DecidableEq

def PreconnectError.text : PreconnectError → Option String
  | .noUpcomingRound => some "No upcoming round found within the preconnect window."
  | .noPairs roundNumber => some s!"No pairs configured for round {roundNumber}."
  | .channelLayer => none

structure PreconnectResult where
  roundNumber : Nat
  pairsNotified : Nat
  secondsUntilStart : Int

/-- A channel layer, if there is one, and whether it takes a message. -/
abbrev PreconnectLayer := Option (String → PreconnectMessage → Bool)

/-- What is sent before a message is refused, and whether none is. -/
def sendJobs (layer : PreconnectLayer) (jobs : List (String × PreconnectMessage)) :
    List (String × PreconnectMessage) × Bool :=
  match layer with
  | none => ([], true)
  | some takes => (jobs.takeWhile fun job => takes job.1 job.2, jobs.all fun job => takes job.1 job.2)

def triggerPreconnect (layer : PreconnectLayer) (store : EventStore) (targetRound : Option Round) (now : Int) :
    Except PreconnectError PreconnectResult × List (String × PreconnectMessage) :=
  match targetRound.or (upcomingRound store.rounds now) with
  | none => (.error .noUpcomingRound, [])
  | some roundObj =>
    let pairs := store.pairs.filter (·.roundNumber = roundObj.number)
    if pairs.isEmpty then (.error (.noPairs roundObj.number), [])
    else
      let (sent, all) := sendJobs layer (pairs.flatMap fun pair => preconnectJobs pair roundObj now)
      if all then (.ok ⟨roundObj.number, pairs.length, secondsUntilStart roundObj now⟩, sent)
      else (.error .channelLayer, sent)

def triggerRoundStart (layer : PreconnectLayer) (store : EventStore) (roundObj : Round) :
    Except PreconnectError (Nat × Nat) × List (String × PreconnectMessage) :=
  let pairs := store.pairs.filter (·.roundNumber = roundObj.number)
  let (sent, all) := sendJobs layer (pairs.map fun pair =>
    (roomChannelGroup pair.roomId, .roundStart roundObj.number pair.roomId roundObj.endsAt false))
  if all then (.ok (roundObj.number, pairs.length), sent) else (.error .channelLayer, sent)

variable {rounds : List Round} {now : Int} {r s : Round} {pairs : List Pair} {layer : PreconnectLayer}
  {store : EventStore} {targetRound : Option Round} {pid pid' : String}

/-! ## Which round is upcoming -/

/-- The first round that has not begun. -/
structure IsNext (rounds : List Round) (now : Int) (r : Round) : Prop where
  member : r ∈ rounds
  waiting : now < r.startsAt
  first : ∀ s ∈ rounds, now < s.startsAt → r.number ≤ s.number

theorem IsNext.unique (wf : WellFormed rounds) (next : IsNext rounds now r) (next' : IsNext rounds now s) : r = s :=
  wf.eq_of_number next.member next'.member
    (le_antisymm (next.first s next'.member next'.waiting) (next'.first r next.member next.waiting))

theorem next_of_found (wf : WellFormed rounds)
    (found : (rounds.find? fun r => now < r.startsAt ∧ r.startsAt ≤ now + preconnectWindow) = some r) :
    IsNext rounds now r ∧ r.startsAt ≤ now + preconnectWindow := by
  have inWindow := List.find?_some found
  have member := List.mem_of_find?_eq_some found
  simp only [decide_eq_true_eq] at inWindow
  refine ⟨⟨member, inWindow.1, fun s member' waiting => ?_⟩, inWindow.2⟩
  by_contra lower
  -- an earlier round that waits is in the window as well, and comes before
  have ends := wf.before member' member (not_le.mp lower)
  have positive := wf.positive s member'
  obtain ⟨_, before, after, split, none_⟩ := List.find?_eq_some_iff_append.mp found
  have ordered := wf.pairwise_number
  rw [split] at member' ordered
  cases List.mem_append.mp member' with
  | inl earlier =>
    have outside := none_ s earlier
    simp only [Bool.not_eq_true', decide_eq_false_iff_not, not_and] at outside
    exact outside waiting (by omega)
  | inr later =>
    cases List.mem_cons.mp later with
    | inl same => exact lower (same ▸ le_refl _)
    | inr later =>
      have higher := (List.pairwise_cons.mp (List.pairwise_append.mp ordered).2.1).1 s later
      omega

/-- The query finds the first round that has not begun, if its start is in the window. -/
theorem query_eq_some_iff (wf : WellFormed rounds) :
    ((rounds.filter fun r => now < r.startsAt ∧ r.startsAt ≤ now + preconnectWindow).insertionSort
      fun r s => r.number ≤ s.number).head? = some r ↔ IsNext rounds now r ∧ r.startsAt ≤ now + preconnectWindow := by
  rw [List.Pairwise.insertionSort_eq ((wf.pairwise_number.imp Nat.le_of_lt).filter _), List.head?_filter]
  constructor
  · exact next_of_found wf
  · intro ⟨next, inWindow⟩
    cases found : rounds.find? fun r => decide (now < r.startsAt ∧ r.startsAt ≤ now + preconnectWindow) with
    | none =>
      have absent := List.find?_eq_none.mp found r next.member
      simp only [decide_eq_true_eq] at absent
      exact absurd ⟨next.waiting, inWindow⟩ absent
    | some s => rw [next.unique wf (next_of_found wf found).1]

/-- The phase of the scheduler and the window of the service agree: in the phase, the round is the
    one that the query would find. -/
theorem upcomingRound_eq_some_iff (wf : WellFormed rounds) :
    upcomingRound rounds now = some r ↔ IsNext rounds now r ∧ r.startsAt ≤ now + preconnectWindow := by
  simp only [upcomingRound]
  split
  next target remaining phase =>
    have nonempty : rounds ≠ [] := by
      rintro rfl
      cases phase
    have cell := getCurrentPhase_cell preconnectDefault now wf nonempty
    rw [phase] at cell
    cases cell with
    | preconnect _ member begun waiting over_ =>
      have next : IsNext rounds now target := by
        refine ⟨member, waiting, fun s member' waiting' => ?_⟩
        by_contra lower
        have positive := wf.positive s member'
        have ended := over_ s member' (not_le.mp lower)
        omega
      simp only [Option.some.injEq]
      constructor
      · rintro rfl
        simp only [preconnectDefault, seconds] at begun
        exact ⟨next, by simp only [preconnectWindow, seconds]; omega⟩
      · exact fun found => next.unique wf found.1
  · exact query_eq_some_iff wf

/-- Whatever the operator has done, the upcoming round is the first one that has not begun, and there
    is one exactly when that starts within the window. -/
theorem upcoming_is_next (st : OperatorState) (wf : WellFormed st.rounds) (calls : List TimedCall) (now : Int)
    (r : Round) : upcomingRound (calls.foldl OperatorState.act st).rounds now = some r ↔
      IsNext (calls.foldl OperatorState.act st).rounds now r ∧ r.startsAt ≤ now + preconnectWindow :=
  upcomingRound_eq_some_iff (wellFormed_run wf calls)

/-- The second round begins 150 seconds later than planned. -/
theorem upcoming_is_next_extendedThenPaused :
    let rounds := (extendedThenPaused.foldl OperatorState.act freshTwoRounds).rounds
    let r : Round := ⟨2, twoRoundEvent.startTime + seconds 510, twoRoundEvent.startTime + seconds 810⟩
    upcomingRound rounds (twoRoundEvent.startTime + seconds 490) = some r ↔
      IsNext rounds (twoRoundEvent.startTime + seconds 490) r ∧
        r.startsAt ≤ twoRoundEvent.startTime + seconds 490 + preconnectWindow :=
  upcoming_is_next freshTwoRounds untouched_freshTwoRounds.wellFormed extendedThenPaused _ _

/-! ## What is sent -/

theorem sendJobs_subset {jobs : List (String × PreconnectMessage)} {job : String × PreconnectMessage}
    (sent : job ∈ (sendJobs layer jobs).1) : job ∈ jobs := by
  cases layer with
  | none => cases sent
  | some takes => exact List.takeWhile_subset _ sent

theorem mem_triggerPreconnect {job : String × PreconnectMessage}
    (sent : job ∈ (triggerPreconnect layer store targetRound now).2) :
    ∃ roundObj, ∃ pair ∈ store.pairs, pair.roundNumber = roundObj.number ∧ job ∈ preconnectJobs pair roundObj now := by
  simp only [triggerPreconnect] at sent
  split at sent
  · cases sent
  next roundObj _ =>
    have inJobs : job ∈ (store.pairs.filter (·.roundNumber = roundObj.number)).flatMap fun pair =>
        preconnectJobs pair roundObj now := by
      split_ifs at sent
      · cases sent
      · exact sendJobs_subset sent
      · exact sendJobs_subset sent
    obtain ⟨pair, filtered, member⟩ := List.mem_flatMap.mp inJobs
    obtain ⟨inPairs, number⟩ := List.mem_filter.mp filtered
    exact ⟨roundObj, pair, inPairs, of_decide_eq_true number, member⟩

theorem mem_triggerRoundStart {job : String × PreconnectMessage}
    (sent : job ∈ (triggerRoundStart layer store r).2) : ∃ roomId, job.1 = roomChannelGroup roomId := by
  have inJobs : job ∈ (store.pairs.filter (·.roundNumber = r.number)).map fun pair =>
      (roomChannelGroup pair.roomId, PreconnectMessage.roundStart r.number pair.roomId r.endsAt false) := by
    simp only [triggerRoundStart] at sent
    split_ifs at sent
    · exact sendJobs_subset sent
    · exact sendJobs_subset sent
  obtain ⟨pair, _, rfl⟩ := List.mem_map.mp inJobs
  exact ⟨pair.roomId, rfl⟩

/-! ## What a connection hears of it -/

/-- The groups that a connection of the participant joins. -/
def Joins (event : Event) (pid group : String) : Prop :=
  group = participantChannelGroup pid ∨ group = eventChannelGroup event.pk

/-- No connection joins the group of a room. -/
theorem not_joins_room (event : Event) (pid roomId : String) : ¬ Joins event pid (roomChannelGroup roomId) := by
  intro joins
  cases joins with
  | inl own =>
    have heads := congrArg (fun s => s.toList.head?) own
    simp [roomChannelGroup, participantChannelGroup, toString] at heads
  | inr all =>
    have heads := congrArg (fun s => s.toList.head?) all
    simp [roomChannelGroup, eventChannelGroup, toString] at heads

/-- The notice is about this seat. -/
structure PreconnectNotice.Describes (notice : PreconnectNotice) (n : Nat) (recipient : PairingRecipient) : Prop where
  roundNumber : notice.roundNumber = n
  room : notice.roomId = recipient.roomId
  peer : notice.peerId = recipient.partnerId
  part : notice.isInitiator = recipient.isOfferer

theorem joined_notice {event : Event} {pair : Pair} {group : String} {message : PreconnectMessage}
    (inPairs : pair ∈ pairs) (number : pair.roundNumber = r.number) (job : (group, message) ∈ preconnectJobs pair r now)
    (joined : Joins event pid group) :
    ∃ notice recipient, message = .participant notice ∧ Seat pairs r.number pid recipient ∧
      notice.Describes r.number recipient := by
  -- the groups of the two members are their own
  have own : ∀ member : Participant, group = participantChannelGroup member.pk → member.pk = pid := by
    rintro member rfl
    cases joined with
    | inl same => exact participantChannelGroup_inj.mp same
    | inr event => exact absurd event (participantChannelGroup_ne _ _)
  simp only [preconnectJobs, List.mem_cons, Prod.mk.injEq, List.not_mem_nil, or_false] at job
  rcases job with ⟨first, rfl⟩ | ⟨second, rfl⟩ | ⟨room, rfl⟩
  · exact ⟨_, _, rfl, ⟨pair, inPairs, number, List.mem_cons_self, own _ first⟩, rfl, rfl, rfl, rfl⟩
  · exact ⟨_, _, rfl, ⟨pair, inPairs, number, List.mem_cons_of_mem _ List.mem_cons_self, own _ second⟩, rfl, rfl, rfl,
      rfl⟩
  · exact absurd (room ▸ joined) (not_joins_room event pid pair.roomId)

/-- At some moment of the run the service is called, and a connection of the participant is in the group
    that the message is sent to. -/
inductive Told (event : Event) (pairs : List Pair) (start : Live) (actions : List LiveAction) (pid : String)
    (message : PreconnectMessage) : Prop
  | preconnect {n : Nat} {layer : PreconnectLayer} {targetRound : Option Round} {now : Int} {group : String}
      (sent : (group, message) ∈ (triggerPreconnect layer
        ⟨event, (stateAt (Live.step event pairs) start actions n).operator.rounds, pairs⟩ targetRound now).2)
      (joined : Joins event pid group) : Told event pairs start actions pid message
  | roundStart {n : Nat} {layer : PreconnectLayer} {r : Round} {group : String}
      (sent : (group, message) ∈ (triggerRoundStart layer
        ⟨event, (stateAt (Live.step event pairs) start actions n).operator.rounds, pairs⟩ r).2)
      (joined : Joins event pid group) : Told event pairs start actions pid message

variable {event : Event} {start : Live} {actions : List LiveAction} {message message' : PreconnectMessage}

/-- A connection hears of its own seat alone; the starts of rounds reach nobody. -/
theorem Told.notice (told : Told event pairs start actions pid message) :
    ∃ notice n recipient, message = .participant notice ∧ Seat pairs n pid recipient ∧ notice.Describes n recipient := by
  cases told with
  | preconnect sent joined =>
    obtain ⟨roundObj, pair, inPairs, number, job⟩ := mem_triggerPreconnect sent
    obtain ⟨notice, recipient, same, seat, describes⟩ := joined_notice inPairs number job joined
    exact ⟨notice, roundObj.number, recipient, same, seat, describes⟩
  | roundStart sent joined =>
    obtain ⟨roomId, group⟩ := mem_triggerRoundStart sent
    simp only at group
    exact absurd (group ▸ joined) (not_joins_room event pid roomId)

/-- The two senders agree.  What a connection hears from the service is a notice with the room, the partner
    and the part of every pairing that the orchestrator tells the same participant for that round, and of two
    participants with notices for one room just one is the initiator. -/
theorem notices_agree (event : Event) (pairs : List Pair) (seated : Seated pairs) (start : Live)
    (unsaid : start.realtime.published = []) (actions : List LiveAction) {pid : String} {message : PreconnectMessage}
    (told : Told event pairs start actions pid message) :
    ∃ notice, message = .participant notice ∧
      (∀ pairing, Heard event pairs start actions pid pairing → pairing.type = .serverPairing →
        pairing.roundNumber = some (notice.roundNumber : Int) →
          textField pairing "room_id" = some notice.roomId ∧ textField pairing "partner_id" = some notice.peerId ∧
            flagField pairing "is_offerer" = some notice.isInitiator) ∧
      ∀ pid' notice', Told event pairs start actions pid' (.participant notice') → pid ≠ pid' →
        notice'.roomId = notice.roomId → notice.peerId = pid' ∧ notice'.isInitiator = !notice.isInitiator := by
  obtain ⟨notice, n, recipient, same, seat, describes⟩ := told.notice
  refine ⟨notice, same, fun pairing heard type number => ?_, fun pid' notice' told' different room => ?_⟩
  · obtain ⟨n', recipient', seat', names⟩ := hears_own_seat unsaid heard (by rw [type]; decide)
    obtain ⟨partner, part⟩ := names.part type
    rw [names.roundNumber, describes.roundNumber, Option.some.injEq, Nat.cast_inj] at number
    subst number
    obtain rfl := seated.seat_unique seat seat'
    exact ⟨describes.room ▸ names.room, describes.peer ▸ partner, describes.part ▸ part⟩
  · obtain ⟨_, n', recipient', isNotice, seat', describes'⟩ := told'.notice
    cases isNotice
    rw [describes.room, describes'.room] at room
    obtain ⟨partner, _, parts⟩ := seated.partners seat seat' room.symm different
    exact ⟨describes.peer.trans partner, by rw [describes.part, describes'.part, parts]⟩

theorem notices_agree_firstTick : ∃ notice,
    PreconnectMessage.participant (preconnectNotice ⟨1, ada, ben, "room-1"⟩ ben true
      ⟨1, twoRoundEvent.startTime, twoRoundEvent.startTime + seconds 300⟩ (twoRoundEvent.startTime - seconds 10)) =
        .participant notice ∧
      (∀ pairing, Heard twoRoundEvent twoMeetings ⟨freshTwoRounds, .fresh⟩ firstTick ada.pk pairing →
        pairing.type = .serverPairing → pairing.roundNumber = some (notice.roundNumber : Int) →
          textField pairing "room_id" = some notice.roomId ∧ textField pairing "partner_id" = some notice.peerId ∧
            flagField pairing "is_offerer" = some notice.isInitiator) ∧
      ∀ pid' notice', Told twoRoundEvent twoMeetings ⟨freshTwoRounds, .fresh⟩ firstTick pid' (.participant notice') →
        ada.pk ≠ pid' → notice'.roomId = notice.roomId →
          notice.peerId = pid' ∧ notice'.isInitiator = !notice.isInitiator := by
  have told : Told twoRoundEvent twoMeetings ⟨freshTwoRounds, .fresh⟩ firstTick ada.pk
      (.participant (preconnectNotice ⟨1, ada, ben, "room-1"⟩ ben true
        ⟨1, twoRoundEvent.startTime, twoRoundEvent.startTime + seconds 300⟩ (twoRoundEvent.startTime - seconds 10))) :=
    @Told.preconnect _ _ _ _ _ _ 0 (some fun _ _ => true) none (twoRoundEvent.startTime - seconds 10)
      (participantChannelGroup ada.pk) (by decide +kernel) (.inl rfl)
  exact notices_agree twoRoundEvent twoMeetings seated_twoMeetings ⟨freshTwoRounds, .fresh⟩ rfl firstTick told

end EventPlatform.Orchestrator
