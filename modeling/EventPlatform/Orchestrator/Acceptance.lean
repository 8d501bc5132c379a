import EventPlatform.Orchestrator.Dispatch
import EventPlatform.Scheduling.Persist

/-! # Can every admitted event be driven to the end?

The validators of the lifecycle messages accept rounds one to six and positive
timestamps.  An event with more rounds is admitted, matched and persisted, and
then every tick in its seventh round ends with a `ProtocolError`. -/

namespace EventPlatform.Orchestrator

open EventPlatform.Lib EventPlatform.Scheduling EventPlatform.Protocol EventPlatform.Matching

variable {store : EventStore} {t : Int} {item : Lifecycle}

/-! ## What is accepted -/

theorem mem_selectPairingRecipients {r : Round} {recipient : PairingRecipient}
    (member : recipient ∈ selectPairingRecipients store r)
    (addressable : ∀ pair ∈ store.pairs, Addressable pair) :
    isBlank recipient.roomId = false ∧ isBlank recipient.partnerId = false := by
  obtain ⟨pair, filtered, ends⟩ := List.mem_flatMap.mp member
  have good := addressable pair (List.mem_of_mem_filter filtered)
  simp only [pairRecipients, List.mem_cons, List.not_mem_nil, or_false] at ends
  cases ends with
  | inl a => rw [a]; exact ⟨good.room, good.memberB⟩
  | inr b => rw [b]; exact ⟨good.room, good.memberA⟩

/-- The rows whose messages all pass the validators. -/
structure Acceptable (store : EventStore) : Prop where
  wellFormed : WellFormed store.rounds
  addressable : ∀ pair ∈ store.pairs, Addressable pair
  few : store.rounds.length ≤ 6
  late : ∀ r ∈ store.rounds, 1000 ≤ r.startsAt

theorem Acceptable.roundNumber (acceptable : Acceptable store) {r : Round} (member : r ∈ store.rounds) :
    (1 : Int) ≤ r.number ∧ (r.number : Int) ≤ 6 := by
  have := acceptable.wellFormed.number_pos member
  have := acceptable.wellFormed.number_le member
  have := acceptable.few
  omega

theorem Acceptable.pairing (acceptable : Acceptable store) {r : Round} (member : r ∈ store.rounds)
    {recipient : PairingRecipient} (selected : recipient ∈ selectPairingRecipients store r) :
    ∃ message, pairingMessage recipient r = .ok message := by
  obtain ⟨room, partner⟩ := mem_selectPairingRecipients selected acceptable.addressable
  have start := acceptable.late r member
  have positive := acceptable.wellFormed.positive r member
  exact buildServerPairing_ok.mpr ⟨acceptable.roundNumber member, room, partner,
    datetimeToUnixMs_pos.mpr start, datetimeToUnixMs_pos.mpr (by omega)⟩

theorem Acceptable.roundStart (acceptable : Acceptable store) {r : Round} (member : r ∈ store.rounds)
    (begun : r.startsAt ≤ t) {recipient : PairingRecipient}
    (selected : recipient ∈ selectPairingRecipients store r) :
    ∃ message, buildServerRoundStart r.number recipient.roomId (datetimeToUnixMs t) = .ok message := by
  obtain ⟨room, _⟩ := mem_selectPairingRecipients selected acceptable.addressable
  have start := acceptable.late r member
  exact buildServerRoundStart_ok.mpr ⟨acceptable.roundNumber member, room,
    datetimeToUnixMs_pos.mpr (by omega)⟩

theorem eventEnd_built (late : 1000 ≤ t) :
    ∃ message, buildServerEventEnd "completed" (datetimeToUnixMs t) none = .ok message :=
  buildServerEventEnd_ok.mpr ⟨by decide, datetimeToUnixMs_pos.mpr late⟩

/-- Every message that is due can be built. -/
theorem Acceptable.due (acceptable : Acceptable store) (due : Due store.rounds t item) :
    ∀ job ∈ item.jobs store t, ∃ message, job.2 = .ok message := by
  have wf := acceptable.wellFormed
  -- a message about an end is sent after it, so its timestamp is positive
  have ended : ∀ r ∈ store.rounds, r.endsAt ≤ t → 1000 ≤ t := by
    intro r member ended
    have := acceptable.late r member
    have := wf.positive r member
    omega
  intro job member
  cases due with
  | pairing r finds =>
    obtain ⟨recipient, selected, rfl⟩ := List.mem_map.mp member
    cases finds with
    | inl finds => exact acceptable.pairing (finds.mem wf) selected
    | inr finds => exact acceptable.pairing (finds.mem wf) selected
  | roundStart r finds =>
    obtain ⟨recipient, selected, rfl⟩ := List.mem_map.mp member
    exact acceptable.roundStart (finds.mem wf) (finds.inRound wf).1 selected
  | warning r finds =>
    rw [List.mem_singleton.mp member]
    have start := acceptable.late r (finds.mem wf)
    obtain ⟨begun, running⟩ := finds.inRound wf
    exact buildServerRoundWarning_ok.mpr ⟨acceptable.roundNumber (finds.mem wf),
      datetimeToUnixMs_pos.mpr (by omega), le_max_left 0 _, datetimeToUnixMs_pos.mpr (by omega)⟩
  | roundEnd r finds =>
    rw [List.mem_singleton.mp member]
    cases finds with
    | inl finds =>
      obtain ⟨_, _, _, over_, _⟩ := finds.break_ wf
      exact buildServerRoundEnd_ok.mpr ⟨acceptable.roundNumber (finds.mem wf),
        datetimeToUnixMs_pos.mpr (ended r (finds.mem wf) over_)⟩
    | inr finds =>
      obtain ⟨_, over_⟩ := finds.completed wf
      exact buildServerRoundEnd_ok.mpr ⟨acceptable.roundNumber (finds.mem wf),
        datetimeToUnixMs_pos.mpr (ended r (finds.mem wf) over_)⟩
  | eventEnd last finds =>
    rw [List.mem_singleton.mp member]
    obtain ⟨_, over_⟩ := finds.completed wf
    exact eventEnd_built (ended last (finds.mem wf) over_)

theorem Acceptable.dispatch (acceptable : Acceptable store) (o : OrchestratorRealtime)
    (layer : ChannelLayer) (t : Int) (rt : Realtime) :
    ∃ result, (o.dispatch layer store t rt).1 = .ok result := by
  cases leader : o.isLeader with
  | false => exact ⟨.notLeader, by simp [OrchestratorRealtime.dispatch, leader]⟩
  | true =>
    exact (dispatch_ok leader).mpr (sendAll_ok (fun item due =>
      acceptable.due (mem_due acceptable.wellFormed due)) rt)

theorem Acceptable.snapshot (acceptable : Acceptable store) (pid : String) (t : Int) :
    ∃ messages, reconnectSnapshotMessages store pid t = .ok messages := by
  have wf := acceptable.wellFormed
  generalize result : getCurrentPhase preconnectDefault store.rounds t = found
  have finds : ∀ {phase r remaining}, found = ⟨phase, some r, remaining⟩ →
      Finds store.rounds phase r t := fun same => finds_iff.mpr ⟨_, result.trans same⟩
  unfold reconnectSnapshotMessages
  rw [result]
  split
  next activeRound remaining =>
    obtain ⟨last, completed⟩ := finds_of_completed wf (by rw [result])
    obtain ⟨_, passed⟩ := completed.completed wf
    have := acceptable.late last (completed.mem wf)
    have := wf.positive last (completed.mem wf)
    obtain ⟨message, built⟩ := @eventEnd_built t (by omega)
    rw [built]
    exact ⟨[message], rfl⟩
  next phase r remaining _ =>
    have member := (finds rfl).mem wf
    split
    next live =>
      split
      next => exact ⟨[], rfl⟩
      next recipient others selection =>
        -- a participant with a partner is among those whom the tick would address
        have selected : recipient ∈ selectPairingRecipients store r :=
          List.mem_of_mem_filter (by rw [selection]; exact List.mem_cons_self)
        obtain ⟨pairing, built⟩ := acceptable.pairing member selected
        rw [built]
        by_cases inRound : phase = .inRound
        · subst inRound
          obtain ⟨roundStart, built'⟩ :=
            acceptable.roundStart member ((finds rfl).inRound wf).1 selected
          simp only [if_true, built']
          exact ⟨[pairing, roundStart], rfl⟩
        · simp only [inRound, if_false]
          exact ⟨[pairing], rfl⟩
    next => exact ⟨[], rfl⟩
  next => exact ⟨[], rfl⟩

/-! ## What is refused -/

/-- A tick at the start of a round with a pair goes through only if its pairing
    message is accepted. -/
theorem accepted_of_dispatch (wf : WellFormed store.rounds) {r : Round} (member : r ∈ store.rounds)
    {pair : Pair} (inStore : pair ∈ store.pairs) (number : pair.roundNumber = r.number)
    {o : OrchestratorRealtime} {layer : ChannelLayer} (leader : o.isLeader = true)
    (returns : ∃ result, (o.dispatch layer store r.startsAt Realtime.fresh).1 = .ok result) :
    r.number ≤ 6 ∧ 1000 ≤ r.startsAt := by
  have phase := getCurrentPhase_running wf (show 0 ≤ preconnectDefault by decide) member (le_refl _)
    (wf.positive r member)
  have sent : ∃ sent, (sendOnce layer store r.startsAt (.pairing r) Realtime.fresh).1 = .ok sent := by
    have all := (dispatch_ok leader).mp returns
    rw [phase] at all
    by_contra failed
    exact sendAll_error failed all
  cases sendOnce_ok.mp sent with
  | inl marked => simp [Realtime.fresh] at marked
  | inr built =>
    have selected : ∃ recipient, recipient ∈ selectPairingRecipients store r :=
      ⟨_, List.mem_flatMap.mpr ⟨pair, List.mem_filter.mpr ⟨inStore, by simpa using number⟩,
        List.mem_cons_self⟩⟩
    obtain ⟨recipient, selected⟩ := selected
    obtain ⟨range, _, _, start, _⟩ :=
      buildServerPairing_ok.mp (built _ (List.mem_map_of_mem selected))
    exact ⟨by omega, datetimeToUnixMs_pos.mp start⟩

/-! ## Every admitted event -/

/-- Every tick and every reconnect snapshot, at any time and from any cache, returns
    normally. -/
def NeverRefused (store : EventStore) : Prop :=
  (∀ (o : OrchestratorRealtime) (layer : ChannelLayer) (t : Int) (rt : Realtime),
    ∃ result, (o.dispatch layer store t rt).1 = .ok result) ∧
  ∀ (pid : String) (t : Int), ∃ messages, reconnectSnapshotMessages store pid t = .ok messages

variable {event : Event} {participants : List Participant} {weights : ScoringWeights}
  {schedule : GeneratedSchedule}

/-- A generated timeline is driven to its end only within the limits of the validators. -/
theorem NeverRefused.limits (distinct : DistinctUuids (participants.map (·.pk)).toFinset)
    (generated : generateSchedule (buildMatchInput event participants weights) = .ok schedule)
    (persisted : persistSchedule event participants schedule = some store)
    (never : NeverRefused store) : event.numRounds ≤ 6 ∧ 1000 ≤ event.startTime := by
  obtain ⟨_, rounds⟩ := persistSchedule_rounds generated persisted
  obtain ⟨_, paired⟩ := persistSchedule_pairs distinct generated persisted
  have wf : WellFormed store.rounds := by
    rw [rounds]
    exact wellFormed_plannedRounds event event.startTime
  have positive := event.roundsPositive
  have limit : ∀ i < event.numRounds, (plannedRound event event.startTime i).number ≤ 6 ∧
      1000 ≤ (plannedRound event event.startTime i).startsAt := by
    intro i inside
    have member : plannedRound event event.startTime i ∈ store.rounds := by
      rw [rounds]
      exact List.mem_map_of_mem (List.mem_range.mpr inside)
    obtain ⟨pair, inStore, number⟩ := paired _ member
    exact accepted_of_dispatch wf member inStore number (show (⟨true, 30⟩ :
      OrchestratorRealtime).isLeader = true from rfl) (never.1 _ reliable _ _)
  have last := (limit (event.numRounds - 1) (by omega)).1
  have first := (limit 0 (by omega)).2
  simp [plannedRound] at last first
  omega

theorem acceptable_of_limits (distinct : DistinctUuids (participants.map (·.pk)).toFinset)
    (generated : generateSchedule (buildMatchInput event participants weights) = .ok schedule)
    (persisted : persistSchedule event participants schedule = some store)
    (few : event.numRounds ≤ 6) (late : 1000 ≤ event.startTime) : Acceptable store := by
  obtain ⟨_, rounds⟩ := persistSchedule_rounds generated persisted
  obtain ⟨addressable, _⟩ := persistSchedule_pairs distinct generated persisted
  refine ⟨by rw [rounds]; exact wellFormed_plannedRounds event event.startTime, addressable,
    by simpa [rounds, plannedRounds] using few, fun r member => ?_⟩
  rw [rounds] at member
  obtain ⟨i, _, rfl⟩ := List.mem_map.mp member
  have duration := event.durationPositive
  have break_ := event.breakNonneg
  have offset : 0 ≤ (i : Int) * (event.roundDuration + event.breakDuration) :=
    mul_nonneg (by omega) (by omega)
  simp only [plannedRound]
  omega

/-- An event is driven to its end exactly when it has at most six rounds and starts
    after the first millisecond of 1970. -/
theorem never_refused_iff (event : Event) (participants : List Participant)
    (weights : ScoringWeights) (schedule : GeneratedSchedule) (store : EventStore)
    (distinct : DistinctUuids (participants.map (·.pk)).toFinset)
    (generated : generateSchedule (buildMatchInput event participants weights) = .ok schedule)
    (persisted : persistSchedule event participants schedule = some store) :
    NeverRefused store ↔ event.numRounds ≤ 6 ∧ 0 < datetimeToUnixMs event.startTime := by
  rw [datetimeToUnixMs_pos]
  constructor
  · exact NeverRefused.limits distinct generated persisted
  · intro ⟨few, late⟩
    have acceptable := acceptable_of_limits distinct generated persisted few late
    exact ⟨fun o layer t rt => acceptable.dispatch o layer t rt,
      fun pid t => acceptable.snapshot pid t⟩

def guest (i : Nat) : Participant :=
  ⟨s!"00000000-0000-4000-8000-0000000000{10 + i}", s!"Guest {i}", []⟩

theorem fourGuests_never_refused : ∃ schedule store,
    generateSchedule (buildMatchInput twoRoundEvent ((List.range 4).map guest) .default) =
      .ok schedule ∧
    persistSchedule twoRoundEvent ((List.range 4).map guest) schedule = some store ∧
    (NeverRefused store ↔
      twoRoundEvent.numRounds ≤ 6 ∧ 0 < datetimeToUnixMs twoRoundEvent.startTime) := by
  have returned : (generateSchedule
      (buildMatchInput twoRoundEvent ((List.range 4).map guest) .default)).isOk = true := by
    decide +kernel
  have distinct : DistinctUuids (((List.range 4).map guest).map (·.pk)).toFinset := by
    constructor <;> decide +kernel
  cases generated : generateSchedule
      (buildMatchInput twoRoundEvent ((List.range 4).map guest) .default) with
  | error _ => rw [generated] at returned; cases returned
  | ok schedule =>
    obtain ⟨store, persisted⟩ := persistSchedule_isSome distinct generated
    exact ⟨schedule, store, rfl, persisted, never_refused_iff twoRoundEvent _ .default schedule store
      distinct generated persisted⟩

def sevenRoundEvent : Event := { twoRoundEvent with numRounds := 7, roundsPositive := by decide }

/-- Eight guests can meet in seven rounds, but the seventh cannot be announced. -/
theorem seventh_round_refused : ∃ schedule store,
    generateSchedule (buildMatchInput sevenRoundEvent ((List.range 8).map guest) .default) =
      .ok schedule ∧
    persistSchedule sevenRoundEvent ((List.range 8).map guest) schedule = some store ∧
    ¬ NeverRefused store := by
  have returned : (generateSchedule
      (buildMatchInput sevenRoundEvent ((List.range 8).map guest) .default)).isOk = true := by
    decide +kernel
  have distinct : DistinctUuids (((List.range 8).map guest).map (·.pk)).toFinset := by
    constructor <;> decide +kernel
  cases generated : generateSchedule
      (buildMatchInput sevenRoundEvent ((List.range 8).map guest) .default) with
  | error _ => rw [generated] at returned; cases returned
  | ok schedule =>
    obtain ⟨store, persisted⟩ := persistSchedule_isSome distinct generated
    refine ⟨schedule, store, rfl, persisted, fun never => ?_⟩
    have seven : 7 ≤ 6 := (NeverRefused.limits distinct generated persisted never).1
    omega

end EventPlatform.Orchestrator
