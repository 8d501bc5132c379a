import EventPlatform.Operator.PauseResume
import EventPlatform.Scheduling.Persist

/-! # The shape of the timeline under operator actions

`resume` and `extend` lengthen one round and move the rounds after it as a
whole, so every break keeps its length; `pause` moves nothing. -/

namespace EventPlatform.Operator

open EventPlatform.Lib EventPlatform.Matching EventPlatform.Scheduling

/-! ## Shape -/

/-- Rounds `1..R` of positive length, with the event's break between any two. -/
structure Shaped (event : Event) (rounds : List Round) : Prop where
  wellFormed : WellFormed rounds
  count : rounds.length = event.numRounds
  breaks : ∀ r ∈ rounds, ∀ s ∈ rounds, s.number = r.number + 1 →
    s.startsAt - r.endsAt = event.breakDuration

theorem shaped_plannedRounds (event : Event) (base : Int) :
    Shaped event (plannedRounds event base) where
  wellFormed := wellFormed_plannedRounds event base
  count := by simp [plannedRounds]
  breaks := by
    intro r member s member' next
    obtain ⟨i, _, rfl⟩ := List.mem_map.mp member
    obtain ⟨j, _, rfl⟩ := List.mem_map.mp member'
    simp only [plannedRound] at next ⊢
    have step : (j : Int) = i + 1 := by omega
    rw [step]
    ring

/-- The end of a round and the start of the next one move together. -/
theorem Shaped.shiftRounds {event : Event} {rounds : List Round} (shaped : Shaped event rounds)
    (number : Nat) {shift : Int} (nonneg : 0 ≤ shift) :
    Shaped event (shiftRounds number shift rounds) where
  wellFormed := wellFormed_shiftRounds shaped.wellFormed number nonneg
  count := by simp [Operator.shiftRounds, shaped.count]
  breaks := by
    intro r member s member' next
    obtain ⟨r, inRounds, rfl⟩ := List.mem_map.mp member
    obtain ⟨s, inRounds', rfl⟩ := List.mem_map.mp member'
    rw [shiftRound_number, shiftRound_number] at next
    have break_ := shaped.breaks r inRounds s inRounds' next
    simp only [shiftRound]
    split_ifs <;> (try simp only) <;> omega

/-- What an action on a round may do to the timeline: the rounds before it stay,
    the rounds after it keep their length. -/
def MovesSuffix (target : Nat) (rounds rounds' : List Round) : Prop :=
  ∀ r ∈ rounds, ∀ r' ∈ rounds', r'.number = r.number → (r.number < target → r' = r) ∧
    (target < r.number → r'.endsAt - r'.startsAt = r.endsAt - r.startsAt)

theorem movesSuffix_refl {rounds : List Round} (wf : WellFormed rounds) (target : Nat) :
    MovesSuffix target rounds rounds := by
  intro r member r' member' same
  have here := wf.eq_of_number member' member same
  exact ⟨fun _ => here, fun _ => by rw [here]⟩

theorem movesSuffix_shiftRounds {rounds : List Round} (wf : WellFormed rounds) (target : Nat)
    (shift : Int) : MovesSuffix target rounds (shiftRounds target shift rounds) := by
  intro r member r' member' same
  obtain ⟨s, inRounds, rfl⟩ := List.mem_map.mp member'
  rw [shiftRound_number] at same
  rw [wf.eq_of_number inRounds member same]
  simp only [shiftRound]
  constructor
  · intro before
    rw [if_neg (by omega), if_neg (by omega)]
  · intro after
    rw [if_neg (by omega), if_pos after]
    simp only
    omega

/-! ## One call -/

/-- The round an accepted action is about. -/
def ActionPayload.target : ActionPayload → Nat
  | .pause roundNumber _ _ => roundNumber
  | .resume roundNumber _ _ _ => roundNumber
  | .extend roundNumber _ _ => roundNumber

/-- The database after a call; a refused one leaves it as it was. -/
def OperatorState.act (st : OperatorState) (c : TimedCall) : OperatorState :=
  match perform st c with
  | .error _ => st
  | .ok (_, st') => st'

/-- What an accepted call does to the timeline. -/
theorem perform_shaped {event : Event} {st st' : OperatorState} {c : TimedCall}
    {payload : ActionPayload} (shaped : Shaped event st.rounds)
    (accepted : perform st c = .ok (payload, st')) :
    Shaped event st'.rounds ∧ MovesSuffix payload.target st.rounds st'.rounds := by
  have wf := shaped.wellFormed
  obtain ⟨time, call⟩ := c
  cases call with
  | pause =>
    obtain ⟨r, _, _, _, _, rfl, rfl⟩ := pause_ok wf accepted
    exact ⟨shaped, movesSuffix_refl wf _⟩
  | resume =>
    obtain ⟨log, _, r, _, _, _, _, rounds, _, _, _, rfl⟩ := resume_ok accepted
    rw [rounds]
    exact ⟨shaped.shiftRounds r.number (timeShift_nonneg time _), movesSuffix_shiftRounds wf r.number _⟩
  | extend extraSeconds =>
    obtain ⟨positive, r, _, _, _, rounds, _, rfl⟩ := extend_ok wf accepted
    have nonneg : 0 ≤ seconds extraSeconds := seconds_nonneg (le_of_lt positive)
    rw [rounds]
    exact ⟨shaped.shiftRounds r.number nonneg, movesSuffix_shiftRounds wf r.number _⟩

theorem Shaped.act {event : Event} {st : OperatorState} (shaped : Shaped event st.rounds)
    (c : TimedCall) : Shaped event (st.act c).rounds := by
  simp only [OperatorState.act]
  cases result : perform st c with
  | error _ => exact shaped
  | ok accepted =>
    obtain ⟨payload, st'⟩ := accepted
    exact (perform_shaped shaped result).1

/-! ## Whole runs -/

/-- A call keeps the shape and moves at most a suffix of the timeline. -/
structure KeepsShape (event : Event) (st : OperatorState) (c : TimedCall) : Prop where
  before : Shaped event st.rounds
  after : Shaped event (st.act c).rounds
  accepted : ∀ payload st', perform st c = .ok (payload, st') →
    st.act c = st' ∧ MovesSuffix payload.target st.rounds st'.rounds
  refused : ∀ error, perform st c = .error error → st.act c = st

/-- Every call of every run of pauses, resumes and extensions on a persisted
    schedule keeps its shape, whatever has been logged before. -/
theorem timeline_keeps_shape (event : Event) (participants : List Participant)
    (weights : ScoringWeights) (schedule : GeneratedSchedule) (store : EventStore)
    (generated : generateSchedule (buildMatchInput event participants weights) = .ok schedule)
    (persisted : persistSchedule event participants schedule = some store)
    (logs : List OperatorActionLog) (calls : List TimedCall) :
    Shaped event store.rounds ∧
      ∀ v ∈ visited OperatorState.act ⟨store.rounds, logs⟩ calls, KeepsShape event v.1 v.2 := by
  have start : Shaped event store.rounds := by
    rw [(persistSchedule_rounds generated persisted).2]
    exact shaped_plannedRounds event event.startTime
  let Inv (st : OperatorState) : Prop := Shaped event st.rounds
  have preserved : ∀ st c, Inv st → True → Inv (st.act c) := fun _ c shaped _ => shaped.act c
  have shaped := @visited_invariant _ _ _ Inv _ preserved ⟨store.rounds, logs⟩ calls start
    fun _ _ => trivial
  refine ⟨start, fun v member => ⟨shaped v member, (shaped v member).act v.2, ?_, ?_⟩⟩
  · intro payload st' accepted
    exact ⟨by simp only [OperatorState.act, accepted], (perform_shaped (shaped v member) accepted).2⟩
  · intro error refused
    simp only [OperatorState.act, refused]

def visitor (i : Nat) : Participant :=
  ⟨s!"00000000-0000-4000-8000-0000000001{10 + i}", s!"Visitor {i}", []⟩

def fourVisitors : List Participant := (List.range 4).map visitor

/-- A pause, an extension that hides it, and a resume that is refused. -/
theorem fourVisitors_keep_shape : ∃ schedule store,
    generateSchedule (buildMatchInput twoRoundEvent fourVisitors .default) = .ok schedule ∧
    persistSchedule twoRoundEvent fourVisitors schedule = some store ∧
    (Shaped twoRoundEvent store.rounds ∧
      ∀ v ∈ visited OperatorState.act ⟨store.rounds, []⟩ pausedThenExtended,
        KeepsShape twoRoundEvent v.1 v.2) := by
  have returned : (generateSchedule (buildMatchInput twoRoundEvent fourVisitors .default)).isOk =
      true := by
    decide +kernel
  have distinct : DistinctUuids (fourVisitors.map (·.pk)).toFinset := by
    constructor <;> decide +kernel
  cases generated : generateSchedule (buildMatchInput twoRoundEvent fourVisitors .default) with
  | error _ => rw [generated] at returned; cases returned
  | ok schedule =>
    obtain ⟨store, persisted⟩ := persistSchedule_isSome distinct generated
    exact ⟨schedule, store, rfl, persisted, timeline_keeps_shape twoRoundEvent fourVisitors .default
      schedule store generated persisted [] pausedThenExtended⟩

end EventPlatform.Operator
