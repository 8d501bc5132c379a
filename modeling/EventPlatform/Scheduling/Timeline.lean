import Mathlib

/-! # Events and their timeline

Instants and durations are integers of microseconds, the resolution of Python's
`datetime` and `timedelta`.  A timeline is what the database stores: one row per
round with its start and its end. -/

namespace EventPlatform.Scheduling

/-- `timedelta(seconds=n)`. -/
def seconds (n : Int) : Int := n * 1000000

/-- The columns of `Event` that timing reads. -/
structure EventColumns where
  pk : String
  numRounds : Nat
  roundDuration : Int
  breakDuration : Int
  startTime : Int

/-- An event that the validators of the model have seen; the database does not ask them. -/
structure Event extends EventColumns where
  roundsPositive : 1 ≤ numRounds
  durationPositive : 0 < roundDuration
  breakNonneg : 0 ≤ breakDuration

instance : Coe Event EventColumns := ⟨Event.toEventColumns⟩

structure Round where
  number : Nat
  startsAt : Int
  endsAt : Int
deriving DecidableEq

structure Tag where
  pk : String
  name : String
deriving DecidableEq

structure Participant where
  pk : String
  displayName : String
  tags : List Tag
deriving DecidableEq

/-- A row of `Pair`; its round is referred to by number. -/
structure Pair where
  roundNumber : Nat
  participantA : Participant
  participantB : Participant
  roomId : String
deriving DecidableEq

/-- The rows that belong to one event. -/
structure EventStore where
  event : Event
  rounds : List Round
  pairs : List Pair

/-! ## Persisting the timeline -/

structure ScheduledRound where
  number : Nat
  preconnectStartsAt : Int
  startsAt : Int
  endsAt : Int
  breakEndsAt : Option Int
deriving DecidableEq

/-- The loop of `calculate_full_schedule`, with the rounds left and `i`. -/
def scheduleRounds (event : EventColumns) (preconnectDuration : Int) :
    Nat → Nat → Int → List ScheduledRound
  | 0, _, _ => []
  | left + 1, i, currentRoundStart =>
    let roundEnd := currentRoundStart + event.roundDuration
    let breakEnd := if i = event.numRounds then none else some (roundEnd + event.breakDuration)
    { number := i
      preconnectStartsAt := currentRoundStart - preconnectDuration
      startsAt := currentRoundStart
      endsAt := roundEnd
      breakEndsAt := breakEnd }
      :: scheduleRounds event preconnectDuration left (i + 1) (breakEnd.getD currentRoundStart)

/-- The default of `preconnect_duration`. -/
def preconnectDefault : Int := seconds 20

def calculateFullSchedule (event : EventColumns) (startTime : Option Int) (preconnectDuration : Int) :
    List ScheduledRound :=
  scheduleRounds event preconnectDuration event.numRounds 1 (startTime.getD event.startTime)

/-- A row with the same number is moved, a missing one is created. -/
def persistRound (rounds : List Round) (item : ScheduledRound) : List Round :=
  if rounds.any (·.number = item.number) then
    rounds.map fun r =>
      if r.number = item.number then { r with startsAt := item.startsAt, endsAt := item.endsAt }
      else r
  else rounds ++ [⟨item.number, item.startsAt, item.endsAt⟩]

/-- `RoundScheduler.persist_schedule`; no row is ever removed. -/
def RoundScheduler.persistSchedule (event : EventColumns) (startTime : Option Int)
    (preconnectDuration : Int) (existing : List Round) : List Round :=
  (calculateFullSchedule event startTime preconnectDuration).foldl persistRound existing

/-! ## Well-formed timelines -/

/-- Rounds `1..R` in order, each with a positive length, one after another. -/
structure WellFormed (rounds : List Round) : Prop where
  numbers : rounds.map (·.number) = (List.range rounds.length).map (· + 1)
  positive : ∀ r ∈ rounds, r.startsAt < r.endsAt
  ordered : rounds.Pairwise fun r s => r.endsAt ≤ s.startsAt

namespace WellFormed

variable {rounds : List Round}

theorem number_getElem (wf : WellFormed rounds) {i : Nat} (inside : i < rounds.length) :
    (rounds[i]).number = i + 1 := by
  simpa using List.getElem_of_eq wf.numbers (show i < (rounds.map (·.number)).length by simpa using inside)

theorem exists_getElem (wf : WellFormed rounds) {r : Round} (member : r ∈ rounds) :
    ∃ inside : r.number - 1 < rounds.length, 1 ≤ r.number ∧ rounds[r.number - 1] = r := by
  obtain ⟨i, inside, rfl⟩ := List.getElem_of_mem member
  have number := wf.number_getElem inside
  refine ⟨by omega, by omega, ?_⟩
  simp only [number, Nat.add_sub_cancel]

theorem number_pos (wf : WellFormed rounds) {r : Round} (member : r ∈ rounds) : 1 ≤ r.number :=
  (wf.exists_getElem member).2.1

theorem number_le (wf : WellFormed rounds) {r : Round} (member : r ∈ rounds) :
    r.number ≤ rounds.length := by
  obtain ⟨inside, positive, _⟩ := wf.exists_getElem member
  omega

theorem exists_number (wf : WellFormed rounds) {k : Nat} (positive : 1 ≤ k)
    (le : k ≤ rounds.length) : ∃ r ∈ rounds, r.number = k := by
  have inside : k - 1 < rounds.length := by omega
  refine ⟨rounds[k - 1], List.getElem_mem inside, ?_⟩
  rw [wf.number_getElem inside]
  omega

theorem eq_of_number (wf : WellFormed rounds) {r s : Round} (member : r ∈ rounds)
    (member' : s ∈ rounds) (same : r.number = s.number) : r = s := by
  obtain ⟨_, _, here⟩ := wf.exists_getElem member
  obtain ⟨_, _, here'⟩ := wf.exists_getElem member'
  rw [← here, ← here']
  simp only [same]

/-- An earlier round is over before a later one starts. -/
theorem before (wf : WellFormed rounds) {r s : Round} (member : r ∈ rounds)
    (member' : s ∈ rounds) (earlier : r.number < s.number) : r.endsAt ≤ s.startsAt := by
  obtain ⟨inside, positive, here⟩ := wf.exists_getElem member
  obtain ⟨inside', positive', here'⟩ := wf.exists_getElem member'
  rw [← here, ← here']
  exact List.pairwise_iff_getElem.mp wf.ordered _ _ inside inside' (by omega)

theorem pairwise_number (wf : WellFormed rounds) :
    rounds.Pairwise fun r s => r.number < s.number := by
  refine List.pairwise_iff_getElem.mpr fun i j insideI insideJ earlier => ?_
  rw [wf.number_getElem insideI, wf.number_getElem insideJ]
  omega

/-- Reading the rows `ORDER BY number` returns them as they are. -/
theorem order_by_number (wf : WellFormed rounds) :
    rounds.insertionSort (fun r s => r.number ≤ s.number) = rounds :=
  List.Pairwise.insertionSort_eq (wf.pairwise_number.imp Nat.le_of_lt)

theorem find?_number (wf : WellFormed rounds) {r : Round} (member : r ∈ rounds) :
    rounds.find? (·.number = r.number) = some r := by
  cases found : rounds.find? (·.number = r.number) with
  | none =>
    have absent := List.find?_eq_none.mp found r member
    simp at absent
  | some s =>
    have number := List.find?_some found
    simp only [decide_eq_true_eq] at number
    rw [wf.eq_of_number (List.mem_of_find?_eq_some found) member number]

end WellFormed

/-! ## The planned timeline -/

def plannedRound (event : EventColumns) (base : Int) (i : Nat) : Round where
  number := i + 1
  startsAt := base + i * (event.roundDuration + event.breakDuration)
  endsAt := base + i * (event.roundDuration + event.breakDuration) + event.roundDuration

/-- The timeline an event asks for. -/
def plannedRounds (event : EventColumns) (base : Int) : List Round :=
  (List.range event.numRounds).map (plannedRound event base)

theorem plannedRounds_numbers (event : EventColumns) (base : Int) :
    (plannedRounds event base).map (·.number) = (List.range event.numRounds).map (· + 1) := by
  simp [plannedRounds, plannedRound, Function.comp_def]

theorem wellFormed_plannedRounds (event : Event) (base : Int) :
    WellFormed (plannedRounds event base) where
  numbers := by simp [plannedRounds, plannedRound, Function.comp_def]
  positive := by
    intro r member
    obtain ⟨i, _, rfl⟩ := List.mem_map.mp member
    have := event.durationPositive
    simp only [plannedRound]
    omega
  ordered := by
    refine List.pairwise_map.mpr (List.pairwise_lt_range.imp fun {i j} before => ?_)
    have duration := event.durationPositive
    have break_ := event.breakNonneg
    simp only [plannedRound]
    have later : (i : Int) + 1 ≤ j := by exact_mod_cast before
    nlinarith

def ScheduledRound.round (item : ScheduledRound) : Round :=
  ⟨item.number, item.startsAt, item.endsAt⟩

theorem scheduleRounds_eq (event : EventColumns) (preconnectDuration base : Int) (left i : Nat)
    (all : i + left = event.numRounds + 1) (positive : 1 ≤ i) :
    (scheduleRounds event preconnectDuration left i
        (base + (i - 1 : Nat) * (event.roundDuration + event.breakDuration))).map
      ScheduledRound.round = (List.range' (i - 1) left).map (plannedRound event base) := by
  induction left generalizing i with
  | zero => rfl
  | succ left ih =>
    -- the start of the next round is one duration and one break later
    have next := ih (i + 1) (by omega) (by omega)
    simp only [scheduleRounds, List.map_cons, List.range'_succ]
    refine congr (congrArg List.cons ?_) ?_
    · simp only [ScheduledRound.round, plannedRound, Nat.sub_add_cancel positive]
    · by_cases last : i = event.numRounds
      · -- the start left over after the last round is never used
        have done : left = 0 := by omega
        subst done
        rfl
      · simp only [last, if_false, Option.getD_some]
        rw [Nat.sub_add_cancel positive, ← Nat.add_sub_cancel i 1, ← next]
        congr 2
        simp only [Nat.add_sub_cancel]
        have cast : (i : Int) = (i - 1 : Nat) + 1 := by omega
        rw [cast]
        ring_nf

/-- On a table without rows, every item is a new row. -/
theorem foldl_persistRound (items : List ScheduledRound) (rounds : List Round)
    (fresh : ((rounds ++ items.map ScheduledRound.round).map (·.number)).Nodup) :
    items.foldl persistRound rounds = rounds ++ items.map ScheduledRound.round := by
  induction items generalizing rounds with
  | nil => simp
  | cons item items ih =>
    have absent : rounds.any (·.number = item.number) = false := by
      rw [List.any_eq_false]
      intro r member same
      simp only [List.map_append, List.map_cons, List.nodup_append] at fresh
      exact fresh.2.2 _ (List.mem_map_of_mem member) _ List.mem_cons_self (of_decide_eq_true same)
    have appended : persistRound rounds item = rounds ++ [item.round] := by
      simp [persistRound, absent, ScheduledRound.round]
    rw [List.foldl_cons, appended, ih]
    · simp
    · simpa using fresh

/-- The accumulating loop computes the closed form. -/
theorem calculateFullSchedule_rounds (event : EventColumns) (startTime : Option Int)
    (preconnectDuration : Int) :
    (calculateFullSchedule event startTime preconnectDuration).map ScheduledRound.round =
      plannedRounds event (startTime.getD event.startTime) := by
  have all := scheduleRounds_eq event preconnectDuration (startTime.getD event.startTime)
    event.numRounds 1 (by omega) (le_refl 1)
  simpa [calculateFullSchedule, plannedRounds, List.range_eq_range'] using all

theorem persistSchedule_nil (event : EventColumns) (startTime : Option Int) (preconnectDuration : Int) :
    RoundScheduler.persistSchedule event startTime preconnectDuration [] =
      plannedRounds event (startTime.getD event.startTime) := by
  have planned := calculateFullSchedule_rounds event startTime preconnectDuration
  simp only [RoundScheduler.persistSchedule]
  rw [foldl_persistRound, planned, List.nil_append]
  rw [planned, List.nil_append, plannedRounds_numbers]
  exact List.nodup_range.map fun a b same => Nat.succ_injective same

/-- Two rounds of five minutes with a minute between them. -/
def twoRoundEvent : Event where
  pk := "7c9e6679-7425-40de-944b-e07fc1f90ae7"
  numRounds := 2
  roundDuration := seconds 300
  breakDuration := seconds 60
  startTime := seconds 1700000000
  roundsPositive := by decide
  durationPositive := by decide
  breakNonneg := by decide

end EventPlatform.Scheduling
