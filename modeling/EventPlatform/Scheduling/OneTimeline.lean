import EventPlatform.Operator.JoinTokens
import EventPlatform.Scheduling.Stored

/-! # One timeline, computed three times

`persist_schedule` has a closed form for each round number, `calculate_full_schedule` a loop
that carries the start from round to round, and `event_end` a sum.  They agree for all
durations, also for those that the validators of `Event` would refuse. -/

namespace EventPlatform.Scheduling

open EventPlatform.Lib EventPlatform.Matching EventPlatform.Operator

variable {event : EventColumns} {schedule : GeneratedSchedule} {preconnectDuration : Int} {db after : Database}

/-! ## The loop -/

theorem mem_scheduleRounds {left i : Nat} {start : Int} {item : ScheduledRound}
    (member : item ∈ scheduleRounds event preconnectDuration left i start) :
    item.breakEndsAt =
      if item.number = event.numRounds then none else some (item.endsAt + event.breakDuration) := by
  induction left generalizing i start with
  | zero => cases member
  | succ left ih =>
    rw [scheduleRounds] at member
    cases List.mem_cons.mp member with
    | inl here => rw [here]
    | inr later => exact ih later

theorem mem_plannedRounds {base : Int} {r : Round} :
    r ∈ plannedRounds event base ↔ ∃ i < event.numRounds, plannedRound event base i = r := by
  simp [plannedRounds]

/-- An item of the schedule is the closed form at its own number. -/
theorem mem_calculateFullSchedule {startTime : Option Int} {item : ScheduledRound}
    (member : item ∈ calculateFullSchedule event startTime preconnectDuration) :
    (∃ i < event.numRounds, plannedRound event (startTime.getD event.startTime) i = item.round) ∧
      item.breakEndsAt =
        if item.number = event.numRounds then none else some (item.endsAt + event.breakDuration) := by
  refine ⟨mem_plannedRounds.mp ?_, mem_scheduleRounds member⟩
  rw [← calculateFullSchedule_rounds event startTime preconnectDuration]
  exact List.mem_map_of_mem member

/-! ## The closed form -/

theorem persistRoundRow_planned {rnd : ScheduleRound} {i : Nat} (number : rnd.number = (i : Int) + 1) :
    persistRoundRow event rnd = plannedRound event event.startTime i := by
  simp only [persistRoundRow, plannedRound, number, Round.mk.injEq]
  refine ⟨by omega, ?_, ?_⟩ <;> ring

/-- The rows of a schedule numbered `1..R`, in the order of the schedule. -/
theorem persistRoundRows_perm
    (numbered : (schedule.rounds.map (·.number)).Perm (roundNumbers event.numRounds)) :
    (schedule.rounds.map (persistRoundRow event)).Perm (plannedRounds event event.startTime) := by
  let rowOf (n : Int) : Round := persistRoundRow event ⟨n, [], none⟩
  have rows : schedule.rounds.map (persistRoundRow event) = (schedule.rounds.map (·.number)).map rowOf := by
    rw [List.map_map]
    rfl
  have planned : plannedRounds event event.startTime = (roundNumbers event.numRounds).map rowOf := by
    simp only [plannedRounds, roundNumbers, List.map_map, Int.toNat_natCast]
    exact List.map_congr_left fun i _ => (persistRoundRow_planned rfl).symm
  rw [rows, planned]
  exact numbered.map rowOf

/-- `event_end` is the end of the last round of the closed form. -/
theorem eventEnd_planned (rounds : 1 ≤ event.numRounds) :
    (plannedRound event event.startTime (event.numRounds - 1)).endsAt = eventEnd event := by
  have before : ((event.numRounds - 1 : Nat) : Int) = event.numRounds - 1 := by omega
  have nonneg : max ((event.numRounds : Int) - 1) 0 = event.numRounds - 1 := by omega
  simp only [plannedRound, eventEnd, before, nonneg]
  ring

/-! ## What is written -/

/-- The rounds of the event in the database are the computed ones. -/
theorem persistRows_roundsOf (ran : (persistRows event schedule).runOn db = (.ok (), after)) :
    (after.roundsOf event.pk).map (·.round) = schedule.rounds.map (persistRoundRow event) := by
  obtain ⟨rows, rfl⟩ := persistRows_tables ran
  rw [Database.roundsOf, rounds_replaced, List.map_map]
  rfl

/-! ## Agreement -/

/-- The rows of an event beside the computed schedule and the computed end. -/
structure Agrees (event : EventColumns) (preconnectDuration : Int) (rows : List Round) : Prop where
  /-- The rows are the items of the schedule, one for each. -/
  rounds : rows.Perm ((calculateFullSchedule event none preconnectDuration).map ScheduledRound.round)
  times : ∀ row ∈ rows, ∀ item ∈ calculateFullSchedule event none preconnectDuration,
    row.number = item.number → row.startsAt = item.startsAt ∧ row.endsAt = item.endsAt
  /-- A break lasts until the next round, in the rows as in the schedule. -/
  breaks : ∀ item ∈ calculateFullSchedule event none preconnectDuration, ∀ row ∈ rows,
    row.number = item.number + 1 → item.breakEndsAt = some row.startsAt
  noBreak : ∀ item ∈ calculateFullSchedule event none preconnectDuration,
    item.number = event.numRounds → item.breakEndsAt = none
  ends : ∃ row ∈ rows, row.number = event.numRounds ∧ row.endsAt = eventEnd event

theorem Agrees.of_planned {rows : List Round} (rounds : 1 ≤ event.numRounds) (preconnectDuration : Int)
    (planned : rows.Perm (plannedRounds event event.startTime)) : Agrees event preconnectDuration rows where
  rounds := by
    rw [calculateFullSchedule_rounds]
    exact planned
  times := by
    intro row inRows item member same
    obtain ⟨i, _, rfl⟩ := mem_plannedRounds.mp (planned.mem_iff.mp inRows)
    obtain ⟨⟨j, _, here⟩, _⟩ := mem_calculateFullSchedule member
    simp only [ScheduledRound.round, plannedRound, Round.mk.injEq, Option.getD_none] at here same ⊢
    obtain rfl : i = j := by omega
    exact here.2
  breaks := by
    intro item member row inRows next
    obtain ⟨i, inside, rfl⟩ := mem_plannedRounds.mp (planned.mem_iff.mp inRows)
    obtain ⟨⟨j, _, here⟩, breaks⟩ := mem_calculateFullSchedule member
    simp only [ScheduledRound.round, plannedRound, Round.mk.injEq, Option.getD_none] at here next ⊢
    obtain rfl : i = j + 1 := by omega
    rw [breaks, if_neg (by omega), ← here.2.2]
    -- one more step is a round and a break
    push_cast
    ring_nf
  noBreak := by
    intro item member last
    rw [(mem_calculateFullSchedule member).2, if_pos last]
  ends := by
    refine ⟨plannedRound event event.startTime (event.numRounds - 1), ?_, ?_, eventEnd_planned rounds⟩
    · exact planned.mem_iff.mpr (mem_plannedRounds.mpr ⟨_, by omega, rfl⟩)
    · simp only [plannedRound]
      omega

/-- Whatever durations the event has and however the schedule is ordered, the rows that are
    written, the computed schedule and the computed end are one timeline. -/
theorem one_timeline (event : EventColumns) (rounds : 1 ≤ event.numRounds) (preconnectDuration : Int)
    (schedule : GeneratedSchedule)
    (numbered : (schedule.rounds.map (·.number)).Perm (roundNumbers event.numRounds)) :
    Agrees event preconnectDuration (schedule.rounds.map (persistRoundRow event)) ∧
      ∀ db after, (persistRows event schedule).runOn db = (.ok (), after) →
        (after.roundsOf event.pk).map (·.round) = schedule.rounds.map (persistRoundRow event) :=
  ⟨.of_planned rounds preconnectDuration (persistRoundRows_perm numbered), fun _ _ ran => persistRows_roundsOf ran⟩

/-- A schedule whose second round is listed first. -/
def secondFirst : GeneratedSchedule := ⟨[⟨2, [], none⟩, ⟨1, [], none⟩]⟩

theorem one_timeline_twoRounds : Agrees twoRoundEvent preconnectDefault
      (secondFirst.rounds.map (persistRoundRow twoRoundEvent)) ∧
    ∀ db after, (persistRows twoRoundEvent secondFirst).runOn db = (.ok (), after) →
      (after.roundsOf twoRoundEvent.pk).map (·.round) = secondFirst.rounds.map (persistRoundRow twoRoundEvent) :=
  one_timeline twoRoundEvent (by decide) preconnectDefault secondFirst (by decide)

end EventPlatform.Scheduling
