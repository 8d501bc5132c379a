import EventPlatform.Lib.Upsert
import EventPlatform.Scheduling.OneTimeline
import EventPlatform.Scheduling.Partition

/-! # Persisting a timeline again

`RoundScheduler.persist_schedule` merges the computed rounds into the rows that are there:
a number that is known is moved, a number that is new is inserted.  Nothing is deleted, so a
number that the event no longer has stays, and the phase goes on to it. -/

namespace EventPlatform.Scheduling

open EventPlatform.Lib

/-! ## The statements -/

/-- `save(update_fields=["starts_at", "ends_at"])` -/
def updateRound (row : RoundRecord) : Db Database DatabaseError Unit := do
  Db.require (row.round.startsAt < row.round.endsAt) (.checkViolation "round_ends_after_start")
  modify fun db => { db with
    rounds := db.rounds.map fun r =>
      if r.event = row.event ∧ r.round.number = row.round.number then
        { r with round := { r.round with startsAt := row.round.startsAt, endsAt := row.round.endsAt } }
      else r }

/-- One turn of the loop; `existingRounds` has the numbers that were read before it. -/
def persistItem (eventPk : String) (existingRounds : List Nat) (item : ScheduledRound) :
    Db Database DatabaseError Unit :=
  if item.number ∈ existingRounds then updateRound ⟨eventPk, item.round⟩ else insertRound ⟨eventPk, item.round⟩

/-- `RoundScheduler.persist_schedule` -/
def RoundScheduler.persistScheduleRows (event : EventColumns) (startTime : Option Int) (preconnectDuration : Int) :
    Db Database DatabaseError (List RoundRecord) := Db.atomic do
  let calculated := calculateFullSchedule event startTime preconnectDuration
  let db ← get
  let existingRounds := (db.roundsOf event.pk).map (·.round.number)
  calculated.forM (persistItem event.pk existingRounds)
  return calculated.map fun item => ⟨event.pk, item.round⟩

/-! ## Rounds replaced by number -/

def RoundRecord.key (r : RoundRecord) : String × Nat := (r.event, r.round.number)

def Database.putRounds (db : Database) (rows : List RoundRecord) : Database :=
  { db with rounds := upsertAll RoundRecord.key db.rounds rows }

/-- The rows that the computed rounds are written as. -/
def scheduledRows (event : EventColumns) (startTime : Option Int) (preconnectDuration : Int) : List RoundRecord :=
  (calculateFullSchedule event startTime preconnectDuration).map fun item => ⟨event.pk, item.round⟩

variable {event : Event} {startTime : Option Int} {preconnectDuration : Int} {db after s : Database}
  {rows : List RoundRecord} {item : ScheduledRound} {eventPk : String} {existingRounds : List Nat}

theorem persistRound_eq (rounds : List Round) (item : ScheduledRound) :
    persistRound rounds item = upsert Round.number rounds item.round := by
  by_cases there : ∃ r ∈ rounds, r.number = item.number
  · obtain ⟨r, member, same⟩ := there
    have found : rounds.any (·.number = item.number) = true :=
      List.any_eq_true.mpr ⟨r, member, decide_eq_true same⟩
    -- a row has no other field than its number and the two times
    have merged : ∀ r ∈ rounds, (if r.number = item.number then
        { r with startsAt := item.startsAt, endsAt := item.endsAt } else r) =
          if r.number = item.round.number then item.round else r := by
      intro r _
      by_cases same : r.number = item.number
      · have moved : ({ r with startsAt := item.startsAt, endsAt := item.endsAt } : Round) = item.round := by
          simp only [ScheduledRound.round, same]
        rw [if_pos same, moved]
        exact (if_pos same).symm
      · rw [if_neg same]
        exact (if_neg same).symm
    rw [persistRound, if_pos found, upsert_of_mem member same]
    exact List.map_congr_left merged
  · have fresh : ∀ r ∈ rounds, r.number ≠ item.number := fun r member same => there ⟨r, member, same⟩
    have absent : rounds.any (·.number = item.number) = false := by
      simpa using fresh
    rw [persistRound, absent, upsert_of_fresh fresh]
    rfl

theorem runOn_updateRound {row : RoundRecord} (ends : row.round.startsAt < row.round.endsAt)
    (there : ∃ r ∈ s.rounds, r.key = row.key) :
    (updateRound row).runOn s = (.ok (), s.putRounds [row]) := by
  obtain ⟨r, member, same⟩ := there
  rw [updateRound, Db.runOn_require_bind_eq_ok]
  refine ⟨decide_eq_true ends, ?_⟩
  rw [Db.runOn_modify, Database.putRounds, upsertAll_cons, upsertAll_nil, upsert_of_mem member same]
  congr 2
  apply List.map_congr_left
  intro r _
  by_cases same : r.event = row.event ∧ r.round.number = row.round.number
  · have moved : ({ r with round := { r.round with startsAt := row.round.startsAt, endsAt := row.round.endsAt } } :
        RoundRecord) = row := by
      simp only [same.1, same.2]
    rw [if_pos same, moved]
    exact (if_pos (Prod.ext same.1 same.2)).symm
  · rw [if_neg same]
    exact (if_neg fun sameKey => same (Prod.mk.inj sameKey)).symm

/-- A turn of the loop, when the numbers read before it still tell what is there. -/
theorem runOn_persistItem (ends : item.startsAt < item.endsAt) (small : item.number ≤ 32767)
    (known : item.number ∈ existingRounds ↔ ∃ r ∈ s.rounds, r.key = (eventPk, item.number)) :
    (persistItem eventPk existingRounds item).runOn s = (.ok (), s.putRounds [⟨eventPk, item.round⟩]) := by
  by_cases there : item.number ∈ existingRounds
  · rw [persistItem, if_pos there]
    exact runOn_updateRound ends (known.mp there)
  · have fresh : ∀ r ∈ s.rounds, r.key ≠ (eventPk, item.number) := fun r member same =>
      there (known.mpr ⟨r, member, same⟩)
    rw [persistItem, if_neg there, runOn_insertRound]
    refine ⟨⟨small, ends, fun other member same => fresh other member (Prod.ext same.1 same.2)⟩, ?_⟩
    rw [Database.putRounds, upsertAll_cons, upsertAll_nil, upsert_of_fresh fresh]

theorem scheduledRows_keys (event : EventColumns) (startTime : Option Int) (preconnectDuration : Int) :
    (scheduledRows event startTime preconnectDuration).map RoundRecord.key =
      (List.range event.numRounds).map fun i => (event.pk, i + 1) := by
  have numbers : (calculateFullSchedule event startTime preconnectDuration).map (·.number) =
      (List.range event.numRounds).map (· + 1) := by
    rw [← plannedRounds_numbers event (startTime.getD event.startTime), ← calculateFullSchedule_rounds event startTime
      preconnectDuration, List.map_map]
    rfl
  calc
    (scheduledRows event startTime preconnectDuration).map RoundRecord.key =
        ((calculateFullSchedule event startTime preconnectDuration).map (·.number)).map fun n => (event.pk, n) := by
      rw [scheduledRows, List.map_map, List.map_map]
      rfl
    _ = (List.range event.numRounds).map fun i => (event.pk, i + 1) := by
      rw [numbers, List.map_map]
      rfl

theorem scheduledRows_distinct (event : EventColumns) (startTime : Option Int) (preconnectDuration : Int) :
    ((scheduledRows event startTime preconnectDuration).map RoundRecord.key).Nodup := by
  rw [scheduledRows_keys]
  exact List.nodup_range.map fun i j same => Nat.succ_injective (Prod.mk.inj same).2

theorem putRounds_append (s : Database) (rows rows' : List RoundRecord) :
    (s.putRounds rows).putRounds rows' = s.putRounds (rows ++ rows') := by
  simp only [Database.putRounds, upsertAll, List.foldl_append]

/-- What is there after some turns of the loop: what was read, or what has been written. -/
theorem exists_putRounds {n : Nat} :
    (∃ r ∈ (db.putRounds rows).rounds, r.key = (eventPk, n)) ↔
      n ∈ (db.roundsOf eventPk).map (·.round.number) ∨ (eventPk, n) ∈ rows.map RoundRecord.key := by
  have keys := @mem_keys_upsertAll _ _ _ RoundRecord.key db.rounds rows (eventPk, n)
  have stored : (eventPk, n) ∈ db.rounds.map RoundRecord.key ↔ n ∈ (db.roundsOf eventPk).map (·.round.number) := by
    simp only [Database.roundsOf, List.mem_map, List.mem_filter, decide_eq_true_eq, RoundRecord.key, Prod.mk.injEq]
    constructor
    · rintro ⟨r, member, sameEvent, sameNumber⟩
      exact ⟨r, ⟨member, sameEvent⟩, sameNumber⟩
    · rintro ⟨r, ⟨member, sameEvent⟩, sameNumber⟩
      exact ⟨r, member, sameEvent, sameNumber⟩
  rw [stored] at keys
  rw [← keys, List.mem_map]
  rfl

/-- The call returns the computed rounds and puts them in place of the rows of their numbers. -/
theorem persistScheduleRows_ok (small : event.numRounds ≤ 32767) :
    (RoundScheduler.persistScheduleRows event startTime preconnectDuration).runOn db =
      (.ok (scheduledRows event startTime preconnectDuration),
        db.putRounds (scheduledRows event startTime preconnectDuration)) := by
  let rowOf (item : ScheduledRound) : RoundRecord := ⟨event.pk, item.round⟩
  have looped : ((calculateFullSchedule event startTime preconnectDuration).forM
      (persistItem event.pk ((db.roundsOf event.pk).map (·.round.number)))).runOn (db.putRounds ([].map rowOf)) =
        (.ok (), db.putRounds ((calculateFullSchedule event startTime preconnectDuration).map rowOf)) := by
    apply @Db.runOn_forM_ok _ _ _ _ _ fun items => db.putRounds (items.map rowOf)
    intro before item rest split
    have member : item ∈ calculateFullSchedule event startTime preconnectDuration := by
      rw [split]
      simp
    obtain ⟨⟨i, inside, here⟩, _⟩ := mem_calculateFullSchedule member
    have positive := event.durationPositive
    simp only [ScheduledRound.round, plannedRound, Round.mk.injEq] at here
    -- the rows written so far have other numbers
    have other : (event.pk, item.number) ∉ (before.map rowOf).map RoundRecord.key := by
      have distinct := scheduledRows_distinct event startTime preconnectDuration
      rw [scheduledRows, split, List.map_append, List.map_append, List.map_cons, List.map_cons] at distinct
      exact fun earlier => (List.nodup_append.mp distinct).2.2 _ earlier _ List.mem_cons_self rfl
    have turn := @runOn_persistItem (db.putRounds (before.map rowOf)) item event.pk
      ((db.roundsOf event.pk).map (·.round.number)) (by omega) (by omega)
      (by rw [exists_putRounds]; exact (or_iff_left other).symm)
    rw [turn, putRounds_append, List.map_append]
    rfl
  rw [RoundScheduler.persistScheduleRows, Db.runOn_atomic_eq_ok, Db.runOn_bind_ok (Db.runOn_get db)]
  exact (Db.runOn_bind_ok looped).trans rfl

/-! ## What is there afterwards -/

theorem roundsOf_upsert_other {row : RoundRecord} {eventPk : String} (other : row.event ≠ eventPk)
    (rounds : List RoundRecord) :
    (upsert RoundRecord.key rounds row).filter (·.event = eventPk) = rounds.filter (·.event = eventPk) := by
  refine filter_upsert_other (decide_eq_false other) fun r same => ?_
  exact decide_eq_false fun inEvent => other ((Prod.mk.inj same).1.symm.trans inEvent)

theorem roundsOf_upsert_own {row : RoundRecord} (rounds : List RoundRecord) :
    ((upsert RoundRecord.key rounds row).filter (·.event = row.event)).map (·.round) =
      upsert Round.number ((rounds.filter (·.event = row.event)).map (·.round)) row.round := by
  refine filter_map_upsert (decide_eq_true (Eq.refl row.event)) fun r _ => ?_
  rw [decide_eq_true_eq, RoundRecord.key, RoundRecord.key, Prod.mk.injEq]

/-- The other events keep their rounds. -/
theorem roundsOf_putRounds_other {eventPk : String} (rows_ : ∀ row ∈ rows, row.event ≠ eventPk) :
    (db.putRounds rows).roundsOf eventPk = db.roundsOf eventPk := by
  simp only [Database.putRounds, Database.roundsOf]
  generalize db.rounds = rounds
  induction rows generalizing rounds with
  | nil => rfl
  | cons row rows ih =>
    rw [upsertAll_cons, ih (fun later member => rows_ later (List.mem_cons_of_mem _ member)),
      roundsOf_upsert_other (rows_ row List.mem_cons_self)]

/-- The rows of the event are merged by their numbers alone. -/
theorem roundsOf_putRounds_own (rows_ : ∀ row ∈ rows, row.event = eventPk) :
    ((db.putRounds rows).roundsOf eventPk).map (·.round) =
      upsertAll Round.number ((db.roundsOf eventPk).map (·.round)) (rows.map (·.round)) := by
  simp only [Database.putRounds, Database.roundsOf]
  generalize db.rounds = rounds
  induction rows generalizing rounds with
  | nil => rfl
  | cons row rows ih =>
    have own := rows_ row List.mem_cons_self
    have first := @roundsOf_upsert_own row rounds
    rw [own] at first
    rw [upsertAll_cons, ih (fun later member => rows_ later (List.mem_cons_of_mem _ member)), first, List.map_cons,
      upsertAll_cons]

theorem scheduledRows_event : ∀ row ∈ scheduledRows event startTime preconnectDuration, row.event = event.pk := by
  intro row member
  obtain ⟨item, _, rfl⟩ := List.mem_map.mp member
  rfl

theorem scheduledRows_rounds (event : EventColumns) (startTime : Option Int) (preconnectDuration : Int) :
    (scheduledRows event startTime preconnectDuration).map (·.round) =
      plannedRounds event (startTime.getD event.startTime) := by
  rw [← calculateFullSchedule_rounds event startTime preconnectDuration, scheduledRows, List.map_map]
  rfl

/-- On the rows of the event the call is the merge that the rounds were modelled by. -/
theorem persistScheduleRows_refines (small : event.numRounds ≤ 32767)
    (ran : (RoundScheduler.persistScheduleRows event startTime preconnectDuration).runOn db = (.ok rows, after)) :
    (after.roundsOf event.pk).map (·.round) =
      RoundScheduler.persistSchedule event startTime preconnectDuration ((db.roundsOf event.pk).map (·.round)) := by
  rw [persistScheduleRows_ok small] at ran
  cases ran
  have merge : ∀ (items : List ScheduledRound) (rounds : List Round), items.foldl persistRound rounds =
      upsertAll Round.number rounds (items.map ScheduledRound.round) := by
    intro items rounds
    rw [upsertAll, List.foldl_map]
    congr
    funext rounds item
    exact persistRound_eq rounds item
  rw [roundsOf_putRounds_own scheduledRows_event, RoundScheduler.persistSchedule, merge, scheduledRows_rounds,
    calculateFullSchedule_rounds]

theorem mem_plannedNumbers {event : EventColumns} {base : Int} {n : Nat} :
    n ∈ (plannedRounds event base).map (·.number) ↔ 1 ≤ n ∧ n ≤ event.numRounds := by
  rw [plannedRounds_numbers]
  simp only [List.mem_map, List.mem_range]
  constructor
  · rintro ⟨i, inside, rfl⟩
    omega
  · rintro ⟨positive, le⟩
    exact ⟨n - 1, by omega, by omega⟩

/-- The planned rounds are there, and beside them the old rounds of all other numbers. -/
theorem persistScheduleRows_rounds (small : event.numRounds ≤ 32767)
    (unique : ((db.roundsOf event.pk).map (·.round.number)).Nodup)
    (ran : (RoundScheduler.persistScheduleRows event startTime preconnectDuration).runOn db = (.ok rows, after)) :
    ((after.roundsOf event.pk).map (·.round)).Perm (plannedRounds event (startTime.getD event.startTime) ++
      ((db.roundsOf event.pk).map (·.round)).filter fun r => ¬ (1 ≤ r.number ∧ r.number ≤ event.numRounds)) := by
  rw [persistScheduleRows_ok small] at ran
  cases ran
  rw [roundsOf_putRounds_own scheduledRows_event, scheduledRows_rounds]
  have merged := @upsertAll_perm _ _ _ Round.number ((db.roundsOf event.pk).map (·.round))
    (plannedRounds event (startTime.getD event.startTime)) (by rwa [List.map_map])
    ((wellFormed_plannedRounds event _).pairwise_number.imp Nat.ne_of_lt |> List.pairwise_map.mpr)
  simpa only [mem_plannedNumbers] using merged

/-! ## The end of the event -/

/-- An event is completed from the end of its last round on. -/
theorem completed_iff {rounds : List Round} {last : Round} {t : Int} (wf : WellFormed rounds)
    (nonneg : 0 ≤ preconnectDuration) (member : last ∈ rounds) (number : last.number = rounds.length) :
    (getCurrentPhase preconnectDuration rounds t).phase = .completed ↔ last.endsAt ≤ t := by
  constructor
  · intro phase
    have cell := getCurrentPhase_cell preconnectDuration t wf (List.ne_nil_of_mem member)
    generalize getCurrentPhase preconnectDuration rounds t = result at phase cell
    cases cell with
    | completed other inRounds number' ended =>
      rwa [wf.eq_of_number member inRounds (number.trans number'.symm)]
    | notStarted | preconnect | inRound | break_ => cases phase
  · intro ended
    rw [getCurrentPhase_eq wf nonneg (.completed last member number ended)]

theorem getLast?_plannedRounds (base : Int) :
    (plannedRounds event base).getLast? = some (plannedRound event base (event.numRounds - 1)) := by
  have positive : event.numRounds ≠ 0 := by
    have := event.roundsPositive
    omega
  rw [plannedRounds, List.getLast?_map, List.getLast?_range, if_neg positive]
  rfl

/-! ## Replacing -/

/-- The computed rounds have replaced those of the event, for good, and the event ends with
    the last of them. -/
structure Replaced (event : Event) (startTime : Option Int) (preconnectDuration : Int) (db after : Database) :
    Prop where
  rounds : ((after.roundsOf event.pk).map (·.round)).Perm
    ((calculateFullSchedule event startTime preconnectDuration).map ScheduledRound.round)
  others : ∀ eventPk ≠ event.pk, after.roundsOf eventPk = db.roundsOf eventPk
  again : ∃ rows, (RoundScheduler.persistScheduleRows event startTime preconnectDuration).runOn after =
    (.ok rows, after)
  completed : ∀ last ∈ (calculateFullSchedule event startTime preconnectDuration).getLast?, ∀ t,
    (getCurrentPhase preconnectDuration ((after.roundsOf event.pk).map (·.round)) t).phase = .completed ↔
      last.endsAt ≤ t

theorem Replaced.of_perm (nonneg : 0 ≤ preconnectDuration) (small : event.numRounds ≤ 32767)
    (ran : (RoundScheduler.persistScheduleRows event startTime preconnectDuration).runOn db = (.ok rows, after))
    (perm : ((after.roundsOf event.pk).map (·.round)).Perm (plannedRounds event (startTime.getD event.startTime))) :
    Replaced event startTime preconnectDuration db after where
  rounds := by rwa [calculateFullSchedule_rounds]
  others := by
    intro eventPk other
    rw [persistScheduleRows_ok small] at ran
    cases ran
    exact roundsOf_putRounds_other fun row member => (scheduledRows_event row member).symm ▸ other.symm
  again := by
    rw [persistScheduleRows_ok small] at ran ⊢
    cases ran
    refine ⟨_, congrArg (Prod.mk _) ?_⟩
    simp only [Database.putRounds, upsertAll_again (scheduledRows_distinct event.toEventColumns startTime
      preconnectDuration)]
  completed := by
    intro last isLast t
    have wf := wellFormed_plannedRounds event (startTime.getD event.startTime)
    -- the computed rows end with the last planned round
    have planned : last.round = plannedRound event (startTime.getD event.startTime) (event.numRounds - 1) := by
      have lasts := congrArg List.getLast? (calculateFullSchedule_rounds event startTime preconnectDuration)
      rw [List.getLast?_map, isLast, getLast?_plannedRounds] at lasts
      exact Option.some.inj lasts
    have positive := event.roundsPositive
    have member := mem_plannedRounds.mpr ⟨event.numRounds - 1, by omega, planned.symm⟩
    rw [getCurrentPhase_perm wf perm]
    refine completed_iff wf nonneg member ?_
    rw [planned]
    simp only [plannedRound, plannedRounds, List.length_map, List.length_range]
    omega

/-- The timeline is replaced exactly when every round that was there has a number that the
    event still has. -/
theorem repersist_replaces_iff (event : Event) (startTime : Option Int) (preconnectDuration : Int)
    (nonneg : 0 ≤ preconnectDuration) (small : event.numRounds ≤ 32767) (db : Database)
    (unique : ((db.roundsOf event.pk).map (·.round.number)).Nodup) :
    ∃ rows after,
      (RoundScheduler.persistScheduleRows event startTime preconnectDuration).runOn db = (.ok rows, after) ∧
        (Replaced event startTime preconnectDuration db after ↔
          ∀ r ∈ db.roundsOf event.pk, 1 ≤ r.round.number ∧ r.round.number ≤ event.numRounds) := by
  have ran := @persistScheduleRows_ok event startTime preconnectDuration db small
  refine ⟨_, _, ran, ?_⟩
  have merged := persistScheduleRows_rounds small unique ran
  constructor
  · intro replaced r member
    -- nothing is left over beside the planned rounds
    have lengths := (replaced.rounds.symm.trans merged).length_eq
    rw [calculateFullSchedule_rounds, List.length_append] at lengths
    have none_ := List.eq_nil_of_length_eq_zero (Nat.left_eq_add.mp lengths)
    have listed : r.round ∈ (db.roundsOf event.pk).map (·.round) := List.mem_map_of_mem member
    simpa only [decide_eq_true_eq, not_not] using List.filter_eq_nil_iff.mp none_ r.round listed
  · intro known
    apply Replaced.of_perm nonneg small ran
    have none_ : (((db.roundsOf event.pk).map (·.round)).filter fun r =>
        ¬ (1 ≤ r.number ∧ r.number ≤ event.numRounds)) = [] := by
      apply List.filter_eq_nil_iff.mpr
      intro round listed
      obtain ⟨r, member, rfl⟩ := List.mem_map.mp listed
      simpa only [decide_eq_true_eq, not_not] using known r member
    rwa [none_, List.append_nil] at merged

/-- Three rounds were persisted, and the event has two of them now. -/
def oneRoundLess : Database where
  events := []
  participants := []
  rounds := (plannedRounds { twoRoundEvent with numRounds := 3 } twoRoundEvent.startTime).map fun r =>
    ⟨twoRoundEvent.pk, r⟩
  pairs := []
  logs := []
  attached := []

/-- One round was persisted, and the event has two now. -/
theorem repersist_replaces_one_round :
    let db : Database := { oneRoundLess with rounds := oneRoundLess.rounds.take 1 }
    ∃ rows after,
      (RoundScheduler.persistScheduleRows twoRoundEvent none preconnectDefault).runOn db = (.ok rows, after) ∧
        (Replaced twoRoundEvent none preconnectDefault db after ↔
          ∀ r ∈ db.roundsOf twoRoundEvent.pk, 1 ≤ r.round.number ∧ r.round.number ≤ twoRoundEvent.numRounds) :=
  repersist_replaces_iff twoRoundEvent none preconnectDefault (by decide) (by decide) _ (by decide)

/-- The third round stays, and at the configured end the event has a break before it. -/
theorem repersist_leaves_third_round : ∃ rows after,
    (RoundScheduler.persistScheduleRows twoRoundEvent none preconnectDefault).runOn oneRoundLess = (.ok rows, after) ∧
      (after.roundsOf twoRoundEvent.pk).map (·.round.number) = [1, 2, 3] ∧
      (getCurrentPhase preconnectDefault ((after.roundsOf twoRoundEvent.pk).map (·.round))
        (seconds 1700000660)).phase = .break_ ∧
      ¬ Replaced twoRoundEvent none preconnectDefault oneRoundLess after := by
  refine ⟨_, _, persistScheduleRows_ok (by decide), by decide, by decide, fun replaced => ?_⟩
  have lengths := replaced.rounds.length_eq
  revert lengths
  decide

end EventPlatform.Scheduling
