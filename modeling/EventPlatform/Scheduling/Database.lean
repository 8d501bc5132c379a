import EventPlatform.Lib.Transaction
import EventPlatform.Operator.Recalculate

/-! # The tables of all events

Rounds, pairs, participants and log rows as rows of shared tables, with the constraints of
the models and the trigger on pairs, and `persist_schedule` as the statements it runs on
them.  A round is referred to by its event and its number. -/

namespace EventPlatform.Scheduling

open EventPlatform.Lib EventPlatform.Matching EventPlatform.Protocol EventPlatform.Operator

/-! ## Rows -/

/-- `weights` is what the event's configuration amounts to, if it is valid. -/
structure EventRecord where
  event : Event
  status : EventStatus
  weights : Option ScoringWeights

structure ParticipantRecord where
  event : String
  participant : Participant
deriving DecidableEq

structure RoundRecord where
  event : String
  round : Round
deriving DecidableEq

structure PairRecord where
  event : String
  round : String × Nat
  participantA : String
  participantB : String
  roomId : String
deriving DecidableEq

structure ActionLogRecord where
  event : String
  round : Option (String × Nat)
  action : OperatorActionType
  details : Payload
  performedAt : Int

/-- `attached` has the participant of every row of another table that goes with it. -/
structure Database where
  events : List EventRecord
  participants : List ParticipantRecord
  rounds : List RoundRecord
  pairs : List PairRecord
  logs : List ActionLogRecord
  attached : List String

namespace Database

def participantsOf (db : Database) (eventPk : String) : List Participant :=
  (db.participants.filter (·.event = eventPk)).map (·.participant)

def roundsOf (db : Database) (eventPk : String) : List RoundRecord := db.rounds.filter (·.event = eventPk)

def pairsOf (db : Database) (eventPk : String) : List PairRecord := db.pairs.filter (·.event = eventPk)

def logsOf (db : Database) (eventPk : String) : List ActionLogRecord := db.logs.filter (·.event = eventPk)

/-- The ids that a schedule of the event is about. -/
def pidsOf (db : Database) (eventPk : String) : Finset String := ((db.participantsOf eventPk).map (·.pk)).toFinset

/-- `event.rounds.all().delete()`: the pairs go with their rounds, and the log rows lose
    them. -/
def deleteRounds (db : Database) (eventPk : String) : Database :=
  { db with
    rounds := db.rounds.filter (·.event ≠ eventPk)
    pairs := db.pairs.filter (·.round.1 ≠ eventPk)
    logs := db.logs.map fun log => { log with round := log.round.filter (·.1 ≠ eventPk) } }

end Database

/-! ## Constraints -/

inductive DatabaseError where
  | valueError
  | dataError (column : String)
  | checkViolation (text : String)
  | uniqueViolation (text : String)
deriving DecidableEq

/-- Two rows that `events_pair_validate_constraints` keeps apart. -/
def PairRecord.Clash (row other : PairRecord) : Prop :=
  other.round = row.round ∧ (other.participantA ∈ [row.participantA, row.participantB] ∨
    other.participantB ∈ [row.participantA, row.participantB])

instance (row other : PairRecord) : Decidable (row.Clash other) := inferInstanceAs (Decidable (_ ∧ _))

/-- UUID columns are compared by their values. -/
def PairRecord.Ordered (row : PairRecord) : Prop := UuidLt row.participantA row.participantB

instance decidableUuidLt (x y : String) : Decidable (UuidLt x y) :=
  decidable_of_iff (∃ a ∈ uuidValue x, ∃ b ∈ uuidValue y, a < b) (by
    simp only [UuidLt, Option.mem_def]
    constructor
    · rintro ⟨a, valueX, b, valueY, less⟩
      exact ⟨a, b, valueX, valueY, less⟩
    · rintro ⟨a, b, valueX, valueY, less⟩
      exact ⟨a, valueX, b, valueY, less⟩)

instance (row : PairRecord) : Decidable row.Ordered := inferInstanceAs (Decidable (UuidLt _ _))

/-- The constraints of `Round`, against the rows that are there. -/
def insertRound (row : RoundRecord) : Db Database DatabaseError Unit := do
  let db ← get
  -- the column is a PositiveSmallIntegerField
  Db.require (row.round.number ≤ 32767) (.dataError "number")
  Db.require (row.round.startsAt < row.round.endsAt) (.checkViolation "round_ends_after_start")
  Db.require (db.rounds.all fun other => ¬ (other.event = row.event ∧ other.round.number = row.round.number))
    (.uniqueViolation "uniq_round_number_per_event")
  modify fun db => { db with rounds := db.rounds ++ [row] }

/-- What the trigger asks before the row is inserted. -/
def pairTrigger (db : Database) (row : PairRecord) : Db Database DatabaseError Unit := do
  Db.require (db.rounds.any fun r => (r.event, r.round.number) = row.round ∧ r.event = row.event)
    (.checkViolation "Pair event must match round event")
  Db.require ((db.participants.any fun p => p.participant.pk = row.participantA ∧ p.event = row.event)
      && db.participants.any fun p => p.participant.pk = row.participantB ∧ p.event = row.event)
    (.checkViolation "Pair participants must belong to pair event")
  Db.require (db.pairs.all fun other => ¬ row.Clash other)
    (.uniqueViolation "A participant may belong to only one pair per round")

/-- The trigger, and then the constraints of `Pair`. -/
def insertPair (row : PairRecord) : Db Database DatabaseError Unit := do
  let db ← get
  pairTrigger db row
  Db.require (row.roomId.length ≤ 100) (.dataError "room_id")
  Db.require row.Ordered (.checkViolation "pair_participants_are_ordered")
  Db.require (db.pairs.all fun other => ¬ (other.event = row.event ∧ other.participantA = row.participantA ∧
      other.participantB = row.participantB)) (.uniqueViolation "uniq_pair_per_event")
  Db.require (db.pairs.all fun other => ¬ (other.round = row.round ∧ other.participantA = row.participantA))
    (.uniqueViolation "uniq_pair_participant_a_per_round")
  Db.require (db.pairs.all fun other => ¬ (other.round = row.round ∧ other.participantB = row.participantB))
    (.uniqueViolation "uniq_pair_participant_b_per_round")
  Db.require (db.pairs.all fun other => other.roomId ≠ row.roomId) (.uniqueViolation "room_id")
  modify fun db => { db with pairs := db.pairs ++ [row] }

/-! ## Persisting a schedule -/

def roundRecord (event : EventColumns) (rnd : ScheduleRound) : RoundRecord := ⟨event.pk, persistRoundRow event rnd⟩

/-- `none` is the `ValueError` of an id that is no UUID. -/
def pairRecord (event : EventColumns) (rnd : ScheduleRound) (sp : SchedulePair) : Option PairRecord := do
  let valueA ← uuidValue sp.pidA
  let valueB ← uuidValue sp.pidB
  let (pidA, pidB) := if valueB < valueA then (sp.pidB, sp.pidA) else (sp.pidA, sp.pidB)
  return {
    event := event.pk
    round := (event.pk, rnd.number.toNat)
    participantA := pidA
    participantB := pidB
    roomId := roomId event rnd.number.toNat pidA pidB }

def schedulePairs (schedule : GeneratedSchedule) : List (ScheduleRound × SchedulePair) :=
  schedule.rounds.flatMap fun rnd => rnd.pairs.map fun sp => (rnd, sp)

def pairRecords (event : EventColumns) (schedule : GeneratedSchedule) : Db Database DatabaseError (List PairRecord) :=
  match (schedulePairs schedule).mapM fun (rnd, sp) => pairRecord event rnd sp with
  | none => throw .valueError
  | some rows => pure rows

/-- `persist_schedule` -/
def persistRows (event : EventColumns) (schedule : GeneratedSchedule) : Db Database DatabaseError Unit := Db.atomic do
  modify fun db => db.deleteRounds event.pk
  -- a negative number fits the column no better than one that is too large
  Db.require (schedule.rounds.all fun rnd => 0 ≤ rnd.number) (.dataError "number")
  (schedule.rounds.map (roundRecord event)).forM insertRound
  let pairs ← pairRecords event schedule
  pairs.forM insertPair

/-- The rounds of an event with the ids of their pairs, as the rows have them. -/
def Database.readSchedule (db : Database) (eventPk : String) : List (Nat × List (String × String)) :=
  (db.roundsOf eventPk).map fun r =>
    (r.round.number,
      (db.pairs.filter (·.round = (eventPk, r.round.number))).map fun pair => (pair.participantA, pair.participantB))

/-! ## What an insert asks -/

structure RoundFits (db : Database) (row : RoundRecord) : Prop where
  number : row.round.number ≤ 32767
  ends : row.round.startsAt < row.round.endsAt
  fresh : ∀ other ∈ db.rounds, ¬ (other.event = row.event ∧ other.round.number = row.round.number)

structure PairFits (db : Database) (row : PairRecord) : Prop where
  round : ∃ r ∈ db.rounds, (r.event, r.round.number) = row.round ∧ r.event = row.event
  memberA : ∃ p ∈ db.participants, p.participant.pk = row.participantA ∧ p.event = row.event
  memberB : ∃ p ∈ db.participants, p.participant.pk = row.participantB ∧ p.event = row.event
  alone : ∀ other ∈ db.pairs, ¬ row.Clash other
  room : row.roomId.length ≤ 100
  ordered : row.Ordered
  uniquePair : ∀ other ∈ db.pairs,
    ¬ (other.event = row.event ∧ other.participantA = row.participantA ∧ other.participantB = row.participantB)
  uniqueA : ∀ other ∈ db.pairs, ¬ (other.round = row.round ∧ other.participantA = row.participantA)
  uniqueB : ∀ other ∈ db.pairs, ¬ (other.round = row.round ∧ other.participantB = row.participantB)
  uniqueRoom : ∀ other ∈ db.pairs, other.roomId ≠ row.roomId

variable {db after : Database} {row : RoundRecord} {pair : PairRecord}

theorem runOn_insertRound : (insertRound row).runOn db = (.ok (), after) ↔
    RoundFits db row ∧ after = { db with rounds := db.rounds ++ [row] } := by
  have read : (insertRound row).runOn db = _ := Db.runOn_bind_ok (Db.runOn_get db)
  simp only [read, Db.runOn_require_bind_eq_ok, Db.runOn_modify, decide_eq_true_eq, List.all_eq_true]
  constructor
  · rintro ⟨number, ends, fresh, same⟩
    cases same
    exact ⟨⟨number, ends, fresh⟩, rfl⟩
  · rintro ⟨fits, rfl⟩
    exact ⟨fits.number, fits.ends, fits.fresh, rfl⟩

theorem runOn_insertPair : (insertPair pair).runOn db = (.ok (), after) ↔
    PairFits db pair ∧ after = { db with pairs := db.pairs ++ [pair] } := by
  have read : (insertPair pair).runOn db = _ := Db.runOn_bind_ok (Db.runOn_get db)
  simp only [read, pairTrigger, bind_assoc, Db.runOn_require_bind_eq_ok, Db.runOn_modify, decide_eq_true_eq,
    List.all_eq_true, List.any_eq_true, Bool.and_eq_true]
  constructor
  · rintro ⟨round, ⟨memberA, memberB⟩, alone, room, ordered, uniquePair, uniqueA, uniqueB, uniqueRoom, same⟩
    cases same
    exact ⟨⟨round, memberA, memberB, alone, room, ordered, uniquePair, uniqueA, uniqueB, uniqueRoom⟩, rfl⟩
  · rintro ⟨fits, rfl⟩
    exact ⟨fits.round, ⟨fits.memberA, fits.memberB⟩, fits.alone, fits.room, fits.ordered, fits.uniquePair,
      fits.uniqueA, fits.uniqueB, fits.uniqueRoom, rfl⟩

end EventPlatform.Scheduling
