import EventPlatform.Lib.Upsert
import EventPlatform.Scheduling.Database

/-! # A valid schedule fits the database

What the validator accepts can be inserted row by row, and is read back as it was.  The
constraints of the tables are weaker than the validator's checks, but for the order of the
ids and the names of the rooms, which `persist_schedule` makes itself. -/

namespace EventPlatform.Scheduling

open EventPlatform.Lib EventPlatform.Matching

/-! ## Room names -/

/-- What is hashed to the name of a room. -/
def roomText (eventPk : String) (roundNumber : Nat) (pidA pidB : String) : String :=
  s!"{eventPk}:{roundNumber}:{pidA}:{pidB}"

def roomDigest (text : String) : String :=
  String.ofList ((Sha256.hexdigest (Sha256.sha256 text.toUTF8.data.toList)).take 32)

def PairRecord.roomText (row : PairRecord) : String :=
  Scheduling.roomText row.event row.round.2 row.participantA row.participantB

/-- The text of a UUID has no colon. -/
def Plain (pk : String) : Prop := ':' ∉ pk.toList

instance decidablePlain (pk : String) : Decidable (Plain pk) := inferInstanceAs (Decidable (_ ∉ _))

/-- Two texts are split at their first colon in one way. -/
theorem split_at_colon {xs xs' ys ys' : List Char} (plain : ':' ∉ xs) (plain' : ':' ∉ xs')
    (same : xs ++ ':' :: ys = xs' ++ ':' :: ys') : xs = xs' ∧ ys = ys' := by
  induction xs generalizing xs' with
  | nil =>
    cases xs' with
    | nil =>
      cases same
      exact ⟨rfl, rfl⟩
    | cons c xs' =>
      cases same
      exact absurd List.mem_cons_self plain'
  | cons c xs ih =>
    cases xs' with
    | nil =>
      cases same
      exact absurd List.mem_cons_self plain
    | cons c' xs' =>
      obtain ⟨rfl, rest⟩ := List.cons.inj same
      obtain ⟨rfl, rfl⟩ := ih (fun later => plain (List.mem_cons_of_mem _ later))
        (fun later => plain' (List.mem_cons_of_mem _ later)) rest
      exact ⟨rfl, rfl⟩

theorem plain_repr (n : Nat) : ':' ∉ (Nat.repr n).toList := by
  rw [Nat.toList_repr]
  intro member
  have digit := Nat.isDigit_of_mem_toDigits (by decide) (by decide) member
  simp at digit

theorem toList_roomText (eventPk : String) (roundNumber : Nat) (pidA pidB : String) :
    (roomText eventPk roundNumber pidA pidB).toList =
      eventPk.toList ++ ':' :: ((Nat.repr roundNumber).toList ++ ':' :: (pidA.toList ++ ':' :: pidB.toList)) := by
  simp [roomText, toString]

theorem roomText_inj {eventPk eventPk' pidA pidA' pidB pidB' : String} {n n' : Nat}
    (plain : Plain eventPk) (plain' : Plain eventPk') (plainA : Plain pidA) (plainA' : Plain pidA')
    (same : roomText eventPk n pidA pidB = roomText eventPk' n' pidA' pidB') :
    eventPk = eventPk' ∧ n = n' ∧ pidA = pidA' ∧ pidB = pidB' := by
  have lists := congrArg String.toList same
  rw [toList_roomText, toList_roomText] at lists
  obtain ⟨event, rest⟩ := split_at_colon plain plain' lists
  obtain ⟨number, rest⟩ := split_at_colon (plain_repr n) (plain_repr n') rest
  obtain ⟨first, second⟩ := split_at_colon plainA plainA' rest
  exact ⟨String.toList_inj.mp event, Nat.repr_injective (String.toList_inj.mp number), String.toList_inj.mp first,
    String.toList_inj.mp second⟩

theorem length_roomDigest (text : String) : (roomDigest text).length = 32 := by
  simp [roomDigest, Sha256.length_hexdigest]

/-! ## The pairs of a valid schedule -/

variable {event : Event} {schedule : GeneratedSchedule} {db after : Database} {pids : Finset String} {numRounds : Int}
  {rnd : ScheduleRound} {sp : SchedulePair}

def storedPair (event : Event) (x : ScheduleRound × SchedulePair) : PairRecord where
  event := event.pk
  round := (event.pk, x.1.number.toNat)
  participantA := x.2.pidA
  participantB := x.2.pidB
  roomId := roomId event x.1.number.toNat x.2.pidA x.2.pidB

/-- Ids in the engine's order are not swapped. -/
theorem pairRecord_of_lt (order : UuidLt sp.pidA sp.pidB) :
    pairRecord event rnd sp = some (storedPair event (rnd, sp)) := by
  obtain ⟨a, b, valueA, valueB, less⟩ := order
  have kept : ¬ b < a := by omega
  simp [pairRecord, valueA, valueB, kept, storedPair]

/-- Two pairs do not meet twice, and share nobody in a round. -/
structure Separate (x y : ScheduleRound × SchedulePair) : Prop where
  disjoint : x.1.number.toNat = y.1.number.toNat →
    x.2.pidA ∉ [y.2.pidA, y.2.pidB] ∧ x.2.pidB ∉ [y.2.pidA, y.2.pidB]
  different : ¬ (x.2.pidA = y.2.pidA ∧ x.2.pidB = y.2.pidB)

theorem number_of_valid (valid : ValidSchedule pids numRounds schedule) (member : rnd ∈ schedule.rounds) :
    1 ≤ rnd.number ∧ rnd.number ≤ numRounds := by
  have listed := valid.numbers.mem_iff.mp (List.mem_map_of_mem member)
  simp only [roundNumbers, List.mem_map, List.mem_range] at listed
  obtain ⟨i, small, same⟩ := listed
  omega

theorem numbers_ne (valid : ValidSchedule pids numRounds schedule) :
    schedule.rounds.Pairwise fun r s => r.number ≠ s.number :=
  List.pairwise_map.mp (valid.numbers.nodup_iff.mpr (nodup_roundNumbers numRounds))

theorem separate_within (valid : ValidSchedule pids numRounds schedule) (member : rnd ∈ schedule.rounds) :
    (rnd.pairs.map fun sp => (rnd, sp)).Pairwise Separate := by
  have nodup : (endpoints (rnd.pairs.map fun sp => (sp.pidA, sp.pidB))).Nodup :=
    (valid.rounds rnd member).nodup.of_append_left
  rw [endpoints, List.nodup_flatMap, List.pairwise_map] at nodup
  refine List.pairwise_map.mpr (nodup.2.imp fun {sp other} apart => ?_)
  have first : sp.pidA ∉ [other.pidA, other.pidB] := fun there => apart List.mem_cons_self there
  have second : sp.pidB ∉ [other.pidA, other.pidB] := fun there =>
    apart (List.mem_cons_of_mem _ List.mem_cons_self) there
  exact ⟨fun _ => ⟨first, second⟩, fun same => first (List.mem_cons.mpr (.inl same.1))⟩

theorem separate_across (valid : ValidSchedule pids numRounds schedule) :
    schedule.rounds.Pairwise fun r s => ∀ sp ∈ r.pairs, ∀ other ∈ s.pairs, Separate (r, sp) (s, other) := by
  apply ((numbers_ne valid).and valid.noRepeat).imp_of_mem
  intro r s member member' both sp inRound other inRound'
  obtain ⟨numbers, noRepeat⟩ := both
  refine ⟨fun same => ?_, fun same => ?_⟩
  · have positive := (number_of_valid valid member).1
    have positive' := (number_of_valid valid member').1
    simp only at same
    omega
  · exact noRepeat sp.pidA sp.pidB ⟨sp, inRound, .inl ⟨rfl, rfl⟩⟩ ⟨other, inRound', .inl ⟨same.1.symm, same.2.symm⟩⟩

theorem separate_of_valid (valid : ValidSchedule pids numRounds schedule) :
    (schedulePairs schedule).Pairwise Separate := by
  rw [schedulePairs, List.pairwise_flatMap]
  refine ⟨fun r member => separate_within valid member, (separate_across valid).imp ?_⟩
  intro r s separate x inFirst y inSecond
  obtain ⟨sp, inRound, rfl⟩ := List.mem_map.mp inFirst
  obtain ⟨other, inRound', rfl⟩ := List.mem_map.mp inSecond
  exact separate sp inRound other inRound'

theorem mem_schedulePairs {x : ScheduleRound × SchedulePair} :
    x ∈ schedulePairs schedule ↔ x.1 ∈ schedule.rounds ∧ x.2 ∈ x.1.pairs := by
  simp only [schedulePairs, List.mem_flatMap, List.mem_map]
  constructor
  · rintro ⟨r, member, sp, inRound, rfl⟩
    exact ⟨member, inRound⟩
  · rintro ⟨member, inRound⟩
    exact ⟨x.1, member, x.2, inRound, rfl⟩

/-- The rows that a valid schedule is written as. -/
theorem pairRecords_of_valid (valid : ValidSchedule pids numRounds schedule) :
    pairRecords event schedule = pure ((schedulePairs schedule).map (storedPair event)) := by
  have rows : (schedulePairs schedule).mapM (fun x => pairRecord event x.1 x.2) =
      some ((schedulePairs schedule).map (storedPair event)) := by
    rw [mapM_eq_some, List.map_map]
    apply List.map_congr_left
    intro x member
    obtain ⟨inSchedule, inRound⟩ := mem_schedulePairs.mp member
    exact pairRecord_of_lt ((valid.rounds x.1 inSchedule).ordered x.2 inRound)
  rw [pairRecords, rows]

/-! ## Constraints of the tables -/

/-- What the constraints of `Round` and `Pair` and the trigger say of the stored rows. -/
structure Constraints (db : Database) : Prop where
  roundNumber : db.rounds.Pairwise fun r s => ¬ (r.event = s.event ∧ r.round.number = s.round.number)
  roundEnds : ∀ r ∈ db.rounds, r.round.startsAt < r.round.endsAt
  home : ∀ pair ∈ db.pairs, pair.round.1 = pair.event
  ordered : ∀ pair ∈ db.pairs, pair.Ordered
  onePair : db.pairs.Pairwise fun other pair => ¬ pair.Clash other
  uniquePair : db.pairs.Pairwise fun other pair => ¬ (other.event = pair.event ∧
    other.participantA = pair.participantA ∧ other.participantB = pair.participantB)
  uniqueA : db.pairs.Pairwise fun other pair => ¬ (other.round = pair.round ∧ other.participantA = pair.participantA)
  uniqueB : db.pairs.Pairwise fun other pair => ¬ (other.round = pair.round ∧ other.participantB = pair.participantB)
  uniqueRoom : db.pairs.Pairwise fun other pair => other.roomId ≠ pair.roomId

theorem pairwise_concat {α : Type} {xs : List α} {x : α} {R : α → α → Prop} (old : xs.Pairwise R)
    (new : ∀ y ∈ xs, R y x) : (xs ++ [x]).Pairwise R := by
  refine List.pairwise_append.mpr ⟨old, List.pairwise_singleton R x, fun y member z single => ?_⟩
  rw [List.mem_singleton.mp single]
  exact new y member

theorem Constraints.deleteRounds (constraints : Constraints db) (eventPk : String) :
    Constraints (db.deleteRounds eventPk) := by
  have kept : ∀ pair ∈ (db.deleteRounds eventPk).pairs, pair ∈ db.pairs := fun _ member => List.mem_of_mem_filter member
  exact
    { roundNumber := constraints.roundNumber.filter _
      roundEnds := fun r member => constraints.roundEnds r (List.mem_of_mem_filter member)
      home := fun pair member => constraints.home pair (kept pair member)
      ordered := fun pair member => constraints.ordered pair (kept pair member)
      onePair := constraints.onePair.filter _
      uniquePair := constraints.uniquePair.filter _
      uniqueA := constraints.uniqueA.filter _
      uniqueB := constraints.uniqueB.filter _
      uniqueRoom := constraints.uniqueRoom.filter _ }

/-- An inserted row satisfies the constraints. -/
theorem Constraints.insertRound (constraints : Constraints db) {row : RoundRecord} (fits : RoundFits db row) :
    Constraints { db with rounds := db.rounds ++ [row] } := by
  refine { constraints with roundNumber := pairwise_concat constraints.roundNumber fits.fresh, roundEnds := ?_ }
  intro r member
  cases List.mem_append.mp member with
  | inl old => exact constraints.roundEnds r old
  | inr new => rw [List.mem_singleton.mp new]; exact fits.ends

theorem Constraints.insertPair (constraints : Constraints db) {row : PairRecord} (fits : PairFits db row) :
    Constraints { db with pairs := db.pairs ++ [row] } := by
  refine { constraints with
    home := ?_
    ordered := ?_
    onePair := pairwise_concat constraints.onePair fits.alone
    uniquePair := pairwise_concat constraints.uniquePair fits.uniquePair
    uniqueA := pairwise_concat constraints.uniqueA fits.uniqueA
    uniqueB := pairwise_concat constraints.uniqueB fits.uniqueB
    uniqueRoom := pairwise_concat constraints.uniqueRoom fits.uniqueRoom }
  · intro pair member
    cases List.mem_append.mp member with
    | inl old => exact constraints.home pair old
    | inr new =>
      rw [List.mem_singleton.mp new]
      obtain ⟨r, _, key, event⟩ := fits.round
      rw [← key]
      exact event
  · intro pair member
    cases List.mem_append.mp member with
    | inl old => exact constraints.ordered pair old
    | inr new => rw [List.mem_singleton.mp new]; exact fits.ordered

/-! ## Inserting -/

/-- The texts that are hashed, now or for the rows that are there. -/
def hashedTexts (db : Database) (event : Event) (schedule : GeneratedSchedule) : Set String :=
  {text | ∃ row : PairRecord, (row ∈ db.pairs ∨ ∃ x ∈ schedulePairs schedule, pairRecord event x.1 x.2 = some row) ∧
    text = row.roomText}

/-- The rooms of the other events: digests of their own texts, or names given by hand. -/
def RoomsHashed (db : Database) (event : Event) : Prop :=
  ∀ pair ∈ db.pairs, pair.event ≠ event.pk →
    pair.roomId = roomDigest pair.roomText ∨ ∀ text, pair.roomId ≠ roomDigest text

/-- What the UUID columns promise. -/
structure UuidColumns (db : Database) (event : Event) : Prop where
  eventPk : Plain event.pk
  pairs : ∀ pair ∈ db.pairs, Plain pair.event ∧ Plain pair.participantA
  participants : ∀ p ∈ db.participants, Plain p.participant.pk
  distinct : DistinctUuids (db.pidsOf event.pk)

/-- A schedule over the participants of the event, with no violation, and names of rooms
    without a collision. -/
structure Fitting (db : Database) (event : Event) (schedule : GeneratedSchedule) : Prop where
  small : event.numRounds ≤ 32767
  columns : UuidColumns db event
  constraints : Constraints db
  rooms : RoomsHashed db event
  injective : Set.InjOn roomDigest (hashedTexts db event schedule)
  valid : validateSchedule schedule (db.pidsOf event.pk) event.numRounds = []

theorem Fitting.validSchedule (fitting : Fitting db event schedule) :
    ValidSchedule (db.pidsOf event.pk) event.numRounds schedule :=
  validSchedule_of_accepted fitting.columns.distinct (Int.natCast_nonneg _) fitting.valid

theorem mem_pidsOf {eventPk pid : String} :
    pid ∈ db.pidsOf eventPk ↔ ∃ p ∈ db.participants, p.participant.pk = pid ∧ p.event = eventPk := by
  simp only [Database.pidsOf, Database.participantsOf, List.mem_toFinset, List.mem_map, List.mem_filter,
    decide_eq_true_eq]
  constructor
  · rintro ⟨participant, ⟨p, ⟨member, event⟩, rfl⟩, same⟩
    exact ⟨p, member, same, event⟩
  · rintro ⟨p, member, same, event⟩
    exact ⟨p.participant, ⟨p, ⟨member, event⟩, rfl⟩, same⟩

theorem members_of_valid (valid : ValidSchedule pids numRounds schedule) {x : ScheduleRound × SchedulePair}
    (member : x ∈ schedulePairs schedule) : x.2.pidA ∈ pids ∧ x.2.pidB ∈ pids := by
  obtain ⟨inSchedule, inRound⟩ := mem_schedulePairs.mp member
  have everyone := (valid.rounds x.1 inSchedule).everyone
  have ends : ∀ pid, pid = x.2.pidA ∨ pid = x.2.pidB → pid ∈ pids := fun pid isEnd =>
    (everyone pid).mp (List.mem_append_left _
      (mem_endpoints.mpr ⟨(x.2.pidA, x.2.pidB), List.mem_map.mpr ⟨x.2, inRound, rfl⟩, isEnd⟩))
  exact ⟨ends _ (.inl rfl), ends _ (.inr rfl)⟩

/-- The tables with the first rounds written. -/
def withRounds (db : Database) (event : Event) (rows : List RoundRecord) : Database :=
  { db.deleteRounds event.pk with rounds := (db.deleteRounds event.pk).rounds ++ rows }

def withPairs (db : Database) (event : Event) (schedule : GeneratedSchedule) (rows : List PairRecord) : Database :=
  { withRounds db event (schedule.rounds.map (roundRecord event)) with
    pairs := (db.deleteRounds event.pk).pairs ++ rows }

theorem round_ne_of_kept {pair : PairRecord} (member : pair ∈ (db.deleteRounds event.pk).pairs) :
    pair.round.1 ≠ event.pk := by
  simpa using (List.mem_filter.mp member).2

theorem event_ne_of_kept (constraints : Constraints db) {pair : PairRecord}
    (member : pair ∈ (db.deleteRounds event.pk).pairs) : pair.event ≠ event.pk := by
  rw [← constraints.home pair (List.mem_of_mem_filter member)]
  exact round_ne_of_kept member

theorem insertRounds_ok (fitting : Fitting db event schedule) :
    ((schedule.rounds.map (roundRecord event)).forM insertRound).runOn (db.deleteRounds event.pk) =
      (.ok (), withRounds db event (schedule.rounds.map (roundRecord event))) := by
  have valid := fitting.validSchedule
  have empty : db.deleteRounds event.pk = withRounds db event [] := by simp [withRounds]
  rw [empty]
  apply Db.runOn_forM_ok
  intro before row rest split
  refine runOn_insertRound.mpr ⟨?_, by simp [withRounds]⟩
  have member : row ∈ schedule.rounds.map (roundRecord event) := by simp [split]
  obtain ⟨rnd, inSchedule, rfl⟩ := List.mem_map.mp member
  have number := number_of_valid valid inSchedule
  have small := fitting.small
  refine ⟨?_, ?_, fun other there same => ?_⟩
  · simp only [roundRecord, persistRoundRow]
    omega
  · have positive := event.durationPositive
    simp only [roundRecord, persistRoundRow]
    omega
  · obtain ⟨sameEvent, sameNumber⟩ := same
    cases List.mem_append.mp there with
    | inl kept =>
      have elsewhere : other.event ≠ event.pk := by simpa using (List.mem_filter.mp kept).2
      exact elsewhere sameEvent
    | inr earlier =>
      have numbers : (before ++ roundRecord event rnd :: rest).Pairwise fun r s => r.round.number ≠ s.round.number := by
        rw [← split, List.pairwise_map]
        refine (numbers_ne valid).imp_of_mem fun {r s} inFirst inSecond different => ?_
        have first := number_of_valid valid inFirst
        have second := number_of_valid valid inSecond
        simp only [roundRecord, persistRoundRow]
        omega
      exact (List.pairwise_append.mp numbers).2.2 other earlier _ List.mem_cons_self sameNumber

theorem roomText_storedPair (x : ScheduleRound × SchedulePair) :
    (storedPair event x).roomId = roomDigest (storedPair event x).roomText := rfl

/-- Two rooms of one name have one text. -/
theorem Fitting.room_inj (fitting : Fitting db event schedule) {row : PairRecord} {x : ScheduleRound × SchedulePair}
    (hashed : row.roomText ∈ hashedTexts db event schedule) (member : x ∈ schedulePairs schedule)
    (plain : Plain row.event ∧ Plain row.participantA) (same : roomDigest row.roomText = (storedPair event x).roomId) :
    row.event = event.pk ∧ row.participantA = x.2.pidA ∧ row.participantB = x.2.pidB := by
  have valid := fitting.validSchedule
  obtain ⟨inSchedule, inRound⟩ := mem_schedulePairs.mp member
  have order := (valid.rounds x.1 inSchedule).ordered x.2 inRound
  have hashed' : (storedPair event x).roomText ∈ hashedTexts db event schedule :=
    ⟨storedPair event x, .inr ⟨x, member, pairRecord_of_lt order⟩, rfl⟩
  have texts := fitting.injective hashed hashed' same
  have plainA : Plain x.2.pidA := by
    obtain ⟨p, inParticipants, pk, _⟩ := mem_pidsOf.mp (members_of_valid valid member).1
    rw [← pk]
    exact fitting.columns.participants p inParticipants
  obtain ⟨sameEvent, _, first, second⟩ := roomText_inj plain.1 fitting.columns.eventPk plain.2 plainA texts
  exact ⟨sameEvent, first, second⟩

theorem pairFits_of_valid (fitting : Fitting db event schedule) {before rest : List (ScheduleRound × SchedulePair)}
    {x : ScheduleRound × SchedulePair} (split : schedulePairs schedule = before ++ x :: rest) :
    PairFits (withPairs db event schedule (before.map (storedPair event))) (storedPair event x) := by
  have valid := fitting.validSchedule
  have member : x ∈ schedulePairs schedule := by simp [split]
  obtain ⟨inSchedule, inRound⟩ := mem_schedulePairs.mp member
  obtain ⟨memberA, memberB⟩ := members_of_valid valid member
  have separate : ∀ y ∈ before, Separate y x := by
    have all := separate_of_valid valid
    rw [split] at all
    exact fun y earlier => (List.pairwise_append.mp all).2.2 y earlier x List.mem_cons_self
  -- a row that is there belongs to another event, or to an earlier pair of the schedule
  have cases_ : ∀ other ∈ (withPairs db event schedule (before.map (storedPair event))).pairs,
      (other ∈ (db.deleteRounds event.pk).pairs) ∨ ∃ y ∈ before, storedPair event y = other := fun other there =>
    (List.mem_append.mp there).imp_right List.mem_map.mp
  have sameRound : ∀ y : ScheduleRound × SchedulePair, (storedPair event y).round = (storedPair event x).round →
      y.1.number.toNat = x.1.number.toNat := fun y same => (Prod.mk.inj same).2
  refine
    { round := ⟨roundRecord event x.1, List.mem_append_right _ (List.mem_map_of_mem inSchedule), rfl, rfl⟩
      memberA := mem_pidsOf.mp memberA
      memberB := mem_pidsOf.mp memberB
      alone := fun other there clash => ?_
      room := by simp [roomText_storedPair, length_roomDigest]
      ordered := (valid.rounds x.1 inSchedule).ordered x.2 inRound
      uniquePair := fun other there same => ?_
      uniqueA := fun other there same => ?_
      uniqueB := fun other there same => ?_
      uniqueRoom := fun other there same => ?_ }
  · cases cases_ other there with
    | inl kept => exact round_ne_of_kept kept (congrArg Prod.fst clash.1)
    | inr earlier =>
      obtain ⟨y, inBefore, rfl⟩ := earlier
      obtain ⟨apartA, apartB⟩ := (separate y inBefore).disjoint (sameRound y clash.1)
      exact clash.2.elim apartA apartB
  · cases cases_ other there with
    | inl kept => exact event_ne_of_kept fitting.constraints kept same.1
    | inr earlier =>
      obtain ⟨y, inBefore, rfl⟩ := earlier
      exact (separate y inBefore).different same.2
  · cases cases_ other there with
    | inl kept => exact round_ne_of_kept kept (congrArg Prod.fst same.1)
    | inr earlier =>
      obtain ⟨y, inBefore, rfl⟩ := earlier
      exact ((separate y inBefore).disjoint (sameRound y same.1)).1 (List.mem_cons.mpr (.inl same.2))
  · cases cases_ other there with
    | inl kept => exact round_ne_of_kept kept (congrArg Prod.fst same.1)
    | inr earlier =>
      obtain ⟨y, inBefore, rfl⟩ := earlier
      exact ((separate y inBefore).disjoint (sameRound y same.1)).2
        (List.mem_cons_of_mem _ (List.mem_singleton.mpr same.2))
  · cases cases_ other there with
    | inl kept =>
      have inDb : other ∈ db.pairs := List.mem_of_mem_filter kept
      have elsewhere := event_ne_of_kept fitting.constraints kept
      cases fitting.rooms other inDb elsewhere with
      | inl digest =>
        rw [digest] at same
        exact elsewhere (fitting.room_inj ⟨other, .inl inDb, rfl⟩ member (fitting.columns.pairs other inDb) same).1
      | inr foreign => exact foreign _ same
    | inr earlier =>
      obtain ⟨y, inBefore, rfl⟩ := earlier
      have inPairs : y ∈ schedulePairs schedule := by simp [split, inBefore]
      obtain ⟨inSchedule', inRound'⟩ := mem_schedulePairs.mp inPairs
      have order := (valid.rounds y.1 inSchedule').ordered y.2 inRound'
      have plainA : Plain y.2.pidA := by
        obtain ⟨p, inParticipants, pk, _⟩ := mem_pidsOf.mp (members_of_valid valid inPairs).1
        rw [← pk]
        exact fitting.columns.participants p inParticipants
      have same_ := @Fitting.room_inj _ _ _ fitting (storedPair event y) _ ⟨_, .inr ⟨y, inPairs, pairRecord_of_lt order⟩, rfl⟩
        member ⟨fitting.columns.eventPk, plainA⟩ same
      exact (separate y inBefore).different same_.2

theorem insertPairs_ok (fitting : Fitting db event schedule) :
    (((schedulePairs schedule).map (storedPair event)).forM insertPair).runOn
        (withRounds db event (schedule.rounds.map (roundRecord event))) =
      (.ok (), withPairs db event schedule ((schedulePairs schedule).map (storedPair event))) := by
  have empty : withRounds db event (schedule.rounds.map (roundRecord event)) = withPairs db event schedule [] := by
    simp [withPairs, withRounds]
  rw [empty]
  apply Db.runOn_forM_ok
  intro before row rest split
  refine runOn_insertPair.mpr ⟨?_, by simp [withPairs]⟩
  obtain ⟨before', later, split', rfl, tail⟩ := List.map_eq_append_iff.mp split
  obtain ⟨x, rest', rfl, rfl, rfl⟩ := List.map_eq_cons_iff.mp tail
  exact pairFits_of_valid fitting split'

theorem persistRows_ok (fitting : Fitting db event schedule) :
    (persistRows event schedule).runOn db =
      (.ok (), withPairs db event schedule ((schedulePairs schedule).map (storedPair event))) := by
  have nonneg : (schedule.rounds.all fun rnd => decide (0 ≤ rnd.number)) = true := by
    rw [List.all_eq_true]
    intro rnd member
    have positive := (number_of_valid fitting.validSchedule member).1
    simp only [decide_eq_true_eq]
    omega
  apply Db.runOn_atomic_eq_ok.mpr
  rw [Db.runOn_bind_ok (Db.runOn_modify _ db), Db.runOn_require_bind_eq_ok]
  refine ⟨nonneg, ?_⟩
  rw [Db.runOn_bind_ok (insertRounds_ok fitting), pairRecords_of_valid fitting.validSchedule,
    Db.runOn_bind_ok (Db.runOn_pure _ _)]
  exact insertPairs_ok fitting

theorem runOn_pairRecords {event : EventColumns} {rows : List PairRecord}
    (read : (pairRecords event schedule).runOn db = (.ok rows, after)) :
    (schedulePairs schedule).mapM (fun (rnd, sp) => pairRecord event rnd sp) = some rows ∧ after = db := by
  simp only [pairRecords] at read
  split at read
  · cases read
  next found =>
    cases read
    exact ⟨found, rfl⟩

theorem foldl_addRound (rows : List RoundRecord) :
    rows.foldl (fun db row => { db with rounds := db.rounds ++ [row] }) db = { db with rounds := db.rounds ++ rows } := by
  induction rows generalizing db with
  | nil => simp
  | cons row rows ih => simp [ih]

theorem foldl_addPair (rows : List PairRecord) :
    rows.foldl (fun db row => { db with pairs := db.pairs ++ [row] }) db = { db with pairs := db.pairs ++ rows } := by
  induction rows generalizing db with
  | nil => simp
  | cons row rows ih => simp [ih]

/-- Whatever the schedule is, its rounds have been written, some pairs, and nothing else. -/
theorem persistRows_tables {event : EventColumns} (ran : (persistRows event schedule).runOn db = (.ok (), after)) :
    ∃ rows, after =
      { db.deleteRounds event.pk with
        rounds := (db.deleteRounds event.pk).rounds ++ schedule.rounds.map (roundRecord event)
        pairs := (db.deleteRounds event.pk).pairs ++ rows } := by
  have body := Db.runOn_atomic_eq_ok.mp ran
  rw [Db.runOn_bind_ok (Db.runOn_modify _ db), Db.runOn_require_bind_eq_ok] at body
  obtain ⟨_, _, middle, written, rest⟩ := And.imp_right Db.runOn_bind_eq_ok.mp body
  obtain ⟨rows, read, found, inserted⟩ := Db.runOn_bind_eq_ok.mp rest
  obtain ⟨_, rfl⟩ := runOn_pairRecords found
  have rounds := Db.runOn_forM_foldl (fun row t t' inserts => (runOn_insertRound.mp inserts).2) written
  have pairs := Db.runOn_forM_foldl (fun row t t' inserts => (runOn_insertPair.mp inserts).2) inserted
  rw [foldl_addRound] at rounds
  rw [foldl_addPair, rounds] at pairs
  exact ⟨rows, pairs⟩

/-- The rows of a valid schedule, when they have been written. -/
theorem persistRows_written (valid : ValidSchedule pids numRounds schedule)
    (ran : (persistRows event schedule).runOn db = (.ok (), after)) :
    after = withPairs db event schedule ((schedulePairs schedule).map (storedPair event)) := by
  have body := Db.runOn_atomic_eq_ok.mp ran
  rw [Db.runOn_bind_ok (Db.runOn_modify _ db), Db.runOn_require_bind_eq_ok] at body
  obtain ⟨_, _, middle, written, rest⟩ := And.imp_right Db.runOn_bind_eq_ok.mp body
  rw [pairRecords_of_valid valid, Db.runOn_bind_ok (Db.runOn_pure _ _)] at rest
  have rounds := Db.runOn_forM_foldl (fun row t t' inserted => (runOn_insertRound.mp inserted).2) written
  have pairs := Db.runOn_forM_foldl (fun row t t' inserted => (runOn_insertPair.mp inserted).2) rest
  rw [foldl_addRound] at rounds
  rw [foldl_addPair, rounds] at pairs
  exact pairs

/-- Whatever is persisted satisfies the constraints. -/
theorem persistRows_constraints (constraints : Constraints db)
    (ran : (persistRows event schedule).runOn db = (.ok (), after)) : Constraints after := by
  have body := Db.runOn_atomic_eq_ok.mp ran
  rw [Db.runOn_bind_ok (Db.runOn_modify _ db), Db.runOn_require_bind_eq_ok] at body
  obtain ⟨_, _, middle, written, rest⟩ := And.imp_right Db.runOn_bind_eq_ok.mp body
  obtain ⟨rows, read, found, inserted⟩ := Db.runOn_bind_eq_ok.mp rest
  obtain ⟨_, rfl⟩ := runOn_pairRecords found
  have rounds : Constraints read := by
    refine Db.runOn_forM_invariant (fun row _ t t' kept inserts => ?_) (constraints.deleteRounds event.pk) written
    obtain ⟨fits, rfl⟩ := runOn_insertRound.mp inserts
    exact kept.insertRound fits
  refine Db.runOn_forM_invariant (fun row _ t t' kept inserts => ?_) rounds inserted
  obtain ⟨fits, rfl⟩ := runOn_insertPair.mp inserts
  exact kept.insertPair fits

/-! ## Reading back -/

theorem roundRecord_event {event : EventColumns} :
    ∀ row ∈ schedule.rounds.map (roundRecord event), row.event = event.pk := by
  intro row member
  obtain ⟨rnd, _, rfl⟩ := List.mem_map.mp member
  rfl

/-- The rounds that were there are gone, and the new ones are all the event's. -/
theorem rounds_replaced {event : EventColumns} :
    ((db.deleteRounds event.pk).rounds ++ schedule.rounds.map (roundRecord event)).filter (·.event = event.pk) =
      schedule.rounds.map (roundRecord event) :=
  filter_owner_replaced (fun _ _ kept => of_decide_eq_true kept) roundRecord_event

theorem roundsOf_withPairs (rows : List PairRecord) :
    (withPairs db event schedule rows).roundsOf event.pk = schedule.rounds.map (roundRecord event) :=
  rounds_replaced

/-- In a list without two equal keys, the entries of one key are those of one member. -/
theorem flatMap_eq_of_key {α β κ : Type} [DecidableEq κ] {xs : List α} {key : α → κ} {f : α → List β} {x : α}
    (distinct : xs.Pairwise fun a b => key a ≠ key b) (member : x ∈ xs) :
    (xs.flatMap fun a => if key a = key x then f a else []) = f x := by
  induction xs with
  | nil => cases member
  | cons a xs ih =>
    obtain ⟨apart, rest⟩ := List.pairwise_cons.mp distinct
    rw [List.flatMap_cons]
    cases List.mem_cons.mp member with
    | inl here =>
      subst here
      have none_ : (xs.flatMap fun b => if key b = key x then f b else []) = [] := by
        apply List.flatMap_eq_nil_iff.mpr
        intro b later
        rw [if_neg (apart b later).symm]
      simp [none_]
    | inr later =>
      rw [if_neg (apart x later), ih rest later, List.nil_append]

theorem pairs_of_round (db : Database) (event : Event) (valid : ValidSchedule pids numRounds schedule) (member : rnd ∈ schedule.rounds) :
    ((withPairs db event schedule ((schedulePairs schedule).map (storedPair event))).pairs.filter
        (·.round = (event.pk, rnd.number.toNat))) = rnd.pairs.map fun sp => storedPair event (rnd, sp) := by
  have others : (db.deleteRounds event.pk).pairs.filter (·.round = (event.pk, rnd.number.toNat)) = [] := by
    apply List.filter_eq_nil_iff.mpr
    intro pair kept same
    exact round_ne_of_kept kept (congrArg Prod.fst (of_decide_eq_true same))
  have distinct : schedule.rounds.Pairwise fun r s => r.number.toNat ≠ s.number.toNat := by
    refine (numbers_ne valid).imp_of_mem fun {r s} inFirst inSecond different => ?_
    have first := number_of_valid valid inFirst
    have second := number_of_valid valid inSecond
    omega
  have own : ∀ r : ScheduleRound, ((r.pairs.map fun sp => (r, sp)).map (storedPair event)).filter
      (·.round = (event.pk, rnd.number.toNat)) =
        if r.number.toNat = rnd.number.toNat then r.pairs.map fun sp => storedPair event (r, sp) else [] := by
    intro r
    by_cases same : r.number.toNat = rnd.number.toNat <;>
      simp [storedPair, same, List.filter_map, Function.comp_def]
  change List.filter _ (_ ++ _) = _
  rw [List.filter_append, others, List.nil_append, schedulePairs, List.map_flatMap, List.filter_flatMap]
  simp only [own]
  exact flatMap_eq_of_key (f := fun r => r.pairs.map fun sp => storedPair event (r, sp)) distinct member

/-- What is read back is the schedule. -/
theorem readSchedule_of_valid (valid : ValidSchedule pids numRounds schedule) :
    ((withPairs db event schedule ((schedulePairs schedule).map (storedPair event))).readSchedule event.pk).map
        (fun r => ((r.1 : Int), r.2)) =
      schedule.rounds.map fun r => (r.number, r.pairs.map fun sp => (sp.pidA, sp.pidB)) := by
  rw [Database.readSchedule, roundsOf_withPairs, List.map_map, List.map_map]
  apply List.map_congr_left
  intro rnd member
  have positive := (number_of_valid valid member).1
  have pairs := pairs_of_round db event valid member
  have number : (roundRecord event rnd).round.number = rnd.number.toNat := rfl
  simp only [Function.comp_apply, number, pairs, List.map_map]
  refine Prod.ext (by simp; omega) ?_
  rfl

/-- The rows of a valid schedule are inserted without an error, satisfy all constraints, and
    are read back as the schedule. -/
theorem valid_schedule_fits (fitting : Fitting db event schedule) :
    ∃ after, (persistRows event schedule).runOn db = (.ok (), after) ∧ Constraints after ∧
      after.roundsOf event.pk = schedule.rounds.map (roundRecord event) ∧
      (after.readSchedule event.pk).map (fun r => ((r.1 : Int), r.2)) =
        schedule.rounds.map fun r => (r.number, r.pairs.map fun sp => (sp.pidA, sp.pidB)) := by
  have ran := persistRows_ok fitting
  exact ⟨_, ran, persistRows_constraints fitting.constraints ran, roundsOf_withPairs _,
    readSchedule_of_valid fitting.validSchedule⟩

def oneRoundEvent : Event := { twoRoundEvent with numRounds := 1, roundsPositive := Nat.one_pos }

/-- The schedule is persisted a second time. -/
def persistedOnce : Database where
  events := []
  participants := [⟨oneRoundEvent.pk, ⟨"00000000-0000-0000-0000-000000000001", "Ann", []⟩⟩,
    ⟨oneRoundEvent.pk, ⟨"00000000-0000-0000-0000-000000000002", "Ben", []⟩⟩]
  rounds := onePairSchedule.rounds.map (roundRecord oneRoundEvent)
  pairs := (schedulePairs onePairSchedule).map (storedPair oneRoundEvent)
  logs := []
  attached := []

theorem fitting_persistedOnce : Fitting persistedOnce oneRoundEvent onePairSchedule where
  small := by decide
  columns :=
    { eventPk := by decide +kernel
      pairs := by
        simp only [persistedOnce, schedulePairs, onePairSchedule]
        decide +kernel
      participants := by
        simp only [persistedOnce]
        decide +kernel
      distinct := by constructor <;> decide +kernel }
  constraints :=
    { roundNumber := by simp [persistedOnce, onePairSchedule]
      roundEnds := by decide +kernel
      home := by simp [persistedOnce, schedulePairs, onePairSchedule, storedPair]
      ordered := by
        simp only [persistedOnce, schedulePairs, onePairSchedule]
        decide +kernel
      onePair := by simp [persistedOnce, schedulePairs, onePairSchedule]
      uniquePair := by simp [persistedOnce, schedulePairs, onePairSchedule]
      uniqueA := by simp [persistedOnce, schedulePairs, onePairSchedule]
      uniqueB := by simp [persistedOnce, schedulePairs, onePairSchedule]
      uniqueRoom := by simp [persistedOnce, schedulePairs, onePairSchedule] }
  rooms := by
    intro pair member other
    obtain ⟨x, _, rfl⟩ := List.mem_map.mp member
    exact absurd rfl other
  injective := by
    -- the old row and the new one have one text
    have only : ∀ text ∈ hashedTexts persistedOnce oneRoundEvent onePairSchedule,
        text = roomText oneRoundEvent.pk 1 "00000000-0000-0000-0000-000000000001"
          "00000000-0000-0000-0000-000000000002" := by
      rintro text ⟨row, (stored | ⟨x, member, written⟩), rfl⟩
      · simp only [persistedOnce, schedulePairs, onePairSchedule, List.flatMap_cons, List.flatMap_nil, List.map_cons,
          List.map_nil, List.append_nil, List.mem_singleton] at stored
        rw [stored]
        rfl
      · simp only [schedulePairs, onePairSchedule, List.flatMap_cons, List.flatMap_nil, List.map_cons,
          List.map_nil, List.append_nil, List.mem_singleton] at member
        subst member
        rw [pairRecord_of_lt (by decide +kernel)] at written
        cases written
        rfl
    intro text member text' member' _
    rw [only text member, only text' member']
  valid := by decide +kernel

/-- The second time the rows are the same again. -/
theorem persisted_again : ∃ after, (persistRows oneRoundEvent onePairSchedule).runOn persistedOnce = (.ok (), after) ∧
    Constraints after ∧ after.roundsOf oneRoundEvent.pk = onePairSchedule.rounds.map (roundRecord oneRoundEvent) ∧
      (after.readSchedule oneRoundEvent.pk).map (fun r => ((r.1 : Int), r.2)) =
        onePairSchedule.rounds.map fun r => (r.number, r.pairs.map fun sp => (sp.pidA, sp.pidB)) :=
  valid_schedule_fits fitting_persistedOnce

end EventPlatform.Scheduling
