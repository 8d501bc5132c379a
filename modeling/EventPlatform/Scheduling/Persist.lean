import EventPlatform.Matching.Soundness
import EventPlatform.Scheduling.Timeline
import EventPlatform.Lib.PyText
import EventPlatform.Lib.Sha256

/-! # Persisting a generated schedule

`buildMatchInput` reads the participants of an event for the matching engine,
`persistSchedule` replaces its rounds and pairs by the generated ones. -/

namespace EventPlatform.Scheduling

open EventPlatform.Lib EventPlatform.Matching

/-! ## The service -/

def buildParticipantProfile (participant : Participant) : ParticipantProfile :=
  ⟨(participant.tags.map (·.pk)).toFinset⟩

/-- `weights` is what `build_scoring_weights` has made of the event's configuration. -/
def buildMatchInput (event : Event) (participants : List Participant) (weights : ScoringWeights) :
    MatchInput where
  participants :=
    (participants.map fun p => (⟨p.pk, buildParticipantProfile p⟩ : MatchParticipant)).insertionSort
      fun mp mp' => mp.pid ≤ mp'.pid
  numRounds := event.numRounds
  weights := weights

/-- The first 32 characters of the SHA-256 digest. -/
def roomId (event : EventColumns) (roundNumber : Nat) (pidA pidB : String) : String :=
  let text := s!"{event.pk}:{roundNumber}:{pidA}:{pidB}"
  String.ofList ((Sha256.hexdigest (Sha256.sha256 text.toUTF8.data.toList)).take 32)

/-- `none` is the `ValueError` of a malformed id, or the failure of the foreign
    key for an id that is not a participant. -/
def persistPair (event : EventColumns) (participants : List Participant) (roundNumber : Nat)
    (sp : SchedulePair) : Option Pair := do
  let valueA ← uuidValue sp.pidA
  let valueB ← uuidValue sp.pidB
  let (pidA, pidB) := if valueB < valueA then (sp.pidB, sp.pidA) else (sp.pidA, sp.pidB)
  let participantA ← participants.find? (·.pk = pidA)
  let participantB ← participants.find? (·.pk = pidB)
  return ⟨roundNumber, participantA, participantB, roomId event roundNumber pidA pidB⟩

def persistRoundRow (event : EventColumns) (rnd : ScheduleRound) : Round :=
  let step := event.roundDuration + event.breakDuration
  let startsAt := event.startTime + (rnd.number - 1) * step
  ⟨rnd.number.toNat, startsAt, startsAt + event.roundDuration⟩

/-- The existing rows are deleted first; `none` rolls the transaction back. -/
def persistSchedule (event : Event) (participants : List Participant)
    (schedule : GeneratedSchedule) : Option EventStore := do
  let rounds := schedule.rounds.map (persistRoundRow event)
  let pairs ← (schedule.rounds.flatMap fun rnd => rnd.pairs.map fun sp => (rnd, sp)).mapM
    fun (rnd, sp) => persistPair event participants rnd.number.toNat sp
  return ⟨event, rounds, pairs⟩

/-! ## Ids are never blank -/

theorem hexDigit_of_isSpace {c : Char} (space : isSpace c = true) : hexDigit c = none := by
  have range : c.toNat ≤ 32 ∨ 0x85 ≤ c.toNat := by
    simp [isSpace] at space
    omega
  have le : ∀ a b : Char, a ≤ b ↔ a.toNat ≤ b.toNat := fun _ _ => Iff.rfl
  simp only [hexDigit, le]
  rw [if_neg, if_neg, if_neg]
  · show ¬ (65 ≤ c.toNat ∧ c.toNat ≤ 70)
    omega
  · show ¬ (97 ≤ c.toNat ∧ c.toNat ≤ 102)
    omega
  · show ¬ (48 ≤ c.toNat ∧ c.toNat ≤ 57)
    omega

theorem mem_of_mem_removeUrn {c : Char} {cs : List Char} (member : c ∈ removeUrn cs) : c ∈ cs := by
  induction cs using removeUrn.induct with
  | case1 rest ih =>
    rw [removeUrn] at member
    simp [ih member]
  | case2 d rest other ih =>
    rw [removeUrn] at member
    · cases List.mem_cons.mp member with
      | inl here => simp [here]
      | inr later => exact List.mem_cons_of_mem _ (ih later)
    · exact other
  | case3 => cases member

theorem mem_of_mem_removeUuid {c : Char} {cs : List Char} (member : c ∈ removeUuid cs) : c ∈ cs := by
  induction cs using removeUuid.induct with
  | case1 rest ih =>
    rw [removeUuid] at member
    simp [ih member]
  | case2 d rest other ih =>
    rw [removeUuid] at member
    · cases List.mem_cons.mp member with
      | inl here => simp [here]
      | inr later => exact List.mem_cons_of_mem _ (ih later)
    · exact other
  | case3 => cases member

theorem mem_of_mem_uuidHex {c : Char} {pid : String} (member : c ∈ uuidHex pid) :
    c ∈ pid.toList := by
  have kept := List.mem_of_mem_filter member
  simp only [stripBraces, List.mem_reverse] at kept
  have inside := (List.dropWhile_sublist _).mem (List.mem_reverse.mp ((List.dropWhile_sublist _).mem kept))
  exact mem_of_mem_removeUrn (mem_of_mem_removeUuid inside)

theorem isBlank_of_uuidValue {pid : String} (valid : (uuidValue pid).isSome) :
    isBlank pid = false := by
  rw [Bool.eq_false_iff]
  intro blank
  simp only [uuidValue] at valid
  split at valid
  next length =>
    cases hex : uuidHex pid with
    | nil =>
      rw [hex] at length
      cases length
    | cons c rest =>
      have space : isSpace c = true :=
        List.all_eq_true.mp blank c (mem_of_mem_uuidHex (by rw [hex]; exact List.mem_cons_self))
      rw [hex] at valid
      simp [readHex, hexDigit_of_isSpace space] at valid
  next => cases valid

theorem isBlank_roomId (event : Event) (roundNumber : Nat) (pidA pidB : String) :
    isBlank (roomId event roundNumber pidA pidB) = false := by
  have digits : ∀ n < 16, isSpace (Nat.digitChar n) = false := by decide
  simp only [roomId, isBlank, String.toList_ofList]
  generalize Sha256.sha256 _ = state
  cases hex : Sha256.hexdigest state with
  | nil =>
    have := Sha256.length_hexdigest state
    rw [hex] at this
    cases this
  | cons c rest =>
    obtain ⟨n, small, rfl⟩ := Sha256.mem_hexdigest (s := state) (c := c)
      (by rw [hex]; exact List.mem_cons_self)
    simp [digits n small]

/-! ## What is persisted -/

theorem persistPair_some {event : Event} {participants : List Participant} {roundNumber : Nat}
    {sp : SchedulePair} {pair : Pair}
    (persisted : persistPair event participants roundNumber sp = some pair) :
    pair.roundNumber = roundNumber ∧ pair.participantA ∈ participants ∧
      pair.participantB ∈ participants ∧ isBlank pair.roomId = false := by
  simp only [persistPair, Option.bind_eq_bind, Option.bind_eq_some_iff] at persisted
  obtain ⟨_, _, _, _, a, foundA, b, foundB, same⟩ := persisted
  cases same
  exact ⟨rfl, List.mem_of_find?_eq_some foundA, List.mem_of_find?_eq_some foundB,
    isBlank_roomId event roundNumber _ _⟩

theorem mapM_eq_some {α β : Type} {f : α → Option β} {xs : List α} {ys : List β} :
    xs.mapM f = some ys ↔ xs.map f = ys.map some := by
  induction xs generalizing ys with
  | nil => cases ys <;> simp
  | cons x xs ih =>
    simp only [List.mapM_cons, Option.bind_eq_bind, Option.bind_eq_some_iff, List.map_cons]
    constructor
    · rintro ⟨y, image, ys', rest, same⟩
      cases same
      rw [image, ih.mp rest, List.map_cons]
    · intro same
      cases ys with
      | nil => cases same
      | cons y ys =>
        obtain ⟨image, rest⟩ := List.cons.inj same
        exact ⟨y, image, ys, ih.mpr rest, rfl⟩

variable {event : Event} {participants : List Participant} {weights : ScoringWeights}
  {schedule : GeneratedSchedule} {store : EventStore}

theorem participantIds_buildMatchInput (event : Event) (participants : List Participant)
    (weights : ScoringWeights) : participantIds (buildMatchInput event participants weights) =
      (participants.map (·.pk)).toFinset := by
  ext pid
  simp [participantIds, buildMatchInput, List.mem_insertionSort]

/-- The two ids of a generated pair. -/
theorem mem_of_generated
    (distinct : DistinctUuids (participants.map (·.pk)).toFinset)
    (generated : generateSchedule (buildMatchInput event participants weights) = .ok schedule)
    {r : ScheduleRound} (member : r ∈ schedule.rounds) {sp : SchedulePair} (inRound : sp ∈ r.pairs) :
    sp.pidA ∈ participants.map (·.pk) ∧ sp.pidB ∈ participants.map (·.pk) := by
  rw [← participantIds_buildMatchInput event participants weights] at distinct
  have valid := (validSchedule_of_generated distinct generated).rounds r member
  rw [participantIds_buildMatchInput] at valid
  have inIds : ∀ pid, pid = sp.pidA ∨ pid = sp.pidB → pid ∈ participants.map (·.pk) := by
    intro pid isEnd
    refine List.mem_toFinset.mp ((valid.everyone pid).mp (List.mem_append_left _ ?_))
    exact mem_endpoints.mpr ⟨(sp.pidA, sp.pidB), List.mem_map.mpr ⟨sp, inRound, rfl⟩, isEnd⟩
  exact ⟨inIds _ (.inl rfl), inIds _ (.inr rfl)⟩

theorem persistPair_isSome (distinct : DistinctUuids (participants.map (·.pk)).toFinset)
    {sp : SchedulePair} (roundNumber : Nat) (memberA : sp.pidA ∈ participants.map (·.pk))
    (memberB : sp.pidB ∈ participants.map (·.pk)) :
    ∃ pair, persistPair event participants roundNumber sp = some pair := by
  obtain ⟨valueA, parsedA⟩ :=
    Option.isSome_iff_exists.mp (distinct.valid _ (List.mem_toFinset.mpr memberA))
  obtain ⟨valueB, parsedB⟩ :=
    Option.isSome_iff_exists.mp (distinct.valid _ (List.mem_toFinset.mpr memberB))
  have found : ∀ pid ∈ participants.map (·.pk), ∃ p, participants.find? (·.pk = pid) = some p := by
    intro pid member
    obtain ⟨p, inParticipants, rfl⟩ := List.mem_map.mp member
    exact Option.isSome_iff_exists.mp (List.find?_isSome.mpr ⟨p, inParticipants, by simp⟩)
  obtain ⟨a, foundA⟩ := found _ memberA
  obtain ⟨b, foundB⟩ := found _ memberB
  simp only [persistPair, parsedA, parsedB, Option.bind_eq_bind, Option.bind_some]
  split <;> simp [foundA, foundB]

/-- A generated schedule can always be persisted. -/
theorem persistSchedule_isSome (distinct : DistinctUuids (participants.map (·.pk)).toFinset)
    (generated : generateSchedule (buildMatchInput event participants weights) = .ok schedule) :
    ∃ store, persistSchedule event participants schedule = some store := by
  -- each pair of a round is of participants of the event, so its row can be built
  suffices all : ∀ xs : List (ScheduleRound × SchedulePair),
      (∀ x ∈ xs, x.1 ∈ schedule.rounds ∧ x.2 ∈ x.1.pairs) →
      ∃ pairs, xs.mapM (fun (rnd, sp) => persistPair event participants rnd.number.toNat sp) =
        some pairs by
    have inRounds : ∀ x ∈ schedule.rounds.flatMap fun rnd => rnd.pairs.map fun sp => (rnd, sp),
        x.1 ∈ schedule.rounds ∧ x.2 ∈ x.1.pairs := by
      intro x member
      obtain ⟨rnd, inSchedule, inPairs⟩ := List.mem_flatMap.mp member
      obtain ⟨sp, inRound, rfl⟩ := List.mem_map.mp inPairs
      exact ⟨inSchedule, inRound⟩
    obtain ⟨pairs, built⟩ := all _ inRounds
    exact ⟨_, by rw [persistSchedule, built]; rfl⟩
  intro xs
  induction xs with
  | nil => exact fun _ => ⟨[], rfl⟩
  | cons x xs ih =>
    intro member
    obtain ⟨inSchedule, inRound⟩ := member x List.mem_cons_self
    obtain ⟨memberA, memberB⟩ := mem_of_generated distinct generated inSchedule inRound
    obtain ⟨pair, persisted⟩ := @persistPair_isSome event _ distinct x.2 x.1.number.toNat
      memberA memberB
    obtain ⟨pairs, rest⟩ := ih fun y later => member y (List.mem_cons_of_mem _ later)
    exact ⟨pair :: pairs, by simp [persisted, rest]⟩

theorem persistSchedule_rounds
    (generated : generateSchedule (buildMatchInput event participants weights) = .ok schedule)
    (persisted : persistSchedule event participants schedule = some store) :
    store.event = event ∧ store.rounds = plannedRounds event event.startTime := by
  simp only [persistSchedule, Option.bind_eq_bind, Option.bind_eq_some_iff] at persisted
  obtain ⟨pairs, _, same⟩ := persisted
  cases same
  refine ⟨rfl, ?_⟩
  have numbers := numbers_of_generated generated
  have rows : schedule.rounds.map (persistRoundRow event) =
      (schedule.rounds.map (·.number)).map fun n =>
        (⟨n.toNat, event.startTime + (n - 1) * (event.roundDuration + event.breakDuration),
          event.startTime + (n - 1) * (event.roundDuration + event.breakDuration)
            + event.roundDuration⟩ : Round) := by
    rw [List.map_map]
    rfl
  simp only [rows, numbers, roundNumbers, plannedRounds, List.map_map]
  apply List.map_congr_left
  intro i _
  simp [plannedRound]

/-- A pair whose messages can be addressed. -/
structure Addressable (pair : Pair) : Prop where
  room : isBlank pair.roomId = false
  memberA : isBlank pair.participantA.pk = false
  memberB : isBlank pair.participantB.pk = false

theorem persistSchedule_pairs (distinct : DistinctUuids (participants.map (·.pk)).toFinset)
    (generated : generateSchedule (buildMatchInput event participants weights) = .ok schedule)
    (persisted : persistSchedule event participants schedule = some store) :
    (∀ pair ∈ store.pairs, Addressable pair) ∧
      ∀ r ∈ store.rounds, ∃ pair ∈ store.pairs, pair.roundNumber = r.number := by
  simp only [persistSchedule, Option.bind_eq_bind, Option.bind_eq_some_iff] at persisted
  obtain ⟨pairs, built, same⟩ := persisted
  cases same
  have images := mapM_eq_some.mp built
  constructor
  · intro pair member
    obtain ⟨x, _, image⟩ := List.mem_map.mp (images ▸ List.mem_map_of_mem member)
    obtain ⟨_, memberA, memberB, room⟩ := persistPair_some image
    have ids : ∀ p ∈ participants, isBlank p.pk = false := fun p inParticipants =>
      isBlank_of_uuidValue (distinct.valid _ (List.mem_toFinset.mpr (List.mem_map_of_mem inParticipants)))
    exact ⟨room, ids _ memberA, ids _ memberB⟩
  · intro r member
    obtain ⟨rnd, inSchedule, rfl⟩ := List.mem_map.mp member
    have distinct' := distinct
    rw [← participantIds_buildMatchInput event participants weights] at distinct'
    obtain ⟨sp, inRound⟩ := pairs_of_generated distinct' generated rnd inSchedule
    have inAll : (rnd, sp) ∈ schedule.rounds.flatMap fun rnd => rnd.pairs.map fun sp => (rnd, sp) :=
      List.mem_flatMap.mpr ⟨rnd, inSchedule, List.mem_map_of_mem inRound⟩
    -- a round has a pair in the schedule, and that pair was persisted with it
    have image := List.mem_map_of_mem (f := fun (x : ScheduleRound × SchedulePair) =>
      persistPair event participants x.1.number.toNat x.2) inAll
    rw [images] at image
    obtain ⟨pair, inPairs, same⟩ := List.mem_map.mp image
    exact ⟨pair, inPairs, (persistPair_some same.symm).1⟩

end EventPlatform.Scheduling
