import EventPlatform.Matching.Engine
import EventPlatform.Lib.Dict
import EventPlatform.Lib.PyText

/-! # The schedule validator

`validateSchedule` collects every violation it sees; nothing stops it early.
Scores are rationals, so the type and finiteness tests on a score hold and only
its range is left to check, and `score!r` is the rational's own rendering. -/

namespace EventPlatform.Matching

open EventPlatform.Lib

inductive ViolationKind where
  | wrongRoundCount
  | wrongRoundNumbers
  | unmatchedInEvenEvent
  | missingUnmatched
  | unknownParticipant
  | wrongPairCount
  | selfPair
  | wrongCanonicalOrder
  | duplicateInRound
  | scoreOutOfRange
  | repeatedPartner
  | unmatchedPaired
  | unmatchedTwice
deriving DecidableEq

structure ScheduleViolation where
  kind : ViolationKind
  detail : String
deriving DecidableEq

/-! ## Texts -/

def sortedSet (xs : List Int) : List Int := xs.dedup.insertionSort (· ≤ ·)

/-! ## Checks that do not depend on what was seen before -/

/-- `range(1, num_rounds + 1)`. -/
def roundNumbers (numRounds : Int) : List Int :=
  (List.range numRounds.toNat).map fun i : Nat => (i : Int) + 1

def checkRoundNumbers (schedule : GeneratedSchedule) (numRounds : Int) : List ScheduleViolation :=
  let actual := schedule.rounds.map (·.number)
  (if (schedule.rounds.length : Int) ≠ numRounds then
    [⟨.wrongRoundCount, s!"Expected {numRounds} rounds, got {schedule.rounds.length}."⟩] else []) ++
  if actual.toFinset ≠ (roundNumbers numRounds).toFinset then
    [⟨.wrongRoundNumbers,
      s!"Expected round numbers {sortedSet (roundNumbers numRounds)}, got {sortedSet actual}."⟩] else []

def checkUnmatchedPresence (size : Nat) (r : ScheduleRound) : List ScheduleViolation :=
  match r.unmatchedPid with
  | some unmatched =>
    if size % 2 = 0 then
      [⟨.unmatchedInEvenEvent,
        s!"Round {r.number} has unmatched_pid={pyRepr unmatched} but N is even."⟩] else []
  | none =>
    if size % 2 = 0 then [] else
      [⟨.missingUnmatched, s!"Round {r.number} missing unmatched_pid but N is odd."⟩]

def checkUnmatchedKnown (pids : Finset String) (r : ScheduleRound) : List ScheduleViolation :=
  match r.unmatchedPid with
  | some unmatched =>
    if unmatched ∉ pids then
      [⟨.unknownParticipant, s!"Round {r.number} has unknown unmatched_pid={unmatched}."⟩] else []
  | none => []

def expectedPairsPerRound (size : Nat) : Nat := if size % 2 = 0 then size / 2 else (size - 1) / 2

def checkPairCount (size : Nat) (r : ScheduleRound) : List ScheduleViolation :=
  if r.pairs.length ≠ expectedPairsPerRound size then
    [⟨.wrongPairCount,
      s!"Round {r.number} expected {expectedPairsPerRound size} pairs, got {r.pairs.length}."⟩] else []

/-- `UUID(pid_a) >= UUID(pid_b)`, false when one of them does not parse. -/
def noncanonical (sp : SchedulePair) : Bool :=
  match uuidValue sp.pidA, uuidValue sp.pidB with
  | some a, some b => b ≤ a
  | _, _ => false

def checkPairAlone (pids : Finset String) (r : ScheduleRound) (sp : SchedulePair) :
    List ScheduleViolation :=
  (if sp.pidA ∉ pids then
    [⟨.unknownParticipant, s!"Round {r.number} has unknown pid_a={sp.pidA}."⟩] else []) ++
  (if sp.pidB ∉ pids then
    [⟨.unknownParticipant, s!"Round {r.number} has unknown pid_b={sp.pidB}."⟩] else []) ++
  (if sp.pidA = sp.pidB then
    [⟨.selfPair, s!"Round {r.number} has self-pair {sp.pidA}."⟩]
  else if noncanonical sp then
    [⟨.wrongCanonicalOrder,
      s!"Round {r.number} has non-canonical order ({sp.pidA}, {sp.pidB})."⟩]
  else [])

def checkDuplicate (r : ScheduleRound) (used : Finset String) (sp : SchedulePair) :
    List ScheduleViolation :=
  if sp.pidA ∈ used ∨ sp.pidB ∈ used then
    [⟨.duplicateInRound, s!"Round {r.number} has participant in multiple pairs."⟩] else []

def checkScore (r : ScheduleRound) (sp : SchedulePair) : List ScheduleViolation :=
  if sp.score < 0 ∨ sp.score > 1 then
    [⟨.scoreOutOfRange,
      s!"Round {r.number} pair ({sp.pidA},{sp.pidB}) has score={sp.score}."⟩] else []

/-! ## Checks against what was seen before -/

/-- `_canon(x, y)`; `none` stands for the exception of an id that does not parse. -/
def canon (x y : String) : Option (String × String) :=
  match uuidValue x, uuidValue y with
  | some a, some b => some (if a < b then (x, y) else (y, x))
  | _, _ => none

abbrev PairSeen := Dict (String × String) Int

/-- `pair_seen_round`: the round of every unordered pair seen so far. -/
def checkRepeated (r : ScheduleRound) (seen : PairSeen) (sp : SchedulePair) :
    List ScheduleViolation × PairSeen :=
  match canon sp.pidA sp.pidB with
  | none => ([], seen)
  | some key =>
    match seen.get? key with
    | some earlier =>
      if earlier ≠ r.number then
        ([⟨.repeatedPartner,
          s!"Pair ({pyRepr key.1}, {pyRepr key.2}) repeats in rounds {earlier} and {r.number}."⟩], seen)
      else ([], seen.set key r.number)
    | none => ([], seen.set key r.number)

def checkPairs (pids : Finset String) (r : ScheduleRound) :
    List SchedulePair → Finset String → PairSeen → List ScheduleViolation × Finset String × PairSeen
  | [], used, seen => ([], used, seen)
  | sp :: rest, used, seen =>
    let (repeated, seen) := checkRepeated r seen sp
    let here := checkPairAlone pids r sp ++ checkDuplicate r used sp ++ checkScore r sp ++ repeated
    let (later, used, seen) := checkPairs pids r rest (insert sp.pidB (insert sp.pidA used)) seen
    (here ++ later, used, seen)

def checkUnmatchedPaired (r : ScheduleRound) (used : Finset String) : List ScheduleViolation :=
  match r.unmatchedPid with
  | some unmatched =>
    if unmatched ∈ used then
      [⟨.unmatchedPaired,
        s!"Round {r.number} unmatched participant {unmatched} is also paired."⟩] else []
  | none => []

abbrev UnmatchedSeen := Dict String Nat

def noteUnmatched (r : ScheduleRound) (seen : UnmatchedSeen) : UnmatchedSeen :=
  match r.unmatchedPid with
  | some unmatched => seen.set unmatched ((seen.get? unmatched).getD 0 + 1)
  | none => seen

/-- The loop over the rounds, with `unmatched_seen` and `pair_seen_round`. -/
def checkRounds (pids : Finset String) :
    List ScheduleRound → UnmatchedSeen → PairSeen → List ScheduleViolation × UnmatchedSeen
  | [], unmatchedSeen, _ => ([], unmatchedSeen)
  | r :: rest, unmatchedSeen, pairSeen =>
    let (inPairs, used, pairSeen) := checkPairs pids r r.pairs ∅ pairSeen
    let here := checkUnmatchedKnown pids r ++ checkPairCount pids.card r ++ inPairs
      ++ checkUnmatchedPaired r used
    let (later, unmatchedSeen) := checkRounds pids rest (noteUnmatched r unmatchedSeen) pairSeen
    (here ++ later, unmatchedSeen)

def checkUnmatchedCount (item : String × Nat) : List ScheduleViolation :=
  if item.2 > 1 then
    [⟨.unmatchedTwice, s!"Participant {item.1} unmatched {item.2} times."⟩] else []

def validateSchedule (schedule : GeneratedSchedule) (allParticipantPids : Finset String)
    (numRounds : Int) : List ScheduleViolation :=
  let (inRounds, unmatchedSeen) := checkRounds allParticipantPids schedule.rounds [] []
  checkRoundNumbers schedule numRounds
    ++ schedule.rounds.flatMap (checkUnmatchedPresence allParticipantPids.card)
    ++ inRounds
    ++ unmatchedSeen.flatMap checkUnmatchedCount

end EventPlatform.Matching
