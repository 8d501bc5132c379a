import EventPlatform.Matching.Scoring
import EventPlatform.Matching.Uuid
import EventPlatform.Lib.Select

/-! # The matching engine

`generateSchedule` builds `R` rounds in three phases: a hardest-first greedy
pass per round, a bounded exhaustive recovery when greedy strands somebody, and
a first-improvement 2-swap search over the finished rounds.

Participants are handled by integer rank (position in UUID order).  A Python set
that is iterated is kept as the list of its elements in increasing order, a set
that is only tested for membership as a `Finset`, and `forbidden_i`, a list of
sets indexed by rank, as a function of the rank. -/

namespace EventPlatform.Matching

open EventPlatform.Lib

structure MatchParticipant where
  pid : String
  profile : ParticipantProfile

structure MatchInput where
  participants : List MatchParticipant
  numRounds : Int
  weights : ScoringWeights

structure SchedulePair where
  pidA : String
  pidB : String
  score : ℚ
deriving DecidableEq

structure ScheduleRound where
  number : Int
  pairs : List SchedulePair
  unmatchedPid : Option String
deriving DecidableEq

structure GeneratedSchedule where
  rounds : List ScheduleRound
deriving DecidableEq

/-- `MatchingImpossibleError` is the subclass raised when no schedule could be
    constructed; `MatchingError` itself is raised for malformed ids. -/
inductive MatchingError where
  | matchingError (message : String)
  | matchingImpossibleError (message : String)
deriving DecidableEq

def MatchingError.isImpossible : MatchingError → Bool
  | .matchingImpossibleError _ => true
  | .matchingError _ => false

/-- `_uuid_value(pid)` once the id is known to parse. -/
def uuidKey (pid : String) : Nat := (uuidValue pid).getD 0

abbrev IndexPair := Nat × Nat

/-- `(a, b) if a < b else (b, a)`. -/
def orderPair (a b : Nat) : IndexPair := if a < b then (a, b) else (b, a)

/-! ## Set-up: ranks, scores, neighbour lists -/

/-- What the round loop reads: the number of participants and their scores. -/
structure MatchContext where
  size : Nat
  scoreMat : Nat → Nat → ℚ

def idxToPid (input : MatchInput) : List String :=
  (input.participants.map (·.pid)).insertionSort (fun x y => uuidKey x ≤ uuidKey y)

/-- `profiles[pid]`; an id that is not a participant never reaches it. -/
def profileOf (input : MatchInput) (pid : String) : ParticipantProfile :=
  ((input.participants.find? (·.pid = pid)).map (·.profile)).getD ⟨∅⟩

def pidAt (input : MatchInput) (i : Nat) : String := (idxToPid input).getD i ""

/-- `score_mat` is filled for `i < j` and mirrored; the diagonal stays `0`. -/
def scoreMat (input : MatchInput) (i j : Nat) : ℚ :=
  let score i j := computeMatchScore (profileOf input (pidAt input i))
    (profileOf input (pidAt input j)) input.weights
  if i < j then score i j else if j < i then score j i else 0

def matchContext (input : MatchInput) : MatchContext where
  size := input.participants.length
  scoreMat := scoreMat input

/-- `sorted_by_score[i]`: every other rank, sorted by `(-score, rank)`. -/
def sortedByScore (ctx : MatchContext) (i : Nat) : List Nat :=
  ((List.range ctx.size).filter (· ≠ i)).insertionSort fun j k =>
    ctx.scoreMat i k < ctx.scoreMat i j ∨ (ctx.scoreMat i k = ctx.scoreMat i j ∧ j ≤ k)

/-! ## Greedy hardest-first assignment -/

abbrev Forbidden := Nat → Finset Nat

/-- `forbidden[a].add(b); forbidden[b].add(a)`. -/
def Forbidden.addPair (forbidden : Forbidden) (a b : Nat) : Forbidden :=
  let forbidden := Function.update forbidden a (insert b (forbidden a))
  Function.update forbidden b (insert a (forbidden b))

/-- `forbidden[a].remove(b); forbidden[b].remove(a)`. -/
def Forbidden.removePair (forbidden : Forbidden) (a b : Nat) : Forbidden :=
  let forbidden := Function.update forbidden a ((forbidden a).erase b)
  Function.update forbidden b ((forbidden b).erase a)

structure GreedyState where
  remaining : List Nat
  available : Nat → Int
  forbidden : Forbidden
  pairs : List IndexPair

/-- `available_count_i` at the start of a round. -/
def availableCount (forbidden : Forbidden) (remaining : List Nat) (i : Nat) : Int :=
  (remaining.filter fun j => j ≠ i ∧ j ∉ forbidden i).length

def GreedyState.start (forbidden : Forbidden) (workingSet : List Nat) : GreedyState where
  remaining := workingSet
  available := availableCount forbidden workingSet
  forbidden := forbidden
  pairs := []

/-- `min(remaining, key=(available, candidate))`. -/
def GreedyState.hardest (st : GreedyState) : Option Nat :=
  firstLeast (KeyLt st.available) st.remaining

/-- The first allowed rank of the presorted neighbour list. -/
def GreedyState.best (ctx : MatchContext) (st : GreedyState) (pid : Nat) : Option Nat :=
  (sortedByScore ctx pid).find? fun j => j ∈ st.remaining ∧ j ∉ st.forbidden pid

def GreedyState.pick (st : GreedyState) (pid best : Nat) : GreedyState :=
  let remaining := (st.remaining.erase pid).erase best
  { remaining := remaining
    available := fun candidate =>
      if candidate ∈ remaining then
        st.available candidate - (if pid ∉ st.forbidden candidate then 1 else 0)
          - (if best ∉ st.forbidden candidate then 1 else 0)
      else st.available candidate
    forbidden := st.forbidden.addPair pid best
    pairs := st.pairs ++ [orderPair pid best] }

/-- `while remaining:`.  The second component is `failed_idx`.  Every iteration
    removes two ranks, so `remaining.length` is enough fuel. -/
def greedyLoop (ctx : MatchContext) : Nat → GreedyState → GreedyState × Option Nat
  | 0, st => (st, none)
  | fuel + 1, st =>
    match st.hardest with
    | none => (st, none)
    | some pid =>
      match st.best ctx pid with
      | none => (st, some pid)
      | some best => greedyLoop ctx fuel (st.pick pid best)

/-! ## Recovery from a greedy dead end -/

def maxRecoveryNodes : Nat := 10000

structure SearchState where
  forbidden : Forbidden
  chosen : List IndexPair
  nodes : Nat

def SearchState.choose (st : SearchState) (pid partner : Nat) : SearchState :=
  { st with
    forbidden := st.forbidden.addPair pid partner
    chosen := st.chosen ++ [(pid, partner)] }

def SearchState.unchoose (st : SearchState) (pid partner : Nat) : SearchState :=
  { st with
    forbidden := st.forbidden.removePair pid partner
    chosen := st.chosen.dropLast }

/-- `min(remaining_s, key=(len((remaining_s - {c}) - forbidden[c]), c))`. -/
def hardestRemaining (forbidden : Forbidden) (remaining : List Nat) : Option Nat :=
  firstLeast (KeyLt fun candidate =>
    ((remaining.erase candidate).filter (· ∉ forbidden candidate)).length) remaining

def recoveryCandidates (ctx : MatchContext) (forbidden : Forbidden) (remaining : List Nat)
    (pid : Nat) : List Nat :=
  (sortedByScore ctx pid).filter fun j => j ∈ remaining ∧ j ∉ forbidden pid

/-- `for partner in candidates_r:` with the recursive call passed in. -/
def tryPartners (search : List Nat → SearchState → Bool × SearchState) (remaining : List Nat)
    (pid : Nat) : List Nat → SearchState → Bool × SearchState
  | [], st => (false, st)
  | partner :: rest, st =>
    match search ((remaining.erase pid).erase partner) (st.choose pid partner) with
    | (true, st) => (true, st)
    | (false, st) => tryPartners search remaining pid rest (st.unchoose pid partner)

/-- The nested function `search`.  The fuel bounds the recursion depth, which is
    half the size of the working set; `recovery_nodes` lives in the state. -/
def search (ctx : MatchContext) : Nat → List Nat → SearchState → Bool × SearchState
  | 0, _, st => (false, st)
  | fuel + 1, remaining, st =>
    let st := { st with nodes := st.nodes + 1 }
    if st.nodes > maxRecoveryNodes then (false, st)
    else
      match hardestRemaining st.forbidden remaining with
      | none => (true, st)
      | some pid =>
        tryPartners (search ctx fuel) remaining pid
          (recoveryCandidates ctx st.forbidden remaining pid) st

/-! ## One round -/

structure RoundState where
  forbidden : Forbidden
  unmatchedCount : Nat → Nat
  roundsPairs : List (List IndexPair)
  roundsBye : List (Option Nat)

def RoundState.start : RoundState := ⟨fun _ => ∅, fun _ => 0, [], []⟩

/-- The bye of an odd round: `max(eligible, key=(N - 1 - len(forbidden), i))`. -/
def chooseBye (ctx : MatchContext) (st : RoundState) : Option Nat :=
  firstLeast (fun i j => KeyLt (fun i => (ctx.size : Int) - 1 - (st.forbidden i).card) j i)
    ((List.range ctx.size).filter fun i => st.unmatchedCount i = 0)

def RoundState.finish (st : RoundState) (forbidden : Forbidden) (bye : Option Nat)
    (pairs : List IndexPair) : RoundState where
  forbidden := forbidden
  unmatchedCount := match bye with
    | none => st.unmatchedCount
    | some i => Function.update st.unmatchedCount i (st.unmatchedCount i + 1)
  roundsPairs := st.roundsPairs ++ [pairs]
  roundsBye := st.roundsBye ++ [bye]

def runSearch (ctx : MatchContext) (forbidden : Forbidden) (workingSet : List Nat) :
    Bool × SearchState :=
  search ctx (workingSet.length + 1) workingSet ⟨forbidden, [], 0⟩

/-- Greedy, then recovery from `forbidden_before` when greedy got stuck. -/
def pairRound (ctx : MatchContext) (pids : Nat → String) (roundNum : Nat) (forbidden : Forbidden)
    (workingSet : List Nat) : Except MatchingError (Forbidden × List IndexPair) :=
  match greedyLoop ctx workingSet.length (.start forbidden workingSet) with
  | (greedy, none) => .ok (greedy.forbidden, greedy.pairs)
  | (_, some failed) =>
    match runSearch ctx forbidden workingSet with
    | (true, found) =>
      .ok (found.forbidden, found.chosen.map fun p => (min p.1 p.2, max p.1 p.2))
    | (false, gaveUp) =>
      .error (.matchingImpossibleError
        s!"Unable to construct a valid matching in round {roundNum}; participant {pids failed} became stranded after greedy choices and bounded recovery examined {gaveUp.nodes} states.")

/-- `working_set_i` of a round with the given bye. -/
def workingSet (ctx : MatchContext) : Option Nat → List Nat
  | none => List.range ctx.size
  | some bye => (List.range ctx.size).erase bye

def roundStep (ctx : MatchContext) (pids : Nat → String) (st : RoundState) (roundNum : Nat) :
    Except MatchingError RoundState :=
  if ctx.size % 2 = 1 then
    match chooseBye ctx st with
    | none =>
      .error (.matchingImpossibleError
        s!"Cannot satisfy 'no participant unmatched more than once' in round {roundNum}: all participants have already been unmatched.")
    | some bye => do
      let (forbidden, pairs) ← pairRound ctx pids roundNum st.forbidden (workingSet ctx bye)
      return st.finish forbidden (some bye) pairs
  else do
    let (forbidden, pairs) ← pairRound ctx pids roundNum st.forbidden (workingSet ctx none)
    return st.finish forbidden none pairs

/-- `for round_num in range(1, R + 1)`. -/
def buildRounds (ctx : MatchContext) (pids : Nat → String) :
    Nat → Except MatchingError RoundState
  | 0 => .ok .start
  | r + 1 => do
    let st ← buildRounds ctx pids r
    roundStep ctx pids st (r + 1)

/-! ## Local improvement -/

def maxPasses : Nat := 10

/-- The gain a swap must exceed, `1e-9`. -/
def minGain : ℚ := 1 / 1000000000

structure ImproveState where
  allPairs : Finset IndexPair
  currentRoundSet : Finset IndexPair
  currentPairs : List IndexPair

def ImproveState.legal (st : ImproveState) (n1 n2 : IndexPair) : Bool :=
  n1.1 ≠ n1.2 && n2.1 ≠ n2.2
    && (n1 ∉ st.allPairs || n1 ∈ st.currentRoundSet)
    && (n2 ∉ st.allPairs || n2 ∈ st.currentRoundSet)

/-- Replace the pairs at positions `i` and `j` in all three collections. -/
def ImproveState.swap (st : ImproveState) (i j : Nat) (old1 old2 n1 n2 : IndexPair) :
    ImproveState where
  allPairs := insert n2 (insert n1 ((st.allPairs.erase old1).erase old2))
  currentRoundSet := insert n2 (insert n1 ((st.currentRoundSet.erase old1).erase old2))
  currentPairs := (st.currentPairs.set i n1).set j n2

def pairScore (ctx : MatchContext) (p : IndexPair) : ℚ := ctx.scoreMat p.1 p.2

def trySwap (ctx : MatchContext) (st : ImproveState) (i j : Nat) (old1 old2 n1 n2 : IndexPair) :
    Option ImproveState :=
  if st.legal n1 n2 &&
      decide (pairScore ctx old1 + pairScore ctx old2 + minGain
        < pairScore ctx n1 + pairScore ctx n2) then
    some (st.swap i j old1 old2 n1 n2)
  else none

/-- Swap 1 is `(A, C) + (B, D)`, swap 2 is `(A, D) + (B, C)`. -/
def tryPositions (ctx : MatchContext) (st : ImproveState) (i j : Nat) : Option ImproveState :=
  match st.currentPairs[i]?, st.currentPairs[j]? with
  | some (a, b), some (c, d) =>
    trySwap ctx st i j (a, b) (c, d) (orderPair a c) (orderPair b d) <|>
      trySwap ctx st i j (a, b) (c, d) (orderPair a d) (orderPair b c)
  | _, _ => none

/-- One scan over all `i < j`, stopping at the first improving swap. -/
def scanSwaps (ctx : MatchContext) (st : ImproveState) : Option ImproveState :=
  (List.range st.currentPairs.length).findSome? fun i =>
    (List.range' (i + 1) (st.currentPairs.length - (i + 1))).findSome? fun j =>
      tryPositions ctx st i j

/-- `while passes < MAX_PASSES`, counting the passes left. -/
def improveRound (ctx : MatchContext) : Nat → ImproveState → ImproveState
  | 0, st => st
  | passes + 1, st =>
    match scanSwaps ctx st with
    | none => st
    | some st => improveRound ctx passes st

/-- `for r_idx in range(R)`: rounds are improved in order, sharing `all_pairs_i`. -/
def improveRounds (ctx : MatchContext) : Finset IndexPair → List (List IndexPair) →
    List (List IndexPair)
  | _, [] => []
  | allPairs, pairs :: rest =>
    let st := improveRound ctx maxPasses ⟨allPairs, pairs.toFinset, pairs⟩
    st.currentPairs :: improveRounds ctx st.allPairs rest

/-! ## Output -/

def sortPairs (pairs : List IndexPair) : List IndexPair :=
  pairs.insertionSort fun p q => p.1 < q.1 ∨ (p.1 = q.1 ∧ p.2 ≤ q.2)

def outputRound (ctx : MatchContext) (pids : Nat → String) (number : Nat)
    (pairs : List IndexPair) (bye : Option Nat) : ScheduleRound where
  number := number
  pairs := (sortPairs pairs).map fun p => ⟨pids p.1, pids p.2, ctx.scoreMat p.1 p.2⟩
  unmatchedPid := bye.map pids

def outputRounds (ctx : MatchContext) (pids : Nat → String) (rounds : List (List IndexPair))
    (byes : List (Option Nat)) : List ScheduleRound :=
  (rounds.zip byes).mapIdx fun rIdx (pairs, bye) => outputRound ctx pids (rIdx + 1) pairs bye

/-- `max_rounds = N - 1 if N % 2 == 0 else N`. -/
def maxRounds (size : Nat) : Nat := if size % 2 = 0 then size - 1 else size

def generateSchedule (input : MatchInput) : Except MatchingError GeneratedSchedule :=
  let pidList := input.participants.map (·.pid)
  let size := pidList.length
  if input.numRounds < 1 then
    .error (.matchingImpossibleError "num_rounds must be at least 1.")
  else if ¬ pidList.Nodup then
    .error (.matchingError "Participant IDs must be unique.")
  else if pidList.any fun pid => (uuidValue pid).isNone then
    .error (.matchingError "Participant IDs must be valid UUID strings.")
  else if size < 2 then
    .error (.matchingImpossibleError
      s!"Cannot generate a schedule with fewer than 2 participants (got {size}).")
  else if input.numRounds > maxRounds size then
    .error (.matchingImpossibleError
      s!"Participant count {size} is too small for {input.numRounds} non-repeating rounds. At most {maxRounds size} rounds are possible.")
  else do
    let ctx := matchContext input
    let st ← buildRounds ctx (pidAt input) input.numRounds.toNat
    let allPairs := st.roundsPairs.flatten.toFinset
    let rounds := improveRounds ctx allPairs st.roundsPairs
    return ⟨outputRounds ctx (pidAt input) rounds st.roundsBye⟩

end EventPlatform.Matching
