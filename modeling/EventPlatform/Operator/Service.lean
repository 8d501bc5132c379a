import EventPlatform.Scheduling.Phase
import EventPlatform.Lib.Select

/-! # The operator's live actions

`OperatorService` runs each action in one transaction on the rounds and the
action log of an event.  Nothing stores that the event is paused: the newest log
row stands for it. -/

namespace EventPlatform.Operator

open EventPlatform.Lib EventPlatform.Scheduling

inductive OperatorActionType where
  | pause
  | resume
  | extend
  | recalculate
deriving DecidableEq

/-- The JSON object a log row carries, one constructor for each place that
    writes one.  Instants are what `isoformat` and `fromisoformat` carry over. -/
inductive ActionDetails where
  | pause (remainingSeconds pausedAt : Int)
  | resume (resumedAt newEndsAt shiftedSeconds : Int)
  | extend (extendedBySeconds newEndsAt : Int)
  | recalculate (absentRemovedCount activeParticipants totalRounds : Nat)
deriving DecidableEq

/-- `details.get("paused_at")`. -/
def ActionDetails.pausedAt : ActionDetails → Option Int
  | .pause _ pausedAt => some pausedAt
  | _ => none

/-- A row of `OperatorActionLog`; a round is referred to by its number. -/
structure OperatorActionLog where
  round : Option Nat
  action : OperatorActionType
  details : ActionDetails
  performedAt : Int
deriving DecidableEq

/-- The rows of one event that the actions read and write. -/
structure OperatorState where
  rounds : List Round
  logs : List OperatorActionLog
deriving DecidableEq

inductive OperatorError where
  | permissionDenied (message : String)
  | validationError (message : String)
deriving DecidableEq

/-- What an accepted action broadcasts and returns. -/
inductive ActionPayload where
  | pause (roundNumber : Nat) (remainingSeconds pausedAt : Int)
  | resume (roundNumber : Nat) (resumedAt endsAt remainingSeconds : Int)
  | extend (roundNumber : Nat) (extendedBySeconds endsAt : Int)
deriving DecidableEq

abbrev ActionResult := Except OperatorError (ActionPayload × OperatorState)

/-- `self.event.operator_logs.first()` under the ordering `-performed_at`. -/
def OperatorState.lastLog (st : OperatorState) : Option OperatorActionLog :=
  firstLeast (fun log other => other.performedAt < log.performedAt) st.logs

def OperatorState.record (st : OperatorState) (log : OperatorActionLog) : OperatorState :=
  { st with logs := st.logs ++ [log] }

/-- `max(int(duration.total_seconds()), 0)`. -/
def wholeSeconds (duration : Int) : Int := max (duration.tdiv (seconds 1)) 0

/-- The round itself ends later, the rounds after it move as a whole. -/
def shiftRound (number : Nat) (shift : Int) (r : Round) : Round :=
  if r.number = number then { r with endsAt := r.endsAt + shift }
  else if number < r.number then
    { r with startsAt := r.startsAt + shift, endsAt := r.endsAt + shift }
  else r

def shiftRounds (number : Nat) (shift : Int) (rounds : List Round) : List Round :=
  rounds.map (shiftRound number shift)

def ensureLeader (isLeader : Bool) : Except OperatorError Unit :=
  if isLeader then .ok ()
  else .error (.permissionDenied "Only the cluster leader node can execute operator actions.")

def pause (isLeader : Bool) (now : Int) (st : OperatorState) : ActionResult := do
  ensureLeader isLeader
  match getCurrentPhase preconnectDefault st.rounds now with
  | ⟨.inRound, some activeRound, some remaining⟩ =>
    if remaining = 0 then
      .error (.validationError "Event cannot be paused outside of an active round.")
    else if st.lastLog.any (·.action = .pause) then
      .error (.validationError "Event is already paused.")
    else
      let remainingSeconds := wholeSeconds remaining
      .ok (.pause activeRound.number remainingSeconds now,
        st.record ⟨some activeRound.number, .pause, .pause remainingSeconds now, now⟩)
  | _ => .error (.validationError "Event cannot be paused outside of an active round.")

/-- `max(now - paused_at, timedelta(seconds=1))`, or one second without `paused_at`. -/
def timeShift (now : Int) (pausedAt : Option Int) : Int :=
  match pausedAt with
  | some pausedAt => max (now - pausedAt) (seconds 1)
  | none => seconds 1

def resume (isLeader : Bool) (now : Int) (st : OperatorState) : ActionResult := do
  ensureLeader isLeader
  match st.lastLog with
  | none => .error (.validationError "Event is not in a paused state.")
  | some lastLog =>
    if lastLog.action ≠ .pause then
      .error (.validationError "Event is not in a paused state.")
    else
      match lastLog.round.bind fun number => st.rounds.find? (·.number = number) with
      | none => .error (.validationError "Target round for resume not found.")
      | some activeRound =>
        let shift := timeShift now lastLog.details.pausedAt
        let endsAt := activeRound.endsAt + shift
        .ok (.resume activeRound.number now endsAt (wholeSeconds (endsAt - now)),
          OperatorState.record { st with rounds := shiftRounds activeRound.number shift st.rounds }
            ⟨some activeRound.number, .resume, .resume now endsAt (shift.tdiv (seconds 1)), now⟩)

def extend (isLeader : Bool) (extraSeconds : Int) (now : Int) (st : OperatorState) :
    ActionResult := do
  ensureLeader isLeader
  if extraSeconds ≤ 0 then
    .error (.validationError "Extension duration must be greater than zero.")
  else
    match getCurrentPhase preconnectDefault st.rounds now with
    | ⟨.inRound, some activeRound, _⟩ =>
      let extension := seconds extraSeconds
      let endsAt := activeRound.endsAt + extension
      .ok (.extend activeRound.number extraSeconds endsAt,
        OperatorState.record
          { st with rounds := shiftRounds activeRound.number extension st.rounds }
          ⟨some activeRound.number, .extend, .extend extraSeconds endsAt, now⟩)
    | _ => .error (.validationError "Cannot extend a round when no round is active.")

end EventPlatform.Operator
