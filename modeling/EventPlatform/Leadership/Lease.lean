import EventPlatform.Scheduling.Timeline

/-! # Leader election by lease

`acquire_lease`, `renew_lease` and `release_lease` are sequences of database
statements.  Any number of processes run them; each call reads the clock once,
when it starts, and its statements may run much later.  A step of the system is
one statement, the start of one call, or the passing of time. -/

namespace EventPlatform.Leadership

open EventPlatform.Scheduling

/-- A row of `LeaderLease`; the unique `lease_name` is its key. -/
structure LeaderLease where
  leaderId : String
  acquiredAt : Int
  expiresAt : Int
  version : Nat
deriving DecidableEq

/-! ## The calls -/

/-- The statement a call executes next.  `acquire_lease` begins with `takeOver`,
    the other two functions are one statement each. -/
inductive LeaseStatement where
  | takeOver
  | get
  | create
  | renew
  | release
deriving DecidableEq

/-- A call in progress; `now` is what `timezone.now()` returned when it started. -/
structure LeaseCall where
  leaseName : String
  leaderId : String
  ttlSeconds : Int
  now : Int
  statement : LeaseStatement
deriving DecidableEq

inductive Progress where
  | next (statement : LeaseStatement)
  | returns (result : Bool)
deriving DecidableEq

def LeaseCall.newExpires (call : LeaseCall) : Int := call.now + seconds call.ttlSeconds

/-- Step 1: take over a lease that had expired at `now`. -/
def LeaseCall.takeOver (call : LeaseCall) : Option LeaderLease → Option LeaderLease × Progress
  | some row =>
    if row.expiresAt < call.now then
      (some ⟨call.leaderId, call.now, call.newExpires, row.version + 1⟩, .returns true)
    else (some row, .next .get)
  | none => (none, .next .get)

/-- Step 2: is the live lease ours? -/
def LeaseCall.get (call : LeaseCall) : Option LeaderLease → Option LeaderLease × Progress
  | some existing =>
    (some existing,
      .returns (existing.leaderId = call.leaderId ∧ call.now ≤ existing.expiresAt))
  | none => (none, .next .create)

/-- Step 3: the insert fails when there is a row by now. -/
def LeaseCall.create (call : LeaseCall) : Option LeaderLease → Option LeaderLease × Progress
  | some row => (some row, .returns false)
  | none => (some ⟨call.leaderId, call.now, call.newExpires, 1⟩, .returns true)

def LeaseCall.renew (call : LeaseCall) : Option LeaderLease → Option LeaderLease × Progress
  | some row =>
    if row.leaderId = call.leaderId ∧ call.now ≤ row.expiresAt then
      (some { row with expiresAt := call.newExpires }, .returns true)
    else (some row, .returns false)
  | none => (none, .returns false)

/-- The lease is set to expire at the epoch. -/
def LeaseCall.release (call : LeaseCall) : Option LeaderLease → Option LeaderLease × Progress
  | some row =>
    if row.leaderId = call.leaderId then (some { row with expiresAt := 0 }, .returns true)
    else (some row, .returns false)
  | none => (none, .returns false)

def LeaseCall.execute (call : LeaseCall) (row : Option LeaderLease) :
    Option LeaderLease × Progress :=
  match call.statement with
  | .takeOver => call.takeOver row
  | .get => call.get row
  | .create => call.create row
  | .renew => call.renew row
  | .release => call.release row

/-! ## The system -/

structure LeaseState where
  clock : Int
  rows : String → Option LeaderLease
  calls : Nat → Option LeaseCall

inductive LeaseFunction where
  | acquireLease
  | renewLease
  | releaseLease
deriving DecidableEq

def LeaseFunction.entry : LeaseFunction → LeaseStatement
  | acquireLease => .takeOver
  | renewLease => .renew
  | releaseLease => .release

inductive LeaseAction where
  | pass (now : Int)
  | call (process : Nat) (function : LeaseFunction) (leaseName leaderId : String)
      (ttlSeconds : Int)
  | statement (process : Nat)

/-- The clock is never set back, and a process starts a call only after its last one. -/
def LeaseState.step (s : LeaseState) : LeaseAction → LeaseState
  | .pass now => { s with clock := max s.clock now }
  | .call process function leaseName leaderId ttlSeconds =>
    match s.calls process with
    | some _ => s
    | none =>
      { s with
        calls := Function.update s.calls process
          (some ⟨leaseName, leaderId, ttlSeconds, s.clock, function.entry⟩) }
  | .statement process =>
    match s.calls process with
    | none => s
    | some call =>
      let (row, progress) := call.execute (s.rows call.leaseName)
      { s with
        rows := Function.update s.rows call.leaseName row
        calls := Function.update s.calls process <|
          match progress with
          | .next statement => some { call with statement }
          | .returns _ => none }

abbrev LeaseState.run (s : LeaseState) (actions : List LeaseAction) : LeaseState :=
  actions.foldl LeaseState.step s

/-- Any rows may be there when the processes start. -/
def LeaseState.start (clock : Int) (rows : String → Option LeaderLease) : LeaseState :=
  ⟨clock, rows, fun _ => none⟩

end EventPlatform.Leadership
