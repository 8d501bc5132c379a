import EventPlatform.Lib.Processes
import EventPlatform.Lib.Runs
import EventPlatform.Lib.Walks
import EventPlatform.Operator.EventStatus
import EventPlatform.Protocol.Validators

/-! # Transitions statement by statement

`transition_event` writes the log row, the status and the completion flag one after
another, under the lock of the event row.  Here a transaction goes on by one statement at a
time, and can fail or crash before each of them; its writes are its own until it commits. -/

namespace EventPlatform.Operator

open EventPlatform.Lib EventPlatform.Protocol

/-! ## Statuses as the column holds them -/

def EventStatus.all : List EventStatus :=
  [.draft, .scheduled, .active, .completed, .cancelled, .registrationOpen, .locked, .running, .paused]

def statusOf (text : String) : Option EventStatus := EventStatus.all.find? (·.value = text)

/-- `can_transition` on two texts; what is no status leads nowhere and is led to by none. -/
def canTransitionText (fromStatus toStatus : String) : Bool :=
  match statusOf fromStatus, statusOf toStatus with
  | some fromStatus, some toStatus => canTransition fromStatus toStatus
  | _, _ => false

/-! ## Rows and calls -/

structure TransitionLogRow where
  pk : Nat
  eventPk : String
  fromStatus : String
  toStatus : String
  leaderId : String
  details : Payload
  isComplete : Bool

/-- The `log` of a reconciliation is the caller's copy of the row. -/
inductive TransitionCall where
  | transition (eventPk toStatus leaderId : String) (details : Payload)
  | reconcile (log : TransitionLogRow) (leaderId : String)

def TransitionCall.eventPk : TransitionCall → String
  | transition eventPk _ _ _ => eventPk
  | reconcile log _ => log.eventPk

/-- The next statement of a transaction, or how it has ended. -/
inductive TransitionPc where
  | selectEvent
  | insertLog (fromStatus : String)
  | updateStatus
  | completeLog
  | updateLog (outcome eventStatus : String)
  | commit
  | returned
  | raised
  | crashed
deriving DecidableEq

/-- `inserted`, `status` and `reconciled` are the transaction's own writes: the new log row,
    the status of the locked event, and the details of the log row it completes. -/
structure TransitionTransaction where
  call : TransitionCall
  pc : TransitionPc
  inserted : Option TransitionLogRow
  status : Option String
  reconciled : Option (Nat × Payload)

def TransitionTransaction.begin (call : TransitionCall) : TransitionTransaction :=
  ⟨call, .selectEvent, none, none, none⟩

/-- The row of the event is locked from its SELECT on. -/
def TransitionPc.holds : TransitionPc → Bool
  | insertLog _ | updateStatus | completeLog | updateLog _ _ | commit => true
  | selectEvent | returned | raised | crashed => false

def TransitionPc.open : TransitionPc → Bool
  | returned | raised | crashed => false
  | _ => true

/-- What is committed, `logs` in the order of their commits, and the transactions.
    `nextPk` is the sequence of the log's primary keys. -/
structure TransitionState where
  status : String → Option String
  logs : List TransitionLogRow
  nextPk : Nat
  transactions : List TransitionTransaction

def TransitionState.start (status : String → Option String) : TransitionState := ⟨status, [], 0, []⟩

inductive TransitionAction where
  | begin (call : TransitionCall)
  /-- The transaction goes on; its statement may fail, and roll it back. -/
  | go (transaction : Nat) (fails : Bool)
  | crash (transaction : Nat)

namespace TransitionState

def put (s : TransitionState) (i : Nat) (tx : TransitionTransaction) : TransitionState :=
  { s with transactions := s.transactions.set i tx }

/-- The end of a transaction that is rolled back. -/
def rollBack (s : TransitionState) (i : Nat) (tx : TransitionTransaction) (pc : TransitionPc) : TransitionState :=
  s.put i { tx with pc := pc, inserted := none, status := none, reconciled := none }

/-- Another transaction has locked the row of the event. -/
def Locked (s : TransitionState) (i : Nat) (eventPk : String) : Prop :=
  ∃ j < s.transactions.length, j ≠ i ∧
    ∃ tx ∈ s.transactions[j]?, tx.pc.holds = true ∧ tx.call.eventPk = eventPk

instance (s : TransitionState) (i : Nat) (eventPk : String) : Decidable (s.Locked i eventPk) :=
  inferInstanceAs (Decidable (∃ j < s.transactions.length, j ≠ i ∧
    ∃ tx ∈ s.transactions[j]?, tx.pc.holds = true ∧ tx.call.eventPk = eventPk))

/-- Another open transaction has written the log row. -/
def LogLocked (s : TransitionState) (i pk : Nat) : Prop :=
  ∃ j < s.transactions.length, j ≠ i ∧ ∃ tx ∈ s.transactions[j]?, tx.reconciled.map (·.1) = some pk

instance (s : TransitionState) (i pk : Nat) : Decidable (s.LogLocked i pk) :=
  inferInstanceAs (Decidable (∃ j < s.transactions.length, j ≠ i ∧
    ∃ tx ∈ s.transactions[j]?, tx.reconciled.map (·.1) = some pk))

def reconcileOutcome (log : TransitionLogRow) (eventStatus : String) : String :=
  if eventStatus = log.toStatus then "rolled_forward"
  else if eventStatus = log.fromStatus then "already_consistent"
  else "status_diverged"

def reconciledDetails (log : TransitionLogRow) (leaderId outcome eventStatus : String) : Payload :=
  ((log.details.set "reconciled_by" (.str leaderId)).set "outcome" (.str outcome)).set
    "event_status_at_reconcile" (.str eventStatus)

/-- `save(update_fields=["is_complete", "details"])` on one row. -/
def completed (reconciled : Option (Nat × Payload)) (log : TransitionLogRow) : TransitionLogRow :=
  match reconciled with
  | some (pk, details) => if log.pk = pk then { log with isComplete := true, details := details } else log
  | none => log

def committed (s : TransitionState) (tx : TransitionTransaction) : TransitionState :=
  { s with
    status := match tx.status with
      | some status => Function.update s.status tx.call.eventPk (some status)
      | none => s.status
    logs := s.logs.map (completed tx.reconciled) ++ tx.inserted.toList }

/-! A statement that the call does not make leaves the state as it is. -/

/-- `select_for_update().get()`, and what is decided on the status it reads. -/
def selectEvent (s : TransitionState) (i : Nat) (tx : TransitionTransaction) : TransitionState :=
  if s.Locked i tx.call.eventPk then s
  else
    match s.status tx.call.eventPk, tx.call with
    | none, _ => s.rollBack i tx .raised
    | some fromStatus, .transition _ toStatus _ _ =>
      if canTransitionText fromStatus toStatus then s.put i { tx with pc := .insertLog fromStatus }
      else s.rollBack i tx .raised
    | some eventStatus, .reconcile log _ =>
      s.put i { tx with pc := .updateLog (reconcileOutcome log eventStatus) eventStatus }

def insertLog (s : TransitionState) (i : Nat) (tx : TransitionTransaction) (fromStatus : String) : TransitionState :=
  match tx.call with
  | .transition eventPk toStatus leaderId details =>
    { s with nextPk := s.nextPk + 1 }.put i { tx with
      pc := .updateStatus
      inserted := some ⟨s.nextPk, eventPk, fromStatus, toStatus, leaderId, details, false⟩ }
  | .reconcile _ _ => s

def updateStatus (s : TransitionState) (i : Nat) (tx : TransitionTransaction) : TransitionState :=
  match tx.call with
  | .transition _ toStatus _ _ => s.put i { tx with pc := .completeLog, status := some toStatus }
  | .reconcile _ _ => s

def completeLog (s : TransitionState) (i : Nat) (tx : TransitionTransaction) : TransitionState :=
  s.put i { tx with pc := .commit, inserted := tx.inserted.map fun log => { log with isComplete := true } }

def updateLog (s : TransitionState) (i : Nat) (tx : TransitionTransaction) (outcome eventStatus : String) :
    TransitionState :=
  match tx.call with
  | .transition _ _ _ _ => s
  | .reconcile log leaderId =>
    if s.LogLocked i log.pk then s
    -- an UPDATE that affects no row raises
    else if s.logs.any (·.pk = log.pk) then
      s.put i { tx with
        pc := .commit
        reconciled := some (log.pk, reconciledDetails log leaderId outcome eventStatus) }
    else s.rollBack i tx .raised

/-- One statement of the `i`-th transaction. -/
def goOn (s : TransitionState) (i : Nat) (tx : TransitionTransaction) : TransitionState :=
  match tx.pc with
  | .selectEvent => s.selectEvent i tx
  | .insertLog fromStatus => s.insertLog i tx fromStatus
  | .updateStatus => s.updateStatus i tx
  | .completeLog => s.completeLog i tx
  | .updateLog outcome eventStatus => s.updateLog i tx outcome eventStatus
  | .commit => (s.committed tx).rollBack i tx .returned
  | .returned | .raised | .crashed => s

def step (s : TransitionState) : TransitionAction → TransitionState
  | .begin call => { s with transactions := s.transactions ++ [.begin call] }
  | .go i fails =>
    match s.transactions[i]? with
    | none => s
    | some tx => if tx.pc.open then (if fails then s.rollBack i tx .raised else s.goOn i tx) else s
  | .crash i =>
    match s.transactions[i]? with
    | none => s
    | some tx => if tx.pc.open then s.rollBack i tx .crashed else s

end TransitionState

/-! ## What must hold of the log -/

def TransitionState.logsOf (s : TransitionState) (eventPk : String) : List TransitionLogRow :=
  s.logs.filter (·.eventPk = eventPk)

def TransitionLogRow.move (log : TransitionLogRow) : String × String := (log.fromStatus, log.toStatus)

/-- The logs of every event are a path from its initial status to its present one. -/
structure Chained (initial : String → Option String) (s : TransitionState) : Prop where
  path : ∀ eventPk fromStatus, initial eventPk = some fromStatus → ∃ status, s.status eventPk = some status ∧
    Walk (fun a b => canTransitionText a b) fromStatus ((s.logsOf eventPk).map (·.move)) status
  absent : ∀ eventPk, initial eventPk = none → s.status eventPk = none ∧ s.logsOf eventPk = []
  complete : ∀ log ∈ s.logs, log.isComplete = true

structure SameRows (s s' : TransitionState) : Prop where
  status : s'.status = s.status
  logs : s'.logs = s.logs

def TransitionAction.transaction : TransitionAction → Option Nat
  | begin _ => none
  | go i _ | crash i => some i

/-- No step of a call that does not return changes a committed row. -/
def RejectedQuietly (initial : String → Option String) (actions : List TransitionAction) : Prop :=
  ∀ i tx, (actions.foldl TransitionState.step (.start initial)).transactions[i]? = some tx → tx.pc ≠ .returned →
    ∀ v ∈ visited TransitionState.step (.start initial) actions, v.2.transaction = some i →
      SameRows v.1 (v.1.step v.2)

/-! ## The invariant -/

variable {initial : String → Option String} {s s' : TransitionState} {i : Nat}
  {tx old new : TransitionTransaction} {log : TransitionLogRow} {eventPk : String}

structure Unwritten (tx : TransitionTransaction) : Prop where
  inserted : tx.inserted = none
  status : tx.status = none
  reconciled : tx.reconciled = none

/-- The log row is the move that the transaction makes, from the committed status. -/
structure Moving (s : TransitionState) (tx : TransitionTransaction) (log : TransitionLogRow) : Prop where
  inserted : tx.inserted = some log
  event : tx.call.eventPk = log.eventPk
  target : ∀ eventPk toStatus leaderId details, tx.call = .transition eventPk toStatus leaderId details →
    log.toStatus = toStatus
  current : s.status log.eventPk = some log.fromStatus
  valid : canTransitionText log.fromStatus log.toStatus = true
  reconciled : tx.reconciled = none

/-- How far a transaction has come. -/
def Backed (s : TransitionState) (tx : TransitionTransaction) : Prop :=
  match tx.pc with
  | .selectEvent | .updateLog _ _ | .returned | .raised | .crashed => Unwritten tx
  | .insertLog fromStatus => Unwritten tx ∧
      ∀ eventPk toStatus leaderId details, tx.call = .transition eventPk toStatus leaderId details →
        s.status eventPk = some fromStatus ∧ canTransitionText fromStatus toStatus = true
  | .updateStatus => ∃ log, Moving s tx log ∧ tx.status = none
  | .completeLog => ∃ log, Moving s tx log ∧ tx.status = some log.toStatus
  | .commit => (∃ log, Moving s tx log ∧ tx.status = some log.toStatus ∧ log.isComplete = true) ∨
      (tx.inserted = none ∧ tx.status = none ∧ ∃ log leaderId, tx.call = .reconcile log leaderId)

/-- Two transactions hold the lock of the same row. -/
def BothHold (tx other : TransitionTransaction) : Prop :=
  tx.pc.holds = true ∧ other.pc.holds = true ∧ tx.call.eventPk = other.call.eventPk

structure TransitionInv (initial : String → Option String) (s : TransitionState) : Prop where
  chained : Chained initial s
  backed : ∀ tx ∈ s.transactions, Backed s tx
  exclusive : MutualExclusion BothHold s.transactions

/-! ## Frames -/

theorem Moving.of_status (moving : Moving s tx log) (kept : s'.status log.eventPk = s.status log.eventPk) :
    Moving s' tx log :=
  { moving with current := kept.trans moving.current }

/-- What a transaction rests on is the status it has locked. -/
theorem Backed.of_status (backed : Backed s tx)
    (kept : tx.pc.holds = true → s'.status tx.call.eventPk = s.status tx.call.eventPk) : Backed s' tx := by
  simp only [Backed] at backed ⊢
  -- the move that is being logged rests on the same status
  have held : ∀ log, Moving s tx log → tx.pc.holds = true → Moving s' tx log := by
    intro log moving holds
    apply moving.of_status
    rw [← moving.event]
    exact kept holds
  cases here : tx.pc with
  | insertLog fromStatus =>
    rw [here] at backed
    refine ⟨backed.1, fun eventPk toStatus leaderId details call => ?_⟩
    obtain ⟨current, valid⟩ := backed.2 eventPk toStatus leaderId details call
    have same := kept (by rw [here]; rfl)
    simp only [call, TransitionCall.eventPk] at same
    exact ⟨same.trans current, valid⟩
  | updateStatus =>
    rw [here] at backed
    obtain ⟨log, moving, status⟩ := backed
    exact ⟨log, held log moving (by rw [here]; rfl), status⟩
  | completeLog =>
    rw [here] at backed
    obtain ⟨log, moving, status⟩ := backed
    exact ⟨log, held log moving (by rw [here]; rfl), status⟩
  | commit =>
    rw [here] at backed
    cases backed with
    | inl transition =>
      obtain ⟨log, moving, written⟩ := transition
      exact .inl ⟨log, held log moving (by rw [here]; rfl), written⟩
    | inr reconcile => exact .inr reconcile
  | selectEvent | updateLog _ _ | returned | raised | crashed =>
    rw [here] at backed
    exact backed

theorem TransitionState.not_locked {j : Nat} {other : TransitionTransaction} (free : ¬ s.Locked i eventPk)
    (there : s.transactions[j]? = some other) (apart : j ≠ i) (holds : other.pc.holds = true) :
    other.call.eventPk ≠ eventPk := by
  intro same
  exact free ⟨j, (List.getElem?_eq_some_iff.mp there).1, apart, other, there, holds, same⟩

theorem BothHold.symm {other : TransitionTransaction} (clash : BothHold tx other) : BothHold other tx :=
  ⟨clash.2.1, clash.1, clash.2.2.symm⟩

/-- A transaction gets no lock that another one holds. -/
theorem exclusive_set (new : TransitionTransaction) (exclusive : MutualExclusion BothHold s.transactions)
    (here : s.transactions[i]? = some old) (call : new.call = old.call)
    (locks : new.pc.holds = true → old.pc.holds = true ∨ ¬ s.Locked i old.call.eventPk) :
    MutualExclusion BothHold (s.transactions.set i new) := by
  apply exclusive.set fun _ _ => BothHold.symm
  intro j other there different clash
  obtain ⟨holds, otherHolds, same⟩ := clash
  rw [call] at same
  cases locks holds with
  | inl held => exact different (exclusive i j old other here there ⟨held, otherHolds, same⟩).symm
  | inr free => exact TransitionState.not_locked free there different otherHolds same.symm

/-- A statement that changes nothing but its own transaction. -/
theorem TransitionInv.put (inv : TransitionInv initial s) (new : TransitionTransaction)
    (here : s.transactions[i]? = some old)
    (call : new.call = old.call) (backed : Backed s new)
    (locks : new.pc.holds = true → old.pc.holds = true ∨ ¬ s.Locked i old.call.eventPk) :
    TransitionInv initial (s.put i new) := by
  refine ⟨⟨inv.chained.path, inv.chained.absent, inv.chained.complete⟩, fun tx member => ?_,
    exclusive_set new inv.exclusive here call locks⟩
  cases List.mem_or_eq_of_mem_set member with
  | inl theirs => exact (inv.backed tx theirs).of_status fun _ => rfl
  | inr mine =>
    rw [mine]
    exact backed.of_status fun _ => rfl

theorem TransitionInv.rollBack (inv : TransitionInv initial s) (here : s.transactions[i]? = some tx)
    {pc : TransitionPc} (closed : pc.open = false) : TransitionInv initial (s.rollBack i tx pc) := by
  have ended : pc.holds = false := by cases pc <;> simp_all [TransitionPc.open, TransitionPc.holds]
  apply inv.put { tx with pc := pc, inserted := none, status := none, reconciled := none } here rfl
  · cases pc with
    | returned | raised | crashed => exact ⟨rfl, rfl, rfl⟩
    | _ => cases closed
  · intro holds
    simp [ended] at holds

/-! ## Commits -/

namespace TransitionState

@[simp] theorem completed_none : completed none = id := rfl

@[simp] theorem completed_eventPk (reconciled : Option (Nat × Payload)) (log : TransitionLogRow) :
    (completed reconciled log).eventPk = log.eventPk := by
  simp only [completed]
  split
  · split <;> rfl
  · rfl

@[simp] theorem completed_move (reconciled : Option (Nat × Payload)) (log : TransitionLogRow) :
    (completed reconciled log).move = log.move := by
  simp only [completed]
  split
  · split <;> rfl
  · rfl

theorem completed_isComplete (reconciled : Option (Nat × Payload)) {log : TransitionLogRow}
    (complete : log.isComplete = true) : (completed reconciled log).isComplete = true := by
  simp only [completed]
  split
  · split
    · rfl
    · exact complete
  · exact complete

theorem logsOf_reconciled (unmoved : tx.inserted = none) (eventPk : String) :
    ((s.committed tx).logsOf eventPk).map (·.move) = (s.logsOf eventPk).map (·.move) := by
  simp [logsOf, committed, unmoved, List.filter_map, Function.comp_def]

theorem logsOf_moved (moving : Moving s tx log) (eventPk : String) :
    ((s.committed tx).logsOf eventPk).map (·.move) =
      (s.logsOf eventPk).map (·.move) ++ if log.eventPk = eventPk then [log.move] else [] := by
  by_cases here : log.eventPk = eventPk <;>
    simp [logsOf, committed, moving.inserted, moving.reconciled, here]

theorem committed_status_of_ne (different : eventPk ≠ tx.call.eventPk) :
    (s.committed tx).status eventPk = s.status eventPk := by
  simp only [committed]
  cases tx.status with
  | none => rfl
  | some status => exact Function.update_of_ne different _ _

end TransitionState

/-- The move that commits prolongs the path of its event. -/
theorem Chained.moved (chained : Chained initial s) (moving : Moving s tx log)
    (written : tx.status = some log.toStatus) (complete : log.isComplete = true) :
    Chained initial (s.committed tx) := by
  have status : (s.committed tx).status = Function.update s.status log.eventPk (some log.toStatus) := by
    simp [TransitionState.committed, written, moving.event]
  refine ⟨fun eventPk fromStatus known => ?_, fun eventPk unknown => ?_, fun row member => ?_⟩
  · obtain ⟨now, current, walk⟩ := chained.path eventPk fromStatus known
    rw [TransitionState.logsOf_moved moving, status]
    by_cases here : log.eventPk = eventPk
    · subst here
      have same : now = log.fromStatus := Option.some.inj (current.symm.trans moving.current)
      subst same
      exact ⟨log.toStatus, by simp, by simpa [TransitionLogRow.move] using walk.concat moving.valid⟩
    · rw [Function.update_of_ne (Ne.symm here)]
      exact ⟨now, current, by simpa [here] using walk⟩
  · obtain ⟨absent, empty⟩ := chained.absent eventPk unknown
    -- an event without a row has no status to move from
    have here : log.eventPk ≠ eventPk := by
      intro same
      rw [← same, moving.current] at absent
      cases absent
    have kept := TransitionState.logsOf_moved moving eventPk
    rw [empty] at kept
    rw [status, Function.update_of_ne (Ne.symm here)]
    exact ⟨absent, by simpa [here] using kept⟩
  · simp only [TransitionState.committed, moving.inserted, moving.reconciled, List.mem_append, List.mem_map,
      Option.toList_some, List.mem_singleton, TransitionState.completed_none, id] at member
    cases member with
    | inl old =>
      obtain ⟨_, inLogs, rfl⟩ := old
      exact chained.complete _ inLogs
    | inr added => rw [added]; exact complete

/-- A reconciliation leaves the path as it is. -/
theorem Chained.reconciled (chained : Chained initial s) (inserted : tx.inserted = none)
    (status : tx.status = none) : Chained initial (s.committed tx) := by
  have kept : (s.committed tx).status = s.status := by simp [TransitionState.committed, status]
  refine ⟨fun eventPk fromStatus known => ?_, fun eventPk unknown => ?_, fun row member => ?_⟩
  · rw [TransitionState.logsOf_reconciled inserted, kept]
    exact chained.path eventPk fromStatus known
  · obtain ⟨absent, empty⟩ := chained.absent eventPk unknown
    have same := TransitionState.logsOf_reconciled (s := s) inserted eventPk
    rw [empty] at same
    exact ⟨by rw [kept]; exact absent, by simpa using same⟩
  · simp only [TransitionState.committed, inserted, Option.toList_none, List.append_nil, List.mem_map] at member
    obtain ⟨old, inLogs, rfl⟩ := member
    exact TransitionState.completed_isComplete tx.reconciled (chained.complete old inLogs)

theorem TransitionInv.commit (inv : TransitionInv initial s) (here : s.transactions[i]? = some tx)
    (now : tx.pc = .commit) : TransitionInv initial ((s.committed tx).rollBack i tx .returned) := by
  have backed := inv.backed tx (List.mem_of_getElem? here)
  simp only [Backed, now] at backed
  have chained : Chained initial (s.committed tx) := by
    cases backed with
    | inl transition =>
      obtain ⟨log, moving, written, complete⟩ := transition
      exact inv.chained.moved moving written complete
    | inr reconcile => exact inv.chained.reconciled reconcile.1 reconcile.2.1
  refine ⟨⟨chained.path, chained.absent, chained.complete⟩, fun other member => ?_, ?_⟩
  · obtain ⟨j, found⟩ := List.mem_iff_getElem?.mp member
    cases getElem?_of_set found with
    | inl mine =>
      rw [mine.2]
      exact ⟨rfl, rfl, rfl⟩
    | inr theirs =>
      -- the status that the others have locked is not the one written here
      apply (inv.backed other (List.mem_of_getElem? theirs.2)).of_status
      intro holds
      have different : other.call.eventPk ≠ tx.call.eventPk := by
        intro same
        exact theirs.1 (inv.exclusive j i other tx theirs.2 here ⟨holds, by rw [now]; rfl, same⟩)
      exact TransitionState.committed_status_of_ne different
  · exact exclusive_set { tx with pc := .returned, inserted := none, status := none, reconciled := none }
      inv.exclusive here rfl fun holds => nomatch holds

/-! ## Steps and runs -/

theorem TransitionInv.selectEvent (inv : TransitionInv initial s) (here : s.transactions[i]? = some tx)
    (now : tx.pc = .selectEvent) : TransitionInv initial (s.selectEvent i tx) := by
  have unwritten : Unwritten tx := by
    have backed := inv.backed tx (List.mem_of_getElem? here)
    simpa [Backed, now] using backed
  have idle : ∀ pc : TransitionPc, Unwritten { tx with pc := pc } :=
    fun _ => ⟨unwritten.inserted, unwritten.status, unwritten.reconciled⟩
  simp only [TransitionState.selectEvent]
  split
  · exact inv
  next free =>
    split
    · exact inv.rollBack here rfl
    next fromStatus eventPk toStatus leaderId details current call =>
      split
      next valid =>
        apply inv.put { tx with pc := .insertLog fromStatus } here rfl _ fun _ => .inr free
        refine ⟨idle _, fun pk target leader info same => ?_⟩
        cases call.symm.trans same
        rw [call] at current
        exact ⟨current, valid⟩
      · exact inv.rollBack here rfl
    · exact inv.put _ here rfl (idle _) fun _ => .inr free

theorem TransitionInv.insertLog (inv : TransitionInv initial s) (here : s.transactions[i]? = some tx)
    {fromStatus : String} (now : tx.pc = .insertLog fromStatus) :
    TransitionInv initial (s.insertLog i tx fromStatus) := by
  have backed := inv.backed tx (List.mem_of_getElem? here)
  simp only [Backed, now] at backed
  simp only [TransitionState.insertLog]
  split
  next eventPk toStatus leaderId details call =>
    obtain ⟨unwritten, known⟩ := backed
    obtain ⟨current, valid⟩ := known eventPk toStatus leaderId details call
    have counted : TransitionInv initial { s with nextPk := s.nextPk + 1 } :=
      ⟨⟨inv.chained.path, inv.chained.absent, inv.chained.complete⟩,
        fun tx member => (inv.backed tx member).of_status fun _ => rfl, inv.exclusive⟩
    let log : TransitionLogRow := ⟨s.nextPk, eventPk, fromStatus, toStatus, leaderId, details, false⟩
    apply counted.put { tx with pc := .updateStatus, inserted := some log } here rfl _
      fun _ => .inl (by rw [now]; rfl)
    refine ⟨log, ⟨rfl, by rw [call]; rfl, fun pk target leader info same => ?_, current, valid,
      unwritten.reconciled⟩, unwritten.status⟩
    cases call.symm.trans same
    rfl
  · exact inv

theorem TransitionInv.updateStatus (inv : TransitionInv initial s) (here : s.transactions[i]? = some tx)
    (now : tx.pc = .updateStatus) : TransitionInv initial (s.updateStatus i tx) := by
  have backed := inv.backed tx (List.mem_of_getElem? here)
  simp only [Backed, now] at backed
  obtain ⟨log, moving, _⟩ := backed
  simp only [TransitionState.updateStatus]
  split
  next eventPk toStatus leaderId details call =>
    apply inv.put { tx with pc := .completeLog, status := some toStatus } here rfl _
      fun _ => .inl (by rw [now]; rfl)
    exact ⟨log, ⟨moving.inserted, moving.event, moving.target, moving.current, moving.valid, moving.reconciled⟩,
      by rw [moving.target _ _ _ _ call]⟩
  · exact inv

theorem TransitionInv.completeLog (inv : TransitionInv initial s) (here : s.transactions[i]? = some tx)
    (now : tx.pc = .completeLog) : TransitionInv initial (s.completeLog i tx) := by
  have backed := inv.backed tx (List.mem_of_getElem? here)
  simp only [Backed, now] at backed
  obtain ⟨log, moving, written⟩ := backed
  refine inv.put _ here rfl ?_ fun _ => .inl (by rw [now]; rfl)
  exact .inl ⟨{ log with isComplete := true }, ⟨by simp [moving.inserted], moving.event, moving.target,
    moving.current, moving.valid, moving.reconciled⟩, written, rfl⟩

theorem TransitionInv.updateLog (inv : TransitionInv initial s) (here : s.transactions[i]? = some tx)
    {outcome eventStatus : String} (now : tx.pc = .updateLog outcome eventStatus) :
    TransitionInv initial (s.updateLog i tx outcome eventStatus) := by
  have backed := inv.backed tx (List.mem_of_getElem? here)
  simp only [Backed, now] at backed
  simp only [TransitionState.updateLog]
  split
  · exact inv
  next log leaderId call =>
    split
    · exact inv
    · split
      · exact inv.put _ here rfl (.inr ⟨backed.inserted, backed.status, log, leaderId, call⟩)
          fun _ => .inl (by rw [now]; rfl)
      · exact inv.rollBack here rfl

theorem TransitionInv.goOn (inv : TransitionInv initial s) (here : s.transactions[i]? = some tx) :
    TransitionInv initial (s.goOn i tx) := by
  cases now : tx.pc with
  | selectEvent => simpa [TransitionState.goOn, now] using inv.selectEvent here now
  | insertLog fromStatus => simpa [TransitionState.goOn, now] using inv.insertLog here now
  | updateStatus => simpa [TransitionState.goOn, now] using inv.updateStatus here now
  | completeLog => simpa [TransitionState.goOn, now] using inv.completeLog here now
  | updateLog outcome eventStatus => simpa [TransitionState.goOn, now] using inv.updateLog here now
  | commit => simpa [TransitionState.goOn, now] using inv.commit here now
  | returned | raised | crashed => simpa [TransitionState.goOn, now] using inv

/-- What an action does: it begins a call, or nothing, or an open transaction goes on or is
    rolled back. -/
inductive Stepped (s : TransitionState) (action : TransitionAction) : TransitionState → Prop where
  | begun (call : TransitionCall) : action.transaction = none →
      Stepped s action { s with transactions := s.transactions ++ [.begin call] }
  | idle : Stepped s action s
  | goesOn (i : Nat) (tx : TransitionTransaction) : action.transaction = some i → s.transactions[i]? = some tx →
      tx.pc.open = true → Stepped s action (s.goOn i tx)
  | rolledBack (i : Nat) (tx : TransitionTransaction) (pc : TransitionPc) : action.transaction = some i →
      s.transactions[i]? = some tx → tx.pc.open = true → pc.open = false → Stepped s action (s.rollBack i tx pc)

theorem stepped (s : TransitionState) (action : TransitionAction) : Stepped s action (s.step action) := by
  cases action with
  | begin call => exact .begun call rfl
  | go i fails =>
    simp only [TransitionState.step]
    cases here : s.transactions[i]? with
    | none => exact .idle
    | some tx =>
      by_cases going : tx.pc.open = true
      · simp only [going, if_true]
        cases fails with
        | true => exact .rolledBack i tx .raised rfl here going rfl
        | false => exact .goesOn i tx rfl here going
      · simp only [going]
        exact .idle
  | crash i =>
    simp only [TransitionState.step]
    cases here : s.transactions[i]? with
    | none => exact .idle
    | some tx =>
      by_cases going : tx.pc.open = true
      · simp only [going, if_true]
        exact .rolledBack i tx .crashed rfl here going rfl
      · simp only [going]
        exact .idle

theorem TransitionInv.step (inv : TransitionInv initial s) (action : TransitionAction) :
    TransitionInv initial (s.step action) := by
  have step := stepped s action
  generalize s.step action = next at step
  cases step with
  | begun call =>
    refine ⟨⟨inv.chained.path, inv.chained.absent, inv.chained.complete⟩, fun tx member => ?_, ?_⟩
    · cases List.mem_append.mp member with
      | inl old => exact (inv.backed tx old).of_status fun _ => rfl
      | inr new =>
        rw [List.mem_singleton.mp new]
        exact ⟨rfl, rfl, rfl⟩
    -- a new transaction holds no lock
    · apply inv.exclusive.append fun _ _ => BothHold.symm
      intro other _ clash
      cases clash.1
  | idle => exact inv
  | goesOn i tx mine here going => exact inv.goOn here
  | rolledBack i tx pc mine here going closed => exact inv.rollBack here closed

theorem TransitionInv.start (initial : String → Option String) : TransitionInv initial (.start initial) where
  chained := ⟨fun _ fromStatus known => ⟨fromStatus, known, rfl⟩, fun _ unknown => ⟨unknown, rfl⟩,
    fun _ member => nomatch member⟩
  backed := fun _ member => nomatch member
  exclusive := MutualExclusion.nil

theorem transitionInv_run (initial : String → Option String) (actions : List TransitionAction) :
    TransitionInv initial (actions.foldl TransitionState.step (.start initial)) := by
  have keeps : ∀ (s : TransitionState) (action : TransitionAction), TransitionInv initial s →
      True → TransitionInv initial (s.step action) := fun s action inv _ => inv.step action
  exact foldl_preserves keeps (TransitionInv.start initial) fun _ _ => trivial

/-- What commits is what `transitionEvent` makes of the status of that moment. -/
def TransitionState.CommitsTransitions (s : TransitionState) : Prop :=
  ∀ (i : Nat) (tx : TransitionTransaction) (eventPk toStatus leaderId : String) (details : Payload),
    s.transactions[i]? = some tx → tx.pc = .commit → tx.call = .transition eventPk toStatus leaderId details →
    ∃ source target fromStatus, s.status eventPk = some fromStatus ∧ statusOf fromStatus = some source ∧
      statusOf toStatus = some target ∧
      transitionEvent source target leaderId = .ok (target, ⟨source, target, leaderId, true⟩) ∧
      (s.committed tx).status eventPk = some toStatus ∧
      ((s.committed tx).logsOf eventPk).map (·.move) = (s.logsOf eventPk).map (·.move) ++ [(fromStatus, toStatus)]

theorem TransitionInv.commitsTransitions (inv : TransitionInv initial s) : s.CommitsTransitions := by
  intro i tx eventPk toStatus leaderId details here now call
  have backed := inv.backed tx (List.mem_of_getElem? here)
  simp only [Backed, now] at backed
  cases backed with
  | inl transition =>
    obtain ⟨log, moving, written, _⟩ := transition
    -- the status that was read is still there: its lock has been held since
    have event : eventPk = log.eventPk := by rw [← moving.event, call]; rfl
    have target := moving.target _ _ _ _ call
    have valid := moving.valid
    simp only [canTransitionText] at valid
    split at valid
    next source target' known known' =>
      refine ⟨source, target', log.fromStatus, event ▸ moving.current, known, target ▸ known', ?_, ?_, ?_⟩
      · simp [transitionEvent, valid]
      · simp [TransitionState.committed, written, call, TransitionCall.eventPk, target]
      · rw [TransitionState.logsOf_moved moving]
        simp [event, TransitionLogRow.move, target]
    · cases valid
  | inr reconcile =>
    obtain ⟨_, _, log, leader, other⟩ := reconcile
    rw [call] at other
    cases other

/-! ## Calls that do not return -/

/-- A statement does nothing, or it moves its own transaction; the rows have changed only if it
    was the commit. -/
theorem goOn_cases (s : TransitionState) (i : Nat) (tx : TransitionTransaction) :
    s.goOn i tx = s ∨ ∃ written new, s.goOn i tx = written.put i new ∧ written.transactions = s.transactions ∧
      (tx.pc ≠ .commit → SameRows s written) := by
  have own : ∀ new, ∃ written new', s.put i new = written.put i new' ∧ written.transactions = s.transactions ∧
      (tx.pc ≠ .commit → SameRows s written) := fun new => ⟨s, new, rfl, rfl, fun _ => ⟨rfl, rfl⟩⟩
  simp only [TransitionState.goOn]
  split
  · simp only [TransitionState.selectEvent]
    split
    · exact .inl rfl
    · split
      · exact .inr (own _)
      · split <;> exact .inr (own _)
      · exact .inr (own _)
  · simp only [TransitionState.insertLog]
    split
    · exact .inr ⟨{ s with nextPk := s.nextPk + 1 }, _, rfl, rfl, fun _ => ⟨rfl, rfl⟩⟩
    · exact .inl rfl
  · simp only [TransitionState.updateStatus]
    split
    · exact .inr (own _)
    · exact .inl rfl
  · exact .inr (own _)
  · simp only [TransitionState.updateLog]
    split
    · exact .inl rfl
    · split
      · exact .inl rfl
      · split <;> exact .inr (own _)
  next now => exact .inr ⟨s.committed tx, _, rfl, rfl, fun early => absurd now early⟩
  all_goals exact .inl rfl

/-- A step moves at most one transaction, an open one. -/
theorem step_transactions (s : TransitionState) (action : TransitionAction) :
    (s.step action).transactions = s.transactions ∨ (∃ tx, (s.step action).transactions = s.transactions ++ [tx]) ∨
      ∃ j tx new, s.transactions[j]? = some tx ∧ tx.pc.open = true ∧
        (s.step action).transactions = s.transactions.set j new := by
  have step := stepped s action
  generalize s.step action = next at step
  cases step with
  | begun call => exact .inr (.inl ⟨_, rfl⟩)
  | idle => exact .inl rfl
  | goesOn i tx mine here going =>
    cases goOn_cases s i tx with
    | inl same => exact .inl (by rw [same])
    | inr moved =>
      obtain ⟨written, new, result, transactions, _⟩ := moved
      refine .inr (.inr ⟨i, tx, new, here, going, ?_⟩)
      rw [result, TransitionState.put, transactions]
  | rolledBack i tx pc mine here going => exact .inr (.inr ⟨i, tx, _, here, going, rfl⟩)

def TransitionState.Returned (s : TransitionState) (i : Nat) : Prop :=
  ∃ tx, s.transactions[i]? = some tx ∧ tx.pc = .returned

theorem Returned.step (returned : s.Returned i) (action : TransitionAction) : (s.step action).Returned i := by
  obtain ⟨tx, here, now⟩ := returned
  have inside := (List.getElem?_eq_some_iff.mp here).1
  refine ⟨tx, ?_, now⟩
  rcases step_transactions s action with same | ⟨added, appended⟩ | ⟨j, other, new, there, going, set⟩
  · rw [same, here]
  · rw [appended, List.getElem?_append_left inside, here]
  · have different : j ≠ i := by
      intro same
      subst same
      cases here.symm.trans there
      rw [now] at going
      cases going
    rw [set, List.getElem?_set_ne different, here]

/-- A step of a call that changes a row is its commit. -/
theorem step_rows {action : TransitionAction} (mine : action.transaction = some i) :
    SameRows s (s.step action) ∨ (s.step action).Returned i := by
  have step := stepped s action
  generalize s.step action = next at step
  cases step with
  | begun call other =>
    rw [other] at mine
    cases mine
  | idle => exact .inl ⟨rfl, rfl⟩
  | goesOn j tx own here going =>
    cases own.symm.trans mine
    -- only the commit shows to the others what the call has written
    by_cases now : tx.pc = .commit
    · refine .inr ⟨{ tx with pc := .returned, inserted := none, status := none, reconciled := none }, ?_, rfl⟩
      have inside := (List.getElem?_eq_some_iff.mp here).1
      simp [TransitionState.goOn, now, TransitionState.rollBack, TransitionState.put,
        TransitionState.committed, inside]
    · cases goOn_cases s i tx with
      | inl same =>
        rw [same]
        exact .inl ⟨rfl, rfl⟩
      | inr moved =>
        obtain ⟨written, new, result, _, rows⟩ := moved
        rw [result]
        exact .inl ⟨(rows now).status, (rows now).logs⟩
  | rolledBack j tx pc own here going => exact .inl ⟨rfl, rfl⟩

theorem rejectedQuietly (initial : String → Option String) (actions : List TransitionAction) :
    RejectedQuietly initial actions := by
  intro i tx final unreturned v visit mine
  obtain ⟨before, after, split, here⟩ := mem_visited.mp visit
  cases step_rows (s := v.1) mine with
  | inl same => exact same
  | inr returned =>
    have stays : ∀ (s : TransitionState) (action : TransitionAction), s.Returned i → True →
        (s.step action).Returned i := fun s action returned _ => Returned.step returned action
    have ended : (after.foldl TransitionState.step (v.1.step v.2)).Returned i :=
      foldl_preserves stays returned fun _ _ => trivial
    rw [here, ← List.foldl_cons, ← List.foldl_append, ← split] at ended
    obtain ⟨tx', found, now⟩ := ended
    cases final.symm.trans found
    exact absurd now unreturned

/-! ## The chain -/

theorem not_canTransitionText_completed (toStatus : String) : canTransitionText "completed" toStatus = false := by
  have known : statusOf "completed" = some .completed := by decide
  simp only [canTransitionText, known]
  cases statusOf toStatus with
  | none => rfl
  | some toStatus => simp [canTransition, validTransitions]

theorem transition_log_chain (initial : String → Option String) (actions : List TransitionAction) :
    Chained initial (actions.foldl TransitionState.step (.start initial)) ∧
      (∀ log ∈ (actions.foldl TransitionState.step (.start initial)).logs, log.fromStatus ≠ "completed") ∧
      RejectedQuietly initial actions ∧
      (actions.foldl TransitionState.step (.start initial)).CommitsTransitions := by
  have inv := transitionInv_run initial actions
  have chained := inv.chained
  refine ⟨chained, fun log member => ?_, rejectedQuietly initial actions, inv.commitsTransitions⟩
  have mine : log ∈ (actions.foldl TransitionState.step (.start initial)).logsOf log.eventPk :=
    List.mem_filter.mpr ⟨member, by simp⟩
  cases known : initial log.eventPk with
  | none =>
    rw [(chained.absent _ known).2] at mine
    cases mine
  | some fromStatus =>
    obtain ⟨_, _, walk⟩ := chained.path _ _ known
    exact walk.source_ne (fun next => by simp [not_canTransitionText_completed]) (List.mem_map_of_mem mine)

end EventPlatform.Operator
