import Mathlib

/-! # The status of an event

`transition_event` moves the status along its table, under the lock of the event row,
and logs every move. -/

namespace EventPlatform.Operator

inductive EventStatus where
  | draft
  | scheduled
  | active
  | completed
  | cancelled
  | registrationOpen
  | locked
  | running
  | paused
deriving DecidableEq

def EventStatus.value : EventStatus → String
  | draft => "draft"
  | scheduled => "scheduled"
  | active => "active"
  | completed => "completed"
  | cancelled => "cancelled"
  | registrationOpen => "registration_open"
  | locked => "locked"
  | running => "running"
  | paused => "paused"

/-- `VALID_TRANSITIONS`; the legacy statuses lead nowhere. -/
def validTransitions : EventStatus → List EventStatus
  | .draft => [.registrationOpen]
  | .registrationOpen => [.locked]
  | .locked => [.running]
  | .running => [.paused, .completed]
  | .paused => [.running, .completed]
  | .completed => []
  | .scheduled => []
  | .active => []
  | .cancelled => []

def canTransition (fromStatus toStatus : EventStatus) : Bool := toStatus ∈ validTransitions fromStatus

structure EventTransitionLog where
  fromStatus : EventStatus
  toStatus : EventStatus
  leaderId : String
  isComplete : Bool
deriving DecidableEq

structure InvalidTransitionError where
  fromStatus : EventStatus
  toStatus : EventStatus
deriving DecidableEq

/-- The transaction as a whole: its log entry is complete when it commits. -/
def transitionEvent (status toStatus : EventStatus) (leaderId : String) :
    Except InvalidTransitionError (EventStatus × EventTransitionLog) :=
  if canTransition status toStatus then .ok (toStatus, ⟨status, toStatus, leaderId, true⟩)
  else .error ⟨status, toStatus⟩

theorem transitionEvent_ok {status toStatus after : EventStatus} {leaderId : String} {log : EventTransitionLog}
    (moved : transitionEvent status toStatus leaderId = .ok (after, log)) :
    after = toStatus ∧ toStatus ∈ validTransitions status := by
  simp only [transitionEvent, canTransition, decide_eq_true_eq] at moved
  split at moved
  next valid =>
    cases moved
    exact ⟨rfl, valid⟩
  next => cases moved

end EventPlatform.Operator
