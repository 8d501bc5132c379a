import EventPlatform.Browser.Controller
import EventPlatform.Browser.Retired
import EventPlatform.Lib.Runs

/-! # The end of the event in the browser

`_onEventEnd` and `_onSessionReplaced` put everything away while other handlers are
suspended. -/

namespace EventPlatform.Browser

open EventPlatform.Lib FailoverMediaTransport

/-- What the end should leave behind for good: `ended` is the state in which it has returned. -/
structure Ended (ended s : CallRoomController) : Prop where
  created : s.transports.length = ended.transports.length
  closed : ∀ t ∈ s.transports, t.active.state = .closed ∧ t.active.pc = none
  offers : s.offers = ended.offers
  stream : s.sharedStream = none
  camera : s.camera = ended.camera
  timer : s.timerInterval = false

/-- The call of a transport that a handler waits for. -/
def Handler.call : Handler → Option (Nat × Call)
  | .acquiring k call | .preparing k call | .offering k call | .background k call => some (k, call)
  | _ => none

/-- What a handler of the controller does next is not stopped by a missing negotiator or
    partner. -/
def Handler.Proceeds (partner : Option Pairing) : Handler → Prop
  | .iceServers | .offering _ _ | .camera _ => True
  | .localMedia _ => partner.isSome = true
  | .preparing _ _ => partner.any (!·.isOfferer) = true
  | _ => False

instance Handler.decidableProceeds (partner : Option Pairing) : DecidablePred (Handler.Proceeds partner)
  | .iceServers | .offering _ _ | .camera _ => inferInstanceAs (Decidable True)
  | .localMedia _ => inferInstanceAs (Decidable (partner.isSome = true))
  | .preparing _ _ => inferInstanceAs (Decidable (partner.any (!·.isOfferer) = true))
  | .acquiring _ _ | .endingRound | .background _ _ | .failed | .finished => inferInstanceAs (Decidable False)

def ControllerAction.connects : ControllerAction → Bool
  | .connect _ => true
  | _ => false

namespace CallRoomController

/-- Something is suspended that the end does not stop. -/
def Suspended (s : CallRoomController) : Prop :=
  s.camera.Asking ∨
    ∃ h ∈ s.handlers, h.Proceeds s.partner ∨ ∃ call ∈ h.call, ∃ t ∈ s.transports[call.1]?, t.Revives call.2

instance decidableSuspended (s : CallRoomController) : Decidable s.Suspended :=
  inferInstanceAs (Decidable ((∃ request < s.camera.sharedGetUserMediaCalls, request ∉ s.camera.settled) ∨
    ∃ h ∈ s.handlers, h.Proceeds s.partner ∨ ∃ call ∈ h.call, ∃ t ∈ s.transports[call.1]?, t.Revives call.2))

variable {s u ended : CallRoomController} {k : Nat} {t new : FailoverMediaTransport}

/-! ## Transports of the past -/

theorem negotiator_of_current (here : s.current = some (k, t)) : s.negotiator = some k ∧ s.transports[k]? = some t := by
  unfold current at here
  obtain ⟨j, negotiator, found⟩ := Option.bind_eq_some_iff.mp here
  obtain ⟨other, found, same⟩ := Option.map_eq_some_iff.mp found
  cases same
  exact ⟨negotiator, found⟩

theorem current_of_found (negotiator : s.negotiator = some k) (found : s.transports[k]? = some t) :
    s.current = some (k, t) := by
  simp [current, negotiator, found]

theorem mem_start {h new : Handler} (member : h ∈ (s.start new).handlers) : h ∈ s.handlers ∨ h = new := by
  rcases List.mem_append.mp member with old | last
  · exact .inl old
  · exact .inr (List.mem_singleton.mp last)

theorem mem_settle {i : Nat} {h new : Handler} (member : h ∈ (s.settle i new).handlers) : h ∈ s.handlers ∨ h = new :=
  List.mem_or_eq_of_mem_set member

/-- All transports but the current one have left, and no suspended call brings one back. -/
structure Tidy (s : CallRoomController) : Prop where
  numbered : ∀ t ∈ s.transports, t.Numbered
  retired : ∀ k t, s.transports[k]? = some t → s.negotiator ≠ some k → t.Retired
  calm : ∀ h ∈ s.handlers, ∀ k call, h.call = some (k, call) → ∀ t, s.transports[k]? = some t →
    s.negotiator ≠ some k → ¬ t.Revives call

theorem Tidy.of_handlers (tidy : Tidy s) (transports : u.transports = s.transports)
    (negotiator : u.negotiator = s.negotiator) (handlers : ∀ h ∈ u.handlers, h ∈ s.handlers ∨ h.call = none) :
    Tidy u where
  numbered := transports ▸ tidy.numbered
  retired := transports ▸ negotiator ▸ tidy.retired
  calm h member k call waits := by
    rcases handlers h member with old | free
    · rw [transports, negotiator]
      exact tidy.calm h old k call waits
    · rw [free] at waits
      cases waits

theorem Tidy.of_same (tidy : Tidy s) (transports : u.transports = s.transports)
    (negotiator : u.negotiator = s.negotiator) (handlers : u.handlers = s.handlers) : Tidy u :=
  tidy.of_handlers transports negotiator fun _ member => .inl (handlers ▸ member)

theorem getElem?_set_cases {j : Nat} {x : FailoverMediaTransport} {ts : List FailoverMediaTransport}
    (found : (ts.set k new)[j]? = some x) : (j = k ∧ x = new) ∨ (j ≠ k ∧ ts[j]? = some x) := by
  by_cases same : j = k
  · subst same
    rw [List.getElem?_set_self'] at found
    obtain ⟨_, _, eq⟩ := Option.map_eq_some_iff.mp found
    exact .inl ⟨rfl, eq.symm⟩
  · rw [List.getElem?_set_ne (Ne.symm same)] at found
    exact .inr ⟨same, found⟩

/-- A transport moves; one of the past stays where it is. -/
theorem Tidy.move (tidy : Tidy s) (found : s.transports[k]? = some t) (transports : u.transports = s.transports.set k new)
    (negotiator : u.negotiator = s.negotiator) (numbered : new.Numbered)
    (still : s.negotiator ≠ some k → new.Retired ∧ SameMarks t new)
    (handlers : ∀ h ∈ u.handlers, h ∈ s.handlers ∨ ∀ j call, h.call = some (j, call) →
      j = k ∧ (s.negotiator ≠ some k → ¬ t.Revives call)) : Tidy u where
  numbered x member := by
    rw [transports] at member
    rcases List.mem_or_eq_of_mem_set member with old | rfl
    · exact tidy.numbered x old
    · exact numbered
  retired j x at_j past := by
    rw [transports] at at_j
    rw [negotiator] at past
    -- a transport of the past is this one, or one that has not moved
    rcases getElem?_set_cases at_j with ⟨rfl, rfl⟩ | ⟨-, old⟩
    · exact (still past).1
    · exact tidy.retired j x old past
  calm h member j call waits x at_j past := by
    rw [transports] at at_j
    rw [negotiator] at past
    rcases getElem?_set_cases at_j with ⟨rfl, rfl⟩ | ⟨other, old⟩
    · rw [(still past).2.revives]
      rcases handlers h member with before | fresh
      · exact tidy.calm h before j call waits t found past
      · exact (fresh j call waits).2 past
    · rcases handlers h member with before | fresh
      · exact tidy.calm h before j call waits x old past
      · exact absurd (fresh j call waits).1 other

theorem Tidy.move_current (tidy : Tidy s) (here : s.current = some (k, t))
    (transports : u.transports = s.transports.set k new) (negotiator : u.negotiator = s.negotiator)
    (numbered : new.Numbered)
    (handlers : ∀ h ∈ u.handlers, h ∈ s.handlers ∨ ∀ j call, h.call = some (j, call) → j = k) : Tidy u := by
  obtain ⟨now, found⟩ := negotiator_of_current here
  refine tidy.move found transports negotiator numbered (fun past => absurd now past) fun h member => ?_
  rcases handlers h member with old | fresh
  · exact .inl old
  · exact .inr fun j call waits => ⟨fresh j call waits, fun past => absurd now past⟩

theorem Tidy.numbered_current (tidy : Tidy s) (here : s.current = some (k, t)) : t.Numbered :=
  tidy.numbered t (List.mem_of_getElem? (negotiator_of_current here).2)

/-! ## Handlers before the end -/

theorem Tidy.start (tidy : Tidy s) {h : Handler} (free : h.call = none) : Tidy (s.start h) := by
  refine tidy.of_handlers rfl rfl fun x member => ?_
  rcases mem_start member with old | rfl
  · exact .inl old
  · exact .inr free

theorem Tidy.settle (tidy : Tidy s) {h : Handler} (i : Nat) (free : h.call = none) : Tidy (s.settle i h) := by
  refine tidy.of_handlers rfl rfl fun x member => ?_
  rcases mem_settle member with old | rfl
  · exact .inl old
  · exact .inr free

theorem Tidy.start_current (tidy : Tidy s) (here : s.current = some (k, t)) {p : Progress}
    (numbered : p.transport.Numbered) : Tidy ((s.perform k p).start (.background k p.call)) := by
  refine tidy.move_current here rfl rfl numbered fun h member => ?_
  rcases mem_start member with old | rfl
  · exact .inl old
  · exact .inr fun j call waits => by cases waits; rfl

theorem Tidy.settle_current (tidy : Tidy s) (here : s.current = some (k, t)) {p : Progress}
    (numbered : p.transport.Numbered) {h : Handler} (waits : h.call = some (k, p.call)) (i : Nat) :
    Tidy ((s.perform k p).settle i h) := by
  refine tidy.move_current here rfl rfl numbered fun x member => ?_
  rcases mem_settle member with old | rfl
  · exact .inl old
  · exact .inr fun j call other => by rw [waits] at other; cases other; rfl

theorem Tidy.ensureLocalMedia (tidy : Tidy s) : Tidy s.ensureLocalMedia.1 := by
  unfold CallRoomController.ensureLocalMedia
  split
  · exact tidy.of_same rfl rfl rfl
  split
  · exact tidy.of_same rfl rfl rfl
  · refine tidy.of_handlers rfl rfl fun h member => ?_
    rcases List.mem_append.mp member with old | new
    · exact .inl old
    · exact .inr (by rw [List.mem_singleton.mp new]; rfl)

theorem Tidy.recoverAfterSignalingRestore (tidy : Tidy s) : Tidy s.recoverAfterSignalingRestore := by
  unfold CallRoomController.recoverAfterSignalingRestore
  split
  · exact tidy
  · rename_i here
    exact tidy.move_current here rfl rfl (tidy.numbered_current here).recoverAfterSignalingRestore
      fun h member => .inl member

theorem Tidy.onPairing (tidy : Tidy s) (next : Pairing) : Tidy (s.onPairing next) := by
  unfold CallRoomController.onPairing
  simp only []
  split
  · exact Tidy.recoverAfterSignalingRestore (tidy.of_same rfl rfl rfl)
  · refine Tidy.start ?_ rfl
    exact tidy.of_same rfl rfl rfl

theorem Tidy.onServerHello (tidy : Tidy s) : Tidy s.onServerHello := by
  unfold CallRoomController.onServerHello
  simp only []
  split
  · exact Tidy.recoverAfterSignalingRestore (Tidy.ensureLocalMedia (tidy.of_same rfl rfl rfl))
  · exact Tidy.ensureLocalMedia (tidy.of_same rfl rfl rfl)

theorem Tidy.onRoundStart (tidy : Tidy s) : Tidy s.onRoundStart := by
  unfold CallRoomController.onRoundStart
  simp only []
  have begun : Tidy { s with phase := .inRound } := tidy.of_same rfl rfl rfl
  split
  · exact begun
  · rename_i here
    exact begun.start_current here (begun.numbered_current here).open_

theorem Tidy.onRoundEnd (tidy : Tidy s) : Tidy s.onRoundEnd := by
  unfold CallRoomController.onRoundEnd
  simp only []
  have begun : Tidy { s with phase := .roundEnding } := tidy.of_same rfl rfl rfl
  split
  · exact tidy.of_same rfl rfl rfl
  · rename_i here
    have ended := begun.move_current (u := { s with
      phase := .roundEnding, transports := s.transports.set _ _ }) here rfl rfl
      (begun.numbered_current here).endRound fun h member => .inl member
    exact ended.start rfl

/-- The new transport is the current one. -/
theorem Tidy.createNegotiator (tidy : Tidy s) (absent : s.current = none) (i : Nat) (partner : Pairing) :
    Tidy (s.createNegotiator i partner) := by
  -- there is no current transport, so all that there are belong to the past
  have past {j : Nat} {x : FailoverMediaTransport} (found : s.transports[j]? = some x) : s.negotiator ≠ some j := by
    intro now
    rw [current_of_found now found] at absent
    cases absent
  have split_at {j : Nat} {x new : FailoverMediaTransport} (found : (s.transports ++ [new])[j]? = some x)
      (other : some s.transports.length ≠ some j) : s.transports[j]? = some x := by
    rcases Nat.lt_trichotomy j s.transports.length with before | here | after
    · rwa [List.getElem?_append_left before] at found
    · exact absurd (congrArg some here.symm) other
    · have bound := (List.getElem?_eq_some_iff.mp found).1
      rw [List.length_append, List.length_singleton] at bound
      omega
  refine ⟨fun x member => ?_, fun j x found other => ?_, fun h member j call waits x found other => ?_⟩
  · rcases List.mem_append.mp member with old | new
    · exact tidy.numbered x old
    · rw [List.mem_singleton.mp new]
      exact (numbered_create _ _ _ _ _).acquire _
  · exact tidy.retired j x (split_at found other) (past (split_at found other))
  · have old := split_at found other
    rcases mem_settle member with before | rfl
    · exact tidy.calm h before j call waits x old (past old)
    · cases waits
      exact absurd rfl other

theorem Tidy.afterLocalMedia (tidy : Tidy s) (i : Nat) : Tidy (s.afterLocalMedia i) := by
  unfold CallRoomController.afterLocalMedia
  split
  · exact tidy.settle i rfl
  · rename_i absent _
    exact tidy.createNegotiator absent i _
  · rename_i here
    split
    · refine Tidy.settle ?_ i rfl
      exact tidy.of_same rfl rfl rfl
    split
    · exact tidy.settle i rfl
    · exact tidy.settle_current here ((tidy.numbered_current here).prepareRound _ _) rfl i

theorem Tidy.afterAcquire (tidy : Tidy s) (i : Nat) : Tidy (s.afterAcquire i) := by
  unfold CallRoomController.afterAcquire
  split
  · exact tidy.settle i rfl
  · rename_i t here
    split
    · refine Tidy.settle ?_ i rfl
      exact tidy.of_same rfl rfl rfl
    · have kept : Tidy { s with sharedStream := t.active.localStream } := tidy.of_same rfl rfl rfl
      refine kept.settle_current here ((tidy.numbered_current here).preconnect _ _) ?_ i
      rfl

theorem Tidy.afterPrepare (tidy : Tidy s) (i : Nat) : Tidy (s.afterPrepare i) := by
  unfold CallRoomController.afterPrepare
  split
  · exact tidy.settle i rfl
  split
  · split
    · exact tidy.settle i rfl
    · rename_i here
      exact tidy.settle_current here (tidy.numbered_current here).createManualOffer rfl i
  · refine Tidy.settle ?_ i rfl
    exact tidy.of_same rfl rfl rfl

theorem Tidy.connect (tidy : Tidy s) (exhausted : Bool) : Tidy (s.connect exhausted) := by
  have kept : Tidy { s.ensureLocalMedia.1 with onlineHandler := true } := tidy.ensureLocalMedia.of_same rfl rfl rfl
  unfold CallRoomController.connect
  simp only []
  split
  · exact kept
  split
  · exact kept.of_same rfl rfl rfl
  split
  · exact kept
  split
  · unfold scheduleReconnect
    split
    · exact kept.of_same rfl rfl rfl
    · exact kept.of_same rfl rfl rfl
  · exact kept.of_same rfl rfl rfl

theorem Tidy.scheduleReconnect (tidy : Tidy s) (exhausted : Bool) : Tidy (s.scheduleReconnect exhausted) := by
  unfold CallRoomController.scheduleReconnect
  split
  · exact tidy
  split
  · exact tidy.of_same rfl rfl rfl
  · exact tidy.of_same rfl rfl rfl

theorem Tidy.onSocketOpen (tidy : Tidy s) : Tidy s.onSocketOpen := by
  unfold CallRoomController.onSocketOpen
  split
  · exact tidy.of_same rfl rfl rfl
  · exact tidy

theorem Tidy.onSignalingClosed (tidy : Tidy s) (exhausted : Bool) : Tidy (s.onSignalingClosed exhausted) := by
  unfold CallRoomController.onSignalingClosed
  simp only []
  split
  · exact tidy
  split
  · refine Tidy.scheduleReconnect ?_ exhausted
    exact tidy.of_same rfl rfl rfl
  · refine Tidy.scheduleReconnect ?_ exhausted
    exact tidy.of_same rfl rfl rfl

theorem Tidy.onReconnectTimer (tidy : Tidy s) (exhausted : Bool) : Tidy (s.onReconnectTimer exhausted) := by
  unfold CallRoomController.onReconnectTimer
  split
  · exact tidy
  split
  · exact tidy.of_same rfl rfl rfl
  · refine Tidy.connect ?_ false
    exact tidy.of_same rfl rfl rfl

theorem Tidy.onOnline (tidy : Tidy s) : Tidy s.onOnline := by
  unfold CallRoomController.onOnline
  split
  · refine Tidy.connect ?_ false
    exact tidy.of_same rfl rfl rfl
  · exact tidy

theorem Tidy.forceMediaFallback (tidy : Tidy s) : Tidy s.forceMediaFallback := by
  unfold CallRoomController.forceMediaFallback
  simp only []
  split
  · exact tidy
  split
  · exact tidy
  · rename_i here
    exact tidy.start_current here ((tidy.numbered_current here).activateFallback _)

/-- A call that some transport begins by itself. -/
theorem Tidy.start_any (tidy : Tidy s) (found : s.transports[k]? = some t) {p : Progress}
    (numbered : p.transport.Numbered) (still : t.Retired → Still t s.camera p) :
    Tidy ((s.perform k p).start (.background k p.call)) := by
  have past (other : s.negotiator ≠ some k) := still (tidy.retired k t found other)
  refine tidy.move found rfl rfl numbered (fun other => ⟨(past other).retired, (past other).same⟩) fun h member => ?_
  rcases mem_start member with old | rfl
  · exact .inl old
  · exact .inr fun j call waits => by cases waits; exact ⟨rfl, fun other => (past other).call⟩

theorem Tidy.onFailure (tidy : Tidy s) (k : Nat) (reason : String) : Tidy (s.onFailure k reason) := by
  unfold CallRoomController.onFailure
  split
  · exact tidy
  · rename_i found
    exact tidy.start_any found ((tidy.numbered _ (List.mem_of_getElem? found)).onActiveFailure reason)
      fun retired => retired.onActiveFailure reason

theorem Tidy.onEscalation (tidy : Tidy s) (k j : Nat) : Tidy (s.onEscalation k j) := by
  unfold CallRoomController.onEscalation
  split
  · exact tidy
  rename_i found
  split
  · exact tidy
  · rename_i pending
    exact tidy.start_any found (((tidy.numbered _ (List.mem_of_getElem? found)).fire j).onEscalationTimeout _)
      fun retired => retired.onEscalationTimeout pending

/-- A callback of an adapter, which a transport that has left does not hear. -/
theorem Tidy.hear (tidy : Tidy s) (found : s.transports[k]? = some t) (numbered : new.Numbered)
    (deaf : t.Gone → new = t) : Tidy { s with transports := s.transports.set k new } := by
  refine tidy.move found rfl rfl numbered (fun other => ?_) fun h member => .inl member
  have retired := tidy.retired k t found other
  rw [deaf retired.gone]
  exact ⟨retired, .refl t⟩

theorem Tidy.onQuality (tidy : Tidy s) (k : Nat) (quality : ConnectionQuality) : Tidy (s.onQuality k quality) := by
  unfold CallRoomController.onQuality
  split
  · exact tidy
  · rename_i found
    exact tidy.hear found ((tidy.numbered _ (List.mem_of_getElem? found)).onQuality quality)
      fun gone => gone.onQuality quality

theorem Tidy.onConnectionState (tidy : Tidy s) (k : Nat) (connState : PeerConnectionState) :
    Tidy (s.onConnectionState k connState) := by
  unfold CallRoomController.onConnectionState
  split
  · exact tidy
  · rename_i found
    exact tidy.hear found ((tidy.numbered _ (List.mem_of_getElem? found)).onConnectionState connState)
      fun gone => gone.onConnectionState connState

theorem Tidy.advance (tidy : Tidy s) {i : Nat} {call : Call} {rest : Nat → Call → Handler}
    (waits : ∀ k call, (rest k call).call = some (k, call)) (found : s.handlers[i]? = some (rest k call)) :
    Tidy (s.advance i k call rest) := by
  unfold CallRoomController.advance
  split
  · exact tidy
  · rename_i t here
    have past (other : s.negotiator ≠ some k) : Still t s.camera (t.resume call s.camera) :=
      (tidy.retired k t here other).resume
        (tidy.calm _ (List.mem_of_getElem? found) k call (waits k call) t here other)
    refine tidy.move here rfl rfl ((tidy.numbered _ (List.mem_of_getElem? here)).resume call)
      (fun other => ⟨(past other).retired, (past other).same⟩) fun h member => ?_
    rcases mem_settle member with old | rfl
    · exact .inl old
    · refine .inr fun j now same => ?_
      rw [waits] at same
      cases same
      exact ⟨rfl, fun other => (past other).call⟩

theorem Tidy.resume (tidy : Tidy s) (i : Nat) : Tidy (s.resume i) := by
  cases found : s.handlers[i]? with
  | none => simpa only [CallRoomController.resume, found] using tidy
  | some h =>
    -- a handler that is over is not resumed; each other one goes on from where it waits
    cases h with
    | failed | finished => simpa only [CallRoomController.resume, found] using tidy
    | iceServers =>
      simp only [CallRoomController.resume, found]
      exact tidy.ensureLocalMedia.settle i rfl
    | localMedia promise =>
      simp only [CallRoomController.resume, found]
      split
      · exact tidy.afterLocalMedia i
      · exact tidy
    | acquiring k call =>
      simp only [CallRoomController.resume, found]
      split
      · exact tidy.afterAcquire i
      · exact tidy.advance (fun _ _ => rfl) found
    | preparing k call =>
      simp only [CallRoomController.resume, found]
      split
      · exact tidy.afterPrepare i
      · exact tidy.advance (fun _ _ => rfl) found
    | offering k call =>
      simp only [CallRoomController.resume, found]
      split
      · refine Tidy.settle ?_ i rfl
        exact tidy.of_same rfl rfl rfl
      · exact tidy.advance (fun _ _ => rfl) found
    | endingRound =>
      simp only [CallRoomController.resume, found]
      refine Tidy.settle ?_ i rfl
      exact tidy.of_same rfl rfl rfl
    | camera wait =>
      simp only [CallRoomController.resume, found, afterCamera]
      split
      · exact tidy
      · refine Tidy.settle ?_ i rfl
        exact tidy.of_same rfl rfl rfl
    | background k call =>
      simp only [CallRoomController.resume, found]
      exact tidy.advance (fun _ _ => rfl) found

/-! ## The end -/

theorem asking_cleanUp (s : CallRoomController) : s.cleanUp.camera.Asking ↔ s.camera.Asking := by
  unfold cleanUp leaveNegotiator
  split
  · exact Iff.rfl
  · exact Iff.rfl

/-- `_onEventEnd`, `_onSessionReplaced` and `disconnect` differ in labels only. -/
theorem step_of_ends {action : ControllerAction} (ends : s.ends action = true) :
    ∃ phase degraded gaveUp, s.step action =
      { s.cleanUp with phase, signalingDegraded := degraded, reconnectGaveUp := gaveUp } := by
  cases action with
  | disconnect => exact ⟨_, _, _, rfl⟩
  | socketClose replaced exhausted =>
    cases replaced with
    | true =>
      have attached : s.ws ≠ .detached := by simpa [CallRoomController.ends] using ends
      exact ⟨_, _, _, by simp only [CallRoomController.step, if_neg attached, if_true]; rfl⟩
    | false => cases ends
  | message msg =>
    cases msg with
    | eventEnd =>
      have active : s.ws = .open_ := by simpa [CallRoomController.ends] using ends
      exact ⟨_, _, _, by simp only [CallRoomController.step, if_pos active]; rfl⟩
    | sessionReplaced =>
      have active : s.ws = .open_ := by simpa [CallRoomController.ends] using ends
      exact ⟨_, _, _, by simp only [CallRoomController.step, if_pos active]; rfl⟩
    | _ => cases ends
  | _ => cases ends

theorem Tidy.leaveNegotiator (tidy : Tidy s) (free : ¬ s.Suspended) : Tidy s.leaveNegotiator := by
  -- no call is waiting that would revive what is left
  have calm (h : Handler) (member : h ∈ s.handlers) (k : Nat) (call : Call) (waits : h.call = some (k, call))
      (t : FailoverMediaTransport) (found : s.transports[k]? = some t) : ¬ t.Revives call :=
    fun revives => free (.inr ⟨h, member, .inr ⟨(k, call), waits, t, found, revives⟩⟩)
  unfold CallRoomController.leaveNegotiator
  split
  · rename_i absent
    refine ⟨tidy.numbered, fun k t found _ => ?_, fun h member k call waits t found _ => calm h member k call waits t found⟩
    refine tidy.retired k t found fun now => ?_
    rw [current_of_found now found] at absent
    cases absent
  · rename_i k t here
    have numbered := tidy.numbered_current here
    obtain ⟨now, at_k⟩ := negotiator_of_current here
    refine ⟨fun x member => ?_, fun j x found _ => ?_, fun h member j call waits x found _ => ?_⟩
    · rcases List.mem_or_eq_of_mem_set member with old | rfl
      · exact tidy.numbered x old
      · exact numbered.leave
    · rcases getElem?_set_cases found with ⟨rfl, rfl⟩ | ⟨other, old⟩
      · exact numbered.retired
      · exact tidy.retired j x old fun here => other (Option.some.inj (here.symm.trans now))
    · rcases getElem?_set_cases found with ⟨rfl, rfl⟩ | ⟨-, old⟩
      · rw [revives_leave]
        exact calm h member j call waits t at_k
      · exact calm h member j call waits x old

theorem Tidy.cleanUp (tidy : Tidy s) (free : ¬ s.Suspended) : Tidy s.cleanUp :=
  (tidy.leaveNegotiator free).of_same rfl rfl rfl

theorem Tidy.finish (tidy : Tidy s) {action : ControllerAction} (ends : s.ends action = true) (free : ¬ s.Suspended) :
    Tidy (s.step action) := by
  obtain ⟨phase, degraded, gaveUp, step⟩ := step_of_ends ends
  rw [step]
  exact (tidy.cleanUp free).of_same rfl rfl rfl

theorem Tidy.message (tidy : Tidy s) (msg : ServerMessage) (free : s.ends (.message msg) = true → ¬ s.Suspended) :
    Tidy (s.step (.message msg)) := by
  cases ends : s.ends (.message msg) with
  | true => exact tidy.finish ends (free ends)
  | false =>
    unfold CallRoomController.step
    simp only []
    split
    · rename_i active
      cases msg with
      | hello => exact tidy.onServerHello
      | pairing payload => exact tidy.onPairing payload
      | roundStart => exact tidy.onRoundStart
      | roundEnd => exact tidy.onRoundEnd
      | eventEnd | sessionReplaced => simp [CallRoomController.ends, active] at ends
      | operatorPause | operatorResume => exact tidy.of_same rfl rfl rfl
    · exact tidy

theorem Tidy.step (tidy : Tidy s) {action : ControllerAction} (free : s.ends action = true → ¬ s.Suspended) :
    Tidy (s.step action) := by
  cases action with
  | connect exhausted => exact tidy.connect exhausted
  | disconnect => exact tidy.finish rfl (free rfl)
  | socketOpen => exact tidy.onSocketOpen
  | socketClose replaced exhausted =>
    cases ends : s.ends (.socketClose replaced exhausted) with
    | true => exact tidy.finish ends (free ends)
    | false =>
      unfold CallRoomController.step
      simp only []
      split
      · exact tidy
      rename_i attached
      split
      · rename_i isReplaced
        -- a close with the code 4001 ends the room
        simp [CallRoomController.ends, isReplaced, attached] at ends
      · exact tidy.onSignalingClosed exhausted
  | message msg => exact tidy.message msg free
  | reconnectTimer exhausted => exact tidy.onReconnectTimer exhausted
  | online => exact tidy.onOnline
  | forceMediaFallback => exact tidy.forceMediaFallback
  | failure k reason => exact tidy.onFailure k reason
  | quality k quality => exact tidy.onQuality k quality
  | connection k connState => exact tidy.onConnectionState k connState
  | escalation k j => exact tidy.onEscalation k j
  | grant request => exact tidy.of_same rfl rfl rfl
  | resume i => exact tidy.resume i

/-! ## After the end -/

/-- The controller has put everything away, and no handler takes anything up again. -/
structure Shut (ended s : CallRoomController) : Prop where
  tidy : Tidy s
  alone : s.negotiator = none
  silent : ∀ h ∈ s.handlers, ¬ h.Proceeds s.partner
  ws : s.ws = .detached
  reconnectTimer : s.reconnectTimer = false
  onlineHandler : s.onlineHandler = false
  created : s.transports.length = ended.transports.length
  offers : s.offers = ended.offers
  stream : s.sharedStream = none
  camera : s.camera = ended.camera
  timer : s.timerInterval = false

theorem Shut.final (shut : Shut ended s) : Ended ended s where
  created := shut.created
  closed t member := by
    obtain ⟨k, found⟩ := List.mem_iff_getElem?.mp member
    have past : s.negotiator ≠ some k := by simp [shut.alone]
    have gone := (shut.tidy.retired k t found past).gone
    exact ⟨gone.closed, gone.pc⟩
  offers := shut.offers
  stream := shut.stream
  camera := shut.camera
  timer := shut.timer

theorem Shut.current (shut : Shut ended s) : s.current = none := by simp [CallRoomController.current, shut.alone]

theorem shut_cleanUp (tidy : Tidy s) (free : ¬ s.Suspended) : Shut s.cleanUp s.cleanUp where
  tidy := tidy.cleanUp free
  alone := by
    unfold cleanUp leaveNegotiator
    split
    · rfl
    · rfl
  silent h member proceeds := by
    have same : s.leaveNegotiator.handlers = s.handlers ∧ s.leaveNegotiator.partner = s.partner := by
      unfold leaveNegotiator
      split
      · exact ⟨rfl, rfl⟩
      · exact ⟨rfl, rfl⟩
    -- a handler that proceeds would be suspended
    refine free (.inr ⟨h, ?_, .inl ?_⟩)
    · rw [← same.1]
      exact member
    · rw [← same.2]
      exact proceeds
  ws := rfl
  reconnectTimer := rfl
  onlineHandler := rfl
  created := rfl
  offers := rfl
  stream := rfl
  camera := rfl
  timer := rfl

/-- What `_onEventEnd` and `disconnect` set besides. -/
theorem Shut.labelled (shut : Shut ended s) (phase : CallRoomPhase) (degraded gaveUp : Bool) :
    Shut ended { s with phase, signalingDegraded := degraded, reconnectGaveUp := gaveUp } :=
  ⟨shut.tidy.of_same rfl rfl rfl, shut.alone, shut.silent, shut.ws, shut.reconnectTimer, shut.onlineHandler,
    shut.created, shut.offers, shut.stream, shut.camera, shut.timer⟩

theorem Shut.relabelled (shut : Shut ended s) (phase : CallRoomPhase) (degraded gaveUp : Bool) :
    Shut { ended with phase, signalingDegraded := degraded, reconnectGaveUp := gaveUp } s :=
  ⟨shut.tidy, shut.alone, shut.silent, shut.ws, shut.reconnectTimer, shut.onlineHandler,
    shut.created, shut.offers, shut.stream, shut.camera, shut.timer⟩

theorem shut_ended (tidy : Tidy s) {action : ControllerAction} (ends : s.ends action = true) (free : ¬ s.Suspended) :
    Shut (s.step action) (s.step action) := by
  obtain ⟨phase, degraded, gaveUp, step⟩ := step_of_ends ends
  rw [step]
  exact ((shut_cleanUp tidy free).labelled phase degraded gaveUp).relabelled phase degraded gaveUp

theorem Shut.cleanUp (shut : Shut ended s) : Shut ended s.cleanUp := by
  have same : s.leaveNegotiator = s := by
    simp only [leaveNegotiator, shut.current, ← shut.alone]
  unfold CallRoomController.cleanUp
  rw [same]
  exact ⟨shut.tidy.of_same rfl rfl rfl, shut.alone, shut.silent, rfl, rfl, rfl, shut.created, shut.offers, rfl,
    shut.camera, rfl⟩

theorem Shut.settle (shut : Shut ended s) {h : Handler} (i : Nat) (free : h.call = none)
    (silent : ¬ h.Proceeds s.partner) : Shut ended (s.settle i h) :=
  { shut with
    tidy := shut.tidy.settle i free
    silent := by
      intro x member
      rcases mem_settle member with old | rfl
      · exact shut.silent x old
      · exact silent }

/-- The partner may go, and then fewer handlers go on. -/
theorem Shut.without_partner (shut : Shut ended s) : Shut ended { s with partner := none } :=
  { shut with
    tidy := shut.tidy.of_same rfl rfl rfl
    silent := by
      intro h member proceeds
      refine shut.silent h member ?_
      cases h with
      | localMedia promise => cases proceeds
      | preparing k call => cases proceeds
      | _ => exact proceeds }

theorem Shut.perform (shut : Shut ended s) (found : s.transports[k]? = some t) {p : Progress}
    (numbered : p.transport.Numbered) (still : Still t s.camera p) {handlers : List Handler}
    (fresh : ∀ h ∈ handlers, h ∈ s.handlers ∨ (h.call = some (k, p.call) ∧ ¬ h.Proceeds s.partner)) :
    Shut ended { s.perform k p with handlers } where
  tidy := by
    -- the new handlers are old ones, or wait for the call that `p` has come to
    refine shut.tidy.move found rfl rfl numbered (fun _ => ⟨still.retired, still.same⟩) fun h member => ?_
    rcases fresh h member with old | ⟨waits, -⟩
    · exact .inl old
    · refine .inr fun j call same => ?_
      rw [waits] at same
      cases same
      exact ⟨rfl, fun _ => still.call⟩
  alone := shut.alone
  silent h member := by
    rcases fresh h member with old | ⟨-, silent⟩
    · exact shut.silent h old
    · exact silent
  ws := shut.ws
  reconnectTimer := shut.reconnectTimer
  onlineHandler := shut.onlineHandler
  created := by
    have same : (s.transports.set k p.transport).length = s.transports.length := List.length_set
    exact same.trans shut.created
  offers := by
    simp only [CallRoomController.perform, still.offered, Bool.false_and, Bool.false_eq_true, if_false]
    exact shut.offers
  stream := shut.stream
  camera := still.kept.trans shut.camera
  timer := shut.timer

theorem Shut.retired (shut : Shut ended s) (found : s.transports[k]? = some t) : t.Retired :=
  shut.tidy.retired k t found (by simp [shut.alone])

theorem Shut.start (shut : Shut ended s) (found : s.transports[k]? = some t) {p : Progress}
    (numbered : p.transport.Numbered) (still : Still t s.camera p) :
    Shut ended ((s.perform k p).start (.background k p.call)) := by
  refine shut.perform found numbered still fun h member => ?_
  rcases List.mem_append.mp member with old | new
  · exact .inl old
  · rw [List.mem_singleton.mp new]
    exact .inr ⟨rfl, fun proceeds => proceeds⟩

theorem Shut.onFailure (shut : Shut ended s) (k : Nat) (reason : String) : Shut ended (s.onFailure k reason) := by
  unfold CallRoomController.onFailure
  split
  · exact shut
  · rename_i found
    have numbered := shut.tidy.numbered _ (List.mem_of_getElem? found)
    exact shut.start found (numbered.onActiveFailure reason) ((shut.retired found).onActiveFailure reason)

theorem Shut.onEscalation (shut : Shut ended s) (k j : Nat) : Shut ended (s.onEscalation k j) := by
  unfold CallRoomController.onEscalation
  split
  · exact shut
  rename_i found
  split
  · exact shut
  · rename_i pending
    have numbered := shut.tidy.numbered _ (List.mem_of_getElem? found)
    exact shut.start found ((numbered.fire j).onEscalationTimeout _) ((shut.retired found).onEscalationTimeout pending)

theorem Shut.hear (shut : Shut ended s) (found : s.transports[k]? = some t) (deaf : t.Gone → new = t) :
    Shut ended { s with transports := s.transports.set k new } := by
  rw [deaf (shut.retired found).gone]
  obtain ⟨bound, rfl⟩ := List.getElem?_eq_some_iff.mp found
  have same : s.transports.set k s.transports[k] = s.transports := List.set_getElem_self bound
  rw [same]
  exact shut

theorem Shut.onQuality (shut : Shut ended s) (k : Nat) (quality : ConnectionQuality) :
    Shut ended (s.onQuality k quality) := by
  unfold CallRoomController.onQuality
  split
  · exact shut
  · rename_i found
    exact shut.hear found fun gone => gone.onQuality quality

theorem Shut.onConnectionState (shut : Shut ended s) (k : Nat) (connState : PeerConnectionState) :
    Shut ended (s.onConnectionState k connState) := by
  unfold CallRoomController.onConnectionState
  split
  · exact shut
  · rename_i found
    exact shut.hear found fun gone => gone.onConnectionState connState

theorem Shut.advance (shut : Shut ended s) {i : Nat} {call : Call} {rest : Nat → Call → Handler}
    (waits : ∀ k call, (rest k call).call = some (k, call))
    (uniform : ∀ k now, (rest k now).Proceeds s.partner → (rest k call).Proceeds s.partner)
    (found : s.handlers[i]? = some (rest k call)) : Shut ended (s.advance i k call rest) := by
  have member := List.mem_of_getElem? found
  unfold CallRoomController.advance
  split
  · exact shut
  · rename_i t here
    have numbered := shut.tidy.numbered _ (List.mem_of_getElem? here)
    have calm := shut.tidy.calm _ member k call (waits k call) t here (by simp [shut.alone])
    refine shut.perform here (numbered.resume call) ((shut.retired here).resume calm) fun h fresh => ?_
    rcases List.mem_or_eq_of_mem_set fresh with old | rfl
    · exact .inl old
    · exact .inr ⟨waits _ _, fun proceeds => shut.silent _ member (uniform _ _ proceeds)⟩

/-- Without a negotiator, or without a partner, the rest of `_onPairing` fails. -/
theorem Shut.resume (shut : Shut ended s) (i : Nat) : Shut ended (s.resume i) := by
  cases found : s.handlers[i]? with
  | none => simpa only [CallRoomController.resume, found] using shut
  | some h =>
    have silent := shut.silent h (List.mem_of_getElem? found)
    -- a handler that could still go on to a round is not there: `silent` rules it out
    cases h with
    | failed | finished => simpa only [CallRoomController.resume, found] using shut
    | iceServers => exact absurd trivial silent
    | camera wait => exact absurd trivial silent
    | offering k call => exact absurd trivial silent
    | localMedia promise =>
      simp only [CallRoomController.resume, found]
      split
      · have nobody : s.partner = none := by simpa [Handler.Proceeds] using silent
        simp only [afterLocalMedia, shut.current, nobody]
        exact shut.settle i rfl fun proceeds => proceeds
      · exact shut
    | acquiring k call =>
      simp only [CallRoomController.resume, found]
      split
      · simp only [afterAcquire, shut.current]
        exact shut.settle i rfl fun proceeds => proceeds
      · exact shut.advance (fun _ _ => rfl) (fun _ _ proceeds => proceeds) found
    | preparing k call =>
      simp only [CallRoomController.resume, found]
      split
      · unfold afterPrepare
        split
        · exact shut.settle i rfl fun proceeds => proceeds
        · rename_i partner here
          -- the one that answers would go on; the one that offers needs a negotiator
          have offerer : partner.isOfferer = true := by simpa [Handler.Proceeds, here] using silent
          simp only [offerer, if_true, shut.current]
          exact shut.settle i rfl fun proceeds => proceeds
      · exact shut.advance (fun _ _ => rfl) (fun _ _ proceeds => proceeds) found
    | endingRound =>
      simp only [CallRoomController.resume, found]
      exact shut.without_partner.settle i rfl fun proceeds => proceeds
    | background k call =>
      simp only [CallRoomController.resume, found]
      exact shut.advance (fun _ _ => rfl) (fun _ _ proceeds => proceeds) found

theorem Shut.step (answered : ¬ ended.camera.Asking) (shut : Shut ended s) {action : ControllerAction}
    (left : action.connects = false) : Shut ended (s.step action) := by
  cases action with
  | connect exhausted => cases left
  | disconnect => exact shut.cleanUp.labelled _ _ _
  | socketOpen => simpa [CallRoomController.step, onSocketOpen, shut.ws] using shut
  | socketClose replaced exhausted => simpa [CallRoomController.step, shut.ws] using shut
  | message msg => simpa [CallRoomController.step, shut.ws] using shut
  | reconnectTimer exhausted => simpa [CallRoomController.step, onReconnectTimer, shut.reconnectTimer] using shut
  | online => simpa [CallRoomController.step, onOnline, shut.onlineHandler] using shut
  | forceMediaFallback => simpa [CallRoomController.step, forceMediaFallback, shut.current] using shut
  | failure k reason => exact shut.onFailure k reason
  | quality k quality => exact shut.onQuality k quality
  | connection k connState => exact shut.onConnectionState k connState
  | escalation k j => exact shut.onEscalation k j
  | grant request =>
    have late : ¬ (request < s.camera.sharedGetUserMediaCalls ∧ request ∉ s.camera.settled) := by
      rw [shut.camera]
      exact fun asked => answered ⟨request, asked⟩
    simp only [CallRoomController.step, SharedCamera.grant, if_neg late]
    exact shut
  | resume i => exact shut.resume i

theorem not_asking_ended {action : ControllerAction} (ends : s.ends action = true) (free : ¬ s.Suspended) :
    ¬ (s.step action).camera.Asking := by
  obtain ⟨phase, degraded, gaveUp, step⟩ := step_of_ends ends
  rw [step]
  exact fun asking => free (.inl ((asking_cleanUp s).mp asking))

theorem tidy_create (mediaFallbackRoomId : String) (forceMediaFallback : Bool) :
    Tidy (create mediaFallbackRoomId forceMediaFallback) where
  numbered t member := absurd member List.not_mem_nil
  retired k t found := by simp [create] at found
  calm h member := absurd member List.not_mem_nil

end CallRoomController

/-- The end is final in every run whose ends find nothing suspended that they do not stop. -/
theorem end_is_final (mediaFallbackRoomId : String) (forceMediaFallback : Bool)
    (before after : List ControllerAction) (ending : ControllerAction) :
    let s := before.foldl CallRoomController.step (.create mediaFallbackRoomId forceMediaFallback)
    s.ends ending = true →
    (∀ v ∈ visited CallRoomController.step (.create mediaFallbackRoomId forceMediaFallback) (before ++ [ending]),
      v.1.ends v.2 = true → ¬ v.1.Suspended) →
    (∀ action ∈ after, action.connects = false) →
      Ended (s.step ending) (after.foldl CallRoomController.step (s.step ending)) := by
  intro s ends free left
  have keeps : ∀ (u : CallRoomController) (action : ControllerAction), u.Tidy →
      (u.ends action = true → ¬ u.Suspended) → (u.step action).Tidy := fun _ _ tidy ok => tidy.step ok
  have tidy : s.Tidy := by
    refine foldl_invariant keeps (CallRoomController.tidy_create _ _) fun v member => free v ?_
    obtain ⟨past, rest, split, here⟩ := mem_visited.mp member
    exact mem_visited.mpr ⟨past, rest ++ [ending], by simp [split], here⟩
  have now : ¬ s.Suspended := free (s, ending) (mem_visited.mpr ⟨before, [], rfl, rfl⟩) ends
  have answered := CallRoomController.not_asking_ended ends now
  have stays : ∀ (u : CallRoomController) (action : ControllerAction), CallRoomController.Shut (s.step ending) u →
      action.connects = false → CallRoomController.Shut (s.step ending) (u.step action) :=
    fun _ _ shut ok => shut.step answered ok
  exact (foldl_preserves stays (CallRoomController.shut_ended tidy ends now) left).final

/-- A pairing runs to its end, its round starts, and then the event ends. -/
theorem round_ends_for_good :
    let pairing : Pairing := ⟨"partner", "room", 1, false⟩
    let before : List ControllerAction := [.connect false, .socketOpen, .message .hello, .grant 0, .resume 0,
      .message (.pairing pairing), .resume 1, .resume 1, .resume 1, .resume 1, .resume 1, .resume 1,
      .message .roundStart, .resume 2]
    let s := before.foldl CallRoomController.step (.create "" false)
    s.timerInterval = true ∧ s.transports.length = 1 ∧
      Ended (s.step (.message .eventEnd))
        ([.escalation 0 0, .resume 1, .socketClose false false].foldl CallRoomController.step
          (s.step (.message .eventEnd))) := by
  refine ⟨by decide +kernel, by decide +kernel, ?_⟩
  exact end_is_final "" false _ _ _ (by decide +kernel) (by decide +kernel) (by decide +kernel)

/-- The event ends while `_onPairing` waits for its ICE servers. -/
theorem pairing_outlives_the_end :
    let pairing : Pairing := ⟨"partner", "room", 1, false⟩
    let before : List ControllerAction := [.connect false, .socketOpen, .message .hello, .grant 0, .resume 0,
      .message (.pairing pairing)]
    let ended := (before.foldl CallRoomController.step (.create "" false)).step (.message .eventEnd)
    let later := [.resume 1, .resume 2, .resume 1, .resume 1, .resume 1, .resume 1, .resume 1].foldl
      CallRoomController.step ended
    ended.phase = .eventEnded ∧ ended.transports = [] ∧ later.transports.map (·.active.state) = [.preconnected] ∧
      later.sharedStream = some 0 ∧ later.timerInterval = true ∧ ¬ Ended ended later := by
  refine ⟨by decide +kernel, by decide +kernel, by decide +kernel, by decide +kernel, by decide +kernel, fun final => ?_⟩
  have created := final.created
  revert created
  decide +kernel

end EventPlatform.Browser
