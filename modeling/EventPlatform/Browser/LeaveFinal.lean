import EventPlatform.Browser.TransportRun
import EventPlatform.Lib.Runs

/-! # Leaving a transport

`leave` runs while other calls are suspended, and nothing cancels them.  It makes the timers
and the callbacks of the adapter stale, but a call that goes on may still reopen the adapter,
or arm the timer again. -/

namespace EventPlatform.Browser

open EventPlatform.Lib FailoverMediaTransport

/-- What `leave` should leave behind for good: `left` is the state in which it has returned. -/
structure Final (left s : TransportRun) : Prop where
  closed : s.transport.active.state = .closed
  camera : s.camera = left.camera
  stream : s.camera.sharedLocalStream = none
  detached : ¬ (s.transport.active.pc.isSome = true ∧ s.transport.active.attached = true)
  direct : s.transport.usingFallback = false

/-- No new round is started, and of the owner's other calls only `calls` are made. -/
def TransportAction.Allowed (calls : TransportAction → Prop) (action : TransportAction) : Prop :=
  action.startsAnew = false ∧ (action.called = true → calls action)

namespace TransportRun

/-- Something is suspended that `leave` does not stop. -/
def Suspended (s : TransportRun) : Prop :=
  s.camera.Asking ∨ ∃ call ∈ s.calls, s.transport.Revives call

instance decidableSuspended (s : TransportRun) : Decidable s.Suspended :=
  inferInstanceAs (Decidable (_ ∨ ∃ call ∈ _, _))

/-- The owner's calls that bring a transport back without starting a round. -/
def Recalls (s : TransportRun) : TransportAction → Prop
  | .endRound => True
  | .forceFallback => s.transport.fallbackAllowed = true
  | .recoverAfterSignalingRestore =>
    s.transport.fallbackAllowed = true ∧ s.transport.active.quality ≠ .connected
  | _ => False

instance decidableRecalls (s : TransportRun) : DecidablePred s.Recalls
  | .endRound => inferInstanceAs (Decidable True)
  | .forceFallback => inferInstanceAs (Decidable (_ = true))
  | .recoverAfterSignalingRestore => inferInstanceAs (Decidable (_ = true ∧ _ ≠ _))
  | .acquireLocalMedia | .preconnect _ _ | .open_ | .createManualOffer | .prepareRound _ _ | .switchPartner _ _
  | .leave | .failure _ | .quality _ | .connection _ | .timer _ | .grant _ | .resume _ =>
    inferInstanceAs (Decidable False)

variable {camera : SharedCamera} {s u : TransportRun} {p : Progress} {calls : TransportAction → Prop}

/-! ## Nothing comes back -/

/-- A transport that has left, with nothing suspended that would bring it back. -/
structure Left (left s : TransportRun) : Prop where
  retired : s.transport.Retired
  kept : s.camera = left.camera
  calls : ∀ call ∈ s.calls, ¬ s.transport.Revives call
  allowed : s.transport.fallbackAllowed = left.transport.fallbackAllowed
  quality : s.transport.active.quality = left.transport.active.quality

variable {left : TransportRun}

theorem Left.begin_ (holds : Left left s) (still : Still s.transport s.camera p) : Left left (s.begin_ p) where
  retired := still.retired
  kept := still.kept.trans holds.kept
  calls call member := by
    refine mt (still.same.revives call).mp ?_
    rcases List.mem_append.mp member with old | new
    · exact holds.calls call old
    · rw [List.mem_singleton.mp new]
      exact still.call
  allowed := still.same.allowed.trans holds.allowed
  quality := still.same.quality.trans holds.quality

theorem Left.set (holds : Left left s) {i : Nat} (still : Still s.transport s.camera p) : Left left (s.set i p) where
  retired := still.retired
  kept := still.kept.trans holds.kept
  calls call member := by
    refine mt (still.same.revives call).mp ?_
    rcases List.mem_or_eq_of_mem_set member with old | rfl
    · exact holds.calls call old
    · exact still.call
  allowed := still.same.allowed.trans holds.allowed
  quality := still.same.quality.trans holds.quality

/-- A transport that moves without a call. -/
theorem Left.move (holds : Left left s) {t : FailoverMediaTransport} (retired : t.Retired)
    (same : SameMarks s.transport t) : Left left { s with transport := t } where
  retired := retired
  kept := holds.kept
  calls call member := mt (same.revives call).mp (holds.calls call member)
  allowed := same.allowed.trans holds.allowed
  quality := same.quality.trans holds.quality

/-- No request is on its way, and the shared stream is released. -/
structure Released (camera : SharedCamera) : Prop where
  answered : ¬ camera.Asking
  stream : camera.sharedLocalStream = none
  promise : camera.sharedAcquirePromise = none

theorem Released.grant (released : Released camera) (request : Nat) : camera.grant request = camera := by
  have late : ¬ (request < camera.sharedGetUserMediaCalls ∧ request ∉ camera.settled) :=
    fun asked => released.answered ⟨request, asked⟩
  rw [SharedCamera.grant, if_neg late]

theorem Released.release (released : Released camera) : camera.releaseSharedLocalMedia = camera := by
  cases camera with
  | mk stream promise calls settled live =>
    obtain ⟨-, stream_none, promise_none⟩ := released
    simp only at stream_none promise_none
    simp [SharedCamera.releaseSharedLocalMedia, stream_none, promise_none]

theorem Left.leave (released : Released left.camera) (holds : Left left s) : Left left s.leave where
  retired := by
    refine ⟨⟨rfl, rfl, rfl⟩, Nat.lt_succ_of_lt holds.retired.adapter, fun allowed gen member => ?_⟩
    exact Nat.lt_succ_of_lt (holds.retired.timers allowed gen member)
  kept := by
    show s.camera.releaseSharedLocalMedia = left.camera
    rw [holds.kept, released.release]
  calls call member := mt (@revives_leave s.transport s.camera call).mp (holds.calls call member)
  allowed := holds.allowed
  quality := holds.quality

/-- Where the fallback is for another room, or the quality says that the connection stands,
    the restored signalling changes nothing. -/
theorem Left.recover (holds : Left left s) (calm : ¬ left.Recalls .recoverAfterSignalingRestore) :
    Left left { s with transport := s.transport.recoverAfterSignalingRestore } := by
  have retired := holds.retired
  have connected : s.transport.fallbackAllowed = true → s.transport.active.quality = .connected := by
    intro allowed
    by_contra apart
    exact calm ⟨holds.allowed ▸ allowed, holds.quality ▸ apart⟩
  have cleared (connected : Bool) : Retired { s.transport.clearEscalationTimer with primaryConnected := connected } :=
    retired.of_same (retired.gone.of_same rfl rfl) ⟨rfl, rfl, rfl, rfl, rfl, rfl⟩ rfl (Nat.le_succ _)
  rw [retired.gone.recoverAfterSignalingRestore]
  split
  · exact holds.move (cleared true) ⟨rfl, rfl, rfl, rfl, rfl, rfl⟩
  · have same := sameMarks_armEscalationTimer { s.transport.clearEscalationTimer with primaryConnected := false }
    exact holds.move ((cleared false).armEscalationTimer connected)
      ⟨same.id, same.roomId, same.quality, same.generation, same.selectedRoomId, same.forced⟩

theorem Left.step (released : Released left.camera) (calm : ∀ action, calls action → ¬ left.Recalls action)
    (holds : Left left s) {action : TransportAction} (allowed : action.Allowed calls) : Left left (s.step action) := by
  have retired := holds.retired
  obtain ⟨resumed, called⟩ := allowed
  cases action with
  | acquireLocalMedia | preconnect | open_ | prepareRound | switchPartner => cases resumed
  | endRound => exact absurd trivial (calm _ (called rfl))
  | createManualOffer =>
    refine holds.begin_ ?_
    have result : s.transport.createManualOffer s.camera = ⟨s.transport, s.camera, .returned, false⟩ := by
      simp [FailoverMediaTransport.createManualOffer, retired.gone.pc]
    rw [result]
    exact retired.still_returned
  | leave => exact holds.leave released
  | forceFallback =>
    have refused : left.transport.fallbackAllowed = false := (Bool.not_eq_true _).mp (calm _ (called rfl))
    exact holds.begin_ (retired.activateFallback (holds.allowed.trans refused))
  | recoverAfterSignalingRestore => exact holds.recover (calm _ (called rfl))
  | failure reason => exact holds.begin_ (retired.onActiveFailure reason)
  | quality quality =>
    have deaf := retired.gone.onQuality quality
    exact holds.move (deaf.symm ▸ retired) (deaf.symm ▸ .refl _)
  | connection connState =>
    have deaf := retired.gone.onConnectionState connState
    exact holds.move (deaf.symm ▸ retired) (deaf.symm ▸ .refl _)
  | timer k =>
    unfold TransportRun.step
    cases pending : s.transport.scheduled[k]? with
    | none => simpa only [pending] using holds
    | some gen =>
      simp only [pending]
      exact holds.begin_ (retired.onEscalationTimeout pending)
  | grant request =>
    have kept : s.camera.grant request = s.camera := by rw [holds.kept, released.grant]
    exact ⟨retired, kept.trans holds.kept, holds.calls, holds.allowed, holds.quality⟩
  | resume i =>
    unfold TransportRun.step
    cases found : s.calls[i]? with
    | none => simpa only [found] using holds
    | some call =>
      simp only [found]
      exact holds.set (retired.resume (holds.calls call (List.mem_of_getElem? found)))

theorem Left.final (released : Released left.camera) (holds : Left left s) : Final left s where
  closed := holds.retired.gone.closed
  camera := holds.kept
  stream := by rw [holds.kept, released.stream]
  detached both := by
    have attached := both.1
    rw [holds.retired.gone.pc] at attached
    cases attached
  direct := holds.retired.gone.direct

theorem left_of_not_suspended (regular : s.Regular) (free : ¬ s.Suspended) : Left s.leave s.leave where
  retired := @Numbered.retired _ s.camera regular.numbered
  kept := rfl
  calls call member revives := free (.inr ⟨call, member, (@revives_leave s.transport s.camera call).mp revives⟩)
  allowed := rfl
  quality := rfl

/-! ## What is suspended comes back -/

/-- Some schedule reopens the transport. -/
def Returns (calls : TransportAction → Prop) (s : TransportRun) : Prop :=
  ∃ actions : List TransportAction, (∀ action ∈ actions, action.Allowed calls) ∧
    (actions.foldl TransportRun.step s).transport.active.state ≠ .closed

theorem Returns.here (back : s.transport.active.state ≠ .closed) : Returns calls s :=
  ⟨[], fun _ member => absurd member List.not_mem_nil, back⟩

theorem Returns.of_step (action : TransportAction) (allowed : action.Allowed calls)
    (returns : Returns calls (s.step action)) : Returns calls s := by
  obtain ⟨actions, all, back⟩ := returns
  exact ⟨action :: actions, List.forall_mem_cons.mpr ⟨allowed, all⟩, back⟩

theorem Returns.of_resume {i : Nat} {call : Call} (found : s.calls[i]? = some call)
    (returns : Returns calls (s.set i (s.transport.resume call s.camera))) : Returns calls s := by
  refine .of_step (.resume i) ⟨rfl, fun called => by cases called⟩ ?_
  simpa only [TransportRun.step, found] using returns

theorem state_activateFallback {t : FailoverMediaTransport} (activates : t.activates = true) (caller : Caller) :
    (t.activateFallback caller camera).transport.active.state = .idle := by
  simp only [FailoverMediaTransport.activateFallback, activates, Bool.not_true, Bool.false_eq_true, if_false]
  unfold FailoverMediaTransport.acquire
  split
  · rfl
  · rfl

/-- A transport that has left, in the room that the fallback is for, and is not told that its
    connection stands. -/
structure Resting (t : FailoverMediaTransport) : Prop where
  gone : t.Gone
  waiting : t.primaryConnected = false
  allowed : t.fallbackAllowed = true

theorem Resting.activates {t : FailoverMediaTransport} (resting : Resting t) (free : t.switching = false) :
    t.activates = true := by
  have allowed : fallbackAllowedForRoom t.roomId t.selectedRoomId = true := resting.allowed
  simp [FailoverMediaTransport.activates, free, resting.gone.direct, allowed]

theorem Resting.of_same {t t' : FailoverMediaTransport} (resting : Resting t) (gone : t'.Gone)
    (waiting : t'.primaryConnected = t.primaryConnected) (same : SameMarks t t') : Resting t' :=
  ⟨gone, waiting.trans resting.waiting, same.allowed.trans resting.allowed⟩

/-- The current timer of a resting transport takes the fallback. -/
theorem Resting.escalates {t : FailoverMediaTransport} (resting : Resting t) (free : t.switching = false) :
    (t.onEscalationTimeout t.escalationGeneration camera).transport.active.state = .idle := by
  have allowed : fallbackAllowedForRoom t.roomId t.selectedRoomId = true := resting.allowed
  have acts : t.onEscalationTimeout t.escalationGeneration camera = t.activateFallback .escalation camera := by
    simp [FailoverMediaTransport.onEscalationTimeout, resting.gone.direct, free, resting.waiting, allowed]
  rw [acts]
  exact state_activateFallback (resting.activates free) _

/-- The timer that is armed fires, and finds the transport as it has left it. -/
theorem Returns.of_armed {t : FailoverMediaTransport} (resting : Resting t) (free : t.switching = false)
    (apart : t.active.quality ≠ .connected) (armed : s.transport = t.armEscalationTimer) : Returns calls s := by
  have cleared : t.clearEscalationTimer.Gone := resting.gone.of_same rfl rfl
  have unconnected : t.clearEscalationTimer.isPrimaryConnected = false := by
    rw [cleared.isPrimaryConnected]
    simp [clearEscalationTimer, resting.waiting, apart]
  have result : t.armEscalationTimer =
      { t.clearEscalationTimer with scheduled := t.scheduled ++ [t.escalationGeneration + 1] } := by
    simp only [FailoverMediaTransport.armEscalationTimer, unconnected, Bool.false_eq_true, if_false]
    simp [clearEscalationTimer, free, resting.gone.direct]
  rw [result] at armed
  have pending : s.transport.scheduled[t.scheduled.length]? = some s.transport.escalationGeneration := by
    rw [armed]
    simp [clearEscalationTimer]
  refine .of_step (.timer t.scheduled.length) ⟨rfl, fun called => by cases called⟩ (.here fun closed => ?_)
  simp only [TransportRun.step, pending] at closed
  have fired : Resting { s.transport with scheduled := s.transport.scheduled.eraseIdx t.scheduled.length } := by
    rw [armed]
    exact resting.of_same (resting.gone.of_same rfl rfl) rfl ⟨rfl, rfl, rfl, rfl, rfl, rfl⟩
  have still : s.transport.switching = false := by rw [armed]; exact free
  have back := @Resting.escalates s.camera _ fired still
  exact absurd (back.symm.trans closed) (by decide)

/-- An activation that does not reopen the adapter ends, and the transport no longer switches. -/
theorem Returns.of_finish (resting : Resting s.transport) {i : Nat} {call : Call} (found : s.calls[i]? = some call)
    (activating : call.Activating) (calm : ¬ call.MayReopen)
    (answered : ∀ id, call.request = some id → id ∈ s.camera.settled)
    (goesOn : ∀ (u : TransportRun) (caller : Caller), Resting u.transport → u.transport.switching = false →
      SameMarks s.transport u.transport → (call.Rearms → caller = .opening) →
      u.calls = s.calls.set i (.answered caller true) → Returns calls u) : Returns calls s := by
  have finished (t : FailoverMediaTransport) (resting : Resting t) (same : SameMarks s.transport t) (caller : Caller)
      (rearms : call.Rearms → caller = .opening) :
      Returns calls ⟨{ t with switching := false }, s.camera, s.calls.set i (.answered caller true)⟩ :=
    goesOn _ caller (resting.of_same (resting.gone.of_same rfl rfl) rfl ⟨rfl, rfl, rfl, rfl, rfl, rfl⟩) rfl
      ⟨same.id, same.roomId, same.quality, same.generation, same.selectedRoomId, same.forced⟩ rearms rfl
  cases call with
  | relayOpen caller => exact .of_resume found (finished _ resting (.refl _) caller id)
  | relayPreconnect snap caller =>
    refine .of_resume found ?_
    have shut : snap.prevState ≠ .open_ := calm
    simp only [FailoverMediaTransport.resume, reopenRelay, if_neg shut]
    exact finished _ resting (.refl _) caller id
  | hasMedia stream next =>
    cases next with
    | keep | restore => exact activating.elim
    | relay snap caller =>
      refine .of_resume found ?_
      have nowhere : ¬ (snap.roomId ≠ "" ∧ snap.partnerId ≠ "") := fun both => calm (.inl both)
      have shut : snap.prevState ≠ .open_ := fun opened => calm (.inr opened)
      simp only [FailoverMediaTransport.resume, FailoverMediaTransport.afterMedia, if_neg nowhere, reopenRelay, if_neg shut]
      exact finished _ resting (.refl _) caller id
  | media adapter wait next =>
    cases next with
    | keep | restore => exact activating.elim
    | relay snap caller =>
      have nowhere : ¬ (snap.roomId ≠ "" ∧ snap.partnerId ≠ "") := fun both => calm (.inl both)
      have shut : snap.prevState ≠ .open_ := fun opened => calm (.inr opened)
      obtain ⟨stream, arrived⟩ := arrived_of_answered answered
      -- the adapter has its stream first, and then the activation goes on
      refine .of_resume found ?_
      simp only [FailoverMediaTransport.resume, arrived]
      have bound := (List.getElem?_eq_some_iff.mp found).1
      have found' : (s.calls.set i (.hasMedia (some stream) (.relay snap caller)))[i]? =
          some (.hasMedia (some stream) (.relay snap caller)) := by simp [bound]
      refine .of_resume found' ?_
      simp only [FailoverMediaTransport.resume, FailoverMediaTransport.afterMedia, if_neg nowhere, reopenRelay, if_neg shut]
      have received : Resting (s.transport.receiveMedia adapter stream) :=
        resting.of_same (resting.gone.receiveMedia _ _) (waiting_receiveMedia _ _ _) (sameMarks_receiveMedia _ _ _)
      have result := finished _ received (sameMarks_receiveMedia _ _ _) caller id
      simpa [set, finishActivation] using result
  | _ => exact activating.elim

/-- The transport stops switching, if need be. -/
theorem Returns.of_free (resting : Resting s.transport)
    (activating : s.transport.switching = true → ∃ call ∈ s.calls, call.Activating)
    (calm : ∀ call ∈ s.calls, ¬ call.MayReopen)
    (answered : ∀ call ∈ s.calls, ∀ id, call.request = some id → id ∈ s.camera.settled)
    (goesOn : ∀ u : TransportRun, Resting u.transport → u.transport.switching = false →
      SameMarks s.transport u.transport → (∀ (i : Nat) (call : Call), s.calls[i]? = some call → call.Activating ∨
        u.calls[i]? = some call) → Returns calls u) : Returns calls s := by
  cases switching : s.transport.switching with
  | false => exact goesOn s resting switching (.refl _) fun i call found => .inr found
  | true =>
    obtain ⟨call, member, activates⟩ := activating switching
    obtain ⟨i, found⟩ := List.mem_iff_getElem?.mp member
    refine .of_finish resting found activates (calm call member) (answered call member) ?_
    intro u caller resting free same _ moved
    refine goesOn u resting free same fun j other found' => ?_
    by_cases here : i = j
    · subst here
      rw [found] at found'
      cases found'
      exact .inl activates
    · rw [moved, List.getElem?_set_ne here]
      exact .inr found'

/-- What is left of an `open` or a `switchPartner` arms the timer, or asks for the fallback. -/
theorem Returns.of_call (resting : Resting s.transport) (free : s.transport.switching = false) {i : Nat} {call : Call}
    (found : s.calls[i]? = some call) (calm : ¬ call.MayReopen) (ended : ¬ call.Activating)
    (revives : (call = .opening ∧ s.transport.forceFallbackOnOpen = true) ∨
      (call.Rearms ∧ s.transport.active.quality ≠ .connected)) : Returns calls s := by
  refine .of_resume found ?_
  have direct := resting.gone.direct
  cases call with
  | opening =>
    cases forced : s.transport.forceFallbackOnOpen with
    | true =>
      refine .here fun closed => ?_
      simp only [set, FailoverMediaTransport.resume, forced, if_true,
        state_activateFallback (resting.activates free)] at closed
      cases closed
    | false =>
      have apart := (revives.resolve_left fun both => by rw [forced] at both; cases both.2).2
      refine .of_armed resting free apart ?_
      simp only [set, FailoverMediaTransport.resume, forced, direct, Bool.false_eq_true, if_false]
  | switched => exact .of_armed resting free (revives.resolve_left fun both => by cases both.1).2 rfl
  | answered caller activated =>
    obtain ⟨opening, apart⟩ := revives.resolve_left fun both => by cases both.1
    cases (show caller = .opening from opening)
    refine .of_armed resting free apart ?_
    simp only [set, FailoverMediaTransport.resume, FailoverMediaTransport.afterActivation, direct, Bool.false_eq_true,
      if_false]
  | media adapter wait next | hasMedia stream next =>
    have rearms := (revives.resolve_left fun both => by cases both.1).1
    cases next with
    | keep => exact rearms.elim
    | restore => exact absurd trivial calm
    | relay => exact absurd trivial ended
  | relayPreconnect | relayOpen => exact absurd trivial ended
  | creatingOffer | settingOffer | settling | returned =>
    exact (revives.resolve_left fun both => by cases both.1).1.elim

/-- A call that reopens the adapter does so when it is resumed. -/
theorem Returns.of_hasMedia {i : Nat} {stream : Option Nat} {next : AfterMedia} (reopens : next.Reopens)
    (found : s.calls[i]? = some (.hasMedia stream next)) : Returns calls s := by
  refine .of_resume found (.here ?_)
  simp only [set, FailoverMediaTransport.resume]
  cases next with
  | keep => cases reopens
  | restore newRoomId newPartnerId reopen =>
    cases reopen with
    | true => exact fun closed => by cases closed
    | false => exact fun closed => by cases closed
  | relay snap caller =>
    simp only [FailoverMediaTransport.afterMedia]
    split
    · exact fun closed => by cases closed
    · rename_i nowhere
      rw [FailoverMediaTransport.reopenRelay, if_pos (reopens.resolve_left nowhere)]
      exact fun closed => by cases closed

theorem Returns.of_mayReopen {call : Call} (member : call ∈ s.calls) (reopens : call.MayReopen)
    (answered : ∀ id, call.request = some id → id ∈ s.camera.settled) : Returns calls s := by
  obtain ⟨i, found⟩ := List.mem_iff_getElem?.mp member
  cases call with
  | hasMedia stream next => exact .of_hasMedia reopens found
  | relayPreconnect snap caller =>
    refine .of_resume found (.here ?_)
    simp only [set, FailoverMediaTransport.resume, FailoverMediaTransport.reopenRelay,
      if_pos (show snap.prevState = .open_ from reopens)]
    exact fun closed => by cases closed
  | media adapter wait next =>
    obtain ⟨stream, arrived⟩ := arrived_of_answered answered
    refine .of_resume found ?_
    simp only [FailoverMediaTransport.resume, arrived]
    have bound := (List.getElem?_eq_some_iff.mp found).1
    have found' : (s.calls.set i (.hasMedia (some stream) next))[i]? = some (.hasMedia (some stream) next) := by
      simp [bound]
    exact .of_hasMedia reopens found'
  | _ => cases reopens

/-! ## `leave` -/

theorem resting_leave (allowed : s.transport.fallbackAllowed = true) : Resting s.leave.transport :=
  ⟨⟨rfl, rfl, rfl⟩, rfl, allowed⟩

/-- All requests that a call waits for have their answers. -/
theorem Regular.answered (regular : s.Regular) (quiet : ¬ s.camera.Asking) :
    ∀ call ∈ s.calls, ∀ id, call.request = some id → id ∈ s.camera.settled := by
  intro call member id asked
  by_contra unanswered
  exact quiet ⟨id, regular.request call member id asked, unanswered⟩

/-- Whatever `leave` finds suspended undoes it, without a call of the owner. -/
theorem suspended_returns (regular : s.Regular) (suspended : s.Suspended) :
    ∃ actions : List TransportAction, (∀ action ∈ actions, action.Allowed calls) ∧
      ¬ Final s.leave (actions.foldl TransportRun.step s.leave) := by
  by_cases asking : s.camera.Asking
  · obtain ⟨request, asked, unanswered⟩ := asking
    refine ⟨[.grant request], by simp [TransportAction.Allowed, TransportAction.startsAnew, TransportAction.called],
      fun final => ?_⟩
    have granted : (s.leave.camera.grant request).sharedLocalStream = some request := by
      have open_ : request < s.leave.camera.sharedGetUserMediaCalls ∧ request ∉ s.leave.camera.settled :=
        ⟨asked, unanswered⟩
      rw [SharedCamera.grant, if_pos open_]
    have stream : (s.leave.camera.grant request).sharedLocalStream = none := final.stream
    rw [granted] at stream
    cases stream
  · have answered := regular.answered asking
    have returns : Returns calls s.leave := by
      by_cases reopening : ∃ call ∈ s.calls, call.MayReopen
      · obtain ⟨call, member, reopens⟩ := reopening
        exact .of_mayReopen (s := s.leave) member reopens (answered call member)
      · have calm : ∀ call ∈ s.calls, ¬ call.MayReopen := fun call member reopens =>
          reopening ⟨call, member, reopens⟩
        obtain ⟨call, member, revives⟩ := suspended.resolve_left asking
        obtain ⟨allowed, revives⟩ := revives.resolve_left (calm call member)
        obtain ⟨i, found⟩ := List.mem_iff_getElem?.mp member
        have resting := @resting_leave s allowed
        by_cases activating : call.Activating
        · -- the call ends an activation first, and then arms the timer
          have rearms := revives.resolve_left fun both => by rw [both.1] at activating; exact activating
          refine .of_finish resting found activating (calm call member) (answered call member) ?_
          intro u caller resting free same opening moved
          have bound := (List.getElem?_eq_some_iff.mp found).1
          have next : u.calls[i]? = some (.answered caller true) := by
            rw [moved]
            simp only [TransportRun.leave]
            simp [bound]
          exact .of_call resting free next id id (.inr ⟨opening rearms.1, same.quality ▸ rearms.2⟩)
        · refine .of_free resting regular.activating calm answered fun u resting free same kept => ?_
          have there := (kept i call found).resolve_left activating
          refine .of_call resting free there (calm call member) activating ?_
          rw [same.forced, same.quality]
          exact revives
    obtain ⟨actions, all, back⟩ := returns
    exact ⟨actions, all, fun final => back final.closed⟩

/-- A call that recalls the transport does so once nothing is suspended. -/
theorem recalls_returns (regular : s.Regular) (free : ¬ s.Suspended) {action : TransportAction}
    (made : calls action) (recalls : s.Recalls action) : Returns calls s.leave := by
  have quiet : ¬ s.camera.Asking := fun asking => free (.inl asking)
  have calm : ∀ call ∈ s.calls, ¬ call.MayReopen := fun call member reopens => free (.inr ⟨call, member, .inl reopens⟩)
  have answered := regular.answered quiet
  cases action with
  | endRound => exact .of_step .endRound ⟨rfl, fun _ => made⟩ (.here fun closed => by cases closed)
  | forceFallback =>
    refine .of_free (resting_leave recalls) regular.activating calm answered fun u resting free _ _ => ?_
    refine .of_step .forceFallback ⟨rfl, fun _ => made⟩ (.here fun closed => ?_)
    have back := @state_activateFallback u.camera _ (resting.activates free) .forceFallback
    simp only [TransportRun.step, TransportRun.begin_, back] at closed
    cases closed
  | recoverAfterSignalingRestore =>
    obtain ⟨allowed, apart⟩ := recalls
    refine .of_free (resting_leave allowed) regular.activating calm answered fun u resting free same _ => ?_
    refine .of_step .recoverAfterSignalingRestore ⟨rfl, fun _ => made⟩ ?_
    have apart : u.transport.active.quality ≠ .connected := same.quality ▸ apart
    have unconnected : u.transport.isPrimaryConnected = false := by
      rw [resting.gone.isPrimaryConnected]
      simp [resting.waiting, apart]
    have rearmed := resting.gone.recoverAfterSignalingRestore
    rw [unconnected] at rearmed
    exact .of_armed (t := { u.transport.clearEscalationTimer with primaryConnected := false })
      ⟨resting.gone.of_same rfl rfl, rfl, resting.allowed⟩ free apart rearmed
  | _ => cases recalls

theorem released_of_not_asking (s : TransportRun) (answered : ¬ s.camera.Asking) : Released s.leave.camera :=
  ⟨answered, rfl, rfl⟩

end TransportRun

/-- `leave` is final, whichever of `calls` the owner makes later, exactly where nothing is
    suspended that brings the transport back and none of `calls` does. -/
theorem leave_is_final (roomId partnerId selectedRoomId : String) (forceFallback : Bool)
    (localStream : Option Nat) (camera : SharedCamera) (sound : camera.Sound) (before : List TransportAction)
    (calls : TransportAction → Prop) :
    let s := before.foldl TransportRun.step
      (.create roomId partnerId selectedRoomId forceFallback localStream camera)
    (∀ after : List TransportAction,
        (∀ action ∈ after, action.startsAnew = false ∧ (action.called = true → calls action)) →
          Final (s.step .leave) (after.foldl TransportRun.step (s.step .leave))) ↔
      ¬ s.Suspended ∧ ∀ action, calls action → ¬ s.Recalls action := by
  intro s
  have regular : s.Regular :=
    foldl_preserves (fun _ action regular (_ : True) => regular.step action)
      (TransportRun.regular_create _ _ _ _ _ sound) fun _ _ => trivial
  constructor
  · intro always
    have free : ¬ s.Suspended := fun suspended => by
      obtain ⟨actions, allowed, broken⟩ := TransportRun.suspended_returns regular suspended
      exact broken (always actions allowed)
    refine ⟨free, fun action made recalls => ?_⟩
    obtain ⟨actions, allowed, back⟩ := TransportRun.recalls_returns regular free made recalls
    exact back (always actions allowed).closed
  · rintro ⟨free, calm⟩ after allowed
    have released := TransportRun.released_of_not_asking s fun asking => free (.inl asking)
    have keeps : ∀ (u : TransportRun) (action : TransportAction), TransportRun.Left s.leave u →
        action.Allowed calls → TransportRun.Left s.leave (u.step action) :=
      fun _ _ left ok => left.step released calm ok
    exact (foldl_preserves keeps (TransportRun.left_of_not_suspended regular free) allowed).final released

/-- An open call whose timer is armed is left; the timer, a failure and the restored signalling
    come too late. -/
theorem open_call_left_for_good :
    let before : List TransportAction := [.acquireLocalMedia, .grant 0, .resume 0, .resume 0,
      .preconnect "room" "partner", .open_, .resume 2, .connection .connected, .createManualOffer]
    let after : List TransportAction := [.timer 0, .failure "ICE_CONNECTION_FAILED", .resume 3,
      .recoverAfterSignalingRestore, .leave]
    let s := before.foldl TransportRun.step (.create "room" "partner" "room" false none .create)
    s.transport.scheduled = [2] ∧ s.transport.active.state = .open_ ∧
      Final (s.step .leave) (after.foldl TransportRun.step (s.step .leave)) := by
  refine ⟨by decide +kernel, by decide +kernel, ?_⟩
  refine (leave_is_final "room" "partner" "room" false none .create (fun promise same => by cases same) _
    fun action => action = .recoverAfterSignalingRestore ∨ action = .leave).mpr ⟨by decide +kernel, ?_⟩ _
    (by decide +kernel)
  rintro action (rfl | rfl)
  · decide +kernel
  · exact id

/-- `leave` finds the fallback waiting for the media of its relay, which is then
    preconnected and opened. -/
theorem relay_outlives_leave :
    let s := [.acquireLocalMedia, .grant 0, .resume 0, .resume 0, .preconnect "room" "partner", .open_,
      .forceFallback].foldl TransportRun.step (.create "room" "partner" "room" false none .create)
    let left := s.step .leave
    let later := ([.resume 3, .resume 3].foldl TransportRun.step left).transport
    left.transport.active.state = .closed ∧
      (left.step (.resume 3)).transport.active.state = .preconnected ∧ later.active.state = .open_ ∧
      ¬ Final left (left.step (.resume 3)) := by
  refine ⟨by decide +kernel, by decide +kernel, by decide +kernel, fun final => ?_⟩
  have closed := final.closed
  revert closed
  decide +kernel

end EventPlatform.Browser
