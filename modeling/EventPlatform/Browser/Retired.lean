import EventPlatform.Browser.Transport

/-! # Transports that were left

Callbacks of an adapter carry its generation and escalation timers carry theirs, so that
`leave` makes both of them stale.  A call that goes on after `leave` may still arm the timer
again, and nothing cancels a call. -/

namespace EventPlatform.Browser

/-- A request of the camera has no answer yet. -/
def SharedCamera.Asking (camera : SharedCamera) : Prop :=
  ∃ request < camera.sharedGetUserMediaCalls, request ∉ camera.settled

instance SharedCamera.decidableAsking (camera : SharedCamera) : Decidable camera.Asking :=
  inferInstanceAs (Decidable (∃ request < _, request ∉ _))

/-! ## Suspended calls -/

/-- The rest of `_restorePrimary`, or of an `_activateFallback` that has yet to preconnect or
    open the relay. -/
def AfterMedia.Reopens : AfterMedia → Prop
  | .keep => False
  | .restore _ _ _ => True
  | .relay snap _ => (snap.roomId ≠ "" ∧ snap.partnerId ≠ "") ∨ snap.prevState = .open_

/-- The rest of an `open` or of a `switchPartner`, whose last act is to arm the escalation
    timer. -/
def AfterMedia.Rearms : AfterMedia → Prop
  | .keep => False
  | .restore _ _ reopen => reopen = true
  | .relay _ caller => caller = .opening

def Call.Rearms : Call → Prop
  | .media _ _ next | .hasMedia _ next => next.Rearms
  | .relayPreconnect _ caller | .relayOpen caller | .answered caller _ => caller = .opening
  | .opening | .switched => True
  | _ => False

/-- With its stream the call goes on to what `Reopens`. -/
def Call.MayReopen : Call → Prop
  | .media _ _ next | .hasMedia _ next => next.Reopens
  | .relayPreconnect snap _ => snap.prevState = .open_
  | _ => False

instance AfterMedia.decidableReopens : DecidablePred AfterMedia.Reopens
  | .keep => inferInstanceAs (Decidable False)
  | .restore _ _ _ => inferInstanceAs (Decidable True)
  | .relay snap _ => inferInstanceAs (Decidable ((snap.roomId ≠ "" ∧ snap.partnerId ≠ "") ∨ snap.prevState = .open_))

instance AfterMedia.decidableRearms : DecidablePred AfterMedia.Rearms
  | .keep => inferInstanceAs (Decidable False)
  | .restore _ _ reopen => inferInstanceAs (Decidable (reopen = true))
  | .relay _ caller => inferInstanceAs (Decidable (caller = .opening))

instance Call.decidableMayReopen : DecidablePred Call.MayReopen
  | .media _ _ next | .hasMedia _ next => inferInstanceAs (Decidable next.Reopens)
  | .relayPreconnect snap _ => inferInstanceAs (Decidable (snap.prevState = .open_))
  | .relayOpen _ | .answered _ _ | .opening | .switched | .creatingOffer _ _ | .settingOffer _ _ | .settling
  | .returned => inferInstanceAs (Decidable False)

instance Call.decidableRearms : DecidablePred Call.Rearms
  | .media _ _ next | .hasMedia _ next => inferInstanceAs (Decidable next.Rearms)
  | .relayPreconnect _ caller | .relayOpen caller | .answered caller _ =>
    inferInstanceAs (Decidable (caller = .opening))
  | .opening | .switched => inferInstanceAs (Decidable True)
  | .creatingOffer _ _ | .settingOffer _ _ | .settling | .returned => inferInstanceAs (Decidable False)

namespace FailoverMediaTransport

variable {t u : FailoverMediaTransport} {camera : SharedCamera}

def fallbackAllowed (t : FailoverMediaTransport) : Bool := fallbackAllowedForRoom t.roomId t.selectedRoomId

/-- The call brings the transport back after `leave`: by itself, through the fallback of
    `forceFallbackOnOpen`, or through an escalation timer that it arms. -/
def Revives (t : FailoverMediaTransport) (call : Call) : Prop :=
  call.MayReopen ∨ (t.fallbackAllowed = true ∧
    ((call = .opening ∧ t.forceFallbackOnOpen = true) ∨ (call.Rearms ∧ t.active.quality ≠ .connected)))

instance decidableRevives (t : FailoverMediaTransport) (call : Call) : Decidable (t.Revives call) :=
  inferInstanceAs (Decidable (call.MayReopen ∨ (t.fallbackAllowed = true ∧
    ((call = .opening ∧ t.forceFallbackOnOpen = true) ∨ (call.Rearms ∧ t.active.quality ≠ .connected)))))

/-! ## What has left stays away -/

/-- The transport has left. -/
structure Gone (t : FailoverMediaTransport) : Prop where
  closed : t.active.state = .closed
  pc : t.active.pc = none
  direct : t.usingFallback = false

namespace Gone

theorem of_same (gone : Gone t) (active : u.active = t.active) (direct : u.usingFallback = t.usingFallback) :
    Gone u :=
  ⟨active ▸ gone.closed, active ▸ gone.pc, direct.trans gone.direct⟩

theorem armEscalationTimer (gone : Gone t) : Gone t.armEscalationTimer := by
  unfold FailoverMediaTransport.armEscalationTimer
  simp only []
  split
  · exact gone.of_same rfl rfl
  split
  · exact gone.of_same rfl rfl
  · exact gone.of_same rfl rfl

theorem onQuality (gone : Gone t) (quality : ConnectionQuality) : t.onQuality quality = t := by
  simp [FailoverMediaTransport.onQuality, gone.pc]

theorem onConnectionState (gone : Gone t) (connState : PeerConnectionState) : t.onConnectionState connState = t := by
  simp [FailoverMediaTransport.onConnectionState, gone.pc]

theorem receiveMedia (gone : Gone t) (adapter stream : Nat) : Gone (t.receiveMedia adapter stream) := by
  unfold FailoverMediaTransport.receiveMedia
  split
  · exact ⟨gone.closed, gone.pc, gone.direct⟩
  · exact gone

/-- Without a connection only what the transport remembers counts. -/
theorem isPrimaryConnected (gone : Gone t) :
    t.isPrimaryConnected = (t.primaryConnected || decide (t.active.quality = .connected)) := by
  simp [FailoverMediaTransport.isPrimaryConnected, gone.direct, gone.pc]

theorem recoverAfterSignalingRestore (gone : Gone t) :
    t.recoverAfterSignalingRestore =
      if t.isPrimaryConnected then { t.clearEscalationTimer with primaryConnected := true }
      else FailoverMediaTransport.armEscalationTimer { t.clearEscalationTimer with primaryConnected := false } := by
  have same : t.clearEscalationTimer.recoverActive = t.clearEscalationTimer := by
    simp [FailoverMediaTransport.recoverActive, FailoverMediaTransport.clearEscalationTimer, gone.pc]
  have direct : t.clearEscalationTimer.usingFallback = false := gone.direct
  have connected : t.clearEscalationTimer.isPrimaryConnected = t.isPrimaryConnected := rfl
  simp only [FailoverMediaTransport.recoverAfterSignalingRestore, same, direct, connected, Bool.false_eq_true, if_false]
  cases t.isPrimaryConnected with
  | true => rfl
  | false => rfl

end Gone

/-! ## Counters -/

/-- No adapter and no timer is ahead of the counters. -/
structure Numbered (t : FailoverMediaTransport) : Prop where
  adapter : t.active.id ≤ t.generation
  timers : ∀ gen ∈ t.scheduled, gen ≤ t.escalationGeneration

theorem Numbered.of_le (numbered : Numbered t) (adapter : u.active.id ≤ u.generation)
    (scheduled : u.scheduled = t.scheduled) (later : t.escalationGeneration ≤ u.escalationGeneration) :
    Numbered u :=
  ⟨adapter, fun gen member => (numbered.timers gen (scheduled ▸ member)).trans later⟩

theorem Numbered.of_same (numbered : Numbered t) (id : u.active.id = t.active.id)
    (generation : u.generation = t.generation) (scheduled : u.scheduled = t.scheduled)
    (escalation : u.escalationGeneration = t.escalationGeneration) : Numbered u :=
  numbered.of_le (by rw [id, generation]; exact numbered.adapter) scheduled escalation.ge

theorem Numbered.clearEscalationTimer (numbered : Numbered t) : Numbered t.clearEscalationTimer :=
  numbered.of_le numbered.adapter rfl (Nat.le_succ _)

theorem Numbered.armEscalationTimer (numbered : Numbered t) : Numbered t.armEscalationTimer := by
  have cleared := numbered.clearEscalationTimer
  unfold FailoverMediaTransport.armEscalationTimer
  simp only []
  split
  · exact cleared
  split
  · exact cleared.of_same rfl rfl rfl rfl
  · refine ⟨cleared.adapter, fun gen member => ?_⟩
    rcases List.mem_append.mp member with old | new
    · exact cleared.timers gen old
    · exact (List.mem_singleton.mp new).le

theorem Numbered.acquire (numbered : Numbered t) (next : AfterMedia) :
    Numbered (t.acquire next camera).transport := by
  unfold FailoverMediaTransport.acquire
  split
  · exact numbered.of_same rfl rfl rfl rfl
  · exact numbered

theorem Numbered.activateFallback (numbered : Numbered t) (caller : Caller) :
    Numbered (t.activateFallback caller camera).transport := by
  unfold FailoverMediaTransport.activateFallback
  split
  · exact numbered
  · refine Numbered.acquire ?_ _
    exact numbered.of_le le_rfl rfl (Nat.le_succ _)

theorem Numbered.restorePrimary (numbered : Numbered t) (newRoomId newPartnerId : String) (reopen : Bool) :
    Numbered (t.restorePrimary newRoomId newPartnerId reopen camera).transport := by
  refine Numbered.acquire ?_ _
  exact numbered.of_le le_rfl rfl (Nat.le_succ _)

theorem Numbered.onActiveFailure (numbered : Numbered t) (reason : String) :
    Numbered (t.onActiveFailure reason camera).transport := by
  unfold FailoverMediaTransport.onActiveFailure
  split
  · exact numbered
  · exact numbered.clearEscalationTimer.activateFallback _

theorem Numbered.fire (numbered : Numbered t) (j : Nat) :
    Numbered { t with scheduled := t.scheduled.eraseIdx j } :=
  ⟨numbered.adapter, fun gen member => numbered.timers gen (List.mem_of_mem_eraseIdx member)⟩

theorem Numbered.onEscalationTimeout (numbered : Numbered t) (gen : Nat) :
    Numbered (t.onEscalationTimeout gen camera).transport := by
  unfold FailoverMediaTransport.onEscalationTimeout
  split
  · exact numbered
  split
  · exact numbered.of_same rfl rfl rfl rfl
  · exact numbered.activateFallback _

theorem Numbered.onQuality (numbered : Numbered t) (quality : ConnectionQuality) :
    Numbered (t.onQuality quality) := by
  unfold FailoverMediaTransport.onQuality
  simp only []
  split
  · exact numbered
  split
  · exact Numbered.clearEscalationTimer (numbered.of_same rfl rfl rfl rfl)
  · exact numbered.of_same rfl rfl rfl rfl

theorem Numbered.onConnectionState (numbered : Numbered t) (connState : PeerConnectionState) :
    Numbered (t.onConnectionState connState) := by
  have moved : Numbered { t with active := { t.active with connectionState := connState } } :=
    numbered.of_same rfl rfl rfl rfl
  unfold FailoverMediaTransport.onConnectionState
  simp only []
  split
  · exact numbered
  · cases connState with
    | new | connecting => exact moved
    | _ => exact moved.onQuality _

theorem Numbered.beginRound (numbered : Numbered t) : Numbered t.beginRound :=
  numbered.of_le numbered.adapter rfl (Nat.le_succ _)

theorem Numbered.preconnect (numbered : Numbered t) (roomId partnerId : String) :
    Numbered (t.preconnect roomId partnerId camera).transport := by
  unfold FailoverMediaTransport.preconnect
  simp only []
  split
  · exact numbered.beginRound.restorePrimary roomId partnerId false
  · exact numbered.beginRound.of_same rfl rfl rfl rfl

theorem Numbered.prepareRound (numbered : Numbered t) (newRoomId newPartnerId : String) :
    Numbered (t.prepareRound newRoomId newPartnerId camera).transport := by
  unfold FailoverMediaTransport.prepareRound
  simp only []
  split
  · exact numbered.beginRound.restorePrimary newRoomId newPartnerId false
  · exact numbered.beginRound.of_same rfl rfl rfl rfl

theorem Numbered.switchPartner (numbered : Numbered t) (newRoomId newPartnerId : String) :
    Numbered (t.switchPartner newRoomId newPartnerId camera).transport := by
  unfold FailoverMediaTransport.switchPartner
  simp only []
  split
  · exact numbered.beginRound.restorePrimary newRoomId newPartnerId true
  · exact numbered.beginRound.of_same rfl rfl rfl rfl

theorem Numbered.open_ (numbered : Numbered t) : Numbered (t.open_ camera).transport :=
  numbered.of_same rfl rfl rfl rfl

theorem Numbered.createManualOffer (numbered : Numbered t) :
    Numbered (t.createManualOffer camera).transport := by
  unfold FailoverMediaTransport.createManualOffer
  split
  · exact numbered
  · exact numbered

theorem Numbered.endRound (numbered : Numbered t) : Numbered t.endRound :=
  numbered.beginRound.of_same rfl rfl rfl rfl

theorem Numbered.recoverAfterSignalingRestore (numbered : Numbered t) :
    Numbered t.recoverAfterSignalingRestore := by
  have recovered : Numbered t.clearEscalationTimer.recoverActive := by
    have cleared := numbered.clearEscalationTimer
    unfold recoverActive
    split
    · exact cleared
    split
    · exact cleared.onQuality _
    split
    · exact cleared
    · exact cleared.onQuality _
  unfold FailoverMediaTransport.recoverAfterSignalingRestore
  simp only []
  split
  · exact recovered
  split
  · exact recovered.of_same rfl rfl rfl rfl
  · exact Numbered.armEscalationTimer (recovered.of_same rfl rfl rfl rfl)

theorem Numbered.leave (numbered : Numbered t) : Numbered (t.leave camera).1 :=
  numbered.of_le (numbered.adapter.trans (Nat.le_succ _)) rfl (Nat.le_succ _)

theorem numbered_create (roomId partnerId selectedRoomId : String) (forceFallback : Bool)
    (localStream : Option Nat) :
    Numbered (create roomId partnerId selectedRoomId forceFallback localStream camera).1 :=
  ⟨le_rfl, fun _ member => absurd member List.not_mem_nil⟩

theorem Numbered.reopenRelay (numbered : Numbered t) (snap : Snapshot) (caller : Caller) :
    Numbered (t.reopenRelay snap caller camera).transport := by
  unfold FailoverMediaTransport.reopenRelay
  split
  · exact numbered.of_same rfl rfl rfl rfl
  · exact numbered.of_same rfl rfl rfl rfl

theorem Numbered.afterMedia (numbered : Numbered t) (stream : Option Nat) (next : AfterMedia) :
    Numbered (t.afterMedia stream next camera).transport := by
  cases next with
  | keep => exact numbered.of_same rfl rfl rfl rfl
  | restore newRoomId newPartnerId reopen =>
    cases reopen with
    | true => exact numbered.of_same rfl rfl rfl rfl
    | false => exact numbered.of_same rfl rfl rfl rfl
  | relay snap caller =>
    simp only [FailoverMediaTransport.afterMedia]
    split
    · exact numbered.of_same rfl rfl rfl rfl
    · exact numbered.reopenRelay snap caller

theorem Numbered.afterActivation (numbered : Numbered t) (caller : Caller) (activated : Bool) :
    Numbered (t.afterActivation caller activated) := by
  unfold FailoverMediaTransport.afterActivation
  split
  · exact numbered
  · split
    · exact numbered
    · exact numbered.armEscalationTimer
  · split
    · exact numbered
    · exact numbered.of_same rfl rfl rfl rfl
  · split
    · exact numbered
    · exact numbered.of_same rfl rfl rfl rfl

theorem Numbered.receiveMedia (numbered : Numbered t) (adapter stream : Nat) :
    Numbered (t.receiveMedia adapter stream) := by
  unfold FailoverMediaTransport.receiveMedia
  split
  · exact numbered.of_same rfl rfl rfl rfl
  · exact numbered

theorem Numbered.resume (numbered : Numbered t) (call : Call) :
    Numbered (t.resume call camera).transport := by
  cases call with
  | media adapter wait next =>
    simp only [FailoverMediaTransport.resume]
    split
    · exact numbered
    · exact numbered.receiveMedia _ _
  | hasMedia stream next => exact numbered.afterMedia stream next
  | relayPreconnect snap caller => exact numbered.reopenRelay snap caller
  | relayOpen caller => exact numbered.of_same rfl rfl rfl rfl
  | answered caller activated => exact numbered.afterActivation caller activated
  | opening =>
    simp only [FailoverMediaTransport.resume]
    split
    · exact numbered.activateFallback _
    · simp only []
      split
      · exact numbered
      · exact numbered.armEscalationTimer
  | switched => exact numbered.armEscalationTimer
  | creatingOffer | settingOffer | settling | returned => exact numbered

/-! ## After `leave` -/

/-- What `Revives` and the callbacks compare, and no call of a transport that has left
    changes. -/
structure SameMarks (t u : FailoverMediaTransport) : Prop where
  id : u.active.id = t.active.id
  roomId : u.active.roomId = t.active.roomId
  quality : u.active.quality = t.active.quality
  generation : u.generation = t.generation
  selectedRoomId : u.selectedRoomId = t.selectedRoomId
  forced : u.forceFallbackOnOpen = t.forceFallbackOnOpen

theorem SameMarks.refl (t : FailoverMediaTransport) : SameMarks t t := ⟨rfl, rfl, rfl, rfl, rfl, rfl⟩

theorem SameMarks.allowed (same : SameMarks t u) : u.fallbackAllowed = t.fallbackAllowed := by
  simp only [fallbackAllowed, FailoverMediaTransport.roomId, same.roomId, same.selectedRoomId]

theorem SameMarks.revives (same : SameMarks t u) (call : Call) : u.Revives call ↔ t.Revives call := by
  rw [Revives, same.allowed, same.forced, same.quality]
  rfl

theorem sameMarks_armEscalationTimer (t : FailoverMediaTransport) : SameMarks t t.armEscalationTimer := by
  unfold armEscalationTimer
  simp only []
  split
  · exact ⟨rfl, rfl, rfl, rfl, rfl, rfl⟩
  split
  · exact ⟨rfl, rfl, rfl, rfl, rfl, rfl⟩
  · exact ⟨rfl, rfl, rfl, rfl, rfl, rfl⟩

/-- A transport that has left and that no callback brings back. -/
structure Retired (t : FailoverMediaTransport) : Prop where
  gone : Gone t
  adapter : t.active.id < t.generation
  timers : t.fallbackAllowed = true → ∀ gen ∈ t.scheduled, gen < t.escalationGeneration

theorem Retired.of_same (retired : Retired t) (gone : Gone u) (same : SameMarks t u)
    (scheduled : u.scheduled = t.scheduled) (later : t.escalationGeneration ≤ u.escalationGeneration) :
    Retired u where
  gone := gone
  adapter := by
    rw [same.id, same.generation]
    exact retired.adapter
  timers allowed gen member :=
    (retired.timers (same.allowed ▸ allowed) gen (scheduled ▸ member)).trans_le later

theorem Numbered.retired (numbered : Numbered t) : Retired (t.leave camera).1 where
  gone := ⟨rfl, rfl, rfl⟩
  adapter := Nat.lt_succ_of_le numbered.adapter
  timers _ gen member := Nat.lt_succ_of_le (numbered.timers gen member)

theorem revives_leave (call : Call) : (t.leave camera).1.Revives call ↔ t.Revives call := Iff.rfl

/-- The timer is armed where the fallback is not for this room, or the connection stands. -/
theorem Retired.armEscalationTimer (retired : Retired t)
    (calm : t.fallbackAllowed = true → t.active.quality = .connected) : Retired t.armEscalationTimer := by
  have gone := retired.gone.armEscalationTimer
  have same := sameMarks_armEscalationTimer t
  cases allowed : t.fallbackAllowed with
  | false =>
    refine ⟨gone, by rw [same.id, same.generation]; exact retired.adapter, fun other => ?_⟩
    rw [same.allowed, allowed] at other
    cases other
  | true =>
    have cleared : Gone t.clearEscalationTimer := retired.gone.of_same rfl rfl
    have connected : t.clearEscalationTimer.isPrimaryConnected = true := by
      rw [cleared.isPrimaryConnected]
      simp [clearEscalationTimer, calm allowed]
    refine retired.of_same gone same ?_ ?_
    · simp only [FailoverMediaTransport.armEscalationTimer, connected, if_true]
      split
      · rfl
      · rfl
    · simp only [FailoverMediaTransport.armEscalationTimer, connected, if_true]
      split
      · exact Nat.le_succ _
      · exact Nat.le_succ _

/-- What a retired transport answers: nothing has changed, and nothing will. -/
structure Still (t : FailoverMediaTransport) (camera : SharedCamera) (p : Progress) : Prop where
  retired : Retired p.transport
  same : SameMarks t p.transport
  kept : p.camera = camera
  call : ¬ t.Revives p.call
  offered : p.offered = false

theorem not_revives_returned : ¬ t.Revives .returned := by
  rintro (reopens | ⟨-, ⟨opening, -⟩ | ⟨rearms, -⟩⟩)
  · exact reopens
  · cases opening
  · exact rearms

theorem Retired.still_returned (retired : Retired t) : Still t camera ⟨t, camera, .returned, false⟩ :=
  ⟨retired, .refl t, rfl, not_revives_returned, rfl⟩

theorem Retired.onActiveFailure (retired : Retired t) (reason : String) :
    Still t camera (t.onActiveFailure reason camera) := by
  rw [FailoverMediaTransport.onActiveFailure, if_pos retired.adapter.ne]
  exact retired.still_returned

theorem Retired.onEscalationTimeout (retired : Retired t) {gen j : Nat} (pending : t.scheduled[j]? = some gen) :
    Still t camera (onEscalationTimeout gen { t with scheduled := t.scheduled.eraseIdx j } camera) := by
  have fired : Retired { t with scheduled := t.scheduled.eraseIdx j } :=
    ⟨retired.gone.of_same rfl rfl, retired.adapter,
      fun allowed gen member => retired.timers allowed gen (List.mem_of_mem_eraseIdx member)⟩
  have same : SameMarks t { t with scheduled := t.scheduled.eraseIdx j } := ⟨rfl, rfl, rfl, rfl, rfl, rfl⟩
  unfold FailoverMediaTransport.onEscalationTimeout
  split
  · exact ⟨fired, same, rfl, not_revives_returned, rfl⟩
  rename_i current
  split
  · have reported : Retired (report { t with scheduled := t.scheduled.eraseIdx j } "ESCALATION_FALLBACK_UNAVAILABLE") :=
      fired.of_same (fired.gone.of_same rfl rfl) ⟨rfl, rfl, rfl, rfl, rfl, rfl⟩ rfl le_rfl
    exact ⟨reported, ⟨rfl, rfl, rfl, rfl, rfl, rfl⟩, rfl, not_revives_returned, rfl⟩
  · rename_i allowed
    have allowed_here : fallbackAllowedForRoom t.active.roomId t.selectedRoomId = true := by
      simpa [FailoverMediaTransport.roomId] using allowed
    have late := retired.timers allowed_here gen (List.mem_of_getElem? pending)
    simp only [Bool.or_eq_true, decide_eq_true_eq, not_or, not_not] at current
    exact absurd current.1.1.1 late.ne

theorem Retired.activateFallback (retired : Retired t) {caller : Caller} (refused : t.fallbackAllowed = false) :
    Still t camera (t.activateFallback caller camera) := by
  have stays : t.activates = false := by
    have refused' : fallbackAllowedForRoom t.roomId t.selectedRoomId = false := refused
    simp [activates, refused']
  have result : t.activateFallback caller camera = ⟨t, camera, .answered caller false, false⟩ := by
    simp [FailoverMediaTransport.activateFallback, stays]
  rw [result]
  refine ⟨retired, .refl t, rfl, ?_, rfl⟩
  rintro (reopens | ⟨allowed, -⟩)
  · exact reopens
  · rw [refused] at allowed
    cases allowed

theorem Still.finished (retired : Retired t) {caller : Caller}
    (calm : caller = .opening → t.fallbackAllowed = true → t.active.quality = .connected) :
    Still t camera (t.finishActivation caller camera) where
  retired := retired.of_same (retired.gone.of_same rfl rfl) ⟨rfl, rfl, rfl, rfl, rfl, rfl⟩ rfl le_rfl
  same := ⟨rfl, rfl, rfl, rfl, rfl, rfl⟩
  kept := rfl
  call := by
    rintro (reopens | ⟨allowed, ⟨opening, -⟩ | ⟨rearms, apart⟩⟩)
    · exact reopens
    · cases opening
    · exact apart (calm rearms allowed)
  offered := rfl

/-- A call that does not rearm leaves the connection of an allowed room as it is. -/
theorem connected_of_calm {call : Call} (calm : ¬ t.Revives call) (rearms : call.Rearms) :
    t.fallbackAllowed = true → t.active.quality = .connected := by
  intro allowed
  by_contra apart
  exact calm (.inr ⟨allowed, .inr ⟨rearms, apart⟩⟩)

theorem Retired.reopenRelay (retired : Retired t) {snap : Snapshot} {caller : Caller}
    (shut : snap.prevState ≠ .open_)
    (calm : caller = .opening → t.fallbackAllowed = true → t.active.quality = .connected) :
    Still t camera (t.reopenRelay snap caller camera) := by
  rw [FailoverMediaTransport.reopenRelay, if_neg shut]
  exact .finished retired calm

theorem Retired.afterMedia (retired : Retired t) {stream : Option Nat} {next : AfterMedia}
    (calm : ¬ t.Revives (.hasMedia stream next)) : Still t camera (t.afterMedia stream next camera) := by
  cases next with
  | keep =>
    refine ⟨?_, ⟨rfl, rfl, rfl, rfl, rfl, rfl⟩, rfl, not_revives_returned, rfl⟩
    exact retired.of_same (retired.gone.of_same rfl rfl) ⟨rfl, rfl, rfl, rfl, rfl, rfl⟩ rfl le_rfl
  | restore newRoomId newPartnerId reopen => exact absurd (.inl trivial) calm
  | relay snap caller =>
    have nowhere : ¬ (snap.roomId ≠ "" ∧ snap.partnerId ≠ "") := fun both => calm (.inl (.inl both))
    simp only [FailoverMediaTransport.afterMedia, if_neg nowhere]
    exact retired.reopenRelay (fun opened => calm (.inl (.inr opened))) fun opening => connected_of_calm calm opening

theorem Retired.still_armed (retired : Retired t)
    (calm : t.fallbackAllowed = true → t.active.quality = .connected) :
    Still t camera ⟨t.armEscalationTimer, camera, .returned, false⟩ :=
  ⟨retired.armEscalationTimer calm, sameMarks_armEscalationTimer t, rfl, not_revives_returned, rfl⟩

theorem Retired.afterActivation (retired : Retired t) {caller : Caller} {activated : Bool}
    (calm : ¬ t.Revives (.answered caller activated)) :
    Still t camera ⟨t.afterActivation caller activated, camera, .returned, false⟩ := by
  have reported (reason : String) : Still t camera ⟨t.report reason, camera, .returned, false⟩ := by
    refine ⟨?_, ⟨rfl, rfl, rfl, rfl, rfl, rfl⟩, rfl, not_revives_returned, rfl⟩
    exact retired.of_same (retired.gone.of_same rfl rfl) ⟨rfl, rfl, rfl, rfl, rfl, rfl⟩ rfl le_rfl
  cases caller with
  | forceFallback => exact retired.still_returned
  | opening =>
    simp only [FailoverMediaTransport.afterActivation, retired.gone.direct, Bool.false_eq_true, if_false]
    exact retired.still_armed (connected_of_calm calm rfl)
  | escalation =>
    cases activated with
    | true => exact retired.still_returned
    | false => exact reported "ESCALATION_FAILED"
  | failure reason =>
    cases activated with
    | true => exact retired.still_returned
    | false => exact reported reason

theorem sameMarks_receiveMedia (t : FailoverMediaTransport) (adapter stream : Nat) :
    SameMarks t (t.receiveMedia adapter stream) := by
  unfold receiveMedia
  split
  · exact ⟨rfl, rfl, rfl, rfl, rfl, rfl⟩
  · exact .refl t

theorem Retired.receiveMedia (retired : Retired t) (adapter stream : Nat) :
    Retired (t.receiveMedia adapter stream) := by
  refine retired.of_same (retired.gone.receiveMedia adapter stream) (sameMarks_receiveMedia t adapter stream) ?_ ?_
  · unfold FailoverMediaTransport.receiveMedia
    split
    · rfl
    · rfl
  · unfold FailoverMediaTransport.receiveMedia
    split
    · exact le_rfl
    · exact le_rfl

/-- A call that does not revive a retired transport goes on and leaves it where it is. -/
theorem Retired.resume (retired : Retired t) {call : Call} (calm : ¬ t.Revives call) :
    Still t camera (t.resume call camera) := by
  cases call with
  | media adapter wait next =>
    cases arrived : camera.arrived wait with
    | none =>
      simp only [FailoverMediaTransport.resume, arrived]
      exact ⟨retired, .refl t, rfl, calm, rfl⟩
    | some stream =>
      simp only [FailoverMediaTransport.resume, arrived]
      refine ⟨retired.receiveMedia adapter stream, sameMarks_receiveMedia t adapter stream, rfl, ?_, rfl⟩
      -- with its media the call goes on as before, and revives no more than it did
      rintro (reopens | ⟨allowed, ⟨opening, -⟩ | rest⟩)
      · exact calm (.inl reopens)
      · cases opening
      · exact calm (.inr ⟨allowed, .inr rest⟩)
  | hasMedia stream next => exact retired.afterMedia calm
  | relayPreconnect snap caller =>
    exact retired.reopenRelay (fun opened => calm (.inl opened)) fun opening => connected_of_calm calm opening
  | relayOpen caller => exact .finished retired fun opening => connected_of_calm calm opening
  | answered caller activated => exact retired.afterActivation calm
  | opening =>
    cases forced : t.forceFallbackOnOpen with
    | true =>
      simp only [FailoverMediaTransport.resume, forced, if_true]
      refine retired.activateFallback ?_
      by_contra allowed
      exact calm (.inr ⟨(Bool.not_eq_false _).mp allowed, .inl ⟨rfl, forced⟩⟩)
    | false =>
      simp only [FailoverMediaTransport.resume, forced, retired.gone.direct, Bool.false_eq_true, if_false]
      exact retired.still_armed (connected_of_calm calm trivial)
  | switched => exact retired.still_armed (connected_of_calm calm trivial)
  | creatingOffer adapter pc =>
    -- its peer connection was closed with it, so no offer is made on it
    have ended : ¬ (t.active.id = adapter ∧ t.active.pc = some pc) := by simp [retired.gone.pc]
    simp only [FailoverMediaTransport.resume, if_neg ended]
    exact retired.still_returned
  | settingOffer adapter pc =>
    refine ⟨retired, .refl t, rfl, not_revives_returned, ?_⟩
    simp [FailoverMediaTransport.resume, retired.gone.pc]
  | settling => exact retired.still_returned
  | returned => exact retired.still_returned

end FailoverMediaTransport

end EventPlatform.Browser
