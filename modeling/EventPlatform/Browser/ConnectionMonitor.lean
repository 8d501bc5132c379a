import EventPlatform.Browser.Adapter
import EventPlatform.Lib.Alarms

/-! # The monitor of a peer connection

An adapter watches its peer connection.  After a short disconnection it asks for an ICE restart,
and a failure counts as permanent only when it has lasted for the grace period; the timers
belong to the peer connection and go with it. -/

namespace EventPlatform.Browser

open EventPlatform.Lib

/-! ## The monitor -/

/-- The constructor's options, in milliseconds. -/
structure RecoveryOptions where
  transientIceGraceMs : Int
  iceRestartAfterDisconnectMs : Int

/-- `TRANSIENT_ICE_GRACE_MS`, `ICE_RESTART_AFTER_DISCONNECT_MS` -/
def RecoveryOptions.default : RecoveryOptions := ⟨5000, 2000⟩

/-- What `pc.restartIce` does when it is called; a browser may not have it. -/
inductive RestartConduct where
  | restarts
  | raises
  | missing
deriving DecidableEq

/-- What the adapter does to the outside: a call of `onStateChange` or `onFailure`, a request for
    an ICE restart, the offer of one that is made by hand, a telemetry report. -/
inductive MonitorEffect where
  | stateChange (quality : ConnectionQuality)
  | failure (reason : String)
  | iceRestart
  | restartOffer
  | telemetry
deriving DecidableEq

/-- `pc` is the state of the current peer connection, if there is one.  A timer is the time from
    which its callback may run, `legacyOffers` counts the suspended calls of
    `_legacyIceRestartOffer`, and `listening` says that the callbacks are still there. -/
structure ConnectionMonitor where
  state : TransportState
  quality : ConnectionQuality
  pc : Option PeerConnectionState
  iceRestartInFlight : Bool
  iceRestartTimer : Option Int
  permanentFailureTimer : Option Int
  statsInterval : Bool
  telemetryReported : Bool
  legacyOffers : Nat
  listening : Bool
  effects : List (Int × MonitorEffect)
deriving DecidableEq

namespace ConnectionMonitor

def create : ConnectionMonitor :=
  ⟨.idle, .connecting, some .new, false, none, none, false, false, 0, true, []⟩

def emit (now : Int) (effect : MonitorEffect) (m : ConnectionMonitor) : ConnectionMonitor :=
  { m with effects := m.effects ++ [(now, effect)] }

/-- A callback, unless it has been dropped. -/
def callBack (now : Int) (effect : MonitorEffect) (m : ConnectionMonitor) : ConnectionMonitor :=
  { m with effects := if m.listening then m.effects ++ [(now, effect)] else m.effects }

def emitQuality (now : Int) (quality : ConnectionQuality) (m : ConnectionMonitor) : ConnectionMonitor :=
  { m with quality }.callBack now (.stateChange quality)

def clearRecoveryTimers (m : ConnectionMonitor) : ConnectionMonitor :=
  { m with iceRestartTimer := none, permanentFailureTimer := none }

def stopStatsMonitor (m : ConnectionMonitor) : ConnectionMonitor := { m with statsInterval := false }

def scheduleIceRestart (o : RecoveryOptions) (now : Int) (m : ConnectionMonitor) : ConnectionMonitor :=
  if m.iceRestartTimer.isSome || m.iceRestartInFlight then m
  else { m with iceRestartTimer := some (now + max 0 o.iceRestartAfterDisconnectMs) }

def schedulePermanentFailure (o : RecoveryOptions) (now : Int) (m : ConnectionMonitor) : ConnectionMonitor :=
  if m.permanentFailureTimer.isSome then m
  else { m with permanentFailureTimer := some (now + max 0 o.transientIceGraceMs) }

def maybeRestartIce (conduct : RestartConduct) (now : Int) (m : ConnectionMonitor) : ConnectionMonitor :=
  if m.pc.isNone || m.iceRestartInFlight || m.state = .closed || m.pc = some .connected || m.pc = some .closed then m
  else
    match conduct with
    | .restarts => { m with iceRestartInFlight := true }.emit now .iceRestart
    | .raises => { m with iceRestartInFlight := false }
    | .missing => { m with iceRestartInFlight := true, legacyOffers := m.legacyOffers + 1 }.emit now .iceRestart

/-- `_legacyIceRestartOffer` behind its awaits; `this.pc` may be another one by then, or none. -/
def legacySettles (succeeds : Bool) (now : Int) (m : ConnectionMonitor) : ConnectionMonitor :=
  if m.legacyOffers = 0 then m
  else
    let m := { m with legacyOffers := m.legacyOffers - 1 }
    if succeeds && m.pc.isSome then m.callBack now .restartOffer else { m with iceRestartInFlight := false }

def onPeerConnectionState (o : RecoveryOptions) (connState : PeerConnectionState) (conduct : RestartConduct) (now : Int)
    (m : ConnectionMonitor) : ConnectionMonitor :=
  match connState with
  | .connected =>
    let m := { m.clearRecoveryTimers with iceRestartInFlight := false, statsInterval := true }.emitQuality now .connected
    if m.telemetryReported then m else { m with telemetryReported := true }.emit now .telemetry
  | .disconnected => (m.stopStatsMonitor.emitQuality now .degraded).scheduleIceRestart o now
  | .failed =>
    ((m.stopStatsMonitor.emitQuality now .degraded).maybeRestartIce conduct now).schedulePermanentFailure o now
  | .closed => m.clearRecoveryTimers.stopStatsMonitor.emitQuality now .closed
  | .new | .connecting => m

/-- `pc.onconnectionstatechange`, which a peer connection loses with its teardown. -/
def onConnectionStateChange (o : RecoveryOptions) (connState : PeerConnectionState) (conduct : RestartConduct)
    (now : Int) (m : ConnectionMonitor) : ConnectionMonitor :=
  if m.pc.isSome then { m with pc := some connState }.onPeerConnectionState o connState conduct now else m

/-- The callback of the restart timer, which a cleared timer does not run. -/
def onIceRestartTimer (conduct : RestartConduct) (now : Int) (m : ConnectionMonitor) : ConnectionMonitor :=
  if m.iceRestartTimer.any (· ≤ now) then { m with iceRestartTimer := none }.maybeRestartIce conduct now else m

/-- The callback of the failure timer; `defers` is the answer of `_deferPermanentFailure`. -/
def onPermanentFailureTimer (o : RecoveryOptions) (defers : Bool) (now : Int) (m : ConnectionMonitor) :
    ConnectionMonitor :=
  if m.permanentFailureTimer.any (· ≤ now) then
    let m := { m with permanentFailureTimer := none }
    if defers then m.schedulePermanentFailure o now
    else if m.pc = some .failed || m.pc = some .disconnected then
      (m.stopStatsMonitor.emitQuality now .failed).callBack now (.failure "ICE_CONNECTION_FAILED")
    else m
  else m

def recoverAfterSignalingRestore (conduct : RestartConduct) (now : Int) (m : ConnectionMonitor) : ConnectionMonitor :=
  if m.pc.isNone || m.state = .closed then m
  else if m.pc = some .connected then
    { m.clearRecoveryTimers with iceRestartInFlight := false }.emitQuality now .connected
  else if m.pc = some .closed then m
  else ({ m with iceRestartInFlight := false }.emitQuality now .degraded).maybeRestartIce conduct now

/-! ## The lifecycle -/

def teardownPeerConnection (m : ConnectionMonitor) : ConnectionMonitor :=
  { m.clearRecoveryTimers.stopStatsMonitor with iceRestartInFlight := false, telemetryReported := false, pc := none }

def detachPeerKeepMedia (m : ConnectionMonitor) : ConnectionMonitor :=
  { m.teardownPeerConnection with listening := false, state := .closed }

/-- The common part of `prepareRound` and `switchPartner`: a new peer connection, or none where
    it cannot be set up. -/
def renewPeer (succeeds : Bool) (state : TransportState) (now : Int) (m : ConnectionMonitor) : ConnectionMonitor :=
  if succeeds then { m.teardownPeerConnection with pc := some .new, state }
  else m.teardownPeerConnection.callBack now (.failure "PARTNER_SWITCH_FAILED")

def prepareRound (succeeds : Bool) (now : Int) (m : ConnectionMonitor) : ConnectionMonitor :=
  m.renewPeer succeeds .preconnected now

def switchPartner (succeeds : Bool) (now : Int) (m : ConnectionMonitor) : ConnectionMonitor :=
  m.renewPeer succeeds .open_ now

def endRound (m : ConnectionMonitor) : ConnectionMonitor := { m.teardownPeerConnection with state := .preconnected }

def leave (now : Int) (m : ConnectionMonitor) : ConnectionMonitor :=
  { m.teardownPeerConnection with state := .closed }.callBack now (.stateChange .closed)

end ConnectionMonitor

inductive MonitorAction where
  | connectionState (connState : PeerConnectionState) (conduct : RestartConduct)
  | iceRestartTimer (conduct : RestartConduct)
  | permanentFailureTimer (defers : Bool)
  | signalingRestored (conduct : RestartConduct)
  | legacySettles (succeeds : Bool)
  | preconnect
  | open_
  | prepareRound (succeeds : Bool)
  | switchPartner (succeeds : Bool)
  | endRound
  | leave
  | detach
deriving DecidableEq

namespace ConnectionMonitor

def step (o : RecoveryOptions) (m : ConnectionMonitor) (timed : Int × MonitorAction) : ConnectionMonitor :=
  match timed.2 with
  | .connectionState connState conduct => m.onConnectionStateChange o connState conduct timed.1
  | .iceRestartTimer conduct => m.onIceRestartTimer conduct timed.1
  | .permanentFailureTimer defers => m.onPermanentFailureTimer o defers timed.1
  | .signalingRestored conduct => m.recoverAfterSignalingRestore conduct timed.1
  | .legacySettles succeeds => m.legacySettles succeeds timed.1
  | .preconnect => { m with state := .preconnected }
  | .open_ => { m with state := .open_ }
  | .prepareRound succeeds => m.prepareRound succeeds timed.1
  | .switchPartner succeeds => m.switchPartner succeeds timed.1
  | .endRound => m.endRound
  | .leave => m.leave timed.1
  | .detach => m.detachPeerKeepMedia

end ConnectionMonitor

/-! ## What each part leaves alone -/

namespace ConnectionMonitor

variable {o : RecoveryOptions} {m m' : ConnectionMonitor} {now due : Int} {effect : MonitorEffect}
  {conduct : RestartConduct}

/-- The fields of the timers and of the connection they are about. -/
structure SameTimers (m m' : ConnectionMonitor) : Prop where
  pc : m'.pc = m.pc
  listening : m'.listening = m.listening
  iceRestartTimer : m'.iceRestartTimer = m.iceRestartTimer
  permanentFailureTimer : m'.permanentFailureTimer = m.permanentFailureTimer

theorem sameTimers_maybeRestartIce : SameTimers m (m.maybeRestartIce conduct now) := by
  unfold maybeRestartIce
  split
  · exact ⟨rfl, rfl, rfl, rfl⟩
  · cases conduct <;> exact ⟨rfl, rfl, rfl, rfl⟩

theorem sameTimers_legacySettles (succeeds : Bool) : SameTimers m (m.legacySettles succeeds now) := by
  simp only [legacySettles]
  split
  · exact ⟨rfl, rfl, rfl, rfl⟩
  · split <;> exact ⟨rfl, rfl, rfl, rfl⟩

theorem sameTimers_recover (peer : m.pc ≠ some .connected) :
    SameTimers m (m.recoverAfterSignalingRestore conduct now) := by
  simp only [recoverAfterSignalingRestore, if_neg peer]
  split
  · exact ⟨rfl, rfl, rfl, rfl⟩
  · split
    · exact ⟨rfl, rfl, rfl, rfl⟩
    · have kept := @sameTimers_maybeRestartIce
        ({ m with iceRestartInFlight := false }.emitQuality now .degraded) now conduct
      exact ⟨kept.pc, kept.listening, kept.iceRestartTimer, kept.permanentFailureTimer⟩

@[simp] theorem pc_scheduleIceRestart : (m.scheduleIceRestart o now).pc = m.pc := by
  unfold scheduleIceRestart
  split <;> rfl

@[simp] theorem permanentFailureTimer_scheduleIceRestart :
    (m.scheduleIceRestart o now).permanentFailureTimer = m.permanentFailureTimer := by
  unfold scheduleIceRestart
  split <;> rfl

@[simp] theorem listening_scheduleIceRestart : (m.scheduleIceRestart o now).listening = m.listening := by
  unfold scheduleIceRestart
  split <;> rfl

@[simp] theorem pc_schedulePermanentFailure : (m.schedulePermanentFailure o now).pc = m.pc := by
  unfold schedulePermanentFailure
  split <;> rfl

@[simp] theorem iceRestartTimer_schedulePermanentFailure :
    (m.schedulePermanentFailure o now).iceRestartTimer = m.iceRestartTimer := by
  unfold schedulePermanentFailure
  split <;> rfl

/-- The failure timer is as it was, or it has been set now. -/
theorem mem_schedulePermanentFailure (member : due ∈ (m.schedulePermanentFailure o now).permanentFailureTimer) :
    due ∈ m.permanentFailureTimer ∨ due = now + max 0 o.transientIceGraceMs := by
  unfold schedulePermanentFailure at member
  split at member
  · exact .inl member
  · exact .inr (Option.some.inj member).symm

theorem mem_scheduleIceRestart (member : due ∈ (m.scheduleIceRestart o now).iceRestartTimer) :
    due ∈ m.iceRestartTimer ∨ due = now + max 0 o.iceRestartAfterDisconnectMs := by
  unfold scheduleIceRestart at member
  split at member
  · exact .inl member
  · exact .inr (Option.some.inj member).symm

end ConnectionMonitor

/-! ## A connection that is gone -/

/-- The peer connection is taken down. -/
def MonitorAction.TakesDown : MonitorAction → Prop
  | .prepareRound _ | .switchPartner _ | .endRound | .leave | .detach => True
  | _ => False

/-- A call that tells the room about itself. -/
def MonitorAction.Announces : MonitorAction → Prop
  | .prepareRound _ | .switchPartner _ | .leave => True
  | _ => False

theorem MonitorAction.Announces.takesDown {action : MonitorAction} (announces : action.Announces) :
    action.TakesDown := by
  cases action <;> first | exact trivial | exact announces.elim

namespace ConnectionMonitor

variable {o : RecoveryOptions} {m : ConnectionMonitor} {timed : Int × MonitorAction}

/-- There is no peer connection, and nothing is pending for one. -/
structure Gone (m : ConnectionMonitor) : Prop where
  pc : m.pc = none
  iceRestartTimer : m.iceRestartTimer = none
  permanentFailureTimer : m.permanentFailureTimer = none
  iceRestartInFlight : m.iceRestartInFlight = false

/-- Whatever comes late, a timer, an event of the old connection or the end of an await, finds
    nothing to do. -/
theorem Gone.step (gone : m.Gone) (silent : ¬ timed.2.Announces) :
    (m.step o timed).Gone ∧ (m.step o timed).effects = m.effects := by
  obtain ⟨now, action⟩ := timed
  have pc := gone.pc
  have restart := gone.iceRestartTimer
  have failure := gone.permanentFailureTimer
  cases action with
  | connectionState => simpa [ConnectionMonitor.step, onConnectionStateChange, pc] using gone
  | iceRestartTimer => simpa [ConnectionMonitor.step, onIceRestartTimer, restart] using gone
  | permanentFailureTimer => simpa [ConnectionMonitor.step, onPermanentFailureTimer, failure] using gone
  | signalingRestored => simpa [ConnectionMonitor.step, recoverAfterSignalingRestore, pc] using gone
  | legacySettles succeeds =>
    simp only [ConnectionMonitor.step, legacySettles, pc, Option.isSome_none, Bool.and_false, Bool.false_eq_true,
      if_false]
    split
    · exact ⟨gone, rfl⟩
    · exact ⟨⟨rfl, restart, failure, rfl⟩, rfl⟩
  | preconnect | open_ => exact ⟨⟨pc, restart, failure, gone.iceRestartInFlight⟩, rfl⟩
  | endRound | detach => exact ⟨⟨rfl, rfl, rfl, rfl⟩, rfl⟩
  | prepareRound | switchPartner | leave => exact absurd trivial silent

theorem pc_onPeerConnectionState (connState : PeerConnectionState) (conduct : RestartConduct) (now : Int) :
    (m.onPeerConnectionState o connState conduct now).pc = m.pc := by
  cases connState with
  | connected =>
    simp only [onPeerConnectionState]
    split <;> rfl
  | disconnected => simp [onPeerConnectionState, emitQuality, callBack, stopStatsMonitor]
  | failed =>
    have kept := @sameTimers_maybeRestartIce (m.stopStatsMonitor.emitQuality now .degraded) now conduct
    exact pc_schedulePermanentFailure.trans kept.pc
  | closed | new | connecting => rfl

theorem pc_onPermanentFailureTimer (defers : Bool) (now : Int) :
    (m.onPermanentFailureTimer o defers now).pc = m.pc := by
  simp only [onPermanentFailureTimer]
  split
  · split
    · simp
    · split <;> rfl
  · rfl

/-- A peer connection stays until it is taken down. -/
theorem peer_step (peer : m.pc ≠ none) (stays : ¬ timed.2.TakesDown) : (m.step o timed).pc ≠ none := by
  obtain ⟨now, action⟩ := timed
  cases action with
  | connectionState connState conduct =>
    have here : m.pc.isSome = true := Option.isSome_iff_ne_none.mpr peer
    simp [step, onConnectionStateChange, here, pc_onPeerConnectionState]
  | iceRestartTimer conduct =>
    simp only [step, onIceRestartTimer]
    split
    · rw [sameTimers_maybeRestartIce.pc]
      exact peer
    · exact peer
  | permanentFailureTimer defers =>
    simp only [step, pc_onPermanentFailureTimer]
    exact peer
  | signalingRestored conduct =>
    by_cases up : m.pc = some .connected
    · simp [step, recoverAfterSignalingRestore, up, emitQuality, callBack, clearRecoveryTimers]
      split <;> simp [up]
    · simp only [step, (sameTimers_recover up).pc]
      exact peer
  | legacySettles succeeds =>
    simp only [step, (sameTimers_legacySettles succeeds).pc]
    exact peer
  | preconnect | open_ => exact peer
  | prepareRound | switchPartner | endRound | leave | detach => exact absurd trivial stays

/-- Without a peer connection nothing is pending. -/
def Idle (m : ConnectionMonitor) : Prop := m.pc = none → m.Gone

/-- What is pending belongs to the peer connection and goes with it. -/
structure NothingPending (m : ConnectionMonitor) : Prop where
  iceRestartTimer : m.iceRestartTimer = none
  permanentFailureTimer : m.permanentFailureTimer = none
  iceRestartInFlight : m.iceRestartInFlight = false
  telemetryReported : m.telemetryReported = false

theorem NothingPending.idle (nothing : m.NothingPending) : m.Idle :=
  fun gone => ⟨gone, nothing.iceRestartTimer, nothing.permanentFailureTimer, nothing.iceRestartInFlight⟩

theorem timers_takesDown (down : timed.2.TakesDown) : (m.step o timed).NothingPending := by
  obtain ⟨now, action⟩ := timed
  cases action with
  | prepareRound succeeds | switchPartner succeeds => cases succeeds <;> exact ⟨rfl, rfl, rfl, rfl⟩
  | endRound | leave | detach => exact ⟨rfl, rfl, rfl, rfl⟩
  | _ => exact down.elim

theorem Idle.step (idle : m.Idle) (timed : Int × MonitorAction) : (m.step o timed).Idle := by
  by_cases down : timed.2.TakesDown
  · exact (timers_takesDown down).idle
  · intro gone
    by_cases peer : m.pc = none
    · exact ((idle peer).step (mt MonitorAction.Announces.takesDown down)).1
    · exact absurd gone (peer_step peer down)

end ConnectionMonitor

/-! ## The two timers -/

/-- The connection is back, or closed by the other side. -/
def MonitorAction.Settles : MonitorAction → Prop
  | .connectionState .connected _ | .connectionState .closed _ => True
  | _ => False

def MonitorAction.Fails : MonitorAction → Prop
  | .connectionState .failed _ => True
  | _ => False

def MonitorAction.Disconnects : MonitorAction → Prop
  | .connectionState .disconnected _ => True
  | _ => False

/-- The trouble of a connection is over. -/
def MonitorAction.EndsTrouble (action : MonitorAction) : Prop := action.Settles ∨ action.TakesDown

namespace ConnectionMonitor

variable {o : RecoveryOptions} {m : ConnectionMonitor} {timed : Int × MonitorAction} {due : Int}

theorem not_endsTrouble {action : MonitorAction} (unsettled : ¬ action.Settles) (stays : ¬ action.TakesDown) :
    ¬ action.EndsTrouble := fun ends => ends.elim unsettled stays

/-- A timer is set only while there is a peer connection, and one that stays. -/
theorem live_of_timer (idle : m.Idle)
    (set : due ∈ (m.step o timed).iceRestartTimer ∨ due ∈ (m.step o timed).permanentFailureTimer) :
    ¬ timed.2.TakesDown ∧ m.pc ≠ none := by
  have stays : ¬ timed.2.TakesDown := by
    intro down
    rw [(timers_takesDown down).iceRestartTimer, (timers_takesDown down).permanentFailureTimer] at set
    cases set <;> contradiction
  refine ⟨stays, fun none_ => ?_⟩
  have gone := ((idle none_).step (o := o) (mt MonitorAction.Announces.takesDown stays)).1
  rw [gone.iceRestartTimer, gone.permanentFailureTimer] at set
  cases set <;> contradiction

/-- The failure timer is kept or put off while the trouble lasts, or a failure sets it. -/
theorem failureTimer_step (idle : m.Idle) (member : due ∈ (m.step o timed).permanentFailureTimer) :
    (∃ before ∈ m.permanentFailureTimer, before ≤ due ∧ ¬ timed.2.EndsTrouble ∧
        (due = before ∨ due = timed.1 + max 0 o.transientIceGraceMs)) ∨
      (timed.2.Fails ∧ due = timed.1 + max 0 o.transientIceGraceMs) := by
  obtain ⟨down, peer⟩ := live_of_timer idle (.inr member)
  obtain ⟨now, action⟩ := timed
  have kept : due ∈ m.permanentFailureTimer → ¬ action.Settles →
      (∃ before ∈ m.permanentFailureTimer, before ≤ due ∧ ¬ action.EndsTrouble ∧
          (due = before ∨ due = now + max 0 o.transientIceGraceMs)) ∨
        (action.Fails ∧ due = now + max 0 o.transientIceGraceMs) :=
    fun here unsettled => .inl ⟨due, here, le_refl due, not_endsTrouble unsettled down, .inl rfl⟩
  cases action with
  | connectionState connState conduct =>
    have here : m.pc.isSome = true := Option.isSome_iff_ne_none.mpr peer
    simp only [step, onConnectionStateChange, here, if_true] at member
    cases connState with
    | connected =>
      simp only [onPeerConnectionState] at member
      split at member <;> cases member
    | closed => cases member
    | disconnected =>
      simp only [onPeerConnectionState, permanentFailureTimer_scheduleIceRestart] at member
      exact kept member id
    | failed =>
      cases mem_schedulePermanentFailure member with
      | inl was =>
        rw [sameTimers_maybeRestartIce.permanentFailureTimer] at was
        exact kept was id
      | inr set => exact .inr ⟨trivial, set⟩
    | new | connecting => exact kept member id
  | iceRestartTimer conduct =>
    simp only [step, onIceRestartTimer] at member
    split at member
    · rw [sameTimers_maybeRestartIce.permanentFailureTimer] at member
      exact kept member id
    · exact kept member id
  | permanentFailureTimer defers =>
    simp only [step, onPermanentFailureTimer] at member
    split at member
    · rename_i ran
      obtain ⟨before, was, reached⟩ := (Option.any_eq_true _ _).mp ran
      split at member
      · -- the callback runs, and puts the alarm off
        cases mem_schedulePermanentFailure member with
        | inl none_ => cases none_
        | inr set =>
          have ordered : before ≤ due := by
            have := of_decide_eq_true reached
            omega
          exact .inl ⟨before, was, ordered, not_endsTrouble id down, .inr set⟩
      · split at member <;> cases member
    · exact kept member id
  | signalingRestored conduct =>
    by_cases up : m.pc = some .connected
    · simp only [step, recoverAfterSignalingRestore, up] at member
      split at member
      · exact kept member id
      · cases member
    · rw [step, (sameTimers_recover up).permanentFailureTimer] at member
      exact kept member id
  | legacySettles succeeds =>
    rw [step, (sameTimers_legacySettles succeeds).permanentFailureTimer] at member
    exact kept member id
  | preconnect | open_ => exact kept member id
  | prepareRound | switchPartner | endRound | leave | detach => exact absurd trivial down

theorem restartTimer_step (idle : m.Idle) (member : due ∈ (m.step o timed).iceRestartTimer) :
    (∃ before ∈ m.iceRestartTimer, before ≤ due ∧ ¬ timed.2.EndsTrouble) ∨
      (timed.2.Disconnects ∧ timed.1 + max 0 o.iceRestartAfterDisconnectMs ≤ due) := by
  obtain ⟨down, peer⟩ := live_of_timer idle (.inl member)
  obtain ⟨now, action⟩ := timed
  have kept : due ∈ m.iceRestartTimer → ¬ action.Settles →
      (∃ before ∈ m.iceRestartTimer, before ≤ due ∧ ¬ action.EndsTrouble) ∨
        (action.Disconnects ∧ now + max 0 o.iceRestartAfterDisconnectMs ≤ due) :=
    fun here unsettled => .inl ⟨due, here, le_refl due, not_endsTrouble unsettled down⟩
  cases action with
  | connectionState connState conduct =>
    have here : m.pc.isSome = true := Option.isSome_iff_ne_none.mpr peer
    simp only [step, onConnectionStateChange, here, if_true] at member
    cases connState with
    | connected =>
      simp only [onPeerConnectionState] at member
      split at member <;> cases member
    | closed => cases member
    | disconnected =>
      cases mem_scheduleIceRestart member with
      | inl was => exact kept was id
      | inr set => exact .inr ⟨trivial, set.ge⟩
    | failed =>
      simp only [onPeerConnectionState, iceRestartTimer_schedulePermanentFailure] at member
      rw [sameTimers_maybeRestartIce.iceRestartTimer] at member
      exact kept member id
    | new | connecting => exact kept member id
  | iceRestartTimer conduct =>
    simp only [step, onIceRestartTimer] at member
    split at member
    · rw [sameTimers_maybeRestartIce.iceRestartTimer] at member
      cases member
    · exact kept member id
  | permanentFailureTimer defers =>
    simp only [step, onPermanentFailureTimer] at member
    split at member
    · split at member
      · rw [iceRestartTimer_schedulePermanentFailure] at member
        exact kept member id
      · split at member <;> exact kept member id
    · exact kept member id
  | signalingRestored conduct =>
    by_cases up : m.pc = some .connected
    · simp only [step, recoverAfterSignalingRestore, up] at member
      split at member
      · exact kept member id
      · cases member
    · rw [step, (sameTimers_recover up).iceRestartTimer] at member
      exact kept member id
  | legacySettles succeeds =>
    rw [step, (sameTimers_legacySettles succeeds).iceRestartTimer] at member
    exact kept member id
  | preconnect | open_ => exact kept member id
  | prepareRound | switchPartner | endRound | leave | detach => exact absurd trivial down

end ConnectionMonitor

end EventPlatform.Browser
