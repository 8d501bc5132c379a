import EventPlatform.Browser.ConnectionMonitor

/-! # Recovery of a peer connection

Every effect of the monitor goes back to its cause: a failure is reported only after the whole
grace period, and then it is; a restart is asked for once at a time. -/

namespace EventPlatform.Browser

open EventPlatform.Lib

/-! ## What each effect goes back to -/

/-- Why an action has an effect. -/
inductive ConnectionMonitor.Causes (m : ConnectionMonitor) (now : Int) : MonitorAction → MonitorEffect → Prop where
  | quality (action : MonitorAction) (quality : ConnectionQuality) : Causes m now action (.stateChange quality)
  | failed (conduct : RestartConduct) : Causes m now (.connectionState .failed conduct) .iceRestart
  | restored (conduct : RestartConduct) : Causes m now (.signalingRestored conduct) .iceRestart
  | timer (conduct : RestartConduct) {due : Int} (armed : due ∈ m.iceRestartTimer) (reached : due ≤ now) :
      Causes m now (.iceRestartTimer conduct) .iceRestart
  | permanent {due : Int} (armed : due ∈ m.permanentFailureTimer) (reached : due ≤ now) :
      Causes m now (.permanentFailureTimer false) (.failure "ICE_CONNECTION_FAILED")
  | prepare : Causes m now (.prepareRound false) (.failure "PARTNER_SWITCH_FAILED")
  | switch : Causes m now (.switchPartner false) (.failure "PARTNER_SWITCH_FAILED")
  | offer : Causes m now (.legacySettles true) .restartOffer
  | telemetry (conduct : RestartConduct) : Causes m now (.connectionState .connected conduct) .telemetry

namespace ConnectionMonitor

variable {o : RecoveryOptions} {m : ConnectionMonitor} {now : Int} {e : Int × MonitorEffect} {effect : MonitorEffect}
  {conduct : RestartConduct}

theorem mem_callBack (member : e ∈ (m.callBack now effect).effects) : e ∈ m.effects ∨ e = (now, effect) := by
  simp only [callBack] at member
  split at member
  · simpa using member
  · exact .inl member

theorem mem_maybeRestartIce (member : e ∈ (m.maybeRestartIce conduct now).effects) :
    e ∈ m.effects ∨ e = (now, .iceRestart) := by
  unfold maybeRestartIce at member
  split at member
  · exact .inl member
  · cases conduct with
    | raises => exact .inl member
    | restarts | missing => simpa [emit] using member

@[simp] theorem effects_scheduleIceRestart : (m.scheduleIceRestart o now).effects = m.effects := by
  unfold scheduleIceRestart
  split <;> rfl

@[simp] theorem effects_schedulePermanentFailure : (m.schedulePermanentFailure o now).effects = m.effects := by
  unfold schedulePermanentFailure
  split <;> rfl

/-- What a callback reports has the callback's cause. -/
theorem caused_callBack {m' : ConnectionMonitor} {action : MonitorAction} (cause : m.Causes now action effect)
    (member : e ∈ (m'.callBack now effect).effects) : e ∈ m'.effects ∨ (e.1 = now ∧ m.Causes now action e.2) := by
  cases mem_callBack member with
  | inl was => exact .inl was
  | inr new => rw [new]; exact .inr ⟨rfl, cause⟩

theorem caused_maybeRestartIce {m' : ConnectionMonitor} {action : MonitorAction}
    (cause : m.Causes now action .iceRestart) (member : e ∈ (m'.maybeRestartIce conduct now).effects) :
    e ∈ m'.effects ∨ (e.1 = now ∧ m.Causes now action e.2) := by
  cases mem_maybeRestartIce member with
  | inl was => exact .inl was
  | inr new => rw [new]; exact .inr ⟨rfl, cause⟩

/-- A change of quality is nobody's fault. -/
theorem caused_emitQuality {m' : ConnectionMonitor} {action : MonitorAction} {quality : ConnectionQuality}
    (member : e ∈ (m'.emitQuality now quality).effects) :
    e ∈ m'.effects ∨ (e.1 = now ∧ m.Causes now action e.2) :=
  caused_callBack (.quality action quality) member

theorem effect_connectionState {m' : ConnectionMonitor} (connState : PeerConnectionState)
    (member : e ∈ (m'.onPeerConnectionState o connState conduct now).effects) :
    e ∈ m'.effects ∨ (e.1 = now ∧ m.Causes now (.connectionState connState conduct) e.2) := by
  cases connState with
  | connected =>
    simp only [onPeerConnectionState] at member
    split at member
    · exact caused_emitQuality member
    · simp only [emit, List.mem_append, List.mem_singleton] at member
      cases member with
      | inl earlier => exact caused_emitQuality earlier
      | inr new => rw [new]; exact .inr ⟨rfl, .telemetry conduct⟩
  | disconnected =>
    simp only [onPeerConnectionState, effects_scheduleIceRestart] at member
    exact caused_emitQuality member
  | failed =>
    simp only [onPeerConnectionState, effects_schedulePermanentFailure] at member
    cases caused_maybeRestartIce (.failed conduct) member with
    | inl earlier => exact caused_emitQuality earlier
    | inr new => exact .inr new
  | closed => exact caused_emitQuality member
  | new | connecting => exact .inl member

/-- Every effect has its cause in the action that has it. -/
theorem effect_step {timed : Int × MonitorAction} (member : e ∈ (m.step o timed).effects) :
    e ∈ m.effects ∨ (e.1 = timed.1 ∧ m.Causes timed.1 timed.2 e.2) := by
  obtain ⟨now, action⟩ := timed
  cases action with
  | connectionState connState conduct =>
    simp only [step, onConnectionStateChange] at member
    split at member
    · cases effect_connectionState (m := m) connState member with
      | inl was => exact .inl was
      | inr new => exact .inr new
    · exact .inl member
  | iceRestartTimer conduct =>
    simp only [step, onIceRestartTimer] at member
    split at member
    · rename_i ran
      obtain ⟨due, armed, reached⟩ := (Option.any_eq_true _ _).mp ran
      have caused := caused_maybeRestartIce (.timer conduct armed (of_decide_eq_true reached)) member
      exact caused
    · exact .inl member
  | permanentFailureTimer defers =>
    simp only [step, onPermanentFailureTimer] at member
    split at member
    · rename_i ran
      obtain ⟨due, armed, reached⟩ := (Option.any_eq_true _ _).mp ran
      cases defers with
      | true =>
        simp only [if_true, effects_schedulePermanentFailure] at member
        exact .inl member
      | false =>
        simp only [Bool.false_eq_true, if_false] at member
        split at member
        · cases caused_callBack (.permanent armed (of_decide_eq_true reached)) member with
          | inl earlier => exact caused_emitQuality earlier
          | inr new => exact .inr new
        · exact .inl member
    · exact .inl member
  | signalingRestored conduct =>
    simp only [step, recoverAfterSignalingRestore] at member
    split at member
    · exact .inl member
    · split at member
      · exact caused_emitQuality member
      · split at member
        · exact .inl member
        · cases caused_maybeRestartIce (.restored conduct) member with
          | inl earlier => exact caused_emitQuality earlier
          | inr new => exact .inr new
  | legacySettles succeeds =>
    simp only [step, legacySettles] at member
    split at member
    · exact .inl member
    · split at member
      · rename_i settles
        obtain rfl : succeeds = true := (Bool.and_eq_true _ _ ▸ settles).1
        exact caused_callBack .offer member
      · exact .inl member
  | preconnect | open_ | endRound | detach => exact .inl member
  | prepareRound succeeds =>
    cases succeeds with
    | true => exact .inl member
    | false => exact caused_callBack .prepare member
  | switchPartner succeeds =>
    cases succeeds with
    | true => exact .inl member
    | false => exact caused_callBack .switch member
  | leave => exact caused_emitQuality member

end ConnectionMonitor

/-! ## Failures and restarts -/

namespace ConnectionMonitor

variable {o : RecoveryOptions} {actions : List (Int × MonitorAction)}

/-- The connection has failed `grace` milliseconds before, and its trouble is not over. -/
def FailedSince (o : RecoveryOptions) (past : List (Int × MonitorAction)) (now : Int) : Prop :=
  SetSince Prod.fst (fun x => x.2.Fails) (fun x => x.2.EndsTrouble) (max 0 o.transientIceGraceMs) past now

/-- The connection is disconnected for long enough to ask for a restart. -/
def DisconnectedSince (o : RecoveryOptions) (past : List (Int × MonitorAction)) (now : Int) : Prop :=
  SetSince Prod.fst (fun x => x.2.Disconnects) (fun x => x.2.EndsTrouble) (max 0 o.iceRestartAfterDisconnectMs) past now

theorem idle_create : create.Idle := fun gone => absurd gone (Option.some_ne_none _)

theorem idle_run (actions : List (Int × MonitorAction)) : (actions.foldl (step o) create).Idle :=
  @foldl_preserves _ _ (step o) Idle (fun _ => True) (fun _ x idle _ => idle.step x) _ _ idle_create fun _ _ => trivial

theorem failureTimer_run (past : List (Int × MonitorAction)) {due now : Int}
    (armed : due ∈ (past.foldl (step o) create).permanentFailureTimer) (reached : due ≤ now) : FailedSince o past now := by
  have moves : ∀ (m : ConnectionMonitor) (x : Int × MonitorAction), m.Idle → ∀ due ∈ (m.step o x).permanentFailureTimer,
      (∃ before ∈ m.permanentFailureTimer, before ≤ due ∧ ¬ x.2.EndsTrouble) ∨
        (x.2.Fails ∧ x.1 + max 0 o.transientIceGraceMs ≤ due) := by
    intro m x idle due member
    cases failureTimer_step idle member with
    | inl kept =>
      obtain ⟨before, was, ordered, goes, _⟩ := kept
      exact .inl ⟨before, was, ordered, goes⟩
    | inr set => exact .inr ⟨set.1, set.2.ge⟩
  exact (foldl_setSince (step o) Idle permanentFailureTimer (fun _ x idle => idle.step x) moves idle_create rfl past
    due armed).le reached

theorem restartTimer_run (past : List (Int × MonitorAction)) {due now : Int}
    (armed : due ∈ (past.foldl (step o) create).iceRestartTimer) (reached : due ≤ now) : DisconnectedSince o past now := by
  exact (foldl_setSince (step o) Idle iceRestartTimer (fun _ x idle => idle.step x)
    (fun _ _ idle _ => restartTimer_step idle) idle_create rfl past due armed).le reached

/-- Each effect of a run has its cause where it happens. -/
theorem effect_run {e : Int × MonitorEffect} (member : e ∈ (actions.foldl (step o) create).effects) :
    ∃ past action rest, actions = past ++ (e.1, action) :: rest ∧
      (past.foldl (step o) create).Causes e.1 action e.2 := by
  obtain ⟨past, timed, rest, split, off, on⟩ := exists_turn_input
    (P := fun m : ConnectionMonitor => e ∈ m.effects) List.not_mem_nil member
  cases effect_step on with
  | inl was => exact absurd was off
  | inr new =>
    obtain ⟨now, action⟩ := timed
    obtain ⟨same, cause⟩ := new
    subst same
    exact ⟨past, action, rest, split, cause⟩

/-- The two reasons of a failure are told apart by their texts. -/
theorem Causes.of_permanent {m : ConnectionMonitor} {now : Int} {action : MonitorAction} {effect : MonitorEffect}
    (cause : m.Causes now action effect) (reason : effect = .failure "ICE_CONNECTION_FAILED") :
    action = .permanentFailureTimer false ∧ ∃ due ∈ m.permanentFailureTimer, due ≤ now := by
  cases cause with
  | permanent armed reached => exact ⟨rfl, _, armed, reached⟩
  | prepare | switch => simp at reason
  | quality | failed | restored | timer | offer | telemetry => cases reason

/-- A failure is reported by the timer alone, and only after the whole grace period in which the
    connection never came back. -/
theorem failure_after_grace {now : Int}
    (reported : (now, .failure "ICE_CONNECTION_FAILED") ∈ (actions.foldl (step o) create).effects) :
    ∃ past rest, actions = past ++ (now, .permanentFailureTimer false) :: rest ∧ FailedSince o past now := by
  obtain ⟨past, action, rest, split, cause⟩ := effect_run reported
  obtain ⟨rfl, due, armed, reached⟩ := cause.of_permanent rfl
  exact ⟨past, rest, split, failureTimer_run past armed reached⟩

/-- A connection that is lost, asks for a restart, and fails all the same. -/
def lostConnection : List (Int × MonitorAction) :=
  [(100, .connectionState .connected .restarts), (1000, .connectionState .disconnected .restarts),
    (3000, .iceRestartTimer .restarts), (4000, .connectionState .failed .restarts),
    (9000, .permanentFailureTimer false)]

theorem failure_after_grace_lost : ∃ past rest,
    lostConnection = past ++ (9000, .permanentFailureTimer false) :: rest ∧ FailedSince .default past 9000 :=
  failure_after_grace (by decide)

/-- What makes the adapter ask for an ICE restart. -/
def AsksFor (o : RecoveryOptions) (past : List (Int × MonitorAction)) (now : Int) : MonitorAction → Prop
  | .connectionState .failed _ | .signalingRestored _ => True
  | .iceRestartTimer _ => DisconnectedSince o past now
  | _ => False

/-- An ICE restart is asked for when the connection fails, when the signalling is back, or when
    the connection has been disconnected for long enough. -/
theorem restart_has_cause {now : Int} (asked : (now, .iceRestart) ∈ (actions.foldl (step o) create).effects) :
    ∃ past action rest, actions = past ++ (now, action) :: rest ∧ AsksFor o past now action := by
  obtain ⟨past, action, rest, split, cause⟩ := effect_run asked
  refine ⟨past, action, rest, split, ?_⟩
  cases cause with
  | failed | restored => trivial
  | timer conduct armed reached => exact restartTimer_run past armed reached

theorem restart_has_cause_lost : ∃ past action rest,
    lostConnection = past ++ (3000, action) :: rest ∧ AsksFor .default past 3000 action :=
  restart_has_cause (by decide)

end ConnectionMonitor

/-! ## One restart at a time -/

/-- After it the connection may ask for a restart once more. -/
def MonitorAction.Rearms : MonitorAction → Prop
  | .connectionState .connected _ | .signalingRestored _ | .legacySettles false => True
  | action => action.TakesDown

namespace ConnectionMonitor

variable {o : RecoveryOptions} {m : ConnectionMonitor} {now : Int} {effect other : MonitorEffect}
  {conduct : RestartConduct}

def count (effect : MonitorEffect) (m : ConnectionMonitor) : Nat := m.effects.countP (·.2 = effect)

theorem count_callBack (apart : other ≠ effect) : (m.callBack now other).count effect = m.count effect := by
  simp only [count, callBack]
  split
  · simp [apart]
  · rfl

@[simp] theorem count_scheduleIceRestart : (m.scheduleIceRestart o now).count effect = m.count effect := by
  simp [count]

@[simp] theorem count_schedulePermanentFailure :
    (m.schedulePermanentFailure o now).count effect = m.count effect := by
  simp [count]

/-- The restarts asked for, with the one that may still be. -/
def restarts (m : ConnectionMonitor) : Nat := m.count .iceRestart + if m.iceRestartInFlight then 0 else 1

theorem restarts_maybeRestartIce : (m.maybeRestartIce conduct now).restarts = m.restarts := by
  unfold maybeRestartIce
  split
  · rfl
  · rename_i free
    have idle : m.iceRestartInFlight = false := by
      by_contra busy
      simp [Bool.not_eq_false _ ▸ busy] at free
    cases conduct <;> simp [restarts, count, emit, idle]

theorem restarts_callBack (apart : other ≠ .iceRestart) : (m.callBack now other).restarts = m.restarts := by
  simp only [restarts, count_callBack apart]
  rfl

theorem restarts_emitQuality (quality : ConnectionQuality) : (m.emitQuality now quality).restarts = m.restarts :=
  restarts_callBack (m := { m with quality }) (by simp)

@[simp] theorem restarts_scheduleIceRestart : (m.scheduleIceRestart o now).restarts = m.restarts := by
  simp only [restarts, count_scheduleIceRestart]
  unfold scheduleIceRestart
  split <;> rfl

@[simp] theorem restarts_schedulePermanentFailure : (m.schedulePermanentFailure o now).restarts = m.restarts := by
  simp only [restarts, count_schedulePermanentFailure]
  unfold schedulePermanentFailure
  split <;> rfl

theorem restarts_connectionState {connState : PeerConnectionState} (down : connState ≠ .connected) :
    (m.onPeerConnectionState o connState conduct now).restarts = m.restarts := by
  cases connState with
  | connected => exact absurd rfl down
  | disconnected =>
    simp only [onPeerConnectionState, restarts_scheduleIceRestart, restarts_emitQuality]
    rfl
  | failed =>
    simp only [onPeerConnectionState, restarts_schedulePermanentFailure, restarts_maybeRestartIce, restarts_emitQuality]
    rfl
  | closed =>
    simp only [onPeerConnectionState, restarts_emitQuality]
    rfl
  | new | connecting => rfl

/-- While a restart is on its way there is no other. -/
theorem restarts_step {timed : Int × MonitorAction} (idle : m.Idle) (kept : ¬ timed.2.Rearms) :
    (m.step o timed).restarts = m.restarts := by
  obtain ⟨now, action⟩ := timed
  cases action with
  | connectionState connState conduct =>
    have down : connState ≠ .connected := fun up => kept (up ▸ trivial)
    simp only [step, onConnectionStateChange]
    split
    · rw [restarts_connectionState down]
      rfl
    · rfl
  | iceRestartTimer conduct =>
    simp only [step, onIceRestartTimer]
    split
    · rw [restarts_maybeRestartIce]
      rfl
    · rfl
  | permanentFailureTimer defers =>
    simp only [step, onPermanentFailureTimer]
    split
    · split
      · rw [restarts_schedulePermanentFailure]
        rfl
      · split
        · rw [restarts_callBack (by simp), restarts_emitQuality]
          rfl
        · rfl
    · rfl
  | signalingRestored => exact absurd trivial kept
  | legacySettles succeeds =>
    cases succeeds with
    | false => exact absurd trivial kept
    | true =>
      simp only [step, legacySettles]
      split
      · rfl
      · split
        · rw [restarts_callBack (by simp)]
          rfl
        · rename_i gone
          have free : m.iceRestartInFlight = false := (idle (by simpa using gone)).iceRestartInFlight
          simp [restarts, count, free]
  | preconnect | open_ => rfl
  | prepareRound | switchPartner | endRound | leave | detach => exact absurd trivial kept

/-- Of the restarts asked for in a stretch of a run all but one are after something that allows
    another: the connection was back, the signalling was, the attempt has failed, or the peer
    connection was taken down. -/
theorem one_restart_at_a_time (past rest : List (Int × MonitorAction)) (kept : ∀ x ∈ rest, ¬ x.2.Rearms) :
    (rest.foldl (step o) (past.foldl (step o) create)).count .iceRestart ≤
      (past.foldl (step o) create).count .iceRestart + 1 := by
  have same : (rest.foldl (step o) (past.foldl (step o) create)).Idle ∧
      (rest.foldl (step o) (past.foldl (step o) create)).restarts = (past.foldl (step o) create).restarts :=
    @foldl_preserves _ _ (step o) (fun m => m.Idle ∧ m.restarts = (past.foldl (step o) create).restarts) _
      (fun m x inv still => ⟨inv.1.step x, (restarts_step inv.1 still).trans inv.2⟩) _ _ ⟨idle_run past, rfl⟩ kept
  have bound := same.2
  simp only [restarts] at bound
  split at bound <;> split at bound <;> omega

theorem one_restart_at_a_time_lost :
    (((lostConnection.drop 1).foldl (step .default) ((lostConnection.take 1).foldl (step .default) create)).count
      .iceRestart) ≤ ((lostConnection.take 1).foldl (step .default) create).count .iceRestart + 1 :=
  one_restart_at_a_time _ _ (by simp [lostConnection, MonitorAction.Rearms, MonitorAction.TakesDown])

/-! ## A failure that lasts -/

theorem mem_callBack_of_mem {e : Int × MonitorEffect} (member : e ∈ m.effects) : e ∈ (m.callBack now other).effects := by
  simp only [callBack]
  split
  · exact List.mem_append_left _ member
  · exact member

theorem mem_maybeRestartIce_of_mem {e : Int × MonitorEffect} (member : e ∈ m.effects) :
    e ∈ (m.maybeRestartIce conduct now).effects := by
  unfold maybeRestartIce
  split
  · exact member
  · cases conduct with
    | raises => exact member
    | restarts | missing => exact List.mem_append_left _ member

/-- What has been done is done. -/
theorem effects_grow {e : Int × MonitorEffect} (timed : Int × MonitorAction) (member : e ∈ m.effects) :
    e ∈ (m.step o timed).effects := by
  obtain ⟨now, action⟩ := timed
  cases action with
  | connectionState connState conduct =>
    simp only [step, onConnectionStateChange]
    split
    · cases connState with
      | connected =>
        simp only [onPeerConnectionState]
        split
        · exact mem_callBack_of_mem member
        · exact List.mem_append_left _ (mem_callBack_of_mem member)
      | disconnected =>
        simp only [onPeerConnectionState, effects_scheduleIceRestart]
        exact mem_callBack_of_mem member
      | failed =>
        simp only [onPeerConnectionState, effects_schedulePermanentFailure]
        exact mem_maybeRestartIce_of_mem (mem_callBack_of_mem member)
      | closed => exact mem_callBack_of_mem member
      | new | connecting => exact member
    · exact member
  | iceRestartTimer conduct =>
    simp only [step, onIceRestartTimer]
    split
    · exact mem_maybeRestartIce_of_mem member
    · exact member
  | permanentFailureTimer defers =>
    simp only [step, onPermanentFailureTimer]
    split
    · split
      · rw [effects_schedulePermanentFailure]
        exact member
      · split
        · exact mem_callBack_of_mem (mem_callBack_of_mem member)
        · exact member
    · exact member
  | signalingRestored conduct =>
    simp only [step, recoverAfterSignalingRestore]
    split
    · exact member
    · split
      · exact mem_callBack_of_mem member
      · split
        · exact member
        · exact mem_maybeRestartIce_of_mem (mem_callBack_of_mem member)
  | legacySettles succeeds =>
    simp only [step, legacySettles]
    split
    · exact member
    · split
      · exact mem_callBack_of_mem member
      · exact member
  | prepareRound succeeds | switchPartner succeeds =>
    cases succeeds with
    | true => exact member
    | false => exact mem_callBack_of_mem member
  | leave => exact mem_callBack_of_mem member
  | preconnect | open_ | endRound | detach => exact member

end ConnectionMonitor

/-- The connection is left in its trouble; it does not even begin to connect. -/
def MonitorAction.Lasts : MonitorAction → Prop
  | .connectionState .failed _ | .connectionState .disconnected _ | .iceRestartTimer _ | .permanentFailureTimer _
  | .signalingRestored _ | .legacySettles _ | .preconnect | .open_ => True
  | _ => False

namespace ConnectionMonitor

variable {o : RecoveryOptions} {m : ConnectionMonitor} {since latest : Int} {timed : Int × MonitorAction}

/-- The report of a permanent failure, since the failure. -/
def Reported (since : Int) (m : ConnectionMonitor) : Prop :=
  ∃ now, since ≤ now ∧ (now, .failure "ICE_CONNECTION_FAILED") ∈ m.effects

/-- The failure timer is set. -/
def Counting (o : RecoveryOptions) (latest : Int) (m : ConnectionMonitor) : Prop :=
  ∃ due ∈ m.permanentFailureTimer, due ≤ latest + max 0 o.transientIceGraceMs

/-- The connection has failed and has not come back: the failure is reported, or it will be. -/
structure Troubled (o : RecoveryOptions) (since latest : Int) (m : ConnectionMonitor) : Prop where
  down : m.pc = some .failed ∨ m.pc = some .disconnected
  listening : m.listening = true
  answered : Reported since m ∨ Counting o latest m

theorem Troubled.goesOn {m' : ConnectionMonitor} (troubled : Troubled o since latest m)
    (down : m'.pc = some .failed ∨ m'.pc = some .disconnected) (listening : m'.listening = m.listening)
    (timer : m'.permanentFailureTimer = m.permanentFailureTimer) (grows : ∀ e ∈ m.effects, e ∈ m'.effects) :
    Troubled o since latest m' where
  down := down
  listening := listening.trans troubled.listening
  answered := by
    cases troubled.answered with
    | inl reported =>
      obtain ⟨now, later, member⟩ := reported
      exact .inl ⟨now, later, grows _ member⟩
    | inr counting =>
      rw [Counting, ← timer] at counting
      exact .inr counting

theorem Troubled.same {m' : ConnectionMonitor} (troubled : Troubled o since latest m) (same : SameTimers m m')
    (grows : ∀ e ∈ m.effects, e ∈ m'.effects) : Troubled o since latest m' :=
  troubled.goesOn (same.pc ▸ troubled.down) same.listening same.permanentFailureTimer grows

/-- The timer is never set further ahead than the grace period. -/
def Punctual (o : RecoveryOptions) (latest : Int) (m : ConnectionMonitor) : Prop :=
  m.Idle ∧ ∀ due ∈ m.permanentFailureTimer, due ≤ latest + max 0 o.transientIceGraceMs

theorem Punctual.step (punctual : m.Punctual o latest) (ordered : timed.1 ≤ latest) :
    (m.step o timed).Punctual o latest := by
  refine ⟨punctual.1.step timed, fun due member => ?_⟩
  cases failureTimer_step punctual.1 member with
  | inl kept =>
    obtain ⟨before, was, _, _, same | put⟩ := kept
    · rw [same]
      exact punctual.2 before was
    · omega
  | inr set =>
    have := set.2
    omega

@[simp] theorem listening_schedulePermanentFailure {now : Int} :
    (m.schedulePermanentFailure o now).listening = m.listening := by
  unfold schedulePermanentFailure
  split <;> rfl

/-- With the failure the timer is set, if it is not already. -/
theorem troubled_schedulePermanentFailure {now : Int} (down : m.pc = some .failed ∨ m.pc = some .disconnected)
    (listening : m.listening = true)
    (punctual : ∀ due ∈ m.permanentFailureTimer, due ≤ latest + max 0 o.transientIceGraceMs) (ordered : now ≤ latest) :
    Troubled o since latest (m.schedulePermanentFailure o now) where
  down := by simpa using down
  listening := by simpa using listening
  answered := by
    refine .inr ?_
    unfold schedulePermanentFailure
    split
    · rename_i set
      obtain ⟨due, armed⟩ := Option.isSome_iff_exists.mp set
      exact ⟨due, armed, punctual due armed⟩
    · exact ⟨_, rfl, by omega⟩

/-- A failure, whether or not the connection was in trouble before. -/
theorem troubled_failed {conduct : RestartConduct} {now : Int} (punctual : m.Punctual o latest) (ordered : now ≤ latest)
    (peer : m.pc ≠ none) (listening : m.listening = true) :
    Troubled o since latest (m.step o (now, .connectionState .failed conduct)) := by
  have here : m.pc.isSome = true := Option.isSome_iff_ne_none.mpr peer
  simp only [step, onConnectionStateChange, here, if_true, onPeerConnectionState]
  have same := @sameTimers_maybeRestartIce
    (emitQuality now .degraded (stopStatsMonitor { m with pc := some .failed })) now conduct
  apply troubled_schedulePermanentFailure (.inl same.pc) (same.listening.trans listening) _ ordered
  rw [same.permanentFailureTimer]
  exact punctual.2

theorem Troubled.peer (troubled : Troubled o since latest m) : m.pc ≠ none := by
  cases troubled.down with
  | inl failed => simp [failed]
  | inr disconnected => simp [disconnected]

theorem Troubled.apart (troubled : Troubled o since latest m) : m.pc ≠ some .connected := by
  cases troubled.down with
  | inl failed => simp [failed]
  | inr disconnected => simp [disconnected]

/-- The callback of the failure timer reports the failure, or puts the report off. -/
theorem Troubled.failureTimer (troubled : Troubled o since latest m) {now : Int} (defers : Bool) (later : since ≤ now)
    (ordered : now ≤ latest) : Troubled o since latest (m.onPermanentFailureTimer o defers now) := by
  have down := troubled.down
  simp only [onPermanentFailureTimer]
  split
  · split
    · have unset : ∀ due ∈ (none : Option Int), due ≤ latest + max 0 o.transientIceGraceMs := fun _ member =>
        absurd member (Option.not_mem_none _)
      exact troubled_schedulePermanentFailure down troubled.listening unset ordered
    · have reports : (m.pc = some .failed || m.pc = some .disconnected) = true := by simpa using down
      rw [if_pos reports]
      have listening := troubled.listening
      exact ⟨down, listening, .inl ⟨now, later, by simp [emitQuality, callBack, stopStatsMonitor, listening]⟩⟩
  · exact troubled

theorem Troubled.step (troubled : Troubled o since latest m) (punctual : m.Punctual o latest) (lasts : timed.2.Lasts)
    (later : since ≤ timed.1) (ordered : timed.1 ≤ latest) : Troubled o since latest (m.step o timed) := by
  have grows : ∀ e ∈ m.effects, e ∈ (m.step o timed).effects := fun _ => effects_grow timed
  obtain ⟨now, action⟩ := timed
  cases action with
  | connectionState connState conduct =>
    cases connState with
    | failed => exact troubled_failed punctual ordered troubled.peer troubled.listening
    | disconnected =>
      have here : m.pc.isSome = true := Option.isSome_iff_ne_none.mpr troubled.peer
      simp only [ConnectionMonitor.step, onConnectionStateChange, here, if_true, onPeerConnectionState] at grows ⊢
      exact troubled.goesOn (.inr pc_scheduleIceRestart) listening_scheduleIceRestart
        permanentFailureTimer_scheduleIceRestart grows
    | _ => exact lasts.elim
  | iceRestartTimer conduct =>
    by_cases ran : m.iceRestartTimer.any (· ≤ now) = true
    · simp only [ConnectionMonitor.step, onIceRestartTimer, if_pos ran] at grows ⊢
      have same := @sameTimers_maybeRestartIce { m with iceRestartTimer := none } now conduct
      exact troubled.goesOn (by rw [same.pc]; exact troubled.down) same.listening same.permanentFailureTimer grows
    · simp only [ConnectionMonitor.step, onIceRestartTimer, if_neg ran]
      exact troubled
  | permanentFailureTimer defers => exact troubled.failureTimer defers later ordered
  | signalingRestored conduct => exact troubled.same (sameTimers_recover troubled.apart) grows
  | legacySettles succeeds => exact troubled.same (sameTimers_legacySettles succeeds) grows
  | preconnect | open_ => exact ⟨troubled.down, troubled.listening, troubled.answered⟩
  | prepareRound | switchPartner | endRound | leave | detach => exact lasts.elim

/-- The first callback of the failure timer that is not put off reports a failure that lasts. -/
theorem lasting_failure_reported (before between : List (Int × MonitorAction)) (conduct : RestartConduct)
    {now : Int} (ordered : since ≤ latest) (earlier : ∀ x ∈ before, x.1 ≤ latest)
    (peer : (before.foldl (step o) create).pc ≠ none) (listening : (before.foldl (step o) create).listening = true)
    (lasts : ∀ x ∈ between, x.2.Lasts ∧ since ≤ x.1 ∧ x.1 ≤ latest) (waited : latest + max 0 o.transientIceGraceMs ≤ now) :
    Reported since ((before ++ (since, MonitorAction.connectionState .failed conduct) ::
      (between ++ [(now, MonitorAction.permanentFailureTimer false)])).foldl (step o) create) := by
  have punctual : (before.foldl (step o) create).Punctual o latest :=
    @foldl_preserves _ _ (step o) (Punctual o latest) _ (fun _ _ inv now => inv.step now) _ _
      ⟨idle_create, fun _ member => nomatch member⟩ earlier
  have failed := @troubled_failed o _ since latest conduct since punctual ordered peer listening
  have failing := @Punctual.step o _ latest (since, .connectionState .failed conduct) punctual ordered
  have troubled := @foldl_preserves _ _ (step o) (fun m => Troubled o since latest m ∧ m.Punctual o latest) _
    (fun m x inv still => ⟨inv.1.step inv.2 still.1 still.2.1 still.2.2, inv.2.step still.2.2⟩) _ _ ⟨failed, failing⟩ lasts
  simp only [List.foldl_append, List.foldl_cons, List.foldl_nil]
  generalize between.foldl (step o) _ = last at troubled ⊢
  cases troubled.1.answered with
  | inl reported =>
    obtain ⟨then_, later, member⟩ := reported
    exact ⟨then_, later, effects_grow _ member⟩
  | inr counting =>
    obtain ⟨due, armed, bound⟩ := counting
    have ran : last.permanentFailureTimer.any (· ≤ now) = true := by
      rw [Option.mem_def.mp armed]
      exact decide_eq_true (le_trans bound waited)
    have reports : (last.pc = some .failed || last.pc = some .disconnected) = true := by simpa using troubled.1.down
    have later : since ≤ now := by omega
    simp only [step, onPermanentFailureTimer, ran, if_true, Bool.false_eq_true, if_false, reports]
    exact ⟨now, later, by simp [emitQuality, callBack, stopStatsMonitor, troubled.1.listening]⟩

def connectedPeer : List (Int × MonitorAction) := [(100, .connectionState .connected .restarts)]

/-- It fails, and is disconnected a second later. -/
theorem lasting_failure_reported_failed : Reported 4000
    ((connectedPeer ++ (4000, MonitorAction.connectionState .failed .restarts) ::
      ([(5000, MonitorAction.connectionState .disconnected .restarts)] ++
        [(10000, MonitorAction.permanentFailureTimer false)])).foldl (step .default) create) :=
  @lasting_failure_reported .default 4000 5000 connectedPeer _ .restarts 10000 (by decide)
    (by simp [connectedPeer]) (by decide) (by decide) (by simp [MonitorAction.Lasts]) (by decide)

/-- Without a peer connection nothing is heard until the adapter is used again. -/
theorem silent_without_peer (past rest : List (Int × MonitorAction)) (gone : (past.foldl (step o) create).pc = none)
    (silent : ∀ x ∈ rest, ¬ x.2.Announces) :
    ((past ++ rest).foldl (step o) create).Gone ∧
      ((past ++ rest).foldl (step o) create).effects = (past.foldl (step o) create).effects := by
  rw [List.foldl_append]
  apply @foldl_preserves _ _ (step o) (fun m => m.Gone ∧ m.effects = (past.foldl (step o) create).effects)
    (fun x => ¬ x.2.Announces) _ _ _ ⟨idle_run past gone, rfl⟩ silent
  intro m x inv still
  have next := inv.1.step (o := o) still
  exact ⟨next.1, next.2.trans inv.2⟩

/-- The failure timer comes after the end of the round. -/
def roundEnded : List (Int × MonitorAction) := lostConnection.take 4 ++ [(5000, .endRound)]

theorem silent_without_peer_roundEnded :
    ((roundEnded ++ lostConnection.drop 4).foldl (step .default) create).Gone ∧
      ((roundEnded ++ lostConnection.drop 4).foldl (step .default) create).effects =
        (roundEnded.foldl (step .default) create).effects :=
  silent_without_peer _ _ (by decide) (by simp [lostConnection, MonitorAction.Announces])

end ConnectionMonitor

end EventPlatform.Browser
