import EventPlatform.Browser.Controller
import EventPlatform.Lib.Runs

/-! # The reconnect window

The controller beside the clock: when the signalling was lost, how often it has been tried
since, and when the timer is due.  The first loss opens a window, and an attempt is started
only inside it; but a socket that opens closes the window before the server has said
anything. -/

namespace EventPlatform.Browser

open EventPlatform.Lib

/-! ## The clock of the controller -/

/-- The constructor's options, in milliseconds. -/
structure ReconnectOptions where
  initialDelayMs : Int
  maxDelayMs : Int
  windowMs : Int

/-- `RECONNECT_INITIAL_DELAY_MS`, `RECONNECT_MAX_DELAY_MS`, `RECONNECT_WINDOW_MS` -/
def ReconnectOptions.default : ReconnectOptions := ⟨500, 4000, 45000⟩

def nextReconnectDelayMs (attempt : Nat) (initialMs maxMs : Int) : Int := min maxMs (initialMs * 2 ^ attempt)

def reconnectWindowExhausted (startedAtMs nowMs windowMs : Int) : Bool := windowMs ≤ nowMs - startedAtMs

/-- `reconnectDue` is when the timer fires, if there is one, and `attempts` has the times at
    which a socket was created. -/
structure TimedController where
  room : CallRoomController
  reconnectAttempt : Nat
  reconnectStartedAt : Option Int
  reconnectDue : Int
  attempts : List Int

namespace TimedController

def create (mediaFallbackRoomId : String) (forceMediaFallback : Bool) : TimedController :=
  ⟨.create mediaFallbackRoomId forceMediaFallback, 0, none, 0, []⟩

def clearReconnect (c : TimedController) : TimedController := { c with room := { c.room with reconnectTimer := false } }

def giveUpReconnect (c : TimedController) : TimedController := { c with room := c.room.giveUpReconnect }

def scheduleReconnect (o : ReconnectOptions) (now : Int) (c : TimedController) : TimedController :=
  if c.room.phase = .eventEnded then c
  else
    let startedAt := c.reconnectStartedAt.getD now
    let c := { c.clearReconnect with reconnectStartedAt := some startedAt }
    if reconnectWindowExhausted startedAt now o.windowMs then c.giveUpReconnect
    else
      { c with
        room := { c.room with reconnectTimer := true }
        reconnectAttempt := c.reconnectAttempt + 1
        reconnectDue := now + max 0 (nextReconnectDelayMs c.reconnectAttempt o.initialDelayMs o.maxDelayMs) }

def openSocket (now : Int) (c : TimedController) : TimedController :=
  { c with room := { c.room with ws := .connecting }, attempts := c.attempts ++ [now] }

def connect (o : ReconnectOptions) (now : Int) (c : TimedController) : TimedController :=
  let c := { c with room := { c.room.ensureLocalMedia.1 with onlineHandler := true } }
  if c.room.phase = .eventEnded || c.room.reconnectGaveUp then c
  else if c.reconnectStartedAt.any (reconnectWindowExhausted · now o.windowMs) then c.giveUpReconnect
  else if c.room.ws = .open_ then c
  else
    let c := c.openSocket now
    if c.room.signalingDegraded || c.room.phase = .disconnected then c.scheduleReconnect o now else c

/-- The window is closed by the socket alone, before `server.hello`. -/
def onSocketOpen (c : TimedController) : TimedController :=
  if c.room.ws = .connecting then
    { c with room := c.room.onSocketOpen, reconnectAttempt := 0, reconnectStartedAt := none }
  else c

def onSignalingClosed (o : ReconnectOptions) (now : Int) (c : TimedController) : TimedController :=
  if c.room.phase = .eventEnded then c
  else
    let room := { c.room with ws := .detached }
    if room.phase = .inRound || room.phase = .preconnecting || room.phase = .roundEnding then
      scheduleReconnect o now { c with room := { room with signalingDegraded := true } }
    else scheduleReconnect o now { c with room := CallRoomController.stopTimer { room with phase := .disconnected } }

/-- A window that was never opened counts as one from time zero. -/
def onReconnectTimer (o : ReconnectOptions) (now : Int) (c : TimedController) : TimedController :=
  if !c.room.reconnectTimer || now < c.reconnectDue then c
  else
    let c := c.clearReconnect
    if reconnectWindowExhausted (c.reconnectStartedAt.getD 0) now o.windowMs then c.giveUpReconnect
    else c.connect o now

def onOnline (o : ReconnectOptions) (now : Int) (c : TimedController) : TimedController :=
  if c.room.onlineHandler && c.room.phase != .eventEnded &&
      (c.room.signalingDegraded || c.room.phase = .disconnected) then
    let room := { c.room with reconnectGaveUp := false, reconnectTimer := false }
    connect o now { c with room, reconnectAttempt := 0, reconnectStartedAt := some now }
  else c

def disconnect (c : TimedController) : TimedController :=
  { c with room := c.room.disconnect, reconnectAttempt := 0, reconnectStartedAt := none }

/-- Where an action says that the window is over, the clock is asked instead. -/
def step (o : ReconnectOptions) (c : TimedController) (timed : Int × ControllerAction) : TimedController :=
  match timed.2 with
  | .connect _ => c.connect o timed.1
  | .disconnect => c.disconnect
  | .socketOpen => c.onSocketOpen
  | .socketClose replaced _ =>
    if c.room.ws = .detached then c
    else if replaced then { c with room := c.room.onSessionReplaced }
    else c.onSignalingClosed o timed.1
  | .reconnectTimer _ => c.onReconnectTimer o timed.1
  | .online => c.onOnline o timed.1
  | action => { c with room := c.room.step action }

end TimedController

/-! ## What leaves the timer alone -/

namespace CallRoomController

variable {s : CallRoomController} {k : Nat}

@[simp] theorem reconnectTimer_settle (i : Nat) (h : Handler) : (s.settle i h).reconnectTimer = s.reconnectTimer := rfl

@[simp] theorem reconnectTimer_start (h : Handler) : (s.start h).reconnectTimer = s.reconnectTimer := rfl

@[simp] theorem reconnectTimer_perform (p : Progress) : (s.perform k p).reconnectTimer = s.reconnectTimer := rfl

@[simp] theorem reconnectTimer_startTimer : s.startTimer.reconnectTimer = s.reconnectTimer := rfl

@[simp] theorem reconnectTimer_ensureLocalMedia : s.ensureLocalMedia.1.reconnectTimer = s.reconnectTimer := by
  unfold ensureLocalMedia
  split
  · rfl
  · split <;> rfl

theorem socket_ensureLocalMedia : s.ensureLocalMedia.1.phase = s.phase ∧ s.ensureLocalMedia.1.ws = s.ws ∧
    s.ensureLocalMedia.1.reconnectGaveUp = s.reconnectGaveUp := by
  unfold ensureLocalMedia
  split
  · exact ⟨rfl, rfl, rfl⟩
  · split <;> exact ⟨rfl, rfl, rfl⟩

@[simp] theorem reconnectTimer_recover : s.recoverAfterSignalingRestore.reconnectTimer = s.reconnectTimer := by
  unfold recoverAfterSignalingRestore
  split <;> rfl

@[simp] theorem reconnectTimer_advance (i : Nat) (call : Call) (rest : Nat → Call → Handler) :
    (s.advance i k call rest).reconnectTimer = s.reconnectTimer := by
  unfold advance
  split <;> rfl

@[simp] theorem reconnectTimer_createNegotiator (i : Nat) (partner : Pairing) :
    (s.createNegotiator i partner).reconnectTimer = s.reconnectTimer := rfl

@[simp] theorem reconnectTimer_afterLocalMedia (i : Nat) :
    (s.afterLocalMedia i).reconnectTimer = s.reconnectTimer := by
  unfold afterLocalMedia
  split
  · rfl
  · rfl
  · split
    · rfl
    · split <;> rfl

@[simp] theorem reconnectTimer_afterAcquire (i : Nat) : (s.afterAcquire i).reconnectTimer = s.reconnectTimer := by
  unfold afterAcquire
  split
  · rfl
  · split <;> rfl

@[simp] theorem reconnectTimer_afterPrepare (i : Nat) : (s.afterPrepare i).reconnectTimer = s.reconnectTimer := by
  unfold afterPrepare
  split
  · rfl
  · split
    · split <;> rfl
    · rfl

@[simp] theorem reconnectTimer_afterCamera (i : Nat) (wait : Wait) :
    (s.afterCamera i wait).reconnectTimer = s.reconnectTimer := by
  unfold afterCamera
  split <;> rfl

theorem reconnectTimer_resume (i : Nat) : (s.resume i).reconnectTimer = s.reconnectTimer := by
  unfold resume
  split <;> try split
  all_goals simp [afterIceServers, afterRoundEnd]

theorem reconnectTimer_handleMessage (msg : ServerMessage) (armed : (s.handleMessage msg).reconnectTimer = true) :
    s.reconnectTimer = true := by
  cases msg with
  | hello =>
    simp only [handleMessage, onServerHello] at armed
    split at armed <;> simpa using armed
  | pairing payload =>
    simp only [handleMessage, onPairing] at armed
    split at armed <;> simpa using armed
  | roundStart =>
    simp only [handleMessage, onRoundStart] at armed
    split at armed <;> simpa using armed
  | roundEnd =>
    simp only [handleMessage, onRoundEnd] at armed
    split at armed <;> simpa using armed
  | eventEnd | sessionReplaced => cases armed
  | operatorPause | operatorResume => exact armed

end CallRoomController

/-! ## The window -/

/-- The runs of the claim: nobody comes to help. -/
def ControllerAction.Unassisted : ControllerAction → Prop
  | .connect _ | .online | .message .hello => False
  | _ => True

instance decidableUnassisted : DecidablePred ControllerAction.Unassisted
  | .connect _ | .online | .message .hello => inferInstanceAs (Decidable False)
  | .message (.pairing _) | .message .roundStart | .message .roundEnd | .message .eventEnd
  | .message .sessionReplaced | .message .operatorPause | .message .operatorResume
  | .disconnect | .socketOpen | .socketClose _ _ | .reconnectTimer _ | .forceMediaFallback | .failure _ _
  | .quality _ _ | .connection _ _ | .escalation _ _ | .grant _ | .resume _ => inferInstanceAs (Decidable True)

namespace TimedController

/-- A socket is lost while no window is open, so that a new one begins. -/
def OpensWindow (c : TimedController) : ControllerAction → Prop
  | .socketClose false _ => c.room.ws ≠ .detached ∧ c.room.phase ≠ .eventEnded ∧ c.reconnectStartedAt = none
  | _ => False

instance decidableOpensWindow (c : TimedController) : DecidablePred c.OpensWindow
  | .socketClose false _ => inferInstanceAs (Decidable (_ ∧ _ ∧ _))
  | .socketClose true _ | .connect _ | .disconnect | .socketOpen | .message _ | .reconnectTimer _ | .online
  | .forceMediaFallback | .failure _ _ | .quality _ _ | .connection _ _ | .escalation _ _ | .grant _ | .resume _ =>
    inferInstanceAs (Decidable False)

/-- The timer runs only in a window, and the window has begun by the loss. -/
structure Anchored (loss : Int) (c : TimedController) : Prop where
  armed : c.room.reconnectTimer = true → c.reconnectStartedAt ≠ none
  started : ∀ t ∈ c.reconnectStartedAt, t ≤ loss

variable {o : ReconnectOptions} {c : TimedController} {now loss : Int} {timed : Int × ControllerAction}

theorem Anchored.create (loss : Int) (mediaFallbackRoomId : String) (forceMediaFallback : Bool) :
    Anchored loss (.create mediaFallbackRoomId forceMediaFallback) where
  armed := fun set => nomatch set
  started := fun _ member => nomatch member

/-- What happens in the room does not matter as long as it sets no timer. -/
theorem Anchored.room (anchored : Anchored loss c) {room : CallRoomController}
    (kept : room.reconnectTimer = true → c.room.reconnectTimer = true) : Anchored loss { c with room } where
  armed := fun set => anchored.armed (kept set)
  started := anchored.started

theorem Anchored.scheduleReconnect (anchored : Anchored loss c) (window : c.reconnectStartedAt = none → now ≤ loss) :
    Anchored loss (c.scheduleReconnect o now) := by
  have started : c.reconnectStartedAt.getD now ≤ loss := by
    cases since : c.reconnectStartedAt with
    | none => exact window since
    | some t => exact anchored.started t since
  unfold TimedController.scheduleReconnect
  split
  · exact anchored
  · simp only []
    split
    · exact ⟨fun set => (nomatch set), fun t member => by cases member; exact started⟩
    · exact ⟨fun _ => Option.some_ne_none _, fun t member => by cases member; exact started⟩

theorem attempts_scheduleReconnect : (c.scheduleReconnect o now).attempts = c.attempts := by
  unfold TimedController.scheduleReconnect
  split
  · rfl
  · simp only []
    split <;> rfl

theorem Anchored.connect (anchored : Anchored loss c) (window : c.reconnectStartedAt = none → now ≤ loss) :
    Anchored loss (c.connect o now) := by
  have bound : Anchored loss { c with room := { c.room.ensureLocalMedia.1 with onlineHandler := true } } :=
    anchored.room fun set => by simpa using set
  unfold TimedController.connect
  simp only []
  split
  · exact bound
  · split
    · exact bound.room fun set => nomatch set
    · split
      · exact bound
      · have opened : Anchored loss
            (openSocket now { c with room := { c.room.ensureLocalMedia.1 with onlineHandler := true } }) :=
          ⟨bound.armed, bound.started⟩
        split
        · exact opened.scheduleReconnect window
        · exact opened

/-- A socket is created only while the window is open. -/
theorem attempts_connect : (c.connect o now).attempts = c.attempts ∨
    ((c.connect o now).attempts = c.attempts ++ [now] ∧ ∀ t ∈ c.reconnectStartedAt, now < t + o.windowMs) := by
  unfold TimedController.connect
  simp only []
  split
  · exact .inl rfl
  · split
    · exact .inl rfl
    · rename_i inside
      split
      · exact .inl rfl
      · have within : ∀ t ∈ c.reconnectStartedAt, now < t + o.windowMs := by
          intro t member
          rw [Option.mem_def.mp member] at inside
          simp only [Option.any_some, reconnectWindowExhausted, decide_eq_true_eq] at inside
          omega
        split
        · exact .inr ⟨by rw [attempts_scheduleReconnect]; rfl, within⟩
        · exact .inr ⟨rfl, within⟩

theorem Anchored.onSignalingClosed (anchored : Anchored loss c)
    (window : c.room.phase ≠ .eventEnded → c.reconnectStartedAt = none → now ≤ loss) :
    Anchored loss (c.onSignalingClosed o now) := by
  unfold TimedController.onSignalingClosed
  split
  · exact anchored
  · rename_i running
    simp only []
    split
    · exact Anchored.scheduleReconnect ⟨anchored.armed, anchored.started⟩ (window running)
    · exact Anchored.scheduleReconnect ⟨anchored.armed, anchored.started⟩ (window running)

theorem attempts_onSignalingClosed : (c.onSignalingClosed o now).attempts = c.attempts := by
  unfold TimedController.onSignalingClosed
  split
  · rfl
  · simp only []
    split
    · rw [attempts_scheduleReconnect]
    · rw [attempts_scheduleReconnect]

theorem Anchored.onReconnectTimer (anchored : Anchored loss c) : Anchored loss (c.onReconnectTimer o now) := by
  unfold TimedController.onReconnectTimer
  split
  · exact anchored
  · rename_i fires
    have armed : c.room.reconnectTimer = true := by
      simp only [Bool.or_eq_true, Bool.not_eq_true', not_or, Bool.not_eq_false] at fires
      exact fires.1
    have cleared : Anchored loss c.clearReconnect := anchored.room fun set => nomatch set
    simp only []
    split
    · exact cleared.room fun set => nomatch set
    · exact cleared.connect fun none_ => absurd none_ (anchored.armed armed)

/-- The timer tries again only inside the window. -/
theorem attempts_onReconnectTimer (anchored : Anchored loss c) :
    ∀ a ∈ (c.onReconnectTimer o now).attempts, a ∈ c.attempts ∨ a < loss + o.windowMs := by
  unfold TimedController.onReconnectTimer
  split
  · exact fun a member => .inl member
  · rename_i fires
    have armed : c.room.reconnectTimer = true := by
      simp only [Bool.or_eq_true, Bool.not_eq_true', not_or, Bool.not_eq_false] at fires
      exact fires.1
    simp only []
    split
    · exact fun a member => .inl member
    · intro a member
      cases @attempts_connect o c.clearReconnect now with
      | inl same =>
        rw [same] at member
        exact .inl member
      | inr grown =>
        obtain ⟨grown, within⟩ := grown
        rw [grown] at member
        -- the window was open when the timer fired, and had begun by the loss
        obtain ⟨t, since⟩ := Option.ne_none_iff_exists'.mp (anchored.armed armed)
        have inside := within t since
        have before := anchored.started t since
        cases List.mem_append.mp member with
        | inl old => exact .inl old
        | inr new =>
          rw [List.mem_singleton.mp new]
          exact .inr (by omega)

/-- A window is opened by the loss or before it, or not at all. -/
theorem Anchored.step (anchored : Anchored loss c)
    (fine : timed.1 ≤ loss ∨ (timed.2.Unassisted ∧ ¬ c.OpensWindow timed.2)) : Anchored loss (c.step o timed) := by
  obtain ⟨now, action⟩ := timed
  unfold TimedController.step
  cases action with
  | connect exhausted =>
    have early : now ≤ loss := fine.resolve_right fun unassisted => unassisted.1
    exact anchored.connect fun _ => early
  | disconnect => exact ⟨fun set => (nomatch set), fun t member => nomatch member⟩
  | socketOpen =>
    simp only [TimedController.onSocketOpen]
    split
    · rename_i connecting
      -- a socket that opens closes the window, and stops the timer with it
      refine ⟨fun set => ?_, fun t member => nomatch member⟩
      simp [CallRoomController.onSocketOpen, connecting] at set
    · exact anchored
  | socketClose replaced exhausted =>
    simp only []
    split
    · exact anchored
    · rename_i attached
      cases replaced with
      | true => exact anchored.room fun set => nomatch set
      | false =>
        -- the only event that may open a window without the page asking for it
        refine anchored.onSignalingClosed fun running none_ => ?_
        exact fine.resolve_right fun unassisted => unassisted.2 ⟨attached, running, none_⟩
  | message msg =>
    refine anchored.room fun set => ?_
    simp only [CallRoomController.step] at set
    split at set
    · exact CallRoomController.reconnectTimer_handleMessage msg set
    · exact set
  | reconnectTimer exhausted => exact anchored.onReconnectTimer
  | online =>
    have early : now ≤ loss := fine.resolve_right fun unassisted => unassisted.1
    simp only [TimedController.onOnline]
    split
    · refine Anchored.connect ⟨fun set => (nomatch set), fun t member => ?_⟩ fun none_ => nomatch none_
      cases member
      exact early
    · exact anchored
  | forceMediaFallback =>
    refine anchored.room fun set => ?_
    simp only [CallRoomController.step, CallRoomController.forceMediaFallback] at set
    split at set
    · exact set
    · split at set <;> simpa using set
  | failure k reason =>
    refine anchored.room fun set => ?_
    simp only [CallRoomController.step, CallRoomController.onFailure] at set
    split at set <;> simpa using set
  | quality k quality =>
    refine anchored.room fun set => ?_
    simp only [CallRoomController.step, CallRoomController.onQuality] at set
    split at set <;> simpa using set
  | connection k connState =>
    refine anchored.room fun set => ?_
    simp only [CallRoomController.step, CallRoomController.onConnectionState] at set
    split at set <;> simpa using set
  | escalation k j =>
    refine anchored.room fun set => ?_
    simp only [CallRoomController.step, CallRoomController.onEscalation] at set
    split at set
    · exact set
    · split at set <;> simpa using set
  | grant request => exact anchored.room fun set => set
  | resume i =>
    refine anchored.room fun set => ?_
    rwa [CallRoomController.step, CallRoomController.reconnectTimer_resume] at set

/-- Without help only the timer tries. -/
theorem attempts_step (anchored : Anchored loss c) (unassisted : timed.2.Unassisted) :
    ∀ a ∈ (c.step o timed).attempts, a ∈ c.attempts ∨ a < loss + o.windowMs := by
  obtain ⟨now, action⟩ := timed
  unfold TimedController.step
  cases action with
  | connect exhausted | online => cases unassisted
  | reconnectTimer exhausted => exact attempts_onReconnectTimer anchored
  | socketClose replaced exhausted =>
    simp only []
    split
    · exact fun a member => .inl member
    · split
      · exact fun a member => .inl member
      · rw [attempts_onSignalingClosed]
        exact fun a member => .inl member
  | socketOpen =>
    simp only [TimedController.onSocketOpen]
    split <;> exact fun a member => .inl member
  | disconnect | message msg | forceMediaFallback | failure k reason | quality k quality | connection k connState
  | escalation k j | grant request | resume i => exact fun a member => .inl member

/-! ## Runs -/

/-- A window has begun by the loss whatever happened before. -/
theorem anchored_run (o : ReconnectOptions) (mediaFallbackRoomId : String) (forceMediaFallback : Bool)
    {past : List (Int × ControllerAction)} (earlier : ∀ x ∈ past, x.1 ≤ loss) :
    Anchored loss (past.foldl (step o) (.create mediaFallbackRoomId forceMediaFallback)) := by
  have allowed : ∀ v ∈ visited (step o) (.create mediaFallbackRoomId forceMediaFallback) past, v.2.1 ≤ loss := by
    intro v member
    obtain ⟨_, _, split, _⟩ := mem_visited.mp member
    exact earlier v.2 (by simp [split])
  exact @foldl_invariant _ _ _ (Anchored loss) (fun _ x => x.1 ≤ loss) (fun c x inv early => inv.step (.inl early))
    _ _ (.create loss mediaFallbackRoomId forceMediaFallback) allowed

/-! ## The controller without a clock -/

/-- The action as the controller without a clock takes it. -/
def decided (o : ReconnectOptions) (c : TimedController) (timed : Int × ControllerAction) : ControllerAction :=
  match timed.2 with
  | .connect _ => .connect (c.reconnectStartedAt.any (reconnectWindowExhausted · timed.1 o.windowMs))
  | .socketClose replaced _ =>
    .socketClose replaced (reconnectWindowExhausted (c.reconnectStartedAt.getD timed.1) timed.1 o.windowMs)
  | .reconnectTimer _ =>
    .reconnectTimer (reconnectWindowExhausted (c.reconnectStartedAt.getD 0) timed.1 o.windowMs)
  | action => action

theorem room_scheduleReconnect : (c.scheduleReconnect o now).room =
    c.room.scheduleReconnect (reconnectWindowExhausted (c.reconnectStartedAt.getD now) now o.windowMs) := by
  unfold scheduleReconnect CallRoomController.scheduleReconnect
  split
  · rfl
  · simp only []
    split <;> rfl

theorem room_connect (positive : 0 < o.windowMs) : (c.connect o now).room =
    c.room.connect (c.reconnectStartedAt.any (reconnectWindowExhausted · now o.windowMs)) := by
  unfold connect CallRoomController.connect
  simp only []
  split
  · rfl
  · split
    · rfl
    · rename_i inside
      -- the window was asked at the same moment, or begins at it
      have open_ : reconnectWindowExhausted (c.reconnectStartedAt.getD now) now o.windowMs = false := by
        cases since : c.reconnectStartedAt with
        | none => simp [reconnectWindowExhausted, positive]
        | some t => simpa [since] using inside
      split
      · rfl
      · rw [apply_ite TimedController.room, room_scheduleReconnect]
        simp only [openSocket, open_]
        rfl

theorem room_onSignalingClosed : (c.onSignalingClosed o now).room =
    c.room.onSignalingClosed (reconnectWindowExhausted (c.reconnectStartedAt.getD now) now o.windowMs) := by
  unfold onSignalingClosed CallRoomController.onSignalingClosed
  split
  · rfl
  · simp only []
    split
    · rw [room_scheduleReconnect]
    · rw [room_scheduleReconnect]

/-- With the clock the controller does nothing that it does not do without. -/
theorem room_step (positive : 0 < o.windowMs) (anchored : Anchored loss c) :
    (c.step o timed).room = c.room ∨ (c.step o timed).room = c.room.step (c.decided o timed) := by
  obtain ⟨now, action⟩ := timed
  unfold step decided
  cases action with
  | connect exhausted => exact .inr (room_connect positive)
  | socketOpen =>
    right
    simp only [onSocketOpen, CallRoomController.step, CallRoomController.onSocketOpen]
    split <;> rfl
  | socketClose replaced exhausted =>
    right
    simp only [CallRoomController.step]
    split
    · rfl
    · split
      · rfl
      · exact room_onSignalingClosed
  | reconnectTimer exhausted =>
    simp only [onReconnectTimer, CallRoomController.step, CallRoomController.onReconnectTimer]
    cases armed : c.room.reconnectTimer with
    | false => exact .inl rfl
    | true =>
      -- an armed timer has a window, so both ways of asking for it give the same answer
      obtain ⟨t, since⟩ := Option.ne_none_iff_exists'.mp (anchored.armed armed)
      simp only [Bool.not_true, Bool.false_or, decide_eq_true_eq, Bool.false_eq_true, if_false]
      split
      · exact .inl rfl
      · right
        have same : c.clearReconnect.reconnectStartedAt.getD 0 = c.reconnectStartedAt.getD 0 := rfl
        rw [same]
        split
        · rfl
        · rename_i inside
          have open_ : c.clearReconnect.reconnectStartedAt.any (reconnectWindowExhausted · now o.windowMs) = false := by
            simpa [clearReconnect, since] using inside
          rw [room_connect positive, open_]
          rfl
  | online =>
    right
    simp only [onOnline, CallRoomController.step, CallRoomController.onOnline]
    split
    · rw [room_connect positive]
      simp [reconnectWindowExhausted, not_le.mpr positive]
    · rfl
  | disconnect | message msg | forceMediaFallback | failure k reason | quality k quality | connection k connState
  | escalation k j | grant request | resume i => exact .inr rfl

/-- A run beside the clock is a run of the controller. -/
theorem room_run (positive : 0 < o.windowMs) (mediaFallbackRoomId : String) (forceMediaFallback : Bool)
    (run : List (Int × ControllerAction)) : ∃ actions : List ControllerAction,
      (run.foldl (step o) (.create mediaFallbackRoomId forceMediaFallback)).room =
        actions.foldl CallRoomController.step (.create mediaFallbackRoomId forceMediaFallback) := by
  induction run using List.reverseRecOn with
  | nil => exact ⟨[], rfl⟩
  | append_singleton run x ih =>
    obtain ⟨actions, same⟩ := ih
    rw [List.foldl_append, List.foldl_cons, List.foldl_nil]
    obtain ⟨latest, bound⟩ := (run.map (·.1)).toFinset.exists_le
    have anchored := @anchored_run latest o mediaFallbackRoomId forceMediaFallback run fun y member =>
      bound y.1 (List.mem_toFinset.mpr (List.mem_map_of_mem member))
    cases @room_step o _ latest x positive anchored with
    | inl unchanged => exact ⟨actions, unchanged.trans same⟩
    | inr moved =>
      refine ⟨actions ++ [(run.foldl (step o) (.create mediaFallbackRoomId forceMediaFallback)).decided o x], ?_⟩
      rw [List.foldl_append, List.foldl_cons, List.foldl_nil, ← same]
      exact moved

/-! ## Giving up -/

/-- If no socket that has opened since the loss is lost again, every attempt since the loss
    is started inside its window. -/
theorem reconnection_gives_up (o : ReconnectOptions) (mediaFallbackRoomId : String) (forceMediaFallback : Bool)
    (past rest : List (Int × ControllerAction)) (loss : Int) (earlier : ∀ x ∈ past, x.1 ≤ loss)
    (unassisted : ∀ x ∈ rest, x.2.Unassisted) :
    let before := past.foldl (step o) (.create mediaFallbackRoomId forceMediaFallback)
    let lost := before.step o (loss, .socketClose false false)
    (∀ v ∈ visited (step o) lost rest, ¬ v.1.OpensWindow v.2.2) →
      ∀ a ∈ (rest.foldl (step o) lost).attempts, a ∈ before.attempts ∨ a < loss + o.windowMs := by
  intro before lost kept
  have start : Anchored loss lost := (anchored_run o mediaFallbackRoomId forceMediaFallback earlier).step (.inl (le_refl loss))
  have same : lost.attempts = before.attempts := by
    simp only [lost, TimedController.step]
    split
    · rfl
    · exact attempts_onSignalingClosed
  have allowed : ∀ v ∈ visited (step o) lost rest, v.2.2.Unassisted ∧ ¬ v.1.OpensWindow v.2.2 := by
    intro v member
    obtain ⟨_, _, split, _⟩ := mem_visited.mp member
    exact ⟨unassisted v.2 (by simp [split]), kept v member⟩
  -- the window is anchored and no attempt is late: both are kept by every step
  have all := @foldl_invariant _ _ (step o)
    (fun c => Anchored loss c ∧ ∀ a ∈ c.attempts, a ∈ before.attempts ∨ a < loss + o.windowMs)
    (fun c x => x.2.Unassisted ∧ ¬ c.OpensWindow x.2)
    (fun c x inv fine => ⟨inv.1.step (.inr fine), fun a member =>
      (attempts_step inv.1 fine.1 a member).elim (inv.2 a) .inr⟩)
    lost rest ⟨start, fun a member => .inl (same ▸ member)⟩ allowed
  exact all.2

/-! ## The window that begins again -/

theorem scheduleReconnect_opens (running : c.room.phase ≠ .eventEnded) (closed : c.reconnectStartedAt = none)
    (positive : 0 < o.windowMs) : c.scheduleReconnect o now =
      { c with
        room := { c.room with reconnectTimer := true }
        reconnectAttempt := c.reconnectAttempt + 1
        reconnectStartedAt := some now
        reconnectDue := now + max 0 (nextReconnectDelayMs c.reconnectAttempt o.initialDelayMs o.maxDelayMs) } := by
  have inside : reconnectWindowExhausted now now o.windowMs = false := by
    simp [reconnectWindowExhausted, positive]
  rw [scheduleReconnect, if_neg running, closed, Option.getD_none]
  simp only [inside, Bool.false_eq_true, if_false]
  rfl

/-- A loss outside a window sets the timer for the shortest delay. -/
theorem onSignalingClosed_opens (running : c.room.phase ≠ .eventEnded) (closed : c.reconnectStartedAt = none)
    (positive : 0 < o.windowMs) : ∃ room, c.onSignalingClosed o now =
      { c with
        room
        reconnectAttempt := c.reconnectAttempt + 1
        reconnectStartedAt := some now
        reconnectDue := now + max 0 (nextReconnectDelayMs c.reconnectAttempt o.initialDelayMs o.maxDelayMs) } ∧
      room.reconnectTimer = true ∧ room.phase ≠ .eventEnded ∧ room.ws = .detached ∧
      room.reconnectGaveUp = c.room.reconnectGaveUp := by
  rw [onSignalingClosed, if_neg running]
  simp only []
  split
  · exact ⟨_, scheduleReconnect_opens running closed positive, rfl, running, rfl, rfl⟩
  · exact ⟨_, scheduleReconnect_opens (by simp [CallRoomController.stopTimer]) closed positive, rfl,
      by simp [CallRoomController.stopTimer], rfl, rfl⟩

theorem mem_attempts_connect (running : c.room.phase ≠ .eventEnded) (retries : c.room.reconnectGaveUp = false)
    (detached : c.room.ws = .detached) (inside : ∀ t ∈ c.reconnectStartedAt, now < t + o.windowMs) :
    now ∈ (c.connect o now).attempts := by
  obtain ⟨phase, ws, gaveUp⟩ := @CallRoomController.socket_ensureLocalMedia c.room
  have open_ : c.reconnectStartedAt.any (reconnectWindowExhausted · now o.windowMs) = false := by
    cases since : c.reconnectStartedAt with
    | none => rfl
    | some t =>
      have bound := inside t since
      simp only [Option.any_some, reconnectWindowExhausted, decide_eq_false_iff_not]
      omega
  unfold connect
  simp only [phase, ws, gaveUp, running, retries, detached, open_]
  simp only [decide_false, Bool.or_false, Bool.false_eq_true, if_false, reduceCtorEq]
  split
  · rw [attempts_scheduleReconnect]
    exact List.mem_append_right _ List.mem_cons_self
  · exact List.mem_append_right _ List.mem_cons_self

/-- A window that begins after the loss lets the timer try when that of the loss is over. -/
theorem late_attempt {action : ControllerAction} (opens : c.OpensWindow action)
    (retries : c.room.reconnectGaveUp = false) (later : loss < now)
    (inside : max 0 (nextReconnectDelayMs c.reconnectAttempt o.initialDelayMs o.maxDelayMs) < o.windowMs) :
    ∃ t, loss + o.windowMs ≤ t ∧ t ∈ ((c.step o (now, action)).step o (t, .reconnectTimer false)).attempts := by
  cases action with
  | socketClose replaced exhausted =>
    cases replaced with
    | true => cases opens
    | false =>
      obtain ⟨attached, running, closed⟩ := opens
      have positive : 0 < o.windowMs := lt_of_le_of_lt (le_max_left _ _) inside
      obtain ⟨room, lost, armed, running', detached, kept⟩ := @onSignalingClosed_opens o c now running closed positive
      -- the first moment at which the old window is over and the timer may fire
      let t := max (loss + o.windowMs)
        (now + max 0 (nextReconnectDelayMs c.reconnectAttempt o.initialDelayMs o.maxDelayMs))
      have due : ¬ t < now + max 0 (nextReconnectDelayMs c.reconnectAttempt o.initialDelayMs o.maxDelayMs) :=
        not_lt.mpr (le_max_right _ _)
      have early : t < now + o.windowMs := max_lt (by omega) (by omega)
      have open_ : reconnectWindowExhausted now t o.windowMs = false := by
        simp only [reconnectWindowExhausted, decide_eq_false_iff_not]
        omega
      refine ⟨t, le_max_left _ _, ?_⟩
      simp only [step, attached, if_false, Bool.false_eq_true, lost]
      simp only [onReconnectTimer, clearReconnect, armed, due, Bool.not_true, decide_false, Bool.or_false,
        Bool.false_eq_true, if_false, Option.getD_some, open_]
      refine mem_attempts_connect running' (kept.trans retries) detached fun started member => ?_
      cases member
      exact early
  | connect _ | disconnect | socketOpen | message _ | reconnectTimer _ | online | forceMediaFallback | failure _ _
  | quality _ _ | connection _ _ | escalation _ _ | grant _ | resume _ => cases opens

/-- The page connects and is greeted, and the first round starts. -/
def inFirstRound : List (Int × ControllerAction) :=
  [(0, .connect false), (100, .socketOpen), (110, .message .hello), (1000, .message .roundStart)]

/-- The first attempt fails, and the second hangs until the third. -/
theorem gives_up_without_answer :
    let before := inFirstRound.foldl (step .default) (.create "" false)
    let lost := before.step .default (2000, .socketClose false false)
    let rest : List (Int × ControllerAction) := [(2500, .reconnectTimer false), (2600, .socketClose false false),
      (4600, .reconnectTimer false), (8600, .reconnectTimer false), (60000, .reconnectTimer false)]
    ∀ a ∈ (rest.foldl (step .default) lost).attempts, a ∈ before.attempts ∨ a < 2000 + ReconnectOptions.default.windowMs :=
  reconnection_gives_up .default "" false inFirstRound
    [(2500, .reconnectTimer false), (2600, .socketClose false false), (4600, .reconnectTimer false),
      (8600, .reconnectTimer false), (60000, .reconnectTimer false)] 2000 (by decide) (by decide) (by decide +kernel)

/-- The second socket is accepted and closed again, and the window begins anew. -/
theorem retries_after_accepted :
    let before := inFirstRound.foldl (step .default) (.create "" false)
    let lost := before.step .default (2000, .socketClose false false)
    let rest : List (Int × ControllerAction) := [(2500, .reconnectTimer false), (2600, .socketOpen),
      (47000, .socketClose false false), (47500, .reconnectTimer false)]
    (∀ x ∈ rest, x.2.Unassisted) ∧
      ∃ a ∈ (rest.foldl (step .default) lost).attempts,
        a ∉ before.attempts ∧ 2000 + ReconnectOptions.default.windowMs ≤ a := by
  refine ⟨by decide, 47500, ?_, ?_, ?_⟩
  · decide +kernel
  · decide +kernel
  · decide

end TimedController

end EventPlatform.Browser
