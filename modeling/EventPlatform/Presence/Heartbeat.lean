import EventPlatform.Lib.Alarms

/-! # When a silent connection is closed

Every frame of a connection sets `last_activity`.  A task of the connection
looks at it every so often and closes the connection that has been silent for
too long.  The task wakes up a little late at times. -/

namespace EventPlatform.Presence

open EventPlatform.Lib

/-- `WEBSOCKET_HEARTBEAT_INTERVAL_SECONDS` and `WEBSOCKET_HEARTBEAT_TIMEOUT_SECONDS`. -/
structure HeartbeatSettings where
  interval : Int
  timeout : Int

inductive HeartbeatTask where
  | created
  | sleeping (wakeAt : Int)
  | finished
  | cancelled
deriving DecidableEq

/-- `closedAt` is the close of the task, with `CLOSE_NORMAL`. -/
structure Heartbeat where
  lastActivity : Int
  task : HeartbeatTask
  closedAt : Option Int
deriving DecidableEq

inductive HeartbeatEvent where
  | receive
  /-- The task goes on; a `close` that raises is logged. -/
  | run (fails : Bool)
  | disconnect
deriving DecidableEq

namespace Heartbeat

def connect (now : Int) : Heartbeat := ⟨now, .created, none⟩

/-- `_heartbeat_loop`, up to its next `sleep`. -/
def heartbeatLoop (cfg : HeartbeatSettings) (s : Heartbeat) (now : Int) (fails : Bool) : Heartbeat :=
  match s.task with
  | .created => { s with task := .sleeping (now + cfg.interval) }
  | .sleeping wakeAt =>
    if now < wakeAt then s
    else if now - s.lastActivity > cfg.timeout then
      { s with task := .finished, closedAt := if fails then s.closedAt else some now }
    else { s with task := .sleeping (now + cfg.interval) }
  | .finished | .cancelled => s

def cancel (s : Heartbeat) : Heartbeat :=
  if s.task = .finished then s else { s with task := .cancelled }

def step (cfg : HeartbeatSettings) (s : Heartbeat) (event : Int × HeartbeatEvent) : Heartbeat :=
  match event.2 with
  | .receive => { s with lastActivity := event.1 }
  | .run fails => s.heartbeatLoop cfg event.1 fails
  | .disconnect => s.cancel

/-! ## Only when it is silent -/

variable {cfg : HeartbeatSettings} {s : Heartbeat} {connectedAt now t : Int} {events past : List (Int × HeartbeatEvent)}

/-- The only step that closes the connection. -/
theorem step_closes {event : Int × HeartbeatEvent} (open_ : s.closedAt ≠ some t)
    (closed : (s.step cfg event).closedAt = some t) :
    event = (t, .run false) ∧ (∃ wakeAt, s.task = .sleeping wakeAt) ∧ s.lastActivity + cfg.timeout < t := by
  obtain ⟨now, event⟩ := event
  cases event with
  | receive => exact absurd closed open_
  | disconnect =>
    simp only [step, cancel] at closed
    split_ifs at closed <;> exact absurd closed open_
  | run fails =>
    simp only [step, heartbeatLoop] at closed
    cases task : s.task with
    | sleeping wakeAt =>
      simp only [task] at closed
      split_ifs at closed with early silent
      · exact absurd closed open_
      · exact absurd closed open_
      · cases fails with
        | true => contradiction
        | false =>
          cases closed
          exact ⟨rfl, ⟨wakeAt, rfl⟩, by omega⟩
      · exact absurd closed open_
    | created | finished | cancelled =>
      simp only [task] at closed
      exact absurd closed open_

/-- What the connection remembers of the events so far. -/
structure Remembers (connectedAt : Int) (past : List (Int × HeartbeatEvent)) (s : Heartbeat) : Prop where
  connected : connectedAt ≤ s.lastActivity
  latest : ∀ x ∈ past, x.2 = .receive → x.1 ≤ s.lastActivity
  /-- The last activity is one of the events, or the connect. -/
  happened : s.lastActivity = connectedAt ∨ ∃ x ∈ past, x.1 = s.lastActivity
  cancelled : ∀ x ∈ past, x.2 = .disconnect → s.task = .finished ∨ s.task = .cancelled

theorem lastActivity_run (fails : Bool) : (s.heartbeatLoop cfg now fails).lastActivity = s.lastActivity := by
  simp only [heartbeatLoop]
  split
  · rfl
  · split_ifs <;> rfl
  · rfl
  · rfl

theorem stopped_run (fails : Bool) (stopped : s.task = .finished ∨ s.task = .cancelled) :
    s.heartbeatLoop cfg now fails = s := by
  cases stopped with
  | inl finished => simp only [heartbeatLoop, finished]
  | inr cancelled => simp only [heartbeatLoop, cancelled]

/-- What does not set `last_activity` keeps the rest. -/
theorem Remembers.keep {s' : Heartbeat} {event : Int × HeartbeatEvent} (remembers : Remembers connectedAt past s)
    (same : s'.lastActivity = s.lastActivity) (silent : event.2 ≠ .receive)
    (cancelled : ∀ x ∈ past ++ [event], x.2 = .disconnect → s'.task = .finished ∨ s'.task = .cancelled) :
    Remembers connectedAt (past ++ [event]) s' := by
  refine ⟨?_, fun x member isReceive => ?_, ?_, cancelled⟩
  · rw [same]; exact remembers.connected
  · rw [same]
    cases List.mem_append.mp member with
    | inl old => exact remembers.latest x old isReceive
    | inr new => exact absurd (List.mem_singleton.mp new ▸ isReceive) silent
  · rw [same]
    exact remembers.happened.imp_right fun ⟨x, member, same⟩ => ⟨x, List.mem_append_left _ member, same⟩

theorem Remembers.step (remembers : Remembers connectedAt past s) {event : Int × HeartbeatEvent}
    (ordered : ∀ u ∈ connectedAt :: past.map (·.1), u ≤ event.1) :
    Remembers connectedAt (past ++ [event]) (s.step cfg event) := by
  obtain ⟨now, event⟩ := event
  cases event with
  | receive =>
    have later : s.lastActivity ≤ now := by
      cases remembers.happened with
      | inl connected => exact connected ▸ ordered connectedAt (by simp)
      | inr happened =>
        obtain ⟨x, member, same⟩ := happened
        exact same ▸ ordered x.1 (List.mem_cons_of_mem _ (List.mem_map_of_mem member))
    refine ⟨ordered connectedAt (by simp), ?_, .inr ⟨(now, .receive), by simp, rfl⟩, ?_⟩
    · intro x member isReceive
      cases List.mem_append.mp member with
      | inl old => exact le_trans (remembers.latest x old isReceive) later
      | inr new => exact le_of_eq (congrArg Prod.fst (List.mem_singleton.mp new))
    · intro x member isDisconnect
      cases List.mem_append.mp member with
      | inl old => exact remembers.cancelled x old isDisconnect
      | inr new => simp [List.mem_singleton.mp new] at isDisconnect
  | run fails =>
    refine remembers.keep (lastActivity_run fails) (by simp) fun x member isDisconnect => ?_
    cases List.mem_append.mp member with
    | inl old =>
      have stopped := remembers.cancelled x old isDisconnect
      have unchanged : s.step cfg (now, .run fails) = s := stopped_run fails stopped
      rw [unchanged]
      exact stopped
    | inr new => simp [List.mem_singleton.mp new] at isDisconnect
  | disconnect =>
    refine remembers.keep ?_ (by simp) fun _ _ _ => ?_
    · simp only [Heartbeat.step, cancel]
      split_ifs <;> rfl
    · simp only [Heartbeat.step, cancel]
      split_ifs with finished
      · exact .inl finished
      · exact .inr rfl

theorem remembers_run (ordered : (connectedAt :: events.map (·.1)).Pairwise (· ≤ ·)) :
    Remembers connectedAt events (events.foldl (step cfg) (connect connectedAt)) := by
  have start : Remembers connectedAt [] (connect connectedAt) := ⟨le_refl _, by simp, .inl rfl, by simp⟩
  refine @foldl_history _ _ (step cfg) (Remembers connectedAt) events _ start fun past event rest split s remembers => ?_
  refine remembers.step fun u member => ?_
  rw [split, List.map_append, List.map_cons, ← List.cons_append] at ordered
  exact (List.pairwise_append.mp ordered).2.2 u member event.1 List.mem_cons_self

/-- The task closes a connection only when nothing was received for longer than the timeout and the
    connection has not gone by itself. -/
theorem closed_only_when_silent (cfg : HeartbeatSettings) (connectedAt : Int) (events : List (Int × HeartbeatEvent))
    (ordered : (connectedAt :: events.map (·.1)).Pairwise (· ≤ ·))
    (closed : (events.foldl (step cfg) (connect connectedAt)).closedAt = some t) :
    ∃ past rest, events = past ++ (t, .run false) :: rest ∧ connectedAt + cfg.timeout < t ∧
      ∀ x ∈ past, x.2 ≠ .disconnect ∧ (x.2 = .receive → x.1 + cfg.timeout < t) := by
  have open_ : (connect connectedAt).closedAt ≠ some t := by simp [connect]
  obtain ⟨past, event, rest, split, before, after⟩ :=
    @exists_turn_input _ _ (step cfg) (fun s => s.closedAt = some t) _ events open_ closed
  obtain ⟨rfl, ⟨wakeAt, asleep⟩, silent⟩ := step_closes before after
  rw [split, List.map_append, ← List.cons_append] at ordered
  have remembers := @remembers_run cfg connectedAt past (List.pairwise_append.mp ordered).1
  refine ⟨past, rest, split, lt_of_le_of_lt (by linarith [remembers.connected]) silent, fun x member => ⟨?_, ?_⟩⟩
  · intro isDisconnect
    rcases remembers.cancelled x member isDisconnect with finished | cancelled
    · rw [asleep] at finished
      cases finished
    · rw [asleep] at cancelled
      cases cancelled
  · intro isReceive
    have latest := remembers.latest x member isReceive
    omega

theorem closed_only_when_silent_afterHello :
    ∃ past rest, [((0 : Int), HeartbeatEvent.run false), (5, .receive), (30, .run false), (60, .run false), (90, .run false),
        (120, .run false)] = past ++ (120, .run false) :: rest ∧ (0 : Int) + 90 < 120 ∧
      ∀ x ∈ past, x.2 ≠ .disconnect ∧ (x.2 = .receive → x.1 + 90 < 120) :=
  closed_only_when_silent ⟨30, 90⟩ 0 _ (by decide) (by decide)

/-! ## Always when it is silent -/

/-- No event finds the task asleep for more than `late` after it was to wake up. -/
def Punctual (late connectedAt : Int) (s : Heartbeat) (now : Int) : Prop :=
  (s.task = .created → now ≤ connectedAt + late) ∧ ∀ wakeAt, s.task = .sleeping wakeAt → now ≤ wakeAt + late

/-- Nothing is received after `last`, and the connection stays. -/
def Quiet (last : Int) (event : Int × HeartbeatEvent) : Prop :=
  event.2 ≠ .disconnect ∧ event.2 ≠ .run true ∧ (event.2 = .receive → event.1 ≤ last)

/-- The task is to wake up in time, or it has closed the connection in time. -/
def Due (cfg : HeartbeatSettings) (last late : Int) (s : Heartbeat) : Prop :=
  match s.task with
  | .created => True
  | .sleeping wakeAt => wakeAt ≤ last + cfg.timeout + cfg.interval
  | .finished => ∃ t ≤ last + cfg.timeout + cfg.interval + late, s.closedAt = some t
  | .cancelled => False

theorem Due.step {last late : Int} {event : Int × HeartbeatEvent} (due : s.Due cfg last late)
    (silent : s.lastActivity ≤ last) (connected : connectedAt ≤ last) (brief : late ≤ cfg.timeout)
    (punctual : Punctual late connectedAt s event.1) (quiet : Quiet last event) :
    (s.step cfg event).Due cfg last late ∧ (s.step cfg event).lastActivity ≤ last := by
  obtain ⟨now, event⟩ := event
  obtain ⟨stays, runs, earlier⟩ := quiet
  cases event with
  | receive => exact ⟨due, earlier rfl⟩
  | disconnect => exact absurd rfl stays
  | run fails =>
    obtain rfl : fails = false := by simpa using runs
    refine ⟨?_, (@lastActivity_run cfg s now false).symm ▸ silent⟩
    simp only [Heartbeat.step, heartbeatLoop]
    cases task : s.task with
    | created =>
      have first : now ≤ connectedAt + late := punctual.1 task
      simp only [Due]
      omega
    | sleeping wakeAt =>
      have woken : now ≤ wakeAt + late := punctual.2 wakeAt task
      have soon : wakeAt ≤ last + cfg.timeout + cfg.interval := by simpa only [Due, task] using due
      simp only [Bool.false_eq_true, if_false]
      split_ifs with early idle
      · exact due
      · exact ⟨now, by omega, rfl⟩
      · simp only [Due]
        omega
    | finished | cancelled => exact due

end Heartbeat

end EventPlatform.Presence
