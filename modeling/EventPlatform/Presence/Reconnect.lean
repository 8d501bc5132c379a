import EventPlatform.Lib.Runs
import EventPlatform.Orchestrator.Dispatch
import EventPlatform.Presence.Sockets

/-! # The reconnect window

A handshake replays the current pairing when it finds the hello-seen key of its
participant in the cache.  The key is written by handshakes only and lives for
the reconnect window from then on, so the window runs from the last hello of the
participant and not from the loss of the connection. -/

namespace EventPlatform.Presence

open EventPlatform.Lib EventPlatform.Scheduling EventPlatform.Protocol EventPlatform.Orchestrator

/-! ## Handshakes, closes and ticks of one participant -/

/-- Where the consumer of a socket stands: before `client.hello`, or before one of the
    operations of `_maybe_send_reconnect_snapshot`. -/
inductive HelloPc where
  | waiting
  | seenGet
  | seenSet (seen : Bool)
  | snapshot
  | handled
deriving DecidableEq

/-- A handshake that came to its end, and whether the participant was back in time. -/
structure Completion where
  completedAt : Int
  returning : Bool

/-- `age` and `completed` are not kept by the code: how old the key was when the
    handshake read it, and how the handshake ended. -/
structure ReturnSocket where
  pc : HelloPc
  connected : Bool
  received : List Envelope
  age : Option Int
  completed : Option Completion

/-- `lastHello` and `lastClosed` record when a handshake wrote the key last, and when
    the last handshake-complete socket was lost. -/
structure ReconnectState where
  clock : Int
  helloSeen : Option (CacheEntry Unit)
  rt : Realtime
  sockets : List ReturnSocket
  lastHello : Option Int
  lastClosed : Option Int

def ReconnectState.start (clock : Int) : ReconnectState := ⟨clock, none, .fresh, [], none, none⟩

inductive ReconnectAction where
  | pass (now : Int)
  | connect
  | hello (socket : Nat)
  /-- The handshake goes on; its operation may fail. -/
  | socket (socket : Nat) (fails : Bool)
  | drop (socket : Nat)
  | tick (o : OrchestratorRealtime) (layer : ChannelLayer)

/-- The rows of the event, the participant's primary key, and
    `PROTOCOL_RECONNECT_WINDOW_SECONDS` in microseconds. -/
structure Reconnects where
  store : EventStore
  pid : String
  window : Int

namespace ReconnectState

variable (cfg : Reconnects) (s : ReconnectState)

/-- A handshake-complete socket was lost less than the window ago. -/
def returning : Bool := s.lastClosed.any fun closedAt => s.clock - closedAt < cfg.window

def put (i : Nat) (socket : ReturnSocket) : ReconnectState :=
  { s with sockets := s.sockets.set i socket }

/-- The handshake ends, with these messages as its last; on a lost connection it does
    not count as completed. -/
def complete (i : Nat) (socket : ReturnSocket) (messages : List Envelope) : ReconnectState :=
  s.put i { socket with
    pc := .handled
    received := socket.received ++ messages
    completed := if socket.connected then some ⟨s.clock, s.returning cfg⟩ else none }

/-- `_maybe_send_reconnect_snapshot`, one operation at a time. -/
def socketStep (i : Nat) (socket : ReturnSocket) (fails : Bool) : ReconnectState :=
  match socket.pc with
  | .seenGet =>
    if fails then s.complete cfg i socket []
    else s.put i { socket with
      pc := .seenSet (cacheGet s.clock s.helloSeen).isSome
      age := s.lastHello.map (s.clock - ·) }
  | .seenSet seen =>
    if fails then s.complete cfg i socket []
    else
      let written := { s with
        helloSeen := some ⟨(), s.clock + cfg.window⟩
        lastHello := some s.clock }
      if seen then written.put i { socket with pc := .snapshot }
      else written.complete cfg i socket []
  | .snapshot =>
    match reconnectSnapshotMessages cfg.store cfg.pid s.clock with
    | .ok messages => s.complete cfg i socket (if fails then [] else messages)
    | .error _ => s.complete cfg i socket []
  | .waiting | .handled => s

/-- A published message reaches the sockets that have joined its group. -/
def deliver (added : List Publication) (socket : ReturnSocket) : ReturnSocket :=
  if socket.connected ∧ socket.pc ≠ .waiting then
    { socket with received := socket.received ++ (added.filter fun p =>
        p.group = participantChannelGroup cfg.pid ∨
          p.group = eventChannelGroup cfg.store.event.pk).map (·.message) }
  else socket

def tick (o : OrchestratorRealtime) (layer : ChannelLayer) : ReconnectState :=
  let rt := (o.dispatch layer cfg.store s.clock s.rt).2
  { s with
    rt
    sockets := s.sockets.map (deliver cfg (rt.published.drop s.rt.published.length)) }

def step : ReconnectAction → ReconnectState
  | .pass now => { s with clock := max s.clock now }
  | .connect => { s with sockets := s.sockets ++ [⟨.waiting, true, [], none, none⟩] }
  | .hello i =>
    match s.sockets[i]? with
    | some socket => if socket.pc = .waiting then s.put i { socket with pc := .seenGet } else s
    | none => s
  | .socket i fails =>
    match s.sockets[i]? with
    | some socket => s.socketStep cfg i socket fails
    | none => s
  | .drop i =>
    match s.sockets[i]? with
    | some socket =>
      if socket.connected then
        { s.put i { socket with connected := false } with
          lastClosed := if socket.pc = .waiting then s.lastClosed else some s.clock }
      else s
    | none => s
  | .tick o layer => s.tick cfg o layer

end ReconnectState

/-! ## What a returning participant is owed -/

/-- The participant has a pair in the round. -/
def Paired (store : EventStore) (pid : String) (r : Round) : Prop :=
  ∃ pair ∈ store.pairs, pair.roundNumber = r.number ∧
    (pair.participantA.pk = pid ∨ pair.participantB.pk = pid)

/-- A message of the type for the round is among them. -/
def Carries (messages : List Envelope) (type : MessageType) (r : Round) : Prop :=
  ∃ message ∈ messages, message.type = type ∧ message.roundNumber = some (r.number : Int)

/-- The messages restore the round that runs, or is about to begin, at `t`. -/
def Restores (cfg : Reconnects) (t : Int) (messages : List Envelope) : Prop :=
  ∀ r, Paired cfg.store cfg.pid r →
    (Finds cfg.store.rounds .preconnect r t ∨ Finds cfg.store.rounds .inRound r t →
      Carries messages .serverPairing r) ∧
    (Finds cfg.store.rounds .inRound r t → Carries messages .serverRoundStart r)

/-- Every handshake that a returning participant has completed restored the round. -/
def Replayed (cfg : Reconnects) (s : ReconnectState) : Prop :=
  ∀ socket ∈ s.sockets, ∀ completion ∈ socket.completed, completion.returning = true →
    Restores cfg completion.completedAt socket.received

/-- The handshake has read the key less than the window after it was written. -/
def ReturnSocket.InWindow (cfg : Reconnects) (socket : ReturnSocket) : Prop :=
  ∃ age ∈ socket.age, age < cfg.window

instance (cfg : Reconnects) (socket : ReturnSocket) : Decidable (socket.InWindow cfg) :=
  inferInstanceAs (Decidable (∃ age ∈ socket.age, age < cfg.window))

/-- What the next operation of a returning participant's handshake needs. -/
def InTime (cfg : Reconnects) (s : ReconnectState) (socket : ReturnSocket) : HelloPc → Prop
  | .seenSet _ => socket.InWindow cfg
  | .snapshot => (reconnectSnapshotMessages cfg.store cfg.pid s.clock).isOk = true
  | _ => True

instance (cfg : Reconnects) (s : ReconnectState) (socket : ReturnSocket) :
    (pc : HelloPc) → Decidable (InTime cfg s socket pc)
  | .waiting => isTrue trivial
  | .seenGet => isTrue trivial
  | .seenSet _ => inferInstanceAs (Decidable (socket.InWindow cfg))
  | .snapshot => inferInstanceAs (Decidable (Except.isOk _ = true))
  | .handled => isTrue trivial

/-- No operation of a returning participant's handshake fails, and the handshake before
    it was not longer ago than the window. -/
def Prompt (cfg : Reconnects) (s : ReconnectState) : ReconnectAction → Prop
  | .socket i fails => ∀ socket ∈ s.sockets[i]?, socket.connected = true →
    s.returning cfg = true → fails = false ∧ InTime cfg s socket socket.pc
  | _ => True

instance (cfg : Reconnects) (s : ReconnectState) : (action : ReconnectAction) →
    Decidable (Prompt cfg s action)
  | .pass _ => isTrue trivial
  | .connect => isTrue trivial
  | .hello _ => isTrue trivial
  | .socket i _ => inferInstanceAs (Decidable (∀ socket ∈ s.sockets[i]?, _))
  | .drop _ => isTrue trivial
  | .tick _ _ => isTrue trivial

/-! ## The snapshot -/

variable {cfg : Reconnects} {t : Int} {r : Round} {messages : List Envelope}

theorem recipient_of_paired {store : EventStore} {pid : String} (paired : Paired store pid r) :
    ∃ recipient rest,
      (selectPairingRecipients store r).filter (·.participantId = pid) = recipient :: rest := by
  obtain ⟨pair, inPairs, number, member⟩ := paired
  have some_ : ∃ recipient ∈ pairRecipients pair, recipient.participantId = pid := by
    cases member with
    | inl a => exact ⟨_, List.mem_cons_self, a⟩
    | inr b => exact ⟨_, List.mem_cons_of_mem _ List.mem_cons_self, b⟩
  obtain ⟨recipient, ends, same⟩ := some_
  have selected : recipient ∈ (selectPairingRecipients store r).filter (·.participantId = pid) := by
    refine List.mem_filter.mpr ⟨List.mem_flatMap.mpr ⟨pair, ?_, ends⟩, by simpa using same⟩
    exact List.mem_filter.mpr ⟨inPairs, by simpa using number⟩
  exact List.exists_cons_of_ne_nil (List.ne_nil_of_mem selected)

theorem snapshot_restores
    (ok : reconnectSnapshotMessages cfg.store cfg.pid t = .ok messages) : Restores cfg t messages := by
  intro r paired
  obtain ⟨recipient, rest, found⟩ := recipient_of_paired paired
  have selected : recipient ∈ selectPairingRecipients cfg.store r :=
    List.mem_of_mem_filter (found ▸ List.mem_cons_self)
  -- the two messages are those that the tick sends, so they name the same round
  have isPairing : ∀ message, pairingMessage recipient r = .ok message →
      message.type = .serverPairing ∧ message.roundNumber = some (r.number : Int) := by
    intro message built
    refine @jobs_message (.pairing r) cfg.store t ⟨recipient.group, message⟩ ?_
    exact List.mem_map.mpr ⟨recipient, selected, by rw [built]⟩
  have isStart : ∀ message, buildServerRoundStart r.number recipient.roomId (datetimeToUnixMs t) =
      .ok message → message.type = .serverRoundStart ∧ message.roundNumber = some (r.number : Int) := by
    intro message built
    refine @jobs_message (.roundStart r) cfg.store t ⟨recipient.group, message⟩ ?_
    exact List.mem_map.mpr ⟨recipient, selected, by rw [built]⟩
  have inRound : Finds cfg.store.rounds .inRound r t →
      Carries messages .serverPairing r ∧ Carries messages .serverRoundStart r := by
    intro finds
    rw [snapshot_inRound finds found] at ok
    cases first : pairingMessage recipient r with
    | error e => rw [first] at ok; cases ok
    | ok pairing =>
      cases second : buildServerRoundStart r.number recipient.roomId (datetimeToUnixMs t) with
      | error e => rw [first, second] at ok; cases ok
      | ok start =>
        rw [first, second] at ok
        cases ok
        exact ⟨⟨pairing, by simp, isPairing pairing first⟩, ⟨start, by simp, isStart start second⟩⟩
  refine ⟨fun active => ?_, fun finds => (inRound finds).2⟩
  cases active with
  | inl finds =>
    rw [snapshot_preconnect finds found] at ok
    cases first : pairingMessage recipient r with
    | error e => rw [first] at ok; cases ok
    | ok pairing =>
      rw [first] at ok
      cases ok
      exact ⟨pairing, by simp, isPairing pairing first⟩
  | inr finds => exact (inRound finds).1

theorem Restores.mono {more : List Envelope} (restores : Restores cfg t messages)
    (kept : ∀ message ∈ messages, message ∈ more) : Restores cfg t more := by
  have carries : ∀ {type r}, Carries messages type r → Carries more type r := by
    rintro type r ⟨message, member, fits⟩
    exact ⟨message, kept message member, fits⟩
  intro r paired
  obtain ⟨pairing, start⟩ := restores r paired
  exact ⟨fun active => carries (pairing active), fun finds => carries (start finds)⟩

/-! ## What a step keeps -/

variable {s : ReconnectState} {i : Nat} {socket : ReturnSocket}

/-- The handshake of the socket has been honest about the window, and kept its promise. -/
structure ReturnSocket.Faithful (cfg : Reconnects) (socket : ReturnSocket) : Prop where
  seen : ∀ seen, socket.pc = .seenSet seen → (seen = true ↔ socket.InWindow cfg)
  restored : ∀ completion ∈ socket.completed, completion.returning = true →
    Restores cfg completion.completedAt socket.received

structure Tracks (cfg : Reconnects) (s : ReconnectState) : Prop where
  cache : s.helloSeen = s.lastHello.map fun helloAt => ⟨(), helloAt + cfg.window⟩
  sockets : ∀ socket ∈ s.sockets, socket.Faithful cfg

theorem Tracks.put (tracks : Tracks cfg s) (faithful : socket.Faithful cfg) :
    Tracks cfg (s.put i socket) :=
  ⟨tracks.cache, forall_mem_set tracks.sockets faithful⟩

/-- A handshake may end when the participant is not returning, or with a snapshot. -/
theorem Tracks.complete (tracks : Tracks cfg s)
    (restored : socket.connected = true → s.returning cfg = true → Restores cfg s.clock messages) :
    Tracks cfg (s.complete cfg i socket messages) := by
  refine tracks.put ⟨fun seen same => (by cases same), fun completion member returning => ?_⟩
  simp only at member
  split at member
  next connected =>
    cases member
    exact (restored connected returning).mono fun message inSnapshot =>
      List.mem_append_right _ inSnapshot
  next => cases member

theorem cacheGet_window (cache : s.helloSeen = s.lastHello.map fun helloAt => ⟨(), helloAt + cfg.window⟩) :
    (cacheGet s.clock s.helloSeen).isSome = true ↔
      ∃ age ∈ s.lastHello.map (s.clock - ·), age < cfg.window := by
  rw [cache]
  cases s.lastHello with
  | none => simp [cacheGet]
  | some helloAt =>
    simp only [Option.map_some, cacheGet, Option.mem_def, Option.some.injEq, exists_eq_left']
    split
    · simp; omega
    · simp; omega

theorem Tracks.socketStep (tracks : Tracks cfg s) (faithful : socket.Faithful cfg) {fails : Bool}
    (prompt : socket.connected = true → s.returning cfg = true →
      fails = false ∧ InTime cfg s socket socket.pc) :
    Tracks cfg (s.socketStep cfg i socket fails) := by
  cases here : socket.pc with
  | waiting => simpa only [ReconnectState.socketStep, here] using tracks
  | handled => simpa only [ReconnectState.socketStep, here] using tracks
  | seenGet =>
    simp only [ReconnectState.socketStep, here]
    split
    next failed =>
      refine tracks.complete fun connected returning => ?_
      have := (prompt connected returning).1
      simp [failed] at this
    next =>
      refine tracks.put ⟨fun seen same => ?_, faithful.restored⟩
      cases same
      exact cacheGet_window tracks.cache
  | seenSet seen =>
    simp only [ReconnectState.socketStep, here]
    split
    next failed =>
      refine tracks.complete fun connected returning => ?_
      have := (prompt connected returning).1
      simp [failed] at this
    next =>
      have written : Tracks cfg { s with
          helloSeen := some ⟨(), s.clock + cfg.window⟩
          lastHello := some s.clock } := ⟨rfl, tracks.sockets⟩
      split
      next => exact written.put ⟨fun seen same => (by cases same), faithful.restored⟩
      next unseen =>
        -- an unset key was written longer ago than the window, if ever
        refine written.complete fun connected returning => ?_
        have late := (prompt connected returning).2
        rw [here] at late
        exact absurd ((faithful.seen seen here).mpr late) unseen
  | snapshot =>
    simp only [ReconnectState.socketStep, here]
    cases result : reconnectSnapshotMessages cfg.store cfg.pid s.clock with
    | error e =>
      refine tracks.complete fun connected returning => ?_
      have built := (prompt connected returning).2
      rw [here] at built
      simp [InTime, result, Except.isOk, Except.toBool] at built
    | ok messages =>
      refine tracks.complete fun connected returning => ?_
      rw [(prompt connected returning).1]
      exact snapshot_restores result

theorem faithful_deliver (faithful : socket.Faithful cfg) (added : List Publication) :
    (ReconnectState.deliver cfg added socket).Faithful cfg := by
  simp only [ReconnectState.deliver]
  split
  · exact ⟨faithful.seen, fun completion member returning =>
      (faithful.restored completion member returning).mono fun message inReceived =>
        List.mem_append_left _ inReceived⟩
  · exact faithful

theorem Tracks.step (tracks : Tracks cfg s) {action : ReconnectAction}
    (prompt : Prompt cfg s action) : Tracks cfg (s.step cfg action) := by
  cases action with
  | pass now => exact ⟨tracks.cache, tracks.sockets⟩
  | connect =>
    refine ⟨tracks.cache, fun socket member => ?_⟩
    cases List.mem_append.mp member with
    | inl old => exact tracks.sockets socket old
    | inr new =>
      rw [List.mem_singleton.mp new]
      -- a new socket has seen no round and has nothing restored yet
      exact ⟨fun seen same => (by cases same), fun completion member => (by cases member)⟩
  | hello i =>
    cases at_ : s.sockets[i]? with
    | none => simpa only [ReconnectState.step, at_] using tracks
    | some socket =>
      have faithful := tracks.sockets socket (List.mem_of_getElem? at_)
      simp only [ReconnectState.step, at_]
      split
      · exact tracks.put ⟨fun seen same => (by cases same), faithful.restored⟩
      · exact tracks
  | socket i fails =>
    cases at_ : s.sockets[i]? with
    | none => simpa only [ReconnectState.step, at_] using tracks
    | some socket =>
      simp only [ReconnectState.step, at_]
      exact tracks.socketStep (tracks.sockets socket (List.mem_of_getElem? at_))
        (prompt socket at_)
  | drop i =>
    cases at_ : s.sockets[i]? with
    | none => simpa only [ReconnectState.step, at_] using tracks
    | some socket =>
      have faithful := tracks.sockets socket (List.mem_of_getElem? at_)
      simp only [ReconnectState.step, at_]
      split
      -- what has been sent to the socket stays as it was
      · have lost : Tracks cfg (s.put i { socket with connected := false }) :=
          tracks.put ⟨faithful.seen, faithful.restored⟩
        exact ⟨lost.cache, lost.sockets⟩
      · exact tracks
  | tick o layer =>
    refine ⟨tracks.cache, fun socket member => ?_⟩
    obtain ⟨old, inSockets, rfl⟩ := List.mem_map.mp member
    exact faithful_deliver (tracks.sockets old inSockets) _

/-! ## Whole runs -/

/-- As long as returning participants say hello in time, they get their round back. -/
theorem reconnect_replays (cfg : Reconnects) (clock : Int) (actions : List ReconnectAction)
    (prompt : ∀ v ∈ visited (ReconnectState.step cfg) (.start clock) actions, Prompt cfg v.1 v.2) :
    Replayed cfg (actions.foldl (ReconnectState.step cfg) (.start clock)) := by
  have start : Tracks cfg (.start clock) := ⟨rfl, fun socket member => by cases member⟩
  have preserved : ∀ s action, Tracks cfg s → Prompt cfg s action → Tracks cfg (s.step cfg action) :=
    fun _ _ tracks prompt => tracks.step prompt
  have tracks := foldl_invariant preserved start prompt
  exact fun socket member => (tracks.sockets socket member).restored

/-! ## A short connection and a long one -/

def lea : Participant := ⟨"55555555-5555-4555-8555-555555555555", "Lea", []⟩

def tom : Participant := ⟨"66666666-6666-4666-8666-666666666666", "Tom", []⟩

/-- One round of ten minutes; Lea's handshakes and the default window. -/
def leaReturns : Reconnects :=
  ⟨⟨{ twoRoundEvent with numRounds := 1, roundsPositive := le_rfl },
      [⟨1, twoRoundEvent.startTime, twoRoundEvent.startTime + seconds 600⟩],
      [⟨1, lea, tom, "room"⟩]⟩, lea.pk, seconds 300⟩

/-- The first socket says hello as the round begins, sees its messages, and is lost
    after `connectedFor` seconds.  The second one says hello a second later. -/
def lossAfter (connectedFor : Int) : List ReconnectAction :=
  [.connect, .hello 0, .socket 0 false, .socket 0 false, .tick ⟨true, 30⟩ reliable,
    .pass (twoRoundEvent.startTime + seconds connectedFor), .drop 0,
    .pass (twoRoundEvent.startTime + seconds (connectedFor + 1)),
    .connect, .hello 1, .socket 1 false, .socket 1 false, .socket 1 false]

theorem short_connection_replayed :
    Replayed leaReturns ((lossAfter 60).foldl (ReconnectState.step leaReturns)
      (.start twoRoundEvent.startTime)) :=
  reconnect_replays leaReturns twoRoundEvent.startTime (lossAfter 60) (by decide +kernel)

theorem long_connection_not_replayed :
    ¬ Replayed leaReturns ((lossAfter 301).foldl (ReconnectState.step leaReturns)
      (.start twoRoundEvent.startTime)) := by
  intro replayed
  have second : ∃ socket ∈ ((lossAfter 301).foldl (ReconnectState.step leaReturns)
        (.start twoRoundEvent.startTime)).sockets[1]?,
      socket.received.length = 0 ∧ ∃ completion ∈ socket.completed, completion.returning = true ∧
        completion.completedAt = twoRoundEvent.startTime + seconds 302 := by
    decide +kernel
  obtain ⟨socket, at_, nothing, completion, completed, returning, now⟩ := second
  have restores := replayed socket (List.mem_of_getElem? at_) completion completed returning
  rw [now, List.length_eq_zero_iff.mp nothing] at restores
  -- the round still runs, and its pairing is missing
  obtain ⟨pairing, _⟩ := restores ⟨1, twoRoundEvent.startTime, twoRoundEvent.startTime + seconds 600⟩
    ⟨⟨1, lea, tom, "room"⟩, List.mem_singleton_self _, rfl, .inl rfl⟩
  obtain ⟨message, member, _⟩ := pairing (.inr (by decide +kernel))
  cases member

end EventPlatform.Presence
