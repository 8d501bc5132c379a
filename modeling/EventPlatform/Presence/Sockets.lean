import Mathlib

/-! # Connections and absence watches of one participant

Each socket of the participant is served by one consumer, which handles its
messages one after another; the consumers run on any number of processes and
interleave at their awaits.  They share two cache keys: the connection claim
and the absence generation.  The task table of the absence watches is local to
a process.  A step is one cache operation, one piece of code between two
awaits, or the passing of time; times are in nanoseconds. -/

namespace EventPlatform.Presence

structure Settings where
  partnerAbsenceGrace : Int
  participantSessionAge : Int
  protocolReconnectWindow : Int

/-! ## The cache -/

structure CacheEntry (α : Type) where
  value : α
  expiresAt : Int

def cacheGet {α : Type} (now : Int) : Option (CacheEntry α) → Option α
  | some entry => if now < entry.expiresAt then some entry.value else none
  | none => none

/-! ## Sockets and watches -/

/-- What the consumer of a socket does next.  `closeGet` to `startWatch` are
    `_on_live_socket_closed` with `_begin_absence_watch`. -/
inductive SocketPc where
  | idle
  | claimGet
  | claimSet (previous : Option Nat)
  | claimReplace (previous : Option Nat)
  | clearDelete
  | clearTask
  | closeGet
  | closeDelete
  | pairLookup
  | storeGeneration (generation : Int)
  | startWatch (generation : Int)
  | stopped
deriving DecidableEq

/-- A socket is named by its position, which stands for `channel_name`.
    `handshakeAt` is when `handshake_complete` was set; `clearedAt`, which the
    code does not keep, is when its handshake deleted the absence key. -/
structure Socket where
  process : Nat
  pc : SocketPc
  connected : Bool
  handshakeAt : Option Int
  clearedAt : Option Int
  replaceSent : Bool
  sessionReplaced : Bool
deriving DecidableEq

inductive WatchPc where
  | created
  | sleeping (wakeAt : Int)
  | notifying (readAt : Int)
  | finished
deriving DecidableEq

/-- A task running `_watch_partner_absence`. -/
structure Watch where
  generation : Int
  cancelled : Bool
  pc : WatchPc
deriving DecidableEq

/-- `notices` are the times at which the partner was sent `disconnected`. -/
structure PresenceState where
  clock : Int
  claim : Option (CacheEntry Nat)
  absence : Option (CacheEntry Int)
  sockets : List Socket
  watches : List Watch
  absenceWatches : Nat → Option Nat
  notices : List Int

inductive PresenceAction where
  | pass (now : Int)
  | connect (process : Nat)
  /-- `client.hello` is handled. -/
  | hello (socket : Nat)
  /-- The connection is gone. -/
  | drop (socket : Nat)
  /-- `websocket.disconnect` is handled. -/
  | disconnect (socket : Nat)
  /-- `session.replaced` is handled. -/
  | replaced (socket : Nat)
  /-- The handler goes on; its operation may fail, a pair may be found or not. -/
  | socket (socket : Nat) (fails paired : Bool)
  | watch (watch : Nat) (fails paired : Bool)

/-! ## Handlers -/

namespace PresenceState

def updateSocket (s : PresenceState) (i : Nat) (f : Socket → Socket) : PresenceState :=
  { s with sockets := s.sockets.modify i f }

def goto (s : PresenceState) (i : Nat) (pc : SocketPc) : PresenceState :=
  s.updateSocket i fun socket => { socket with pc }

def updateWatch (s : PresenceState) (i : Nat) (f : Watch → Watch) : PresenceState :=
  { s with watches := s.watches.modify i f }

/-- `_absence_watches.pop(pid, None)`, and cancel the task unless it is done. -/
def popWatch (s : PresenceState) (process : Nat) : PresenceState :=
  match s.absenceWatches process with
  | none => s
  | some i =>
    { s.updateWatch i (fun watch => { watch with cancelled := true }) with
      absenceWatches := Function.update s.absenceWatches process none }

/-- `_watch_partner_absence` is started on a process. -/
def createWatch (s : PresenceState) (process : Nat) (generation : Int) : PresenceState :=
  { s with
    watches := s.watches ++ [⟨generation, false, .created⟩]
    absenceWatches := Function.update s.absenceWatches process (some s.watches.length) }

/-- `session.replaced` is sent to the previous owner of the claim. -/
def replacePrevious (s : PresenceState) (i : Nat) : Option Nat → PresenceState
  | none => s
  | some previous =>
    if previous = i then s
    else s.updateSocket previous fun socket => { socket with replaceSent := true }

/-- One step of a handler.  A failed operation is logged and its handler goes on,
    except where it returns. -/
def socketStep (cfg : Settings) (s : PresenceState) (i : Nat) (socket : Socket) (fails paired : Bool) :
    PresenceState :=
  match socket.pc with
  | .claimGet =>
    if fails then s.goto i .clearDelete else s.goto i (.claimSet (cacheGet s.clock s.claim))
  | .claimSet previous =>
    if fails then s.goto i .clearDelete
    else { s with claim := some ⟨i, s.clock + cfg.participantSessionAge⟩ }.goto i
      (.claimReplace previous)
  | .claimReplace previous =>
    (if fails then s else s.replacePrevious i previous).goto i .clearDelete
  | .clearDelete =>
    if fails then s.goto i .clearTask
    else { s with absence := none }.updateSocket i fun socket =>
      { socket with clearedAt := some s.clock, pc := .clearTask }
  | .clearTask => (s.popWatch socket.process).goto i .idle
  | .closeGet =>
    if fails then s.goto i .stopped
    else if cacheGet s.clock s.claim = some i then s.goto i .closeDelete
    else s.goto i .stopped
  | .closeDelete => (if fails then s else { s with claim := none }).goto i .pairLookup
  | .pairLookup =>
    if fails ∨ ¬ paired then s.goto i .stopped else s.goto i (.storeGeneration s.clock)
  | .storeGeneration generation =>
    if fails then s.goto i .stopped
    else { s with absence := some ⟨generation, s.clock + cfg.protocolReconnectWindow⟩ }.goto i
      (.startWatch generation)
  | .startWatch generation =>
    ((s.popWatch socket.process).createWatch socket.process generation).goto i .stopped
  | .idle | .stopped => s

/-- One step of a watch; a cancelled task does not go on. -/
def watchStep (cfg : Settings) (s : PresenceState) (i : Nat) (watch : Watch) (fails paired : Bool) :
    PresenceState :=
  if watch.cancelled then s
  else
    match watch.pc with
    | .created =>
      s.updateWatch i fun watch =>
        { watch with pc := .sleeping (s.clock + max cfg.partnerAbsenceGrace 0) }
    | .sleeping wakeAt =>
      if s.clock < wakeAt then s
      else if ¬ fails ∧ cacheGet s.clock s.absence = some watch.generation then
        s.updateWatch i fun watch => { watch with pc := .notifying s.clock }
      else s.updateWatch i fun watch => { watch with pc := .finished }
    | .notifying _ =>
      { s.updateWatch i (fun watch => { watch with pc := .finished }) with
        notices := if ¬ fails ∧ paired then s.notices ++ [s.clock] else s.notices }
    | .finished => s

/-- A consumer takes up the next message only when the last one is handled. -/
def step (cfg : Settings) (s : PresenceState) : PresenceAction → PresenceState
  | .pass now => { s with clock := max s.clock now }
  | .connect process =>
    { s with sockets := s.sockets ++ [⟨process, .idle, true, none, none, false, false⟩] }
  | .hello i =>
    match s.sockets[i]? with
    | none => s
    | some socket =>
      if socket.pc = .idle ∧ socket.handshakeAt = none then
        s.updateSocket i fun socket => { socket with handshakeAt := some s.clock, pc := .claimGet }
      else s
  | .drop i => s.updateSocket i fun socket => { socket with connected := false }
  | .disconnect i =>
    match s.sockets[i]? with
    | none => s
    | some socket =>
      if socket.pc = .idle ∧ ¬ socket.connected then
        if socket.handshakeAt = none ∨ socket.sessionReplaced then s.goto i .stopped
        else s.goto i .closeGet
      else s
  | .replaced i =>
    match s.sockets[i]? with
    | none => s
    | some socket =>
      if socket.pc = .idle ∧ socket.replaceSent then
        s.updateSocket i fun socket => { socket with sessionReplaced := true, connected := false }
      else s
  | .socket i fails paired =>
    match s.sockets[i]? with
    | none => s
    | some socket => s.socketStep cfg i socket fails paired
  | .watch i fails paired =>
    match s.watches[i]? with
    | none => s
    | some watch => s.watchStep cfg i watch fails paired

/-- No socket and no key yet. -/
def start (clock : Int) : PresenceState := ⟨clock, none, none, [], [], fun _ => none, []⟩

end PresenceState

/-- What holds of all entries and of the new one holds after the update. -/
theorem forall_mem_set {α : Type} {P : α → Prop} {xs : List α} {i : Nat} {new : α}
    (all : ∀ x ∈ xs, P x) (here : P new) : ∀ x ∈ xs.set i new, P x := by
  intro x member
  cases List.mem_or_eq_of_mem_set member with
  | inl old => exact all x old
  | inr same => exact same ▸ here

theorem mem_modify {α : Type} {xs : List α} {i : Nat} {f : α → α} {x : α}
    (member : x ∈ xs.modify i f) : x ∈ xs ∨ ∃ y ∈ xs, x = f y := by
  obtain ⟨j, inside, rfl⟩ := List.getElem_of_mem member
  rw [List.getElem_modify]
  rw [List.length_modify] at inside
  split
  · exact .inr ⟨_, List.getElem_mem inside, rfl⟩
  · exact .inl (List.getElem_mem inside)

end EventPlatform.Presence
