import EventPlatform.Lib.Runs
import EventPlatform.Presence.Sockets

/-! # Does the stored status agree with the connections?

A handshake closes the participant's open disconnection logs and makes its status
active; a close writes a new log and makes the status disconnected.  The close asks
who owns the connection claim only after that, and the handshake compares with the
status that its own consumer has read when it connected. -/

namespace EventPlatform.Presence

open EventPlatform.Lib

/-! ## Rows and sockets -/

inductive ParticipantStatus where
  | waiting
  | ready
  | active
  | disconnected
  | completed
deriving DecidableEq

/-- A `DisconnectionLog` of the participant. -/
structure DisconnectionLog where
  disconnectedAt : Int
  reconnectedAt : Option Int
deriving DecidableEq

/-- `.filter(reconnected_at__isnull=True).update(reconnected_at=now)`, for one row. -/
def DisconnectionLog.close (now : Int) (log : DisconnectionLog) : DisconnectionLog :=
  if log.reconnectedAt = none then { log with reconnectedAt := some now } else log

/-- What the consumer of a socket does next: the handshake up to `_mark_reconnected`,
    or the close from `_record_disconnection` on. -/
inductive StatusPc where
  | idle
  | claimGet
  | claimSet
  | claimReplace (previous : Option Nat)
  | closeLogs
  | saveActive
  | createLog
  | saveDisconnected
  | closeGet
  | closeDelete
  | stopped
deriving DecidableEq

/-- `status` is the consumer's own copy of the row.  `logsClosed` and `marked`, which
    the code does not keep, tell that the two updates of `_mark_reconnected` are done. -/
structure StatusSocket where
  pc : StatusPc
  connected : Bool
  handshakeComplete : Bool
  status : ParticipantStatus
  previous : Option Nat
  replaceSent : Bool
  sessionReplaced : Bool
  logsClosed : Bool
  marked : Bool
deriving DecidableEq

structure StatusState where
  clock : Int
  claim : Option (CacheEntry Nat)
  status : ParticipantStatus
  logs : List DisconnectionLog
  sockets : List StatusSocket

def StatusState.start (clock : Int) (status : ParticipantStatus) (logs : List DisconnectionLog) :
    StatusState := ⟨clock, none, status, logs, []⟩

inductive StatusAction where
  | pass (now : Int)
  | connect
  | hello (socket : Nat)
  | drop (socket : Nat)
  | disconnect (socket : Nat)
  | replaced (socket : Nat)
  /-- The handler goes on; its operation may fail. -/
  | socket (socket : Nat) (fails : Bool)

namespace StatusState

def put (s : StatusState) (i : Nat) (socket : StatusSocket) : StatusState :=
  { s with sockets := s.sockets.set i socket }

/-- `session.replaced` is sent to the previous owner of the claim. -/
def replacePrevious (s : StatusState) (i : Nat) : Option Nat → StatusState
  | none => s
  | some previous =>
    if previous = i then s
    else { s with sockets := s.sockets.modify previous fun socket =>
      { socket with replaceSent := true } }

/-- An exception of `_mark_reconnected` closes the connection. -/
def fatal (s : StatusState) (i : Nat) (socket : StatusSocket) : StatusState :=
  s.put i { socket with connected := false, pc := .idle }

/-- One step of a handler.  `participantSessionAge` is the lifetime of the claim. -/
def socketStep (participantSessionAge : Int) (s : StatusState) (i : Nat) (socket : StatusSocket)
    (fails : Bool) : StatusState :=
  match socket.pc with
  | .claimGet =>
    -- a failure ends the claim, and the handshake goes on with the logs
    if fails then s.put i { socket with pc := .closeLogs }
    else s.put i { socket with pc := .claimSet, previous := cacheGet s.clock s.claim }
  | .claimSet =>
    if fails then s.put i { socket with pc := .closeLogs }
    else { s with claim := some ⟨i, s.clock + participantSessionAge⟩ }.put i
      { socket with pc := .claimReplace socket.previous }
  | .claimReplace previous =>
    if fails then s.put i { socket with pc := .closeLogs }
    else (s.put i { socket with pc := .closeLogs }).replacePrevious i previous
  | .closeLogs =>
    if fails then s.fatal i socket
    else
      let closed : StatusState := { s with logs := s.logs.map (·.close s.clock) }
      closed.put i { socket with pc := .saveActive, logsClosed := true }
  | .saveActive =>
    -- the comparison is with the status that this consumer has read when it connected
    if socket.status = .active then s.put i { socket with pc := .idle, marked := true }
    else if fails then s.fatal i socket
    else { s with status := .active }.put i
      { socket with pc := .idle, status := .active, marked := true }
  | .createLog =>
    -- an exception of `_record_disconnection` is logged, and the close goes on
    if fails then s.put i { socket with pc := .closeGet }
    else
      let recorded : StatusState := { s with logs := s.logs ++ [⟨s.clock, none⟩] }
      recorded.put i { socket with pc := .saveDisconnected }
  | .saveDisconnected =>
    if fails then s.put i { socket with pc := .closeGet }
    -- the row is written before anybody asks who owns the claim
    else { s with status := .disconnected }.put i
      { socket with pc := .closeGet, status := .disconnected }
  | .closeGet =>
    if ¬ fails ∧ cacheGet s.clock s.claim = some i then s.put i { socket with pc := .closeDelete }
    else s.put i { socket with pc := .stopped }
  | .closeDelete =>
    (if fails then s else { s with claim := none }).put i { socket with pc := .stopped }
  | .idle | .stopped => s

def step (participantSessionAge : Int) (s : StatusState) : StatusAction → StatusState
  | .pass now => { s with clock := max s.clock now }
  | .connect => { s with sockets := s.sockets ++
      [⟨.idle, true, false, s.status, none, false, false, false, false⟩] }
  | .hello i =>
    match s.sockets[i]? with
    | none => s
    | some socket =>
      if socket.pc = .idle ∧ socket.handshakeComplete = false then
        s.put i { socket with
          handshakeComplete := true
          pc := .claimGet
          logsClosed := false
          marked := false }
      else s
  | .drop i =>
    match s.sockets[i]? with
    | none => s
    | some socket => s.put i { socket with connected := false }
  | .disconnect i =>
    match s.sockets[i]? with
    | none => s
    | some socket =>
      if socket.pc = .idle ∧ socket.connected = false then
        -- a replaced socket leaves the rows alone
        if socket.handshakeComplete ∧ ¬ socket.sessionReplaced then
          s.put i { socket with pc := .createLog }
        else s.put i { socket with pc := .stopped }
      else s
  | .replaced i =>
    match s.sockets[i]? with
    | none => s
    | some socket =>
      if socket.pc = .idle ∧ socket.replaceSent then
        s.put i { socket with sessionReplaced := true, connected := false }
      else s
  | .socket i fails =>
    match s.sockets[i]? with
    | none => s
    | some socket => s.socketStep participantSessionAge i socket fails

end StatusState

/-! ## Agreement -/

/-- Open, handshake-complete and not told `session.replaced`. -/
def StatusSocket.Live (socket : StatusSocket) : Prop :=
  socket.connected = true ∧ socket.handshakeComplete = true ∧ socket.sessionReplaced = false

instance StatusSocket.decidableLive (socket : StatusSocket) : Decidable socket.Live :=
  inferInstanceAs (Decidable (_ ∧ _ ∧ _))

/-- No handler is under way, closed sockets have been handled and notices delivered. -/
def StatusState.Quiescent (s : StatusState) : Prop :=
  ∀ socket ∈ s.sockets, (socket.pc = .idle ∨ socket.pc = .stopped) ∧
    (socket.connected = false → socket.pc = .stopped) ∧
    (socket.replaceSent = true → socket.connected = true → socket.sessionReplaced = true)

instance StatusState.decidableQuiescent (s : StatusState) : Decidable s.Quiescent :=
  inferInstanceAs (Decidable (∀ socket ∈ s.sockets, _))

/-- The rows say that the participant is there. -/
def StatusState.SaysPresent (s : StatusState) : Prop :=
  s.status ≠ .disconnected ∧ ∀ log ∈ s.logs, log.reconnectedAt ≠ none

instance (s : StatusState) : Decidable s.SaysPresent := inferInstanceAs (Decidable (_ ∧ ∀ _ ∈ _, _))

/-- When a socket is live, the rows say so. -/
def StatusState.Agrees (s : StatusState) : Prop :=
  (∃ socket ∈ s.sockets, socket.Live) → s.SaysPresent

instance (s : StatusState) : Decidable s.Agrees := inferInstanceAs (Decidable ((∃ _ ∈ _, _) → _))

/-! ## Untimely writes -/

/-- The socket is live and nobody has sent it a notice. -/
def StatusSocket.Stays (socket : StatusSocket) : Prop := socket.Live ∧ socket.replaceSent = false

instance (socket : StatusSocket) : Decidable socket.Stays := inferInstanceAs (Decidable (_ ∧ _))

/-- A close writes its log after a socket that stays has closed the logs, or it writes
    `disconnected` after such a socket has made the status active, or a handshake leaves
    a `disconnected` alone as its consumer has read `active` before. -/
def UntimelyAt (s : StatusState) (socket : StatusSocket) (fails : Bool) : StatusPc → Prop
  | .createLog => fails = false ∧ ∃ other ∈ s.sockets, other.Stays ∧ other.logsClosed = true
  | .saveDisconnected => fails = false ∧ ∃ other ∈ s.sockets, other.Stays ∧ other.marked = true
  | .saveActive => socket.Stays ∧ socket.status = .active ∧ s.status = .disconnected
  | _ => False

instance (s : StatusState) (socket : StatusSocket) (fails : Bool) :
    (pc : StatusPc) → Decidable (UntimelyAt s socket fails pc)
  | .createLog => inferInstanceAs (Decidable (_ ∧ ∃ _ ∈ _, _))
  | .saveDisconnected => inferInstanceAs (Decidable (_ ∧ ∃ _ ∈ _, _))
  | .saveActive => inferInstanceAs (Decidable (_ ∧ _ ∧ _))
  | .idle => isFalse id
  | .claimGet => isFalse id
  | .claimSet => isFalse id
  | .claimReplace _ => isFalse id
  | .closeLogs => isFalse id
  | .closeGet => isFalse id
  | .closeDelete => isFalse id
  | .stopped => isFalse id

def Untimely (s : StatusState) : StatusAction → Prop
  | .socket i fails => ∃ socket ∈ s.sockets[i]?, UntimelyAt s socket fails socket.pc
  | _ => False

instance (s : StatusState) : (action : StatusAction) → Decidable (Untimely s action)
  | .socket i _ => inferInstanceAs (Decidable (∃ socket ∈ s.sockets[i]?, _))
  | .pass _ => isFalse id
  | .connect => isFalse id
  | .hello _ => isFalse id
  | .drop _ => isFalse id
  | .disconnect _ => isFalse id
  | .replaced _ => isFalse id

/-! ## What a step keeps -/

variable {participantSessionAge : Int} {s : StatusState} {i : Nat} {socket : StatusSocket}

/-- The steps that follow `websocket.disconnect`. -/
def StatusPc.Closing : StatusPc → Prop
  | createLog | saveDisconnected | closeGet | closeDelete | stopped => True
  | _ => False

/-- An open socket is not being closed; when its handshake is over, it is marked. -/
structure StatusSocket.Tracked (socket : StatusSocket) : Prop where
  up : socket.connected = true → ¬ socket.pc.Closing
  saving : socket.pc = .saveActive → socket.logsClosed = true
  over_ : socket.connected = true → socket.handshakeComplete = true → socket.pc = .idle →
    socket.logsClosed = true ∧ socket.marked = true

structure Honest (s : StatusState) : Prop where
  tracked : ∀ socket ∈ s.sockets, socket.Tracked
  logs : ∀ socket ∈ s.sockets, socket.Stays → socket.logsClosed = true →
    ∀ log ∈ s.logs, log.reconnectedAt ≠ none
  status : ∀ socket ∈ s.sockets, socket.Stays → socket.marked = true → s.status ≠ .disconnected

theorem Honest.put (honest : Honest s) (tracked : socket.Tracked)
    (logs : socket.Stays → socket.logsClosed = true → ∀ log ∈ s.logs, log.reconnectedAt ≠ none)
    (status : socket.Stays → socket.marked = true → s.status ≠ .disconnected) :
    Honest (s.put i socket) where
  tracked := forall_mem_set honest.tracked tracked
  logs := forall_mem_set honest.logs logs
  status := forall_mem_set honest.status status

/-- A step that only moves the handler on. -/
theorem Honest.goto (honest : Honest s) (member : socket ∈ s.sockets) {pc : StatusPc}
    {previous : Option Nat} (up : socket.connected = true → ¬ pc.Closing)
    (saving : pc ≠ .saveActive) (busy : pc ≠ .idle) :
    Honest (s.put i { socket with pc, previous }) :=
  honest.put ⟨up, fun same => absurd same saving, fun _ _ same => absurd same busy⟩
    (honest.logs socket member) (honest.status socket member)

theorem Honest.fatal (honest : Honest s) : Honest (s.fatal i socket) := by
  have gone : ∀ {P : Prop}, false = true → P := fun impossible => by cases impossible
  exact honest.put ⟨gone, fun same => (by cases same), fun up => gone up⟩
    (fun stays => gone stays.1.1) fun stays => gone stays.1.1

/-- A socket that has been sent a notice does not stay. -/
theorem Honest.replacePrevious (honest : Honest s) (previous : Option Nat) :
    Honest (s.replacePrevious i previous) := by
  cases previous with
  | none => exact honest
  | some previous =>
    by_cases own : previous = i
    · simpa only [StatusState.replacePrevious, if_pos own] using honest
    · simp only [StatusState.replacePrevious, if_neg own]
      -- the notice is what makes a socket go
      have noticed : ∀ y : StatusSocket, ¬ ({ y with replaceSent := true } : StatusSocket).Stays := by
        intro y stays
        cases stays.2
      refine ⟨fun x member => ?_, fun x member stays => ?_, fun x member stays => ?_⟩
      · cases mem_modify member with
        | inl old => exact honest.tracked x old
        | inr new =>
          obtain ⟨y, old, rfl⟩ := new
          have tracked := honest.tracked y old
          exact ⟨tracked.up, tracked.saving, tracked.over_⟩
      · cases mem_modify member with
        | inl old => exact honest.logs x old stays
        | inr new =>
          obtain ⟨y, _, rfl⟩ := new
          exact absurd stays (noticed y)
      · cases mem_modify member with
        | inl old => exact honest.status x old stays
        | inr new =>
          obtain ⟨y, _, rfl⟩ := new
          exact absurd stays (noticed y)

theorem close_closed (now : Int) (log : DisconnectionLog) : (log.close now).reconnectedAt ≠ none := by
  simp only [DisconnectionLog.close]
  split
  next => simp
  next closed => exact closed

theorem Honest.socketStep (honest : Honest s) (member : socket ∈ s.sockets) {fails : Bool}
    (timely : ¬ UntimelyAt s socket fails socket.pc) :
    Honest (s.socketStep participantSessionAge i socket fails) := by
  have tracked := honest.tracked socket member
  have down : socket.pc.Closing → ∀ {P : Prop}, socket.connected = true → P :=
    fun closing _ up => absurd closing (tracked.up up)
  simp only [StatusState.socketStep]
  cases here : socket.pc with
  | idle => exact honest
  | stopped => exact honest
  | claimGet =>
    simp only
    split
    · exact honest.goto member (fun _ => id) (by simp) (by simp)
    · exact honest.goto member (fun _ => id) (by simp) (by simp)
  | claimSet =>
    simp only
    split
    · exact honest.goto member (fun _ => id) (by simp) (by simp)
    · have claimed : Honest { s with claim := some ⟨i, s.clock + participantSessionAge⟩ } :=
        ⟨honest.tracked, honest.logs, honest.status⟩
      exact claimed.goto member (fun _ => id) (by simp) (by simp)
  | claimReplace previous =>
    simp only
    split
    · exact honest.goto member (fun _ => id) (by simp) (by simp)
    · exact (honest.goto member (fun _ => id) (by simp) (by simp)).replacePrevious previous
  | closeLogs =>
    simp only
    split
    · exact honest.fatal
    · have allClosed : ∀ log ∈ s.logs.map (·.close s.clock), log.reconnectedAt ≠ none := by
        intro log inLogs
        obtain ⟨old, _, rfl⟩ := List.mem_map.mp inLogs
        exact close_closed s.clock old
      have closed : Honest { s with logs := s.logs.map (·.close s.clock) } :=
        ⟨honest.tracked, fun _ _ _ _ => allClosed, honest.status⟩
      exact closed.put ⟨fun _ => id, fun _ => rfl, fun _ _ same => (by cases same)⟩
        (fun _ _ => allClosed) (honest.status socket member)
  | saveActive =>
    rw [here] at timely
    have logsClosed := tracked.saving here
    simp only
    split
    next copied =>
      -- nothing is written, so the row must not say `disconnected`
      refine honest.put ⟨fun _ => id, fun same => (by cases same), fun _ _ _ => ⟨logsClosed, rfl⟩⟩
        (honest.logs socket member) fun stays _ disconnected => ?_
      exact timely ⟨stays, copied, disconnected⟩
    next =>
      split
      · exact honest.fatal
      · have saved : Honest { s with status := .active } :=
          ⟨honest.tracked, honest.logs, fun _ _ _ _ => by simp⟩
        exact saved.put ⟨fun _ => id, fun same => (by cases same), fun _ _ _ => ⟨logsClosed, rfl⟩⟩
          (honest.logs socket member) fun _ _ => by simp
  | createLog =>
    rw [here] at timely down
    simp only
    split
    · exact honest.goto member (fun up => down trivial up) (by simp) (by simp)
    next succeeds =>
      have recorded : Honest { s with logs := s.logs ++ [⟨s.clock, none⟩] } := by
        refine ⟨honest.tracked, fun other inSockets stays closed => ?_, honest.status⟩
        exact absurd ⟨by simpa using succeeds, other, inSockets, stays, closed⟩ timely
      exact recorded.goto member (fun up => down trivial up) (by simp) (by simp)
  | saveDisconnected =>
    rw [here] at timely down
    simp only
    split
    · exact honest.goto member (fun up => down trivial up) (by simp) (by simp)
    next succeeds =>
      have saved : Honest { s with status := .disconnected } := by
        refine ⟨honest.tracked, honest.logs, fun other inSockets stays marked => ?_⟩
        exact absurd ⟨by simpa using succeeds, other, inSockets, stays, marked⟩ timely
      exact saved.put ⟨fun up => down trivial up, fun same => (by cases same),
        fun _ _ same => (by cases same)⟩ (fun stays => down trivial stays.1.1)
        fun stays => down trivial stays.1.1
  | closeGet =>
    rw [here] at down
    simp only
    split
    · exact honest.goto member (fun up => down trivial up) (by simp) (by simp)
    · exact honest.goto member (fun up => down trivial up) (by simp) (by simp)
  | closeDelete =>
    rw [here] at down
    simp only
    split
    · exact honest.goto member (fun up => down trivial up) (by simp) (by simp)
    · have released : Honest { s with claim := none } :=
        ⟨honest.tracked, honest.logs, honest.status⟩
      exact released.goto member (fun up => down trivial up) (by simp) (by simp)

theorem Honest.step (honest : Honest s) {action : StatusAction} (timely : ¬ Untimely s action) :
    Honest (s.step participantSessionAge action) := by
  cases action with
  | pass now => exact ⟨honest.tracked, honest.logs, honest.status⟩
  | connect =>
    -- the new socket has finished nothing, so all three parts hold of it for want of a premise
    have fresh : ∀ socket ∈ (s.step participantSessionAge .connect).sockets,
        socket ∈ s.sockets ∨ socket = ⟨.idle, true, false, s.status, none, false, false, false, false⟩ :=
      fun socket member => by simpa using List.mem_append.mp member
    refine ⟨fun socket member => ?_, fun socket member stays => ?_, fun socket member stays => ?_⟩
    · cases fresh socket member with
      | inl old => exact honest.tracked socket old
      | inr new =>
        rw [new]
        exact ⟨fun _ => id, fun same => (by cases same), fun _ complete => (by cases complete)⟩
    · cases fresh socket member with
      | inl old => exact honest.logs socket old stays
      | inr new => rw [new] at stays; cases stays.1.2.1
    · cases fresh socket member with
      | inl old => exact honest.status socket old stays
      | inr new => rw [new] at stays; cases stays.1.2.1
  | hello i =>
    cases at_ : s.sockets[i]? with
    | none => simpa only [StatusState.step, at_] using honest
    | some socket =>
      have member := List.mem_of_getElem? at_
      simp only [StatusState.step, at_]
      split
      · exact honest.put ⟨fun _ => id, fun same => (by cases same), fun _ _ same => (by cases same)⟩
          (fun _ closed => by cases closed) fun _ marked => by cases marked
      · exact honest
  | drop i =>
    cases at_ : s.sockets[i]? with
    | none => simpa only [StatusState.step, at_] using honest
    | some socket =>
      have member := List.mem_of_getElem? at_
      have tracked := honest.tracked socket member
      simp only [StatusState.step, at_]
      exact honest.put ⟨fun up => (by cases up), tracked.saving, fun up => (by cases up)⟩
        (fun stays => by cases stays.1.1) fun stays => by cases stays.1.1
  | disconnect i =>
    cases at_ : s.sockets[i]? with
    | none => simpa only [StatusState.step, at_] using honest
    | some socket =>
      have member := List.mem_of_getElem? at_
      simp only [StatusState.step, at_]
      split
      next gone =>
        have down : ∀ {P : Prop}, socket.connected = true → P := fun up => by
          rw [gone.2] at up
          cases up
        split
        · exact honest.goto member (fun up => down up) (by simp) (by simp)
        · exact honest.goto member (fun up => down up) (by simp) (by simp)
      next => exact honest
  | replaced i =>
    cases at_ : s.sockets[i]? with
    | none => simpa only [StatusState.step, at_] using honest
    | some socket =>
      have member := List.mem_of_getElem? at_
      have tracked := honest.tracked socket member
      simp only [StatusState.step, at_]
      split
      · exact honest.put ⟨fun up => (by cases up), tracked.saving, fun up => (by cases up)⟩
          (fun stays => by cases stays.1.1) fun stays => by cases stays.1.1
      · exact honest
  | socket i fails =>
    cases at_ : s.sockets[i]? with
    | none => simpa only [StatusState.step, at_] using honest
    | some socket =>
      simp only [StatusState.step, at_]
      exact honest.socketStep (List.mem_of_getElem? at_) fun untimely =>
        timely ⟨socket, at_, untimely⟩

/-! ## Whole runs -/

/-- In a quiescent state the live sockets are marked and stay. -/
theorem Honest.agrees (honest : Honest s) (quiet : s.Quiescent) : s.Agrees := by
  rintro ⟨socket, member, live⟩
  obtain ⟨resting, _, noticed⟩ := quiet socket member
  have tracked := honest.tracked socket member
  have idle : socket.pc = .idle := by
    cases resting with
    | inl idle => exact idle
    | inr stopped => exact absurd (by rw [stopped]; trivial) (tracked.up live.1)
  have stays : socket.Stays := by
    refine ⟨live, ?_⟩
    by_contra sent
    have replaced := noticed (by simpa using sent) live.1
    rw [live.2.2] at replaced
    cases replaced
  obtain ⟨logsClosed, marked⟩ := tracked.over_ live.1 live.2.1 idle
  exact ⟨honest.status socket member stays marked, honest.logs socket member stays logsClosed⟩

/-- As long as no write is untimely, the rows agree with the connections whenever all
    handlers have come to rest. -/
theorem status_agrees (participantSessionAge clock : Int) (status : ParticipantStatus)
    (logs : List DisconnectionLog) (actions : List StatusAction)
    (timely : ∀ v ∈ visited (StatusState.step participantSessionAge) (.start clock status logs) actions,
      ¬ Untimely v.1 v.2)
    (quiet : (actions.foldl (StatusState.step participantSessionAge)
      (.start clock status logs)).Quiescent) :
    (actions.foldl (StatusState.step participantSessionAge) (.start clock status logs)).Agrees := by
  have start : Honest (.start clock status logs) :=
    ⟨fun socket member => (by cases member), fun socket member => (by cases member),
      fun socket member => (by cases member)⟩
  have preserved : ∀ s action, Honest s → ¬ Untimely s action →
      Honest (StatusState.step participantSessionAge s action) :=
    fun _ _ honest timely => honest.step timely
  exact (foldl_invariant preserved start timely).agrees quiet

/-! ## A loss noticed early and one noticed late -/

def minuteAge : Int := 60 * 10 ^ 9

/-- `count` steps of the handler of a socket. -/
def goOn (socket count : Nat) : List StatusAction := List.replicate count (.socket socket false)

/-- The first socket shakes hands, and its connection is lost. -/
def firstSocketLost : List StatusAction :=
  [.connect, .hello 0] ++ goOn 0 5 ++ [.pass (10 ^ 9), .drop 0]

def secondHandshake : List StatusAction := [.connect, .hello 1] ++ goOn 1 5

/-- The loss is handled before the participant is back. -/
def noticedEarly : List StatusAction :=
  firstSocketLost ++ [.disconnect 0] ++ goOn 0 4 ++ secondHandshake

theorem early_loss_agrees :
    (noticedEarly.foldl (StatusState.step minuteAge) (.start 0 .waiting [])).Agrees :=
  status_agrees minuteAge 0 .waiting [] noticedEarly (by decide +kernel) (by decide +kernel)

/-- The loss is handled when the participant is back already. -/
def noticedLate : List StatusAction :=
  firstSocketLost ++ secondHandshake ++ [.disconnect 0] ++ goOn 0 3

theorem late_loss_disagrees :
    (noticedLate.foldl (StatusState.step minuteAge) (.start 0 .waiting [])).Quiescent ∧
      ¬ (noticedLate.foldl (StatusState.step minuteAge) (.start 0 .waiting [])).Agrees := by
  decide +kernel

end EventPlatform.Presence
