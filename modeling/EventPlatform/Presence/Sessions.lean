import EventPlatform.Lib.Runs
import EventPlatform.Presence.Sockets

/-! # Does a newer join shut out the sockets of older sessions?

A join writes its session into the cache, deletes the claim, and sends
`session.replaced` to the participant's group.  A socket is checked against the
cached session once, when it connects, and joins the group only with its hello.
Between the two nobody can tell it that its session is no longer the newest. -/

namespace EventPlatform.Presence

open EventPlatform.Lib

/-! ## Joins, sockets and their steps -/

/-- What a join does next after `remember_participant_session`. -/
inductive JoinPc where
  | deleteClaim
  | deleteAbsence
  | groupSend
  | respond
  | completed
  | aborted
deriving DecidableEq

/-- A session is named by the position of its join. -/
structure Join where
  createdAt : Int
  pc : JoinPc
deriving DecidableEq

/-- Where the consumer of a socket stands: idle, in `_complete_handshake` from
    `groupAdd` to `finish`, or in `disconnect` from `closeGet` on. -/
inductive SessionPc where
  | idle
  | groupAdd
  | claimGet
  | claimSet
  | claimReplace
  | finish
  | closeGet
  | closeDelete
  | stopped
deriving DecidableEq

/-- `joined` is the membership in the participant's group, `noticed` a `session.replaced`
    on its way, and `closed` a close from the server's side. -/
structure SessionSocket where
  session : Nat
  pc : SessionPc
  connected : Bool
  handshakeComplete : Bool
  joined : Bool
  previous : Option Nat
  noticed : Bool
  sessionReplaced : Bool
  closed : Bool
deriving DecidableEq

/-- What a socket of a superseded session must not do. -/
inductive Breach where
  | handshake (socket : Nat)
  | relay (socket : Nat)
  | claim (socket owner : Nat)
deriving DecidableEq

structure SessionState where
  clock : Int
  cachedSession : Option (CacheEntry Nat)
  claim : Option (CacheEntry Nat)
  joins : List Join
  sockets : List SessionSocket
  breaches : List Breach

def SessionState.start (clock : Int) : SessionState := ⟨clock, none, none, [], [], []⟩

inductive SessionAction where
  | pass (now : Int)
  /-- A join establishes its session. -/
  | join (fails : Bool)
  | joinStep (join : Nat) (fails : Bool)
  /-- A socket connects with the cookie of a session. -/
  | connect (session : Nat) (fails : Bool)
  | hello (socket : Nat)
  | signal (socket : Nat)
  | drop (socket : Nat)
  | disconnect (socket : Nat)
  | replaced (socket : Nat)
  /-- The handler goes on; its operation may fail. -/
  | socket (socket : Nat) (fails : Bool)

namespace SessionState

def put (s : SessionState) (i : Nat) (socket : SessionSocket) : SessionState :=
  { s with sockets := s.sockets.set i socket }

def putJoin (s : SessionState) (m : Nat) (join : Join) : SessionState :=
  { s with joins := s.joins.set m join }

/-- A join after that of the session has completed. -/
def superseded (s : SessionState) (session : Nat) : Bool :=
  (s.joins.drop (session + 1)).any (·.pc = .completed)

def breachIf (s : SessionState) (session : Nat) (breach : Breach) : SessionState :=
  if s.superseded session then { s with breaches := s.breaches ++ [breach] } else s

/-- The socket that holds the claim, if it is one of a newer session. -/
def newerOwner (s : SessionState) (session : Nat) : Option Nat :=
  (cacheGet s.clock s.claim).filter fun owner =>
    s.sockets[owner]?.any fun socket => session < socket.session

/-- `session_matches_participant`, for a session that has not run out. -/
def sessionMatches (participantSessionAge : Int) (s : SessionState) (session : Nat) (fails : Bool) :
    Bool :=
  match s.joins[session]? with
  | none => false
  | some join =>
    s.clock < join.createdAt + participantSessionAge ∧
      (fails ∨ (cacheGet s.clock s.cachedSession).all (· = session))

/-- `session.replaced` goes to every member of the group. -/
def sendToGroup (s : SessionState) : SessionState :=
  { s with sockets := s.sockets.map fun socket =>
    { socket with noticed := socket.noticed || socket.joined } }

def sendToPrevious (s : SessionState) (i : Nat) : Option Nat → SessionState
  | none => s
  | some previous =>
    if previous = i then s
    else { s with sockets := s.sockets.modify previous fun socket =>
      { socket with noticed := true } }

/-- `invalidate_participant_sockets`; an exception of a delete ends the request. -/
def joinStep (s : SessionState) (m : Nat) (join : Join) (fails : Bool) : SessionState :=
  match join.pc with
  | .deleteClaim =>
    if fails then s.putJoin m { join with pc := .aborted }
    else { s with claim := none }.putJoin m { join with pc := .deleteAbsence }
  | .deleteAbsence =>
    s.putJoin m { join with pc := if fails then .aborted else .groupSend }
  -- a failing send is logged, and the join responds all the same
  | .groupSend => (if fails then s else s.sendToGroup).putJoin m { join with pc := .respond }
  | .respond => s.putJoin m { join with pc := .completed }
  | .completed | .aborted => s

/-- One step of a handler. -/
def socketStep (participantSessionAge : Int) (s : SessionState) (i : Nat) (socket : SessionSocket)
    (fails : Bool) : SessionState :=
  match socket.pc with
  | .groupAdd =>
    -- an exception of the handler closes the socket
    if fails then s.put i { socket with pc := .idle, closed := true }
    else s.put i { socket with pc := .claimGet, joined := true }
  | .claimGet =>
    -- a failure is logged and the claim given up; the handshake goes on
    if fails then s.put i { socket with pc := .finish }
    else s.put i { socket with pc := .claimSet, previous := cacheGet s.clock s.claim }
  | .claimSet =>
    if fails then s.put i { socket with pc := .finish }
    else
      -- the claim is overwritten without a look at whose it is
      let taken := match s.newerOwner socket.session with
        | some owner => s.breachIf socket.session (.claim i owner)
        | none => s
      { taken with claim := some ⟨i, s.clock + participantSessionAge⟩ }.put i
        { socket with pc := .claimReplace }
  | .claimReplace =>
    -- the holder before is told to close, unless it could not be reached
    (s.put i { socket with pc := .finish }).sendToPrevious i
      (if fails then none else socket.previous)
  | .finish =>
    if fails then s.put i { socket with pc := .idle, closed := true }
    else (s.breachIf socket.session (.handshake i)).put i { socket with pc := .idle }
  | .closeGet =>
    -- only the owner of the claim goes on to delete it
    if ¬ fails ∧ cacheGet s.clock s.claim = some i then s.put i { socket with pc := .closeDelete }
    else s.put i { socket with pc := .stopped }
  | .closeDelete =>
    (if fails then s else { s with claim := none }).put i { socket with pc := .stopped }
  | .idle | .stopped => s

/-- A client's messages are handled until `disconnect` begins, also after a close from the
    server's side. -/
def step (participantSessionAge : Int) (s : SessionState) : SessionAction → SessionState
  | .pass now => { s with clock := max s.clock now }
  | .join fails => { s with
      joins := s.joins ++ [⟨s.clock, .deleteClaim⟩]
      cachedSession := if fails then s.cachedSession
        else some ⟨s.joins.length, s.clock + participantSessionAge⟩ }
  | .joinStep m fails =>
    match s.joins[m]? with
    | none => s
    | some join => s.joinStep m join fails
  | .connect session fails =>
    if s.sessionMatches participantSessionAge session fails then
      { s with sockets := s.sockets ++
        [⟨session, .idle, true, false, false, none, false, false, false⟩] }
    else s
  | .hello i =>
    match s.sockets[i]? with
    | none => s
    | some socket =>
      -- the session is not looked at again
      if socket.pc = .idle ∧ socket.handshakeComplete = false then
        s.put i { socket with handshakeComplete := true, pc := .groupAdd }
      else s
  | .signal i =>
    match s.sockets[i]? with
    | none => s
    | some socket =>
      if socket.pc = .idle ∧ socket.handshakeComplete = true then
        s.breachIf socket.session (.relay i)
      else s
  | .drop i =>
    match s.sockets[i]? with
    | none => s
    | some socket => s.put i { socket with connected := false }
  | .disconnect i =>
    match s.sockets[i]? with
    | none => s
    | some socket =>
      -- a replaced socket, or one that never said hello, leaves the claim alone
      if socket.pc = .idle ∧ (socket.connected = false ∨ socket.closed = true) then
        s.put i { socket with
          joined := false
          pc := if socket.handshakeComplete ∧ ¬ socket.sessionReplaced then .closeGet else .stopped }
      else s
  | .replaced i =>
    match s.sockets[i]? with
    | none => s
    | some socket =>
      if socket.pc = .idle ∧ socket.noticed then
        s.put i { socket with sessionReplaced := true, closed := true }
      else s
  | .socket i fails =>
    match s.sockets[i]? with
    | none => s
    | some socket => s.socketStep participantSessionAge i socket fails

end SessionState

/-! ## Runs in which a join reaches everybody -/

def SessionPc.Handshake : SessionPc → Prop
  | groupAdd | claimGet | claimSet | claimReplace | finish => True
  | _ => False

def SessionPc.Ending : SessionPc → Prop
  | closeGet | closeDelete | stopped => True
  | _ => False

instance : DecidablePred SessionPc.Ending := fun pc => by
  cases pc <;> first | exact isTrue trivial | exact isFalse id

/-- The consumer still handles its client's messages. -/
def SessionSocket.Serving (socket : SessionSocket) : Prop := ¬ socket.pc.Ending

instance (socket : SessionSocket) : Decidable socket.Serving := inferInstanceAs (Decidable (¬ _))

/-- The sockets of older sessions that are still served. -/
def OlderServing (s : SessionState) (m : Nat) (P : SessionSocket → Prop) : Prop :=
  ∀ socket ∈ s.sockets, socket.session < m → socket.Serving → P socket

instance (s : SessionState) (m : Nat) (P : SessionSocket → Prop) [DecidablePred P] :
    Decidable (OlderServing s m P) := inferInstanceAs (Decidable (∀ _ ∈ _, _))

/-- When a join sends its notice all older sockets are in the group, and when it responds
    none of them is amid its handshake. -/
def ReachesAll (s : SessionState) (m : Nat) (fails : Bool) : JoinPc → Prop
  | .groupSend => OlderServing s m fun socket => fails = false ∧ socket.joined = true
  | .respond => OlderServing s m fun socket => socket.pc = .idle
  | _ => True

instance (s : SessionState) (m : Nat) (fails : Bool) : (pc : JoinPc) → Decidable (ReachesAll s m fails pc)
  | .groupSend => inferInstanceAs (Decidable (OlderServing ..))
  | .respond => inferInstanceAs (Decidable (OlderServing ..))
  | .deleteClaim => isTrue trivial
  | .deleteAbsence => isTrue trivial
  | .completed => isTrue trivial
  | .aborted => isTrue trivial

/-- Besides, the session cache does not fail where there are older sessions, and once the
    join has completed a notified socket takes up no signalling message, neither before it
    handles its notice nor after. -/
def Thorough (s : SessionState) : SessionAction → Prop
  | .join fails => s.joins = [] ∨ fails = false
  | .connect session fails => s.joins.length ≤ session + 1 ∨ fails = false
  | .joinStep m fails => ∀ join ∈ s.joins[m]?, ReachesAll s m fails join.pc
  | .signal i => ∀ socket ∈ s.sockets[i]?, socket.Serving → socket.noticed = true →
    s.superseded socket.session = false
  | _ => True

instance (s : SessionState) : (action : SessionAction) → Decidable (Thorough s action)
  | .join _ => inferInstanceAs (Decidable (_ ∨ _))
  | .connect _ _ => inferInstanceAs (Decidable (_ ∨ _))
  | .joinStep m _ => inferInstanceAs (Decidable (∀ join ∈ s.joins[m]?, _))
  | .signal i => inferInstanceAs (Decidable (∀ socket ∈ s.sockets[i]?, _))
  | .pass _ => isTrue trivial
  | .hello _ => isTrue trivial
  | .drop _ => isTrue trivial
  | .disconnect _ => isTrue trivial
  | .replaced _ => isTrue trivial
  | .socket _ _ => isTrue trivial

/-! ## What a step keeps -/

variable {participantSessionAge : Int} {s s' : SessionState} {i m : Nat} {socket old : SessionSocket}

/-- What holds of every consumer. -/
structure SessionSocket.Sound (socket : SessionSocket) : Prop where
  busy : socket.pc.Handshake → socket.handshakeComplete = true
  joined : socket.joined = true → socket.handshakeComplete = true

structure SessionSocket.Told (socket : SessionSocket) : Prop where
  noticed : socket.noticed = true
  complete : socket.handshakeComplete = true

structure FencedSessions (participantSessionAge : Int) (s : SessionState) : Prop where
  created : ∀ join ∈ s.joins, join.createdAt ≤ s.clock
  /-- The newest session is the cached one, and outlives the others. -/
  cached : 2 ≤ s.joins.length → ∃ entry, s.cachedSession = some entry ∧
    entry.value + 1 = s.joins.length ∧
    ∀ join ∈ s.joins, join.createdAt + participantSessionAge ≤ entry.expiresAt
  sound : ∀ socket ∈ s.sockets, socket.Sound
  sent : ∀ m join, s.joins[m]? = some join → join.pc = .respond → OlderServing s m (·.Told)
  /-- Nobody is served under a superseded session but to be told so. -/
  shut : ∀ m join, s.joins[m]? = some join → join.pc = .completed →
    OlderServing s m fun socket => socket.Told ∧ socket.pc = .idle
  clean : s.breaches = []

/-- The consumer has gone on without losing its notice or its place in the protocol. -/
structure SessionSocket.Follows (old socket : SessionSocket) : Prop where
  session : socket.session = old.session
  serving : socket.Serving → old.Serving
  told : old.Told → socket.Told
  rests : old.Told → old.pc = .idle → socket.Serving → socket.pc = .idle
  sound : socket.Sound

theorem SessionSocket.Follows.refl (sound : socket.Sound) : socket.Follows socket :=
  ⟨rfl, id, id, fun _ idle _ => idle, sound⟩

/-- A step of the consumers that leaves the joins and the session cache alone. -/
theorem FencedSessions.consumers (fenced : FencedSessions participantSessionAge s)
    (clock : s'.clock = s.clock) (joins : s'.joins = s.joins)
    (cachedSession : s'.cachedSession = s.cachedSession) (breaches : s'.breaches = s.breaches)
    (follows : ∀ socket ∈ s'.sockets, ∃ old ∈ s.sockets, old.Follows socket) :
    FencedSessions participantSessionAge s' := by
  refine ⟨?_, ?_, ?_, fun m join at_ pc socket member older serving => ?_,
    fun m join at_ pc socket member older serving => ?_, ?_⟩
  · rw [joins, clock]
    exact fenced.created
  · rw [joins, cachedSession]
    exact fenced.cached
  · intro socket member
    obtain ⟨old, _, goesOn⟩ := follows socket member
    exact goesOn.sound
  · obtain ⟨old, inSockets, goesOn⟩ := follows socket member
    rw [joins] at at_
    rw [goesOn.session] at older
    exact goesOn.told (fenced.sent m join at_ pc old inSockets older (goesOn.serving serving))
  · obtain ⟨old, inSockets, goesOn⟩ := follows socket member
    rw [joins] at at_
    rw [goesOn.session] at older
    obtain ⟨told, idle⟩ := fenced.shut m join at_ pc old inSockets older (goesOn.serving serving)
    exact ⟨goesOn.told told, goesOn.rests told idle serving⟩
  · rw [breaches]
    exact fenced.clean

theorem FencedSessions.put (fenced : FencedSessions participantSessionAge s)
    (member : old ∈ s.sockets) (follows : old.Follows socket) :
    FencedSessions participantSessionAge (s.put i socket) := by
  have goesOn : ∀ other ∈ s.sockets, ∃ old ∈ s.sockets, old.Follows other :=
    fun other before => ⟨other, before, .refl (fenced.sound other before)⟩
  exact fenced.consumers rfl rfl rfl rfl (forall_mem_set goesOn ⟨old, member, follows⟩)

theorem superseded_iff {session : Nat} : s.superseded session = true ↔
    ∃ m join, session < m ∧ s.joins[m]? = some join ∧ join.pc = .completed := by
  simp only [SessionState.superseded, List.any_eq_true, decide_eq_true_eq]
  constructor
  · rintro ⟨join, member, completed⟩
    obtain ⟨n, at_⟩ := List.mem_iff_getElem?.mp member
    rw [List.getElem?_drop] at at_
    exact ⟨session + 1 + n, join, by omega, at_, completed⟩
  · rintro ⟨m, join, later, at_, completed⟩
    refine ⟨join, List.mem_iff_getElem?.mpr ⟨m - (session + 1), ?_⟩, completed⟩
    rw [List.getElem?_drop, show session + 1 + (m - (session + 1)) = m by omega]
    exact at_

/-- A socket whose session is superseded only waits for its notice. -/
theorem FencedSessions.told (fenced : FencedSessions participantSessionAge s)
    (member : socket ∈ s.sockets) (serving : socket.Serving)
    (superseded : s.superseded socket.session = true) : socket.Told ∧ socket.pc = .idle := by
  obtain ⟨m, join, later, at_, completed⟩ := superseded_iff.mp superseded
  exact fenced.shut m join at_ completed socket member later serving

theorem SessionPc.Handshake.serving (busy : socket.pc.Handshake) : socket.Serving := by
  intro ending
  cases pc : socket.pc <;> rw [pc] at busy ending <;> first | exact busy | exact ending

/-- Amid a handshake the session is not superseded. -/
theorem FencedSessions.current (fenced : FencedSessions participantSessionAge s)
    (member : socket ∈ s.sockets) (busy : socket.pc.Handshake) :
    s.superseded socket.session = false := by
  -- amid its handshake a consumer is not at rest
  by_contra superseded
  -- a superseded session would have been told and be at rest
  have idle := (fenced.told member busy.serving (by simpa using superseded)).2
  rw [idle] at busy
  exact busy

/-- Amid its handshake a consumer was served, and had not come to rest. -/
theorem SessionSocket.Sound.handshake (sound : old.Sound) (busy : old.pc.Handshake)
    (session : socket.session = old.session) (noticed : socket.noticed = old.noticed)
    (complete : socket.handshakeComplete = old.handshakeComplete) : old.Follows socket := by
  have completed := complete.trans (sound.busy busy)
  refine ⟨session, fun _ => busy.serving, fun told => ⟨noticed ▸ told.noticed, completed⟩, ?_,
    fun _ => completed, fun _ => completed⟩
  intro _ idle
  rw [idle] at busy
  exact busy.elim

/-- A consumer that serves nobody any more. -/
theorem SessionSocket.Sound.leaves (sound : old.Sound) (gone : ¬ socket.Serving)
    (session : socket.session = old.session) (noticed : socket.noticed = old.noticed)
    (complete : socket.handshakeComplete = old.handshakeComplete)
    (rest : ¬ socket.pc.Handshake) (joined : socket.joined = true → old.joined = true) :
    old.Follows socket :=
  ⟨session, fun serving => absurd serving gone,
    fun told => ⟨noticed ▸ told.noticed, complete ▸ told.complete⟩,
    fun _ _ serving => absurd serving gone,
    fun handshake => absurd handshake rest, fun member => complete ▸ sound.joined (joined member)⟩

theorem FencedSessions.sendToGroup (fenced : FencedSessions participantSessionAge s) :
    FencedSessions participantSessionAge s.sendToGroup := by
  refine fenced.consumers rfl rfl rfl rfl fun socket member => ?_
  obtain ⟨old, inSockets, rfl⟩ := List.mem_map.mp member
  have sound := fenced.sound old inSockets
  exact ⟨old, inSockets, rfl, id, fun told => ⟨by simp [told.noticed], told.complete⟩,
    fun _ idle _ => idle, sound.busy, sound.joined⟩

theorem FencedSessions.sendToPrevious (fenced : FencedSessions participantSessionAge s) (i : Nat)
    (previous : Option Nat) : FencedSessions participantSessionAge (s.sendToPrevious i previous) := by
  simp only [SessionState.sendToPrevious]
  split
  · exact fenced
  split
  · exact fenced
  refine fenced.consumers rfl rfl rfl rfl fun socket member => ?_
  cases mem_modify member with
  | inl before => exact ⟨socket, before, .refl (fenced.sound socket before)⟩
  | inr sent =>
    obtain ⟨old, inSockets, rfl⟩ := sent
    have sound := fenced.sound old inSockets
    exact ⟨old, inSockets, rfl, id, fun told => ⟨rfl, told.complete⟩, fun _ idle _ => idle,
      sound.busy, sound.joined⟩

/-- A claim of its own does no harm to anybody's session. -/
theorem FencedSessions.claim (fenced : FencedSessions participantSessionAge s)
    (claim : Option (CacheEntry Nat)) :
    FencedSessions participantSessionAge { s with claim := claim } :=
  fenced.consumers rfl rfl rfl rfl fun socket member => ⟨socket, member, .refl (fenced.sound socket member)⟩

/-! ## Every step is fenced -/

theorem FencedSessions.socketStep (fenced : FencedSessions participantSessionAge s)
    (at_ : s.sockets[i]? = some socket) (fails : Bool) :
    FencedSessions participantSessionAge (s.socketStep participantSessionAge i socket fails) := by
  have member := List.mem_of_getElem? at_
  have sound := fenced.sound socket member
  -- only `claimSet` and `finish` may breach, and both are steps of a handshake
  have current : socket.pc.Handshake → ∀ breach, s.breachIf socket.session breach = s :=
    fun busy breach => if_neg (by simp [fenced.current member busy])
  cases pc : socket.pc with
  | idle => simpa only [SessionState.socketStep, pc] using fenced
  | stopped => simpa only [SessionState.socketStep, pc] using fenced
  | groupAdd =>
    have busy : socket.pc.Handshake := by rw [pc]; trivial
    simp only [SessionState.socketStep, pc]
    split
    · exact fenced.put member (sound.handshake busy rfl rfl rfl)
    · exact fenced.put member (sound.handshake busy rfl rfl rfl)
  | claimGet =>
    have busy : socket.pc.Handshake := by rw [pc]; trivial
    simp only [SessionState.socketStep, pc]
    split
    · exact fenced.put member (sound.handshake busy rfl rfl rfl)
    · exact fenced.put member (sound.handshake busy rfl rfl rfl)
  | claimSet =>
    have busy : socket.pc.Handshake := by rw [pc]; trivial
    simp only [SessionState.socketStep, pc, current busy]
    split
    · exact fenced.put member (sound.handshake busy rfl rfl rfl)
    · have taken : (match s.newerOwner socket.session with
          | some _ => s
          | none => s) = s := by split <;> rfl
      rw [taken]
      exact (fenced.claim _).put member (sound.handshake busy rfl rfl rfl)
  | claimReplace =>
    have busy : socket.pc.Handshake := by rw [pc]; trivial
    have ends : socket.Follows { socket with pc := .finish } :=
      sound.handshake busy rfl rfl rfl
    simp only [SessionState.socketStep, pc]
    exact (fenced.put member ends).sendToPrevious i _
  | finish =>
    have busy : socket.pc.Handshake := by rw [pc]; trivial
    simp only [SessionState.socketStep, pc, current busy]
    split
    · exact fenced.put member (sound.handshake busy rfl rfl rfl)
    · exact fenced.put member (sound.handshake busy rfl rfl rfl)
  | closeGet =>
    simp only [SessionState.socketStep, pc]
    split
    · exact fenced.put member (sound.leaves (fun serving => serving trivial) rfl rfl rfl id id)
    · exact fenced.put member (sound.leaves (fun serving => serving trivial) rfl rfl rfl id id)
  | closeDelete =>
    simp only [SessionState.socketStep, pc]
    have stops : socket.Follows { socket with pc := .stopped } :=
      sound.leaves (fun serving => serving trivial) rfl rfl rfl id id
    split
    · exact fenced.put member stops
    · exact (fenced.claim none).put member stops

theorem FencedSessions.putJoin {join : Join} (fenced : FencedSessions participantSessionAge s)
    (at_ : s.joins[m]? = some join) (pc : JoinPc)
    (responds : pc = .respond → OlderServing s m (·.Told))
    (completes : pc = .completed → OlderServing s m fun socket => socket.Told ∧ socket.pc = .idle) :
    FencedSessions participantSessionAge (s.putJoin m { join with pc := pc }) := by
  -- the join keeps the time of its session, which is all that the fence compares
  have created : ∀ other ∈ s.joins.set m { join with pc := pc },
      ∃ old ∈ s.joins, other.createdAt = old.createdAt :=
    forall_mem_set (fun other before => ⟨other, before, rfl⟩) ⟨join, List.mem_of_getElem? at_, rfl⟩
  refine ⟨fun other member => ?_, fun several => ?_, fenced.sound, fun n other there => ?_,
    fun n other there => ?_, fenced.clean⟩
  · obtain ⟨old, inJoins, same⟩ := created other member
    rw [same]
    exact fenced.created old inJoins
  · simp only [SessionState.putJoin, List.length_set] at several ⊢
    obtain ⟨entry, stored, newest, outlives⟩ := fenced.cached several
    refine ⟨entry, stored, newest, fun other member => ?_⟩
    obtain ⟨old, inJoins, same⟩ := created other member
    rw [same]
    exact outlives old inJoins
  · by_cases here : m = n
    · subst here
      have inside := (List.getElem?_eq_some_iff.mp at_).1
      simp only [SessionState.putJoin, List.getElem?_set_self inside, Option.some.injEq] at there
      subst there
      exact responds
    · simp only [SessionState.putJoin, List.getElem?_set_ne here] at there
      exact fenced.sent n other there
  · by_cases here : m = n
    · subst here
      have inside := (List.getElem?_eq_some_iff.mp at_).1
      simp only [SessionState.putJoin, List.getElem?_set_self inside, Option.some.injEq] at there
      subst there
      exact completes
    · simp only [SessionState.putJoin, List.getElem?_set_ne here] at there
      exact fenced.shut n other there

theorem FencedSessions.joinStep {join : Join} {fails : Bool}
    (fenced : FencedSessions participantSessionAge s) (at_ : s.joins[m]? = some join)
    (reaches : ReachesAll s m fails join.pc) :
    FencedSessions participantSessionAge (s.joinStep m join fails) := by
  cases pc : join.pc with
  | deleteClaim =>
    simp only [SessionState.joinStep, pc]
    split
    · exact fenced.putJoin at_ .aborted (fun h => (by cases h)) (fun h => (by cases h))
    · exact (fenced.claim none).putJoin at_ .deleteAbsence (fun h => (by cases h))
        (fun h => (by cases h))
  | deleteAbsence =>
    simp only [SessionState.joinStep, pc]
    split
    · exact fenced.putJoin at_ .aborted (fun h => (by cases h)) (fun h => (by cases h))
    · exact fenced.putJoin at_ .groupSend (fun h => (by cases h)) (fun h => (by cases h))
  | groupSend =>
    rw [pc] at reaches
    simp only [SessionState.joinStep, pc]
    cases fails with
    | true =>
      -- nobody is left whom the notice could miss
      exact fenced.putJoin at_ .respond (fun _ socket member older serving =>
        absurd (reaches socket member older serving).1 (by decide)) (fun h => (by cases h))
    | false =>
      refine fenced.sendToGroup.putJoin at_ .respond (fun _ socket member older serving => ?_)
        (fun h => (by cases h))
      obtain ⟨old, inSockets, rfl⟩ := List.mem_map.mp member
      have joined := (reaches old inSockets older serving).2
      exact ⟨by simp [joined], (fenced.sound old inSockets).joined joined⟩
  | respond =>
    rw [pc] at reaches
    simp only [SessionState.joinStep, pc]
    exact fenced.putJoin at_ .completed (fun h => (by cases h)) fun _ socket member older serving =>
      ⟨fenced.sent m join at_ pc socket member older serving, reaches socket member older serving⟩
  | completed => simpa only [SessionState.joinStep, pc] using fenced
  | aborted => simpa only [SessionState.joinStep, pc] using fenced

/-- A session that has been followed by another is turned away, unless the cache fails. -/
theorem FencedSessions.newest {session : Nat} {fails : Bool}
    (fenced : FencedSessions participantSessionAge s)
    (matched : s.sessionMatches participantSessionAge session fails = true)
    (thorough : s.joins.length ≤ session + 1 ∨ fails = false) : s.joins.length ≤ session + 1 := by
  cases thorough with
  | inl newest => exact newest
  | inr reads =>
    by_contra older
    -- a session that has not run out finds the entry of the newest one still in the cache
    obtain ⟨entry, stored, newest, outlives⟩ := fenced.cached (by omega)
    simp only [SessionState.sessionMatches] at matched
    cases there : s.joins[session]? with
    | none => rw [there] at matched; cases matched
    | some join =>
      simp only [there, reads, stored, decide_eq_true_eq, Bool.false_eq_true, false_or] at matched
      have later := outlives join (List.mem_of_getElem? there)
      have alive : s.clock < entry.expiresAt := by omega
      simp only [cacheGet, alive, if_true, Option.all_some, decide_eq_true_eq] at matched
      omega

theorem FencedSessions.connect {session : Nat}
    (fenced : FencedSessions participantSessionAge s) (newest : s.joins.length ≤ session + 1) :
    FencedSessions participantSessionAge { s with sockets := s.sockets ++
      [⟨session, .idle, true, false, false, none, false, false, false⟩] } := by
  refine ⟨fenced.created, fenced.cached, fun socket member => ?_,
    fun m join at_ pc socket member older serving => ?_,
    fun m join at_ pc socket member older serving => ?_, fenced.clean⟩
  · cases List.mem_append.mp member with
    | inl before => exact fenced.sound socket before
    | inr new =>
      -- the new socket belongs to the newest session, and no join is newer than that
      rw [List.mem_singleton] at new
      subst new
      exact ⟨False.elim, fun joined => (by cases joined)⟩
  · cases List.mem_append.mp member with
    | inl before => exact fenced.sent m join at_ pc socket before older serving
    | inr new =>
      rw [List.mem_singleton] at new
      subst new
      have inside := (List.getElem?_eq_some_iff.mp at_).1
      dsimp only at older inside
      omega
  · cases List.mem_append.mp member with
    | inl before => exact fenced.shut m join at_ pc socket before older serving
    | inr new =>
      rw [List.mem_singleton] at new
      subst new
      have inside := (List.getElem?_eq_some_iff.mp at_).1
      dsimp only at older inside
      omega

theorem FencedSessions.join {fails : Bool} (fenced : FencedSessions participantSessionAge s)
    (thorough : s.joins = [] ∨ fails = false) :
    FencedSessions participantSessionAge { s with
      joins := s.joins ++ [⟨s.clock, .deleteClaim⟩]
      cachedSession := if fails then s.cachedSession
        else some ⟨s.joins.length, s.clock + participantSessionAge⟩ } := by
  have before : ∀ {m : Nat} {join : Join}, (s.joins ++ [⟨s.clock, .deleteClaim⟩])[m]? = some join →
      join.pc ≠ .deleteClaim → s.joins[m]? = some join := by
    intro m join at_ pc
    by_cases inside : m < s.joins.length
    · rwa [List.getElem?_append_left inside] at at_
    -- past the old joins there is only the new one, which still has to delete the claim
    · have new := List.mem_of_getElem? ((List.getElem?_append_right (by omega)).symm.trans at_)
      rw [List.mem_singleton] at new
      rw [new] at pc
      exact absurd rfl pc
  have created : ∀ join ∈ s.joins ++ [⟨s.clock, .deleteClaim⟩], join.createdAt ≤ s.clock := by
    intro join member
    cases List.mem_append.mp member with
    | inl old => exact fenced.created join old
    | inr new =>
      rw [List.mem_singleton] at new
      rw [new]
  -- the new join has neither sent nor completed anything yet
  refine ⟨created, fun several => ?_, fenced.sound,
    fun m join at_ pc => fenced.sent m join (before at_ (by simp [pc])) pc,
    fun m join at_ pc => fenced.shut m join (before at_ (by simp [pc])) pc, fenced.clean⟩
  cases thorough with
  | inl first =>
    rw [first] at several
    exact absurd several (by simp)
  | inr writes =>
    subst writes
    refine ⟨_, rfl, by simp, fun join member => ?_⟩
    have earlier := created join member
    dsimp only
    omega

theorem FencedSessions.signal (fenced : FencedSessions participantSessionAge s)
    (at_ : s.sockets[i]? = some socket) (serving : socket.Serving)
    (thorough : socket.noticed = true → s.superseded socket.session = false) :
    FencedSessions participantSessionAge (s.breachIf socket.session (.relay i)) := by
  cases over_ : s.superseded socket.session with
  | false => rwa [SessionState.breachIf, if_neg (by simp [over_])]
  | true =>
    -- who is served under a superseded session has its notice
    have told := (fenced.told (List.mem_of_getElem? at_) serving over_).1
    rw [thorough told.noticed] at over_
    cases over_

theorem FencedSessions.step (fenced : FencedSessions participantSessionAge s)
    (action : SessionAction) (thorough : Thorough s action) :
    FencedSessions participantSessionAge (s.step participantSessionAge action) := by
  cases action with
  | pass now =>
    -- of all that is kept, only the ages of the joins speak about the clock
    exact ⟨fun join member => le_trans (fenced.created join member) (le_max_left ..), fenced.cached,
      fenced.sound, fenced.sent, fenced.shut, fenced.clean⟩
  | join fails => exact fenced.join thorough
  | joinStep m fails =>
    simp only [SessionState.step]
    cases at_ : s.joins[m]? with
    | none => exact fenced
    | some join => exact fenced.joinStep at_ (thorough join at_)
  | connect session fails =>
    simp only [SessionState.step]
    split
    next matched => exact fenced.connect (fenced.newest matched thorough)
    next => exact fenced
  | hello i =>
    simp only [SessionState.step]
    cases at_ : s.sockets[i]? with
    | none => exact fenced
    | some socket =>
      dsimp only
      split
      next ready =>
        obtain ⟨idle, incomplete⟩ := ready
        -- an incomplete handshake cannot have been told of a newer session
        have untold : ¬ socket.Told := fun told => by simp [told.complete] at incomplete
        exact fenced.put (List.mem_of_getElem? at_)
          ⟨rfl, fun _ => by rw [SessionSocket.Serving, idle]; exact id, fun told => absurd told untold,
            fun told => absurd told untold, fun _ => rfl, fun _ => rfl⟩
      next => exact fenced
  | signal i =>
    simp only [SessionState.step]
    cases at_ : s.sockets[i]? with
    | none => exact fenced
    | some socket =>
      dsimp only
      split
      next ready =>
        have serving : socket.Serving := by rw [SessionSocket.Serving, ready.1]; exact id
        exact fenced.signal at_ serving (thorough socket at_ serving)
      next => exact fenced
  | drop i =>
    simp only [SessionState.step]
    cases at_ : s.sockets[i]? with
    | none => exact fenced
    | some socket =>
      have member := List.mem_of_getElem? at_
      have sound := fenced.sound socket member
      exact fenced.put member ⟨rfl, id, fun told => ⟨told.noticed, told.complete⟩,
        fun _ idle _ => idle, sound.busy, sound.joined⟩
  | disconnect i =>
    simp only [SessionState.step]
    cases at_ : s.sockets[i]? with
    | none => exact fenced
    | some socket =>
      have member := List.mem_of_getElem? at_
      dsimp only
      split
      · refine fenced.put member ((fenced.sound socket member).leaves (fun serving => ?_) rfl rfl rfl ?_
          (fun h => (by cases h)))
        · simp only [SessionSocket.Serving] at serving
          split at serving <;> exact serving trivial
        · dsimp only
          split <;> exact id
      · exact fenced
  | replaced i =>
    simp only [SessionState.step]
    cases at_ : s.sockets[i]? with
    | none => exact fenced
    | some socket =>
      have member := List.mem_of_getElem? at_
      dsimp only
      split
      next ready =>
        -- the close leaves its client's messages to be handled
        have sound := fenced.sound socket member
        exact fenced.put member ⟨rfl, id, fun told => ⟨told.noticed, told.complete⟩, fun _ idle _ => idle,
          sound.busy, sound.joined⟩
      next => exact fenced
  | socket i fails =>
    simp only [SessionState.step]
    cases at_ : s.sockets[i]? with
    | none => exact fenced
    | some socket => exact fenced.socketStep at_ fails

theorem FencedSessions.start (clock : Int) :
    FencedSessions participantSessionAge (SessionState.start clock) :=
  ⟨fun _ member => (by cases member), fun several => (by cases several), fun _ member => (by cases member),
    fun _ _ at_ => (by cases at_), fun _ _ at_ => (by cases at_), rfl⟩

/-! ## Whole runs -/

end EventPlatform.Presence
