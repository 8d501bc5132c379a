import EventPlatform.Presence.Safety

/-! # Is a connection exclusive?

A handshake reads the claim, writes its own channel name, and tells the channel
it has read that it is replaced.  Each socket that holds no claim has to be told
by somebody; a claim that is lost without being read leaves its socket open
beside the new one. -/

namespace EventPlatform.Presence

open EventPlatform.Lib

/-! ## Exclusive connections -/

/-- Open, handshake-complete and not told `session.replaced`. -/
def Socket.Live (socket : Socket) : Prop :=
  socket.connected = true ∧ socket.handshakeAt ≠ none ∧ socket.sessionReplaced = false

instance (socket : Socket) : Decidable socket.Live := inferInstanceAs (Decidable (_ ∧ _ ∧ _))

def PresenceState.owner (s : PresenceState) : Option Nat := cacheGet s.clock s.claim

/-- No handler is under way, closed sockets have been handled and notices delivered. -/
def Quiescent (s : PresenceState) : Prop :=
  ∀ socket ∈ s.sockets, (socket.pc = .idle ∨ socket.pc = .stopped) ∧
    (socket.connected = false → socket.pc = .stopped) ∧
    (socket.replaceSent = true → socket.connected = true → socket.sessionReplaced = true)

instance (s : PresenceState) : Decidable (Quiescent s) :=
  inferInstanceAs (Decidable (∀ socket ∈ s.sockets, _))

def LiveAt (s : PresenceState) (i : Nat) : Prop := ∃ socket ∈ s.sockets[i]?, socket.Live

instance (s : PresenceState) (i : Nat) : Decidable (LiveAt s i) :=
  inferInstanceAs (Decidable (∃ socket ∈ s.sockets[i]?, _))

/-- At most one socket is live, and the claim is its own. -/
def Exclusive (s : PresenceState) : Prop :=
  (∀ i j, LiveAt s i → LiveAt s j → i = j) ∧ ∀ i, LiveAt s i → s.owner = some i

/-! ## Losing a claim -/

/-- The socket is live and nobody has sent it a notice. -/
def Unnoticed (s : PresenceState) (i : Nat) : Prop :=
  ∃ socket ∈ s.sockets[i]?, socket.Live ∧ socket.replaceSent = false

instance (s : PresenceState) (i : Nat) : Decidable (Unnoticed s i) :=
  inferInstanceAs (Decidable (∃ socket ∈ s.sockets[i]?, _))

/-- The claim is an unnoticed socket's, and not the one `known`. -/
def OwnedByOther (s : PresenceState) (known : Option Nat) : Prop :=
  ∃ i ∈ s.owner, Unnoticed s i ∧ known ≠ some i

instance (s : PresenceState) (known : Option Nat) : Decidable (OwnedByOther s known) :=
  inferInstanceAs (Decidable (∃ i ∈ s.owner, _))

/-- What a step of a handler loses.  A handshake overwrites a claim it has not read,
    or gets none for itself, or its notice is lost; a closing socket deletes a claim
    that is a live socket's by now. -/
def SocketPc.Loses (cfg : Settings) (s : PresenceState) (i : Nat) (fails : Bool) : SocketPc → Prop
  | .claimGet => fails = true ∧ Unnoticed s i
  | .claimSet previous =>
    (fails = true ∨ cfg.participantSessionAge ≤ 0) ∧ Unnoticed s i ∨
      fails = false ∧ OwnedByOther s previous
  | .claimReplace previous => fails = true ∧ ∃ j ∈ previous, Unnoticed s j
  | .closeDelete => fails = false ∧ OwnedByOther s none
  | _ => False

instance (cfg : Settings) (s : PresenceState) (i : Nat) (fails : Bool) :
    DecidablePred (SocketPc.Loses cfg s i fails)
  | .claimGet => inferInstanceAs (Decidable (_ ∧ _))
  | .claimSet _ => inferInstanceAs (Decidable (_ ∧ _ ∨ _ ∧ _))
  | .claimReplace previous => inferInstanceAs (Decidable (_ ∧ ∃ j ∈ previous, _))
  | .closeDelete => inferInstanceAs (Decidable (_ ∧ _))
  | .idle | .clearDelete | .clearTask | .closeGet | .pairLookup | .storeGeneration _
  | .startWatch _ | .stopped => isFalse id

/-- The step takes the claim of a live socket without anybody telling it; or the
    claim runs out. -/
def LosesClaim (cfg : Settings) (s : PresenceState) : PresenceAction → Prop
  | .pass now => ∃ i ∈ s.owner, Unnoticed s i ∧ cacheGet (max s.clock now) s.claim ≠ some i
  | .socket i fails _ => ∃ socket ∈ s.sockets[i]?, socket.pc.Loses cfg s i fails
  | _ => False

instance (cfg : Settings) (s : PresenceState) :
    (action : PresenceAction) → Decidable (LosesClaim cfg s action)
  | .pass _ => inferInstanceAs (Decidable (∃ i ∈ s.owner, _))
  | .socket i _ _ => inferInstanceAs (Decidable (∃ socket ∈ s.sockets[i]?, _))
  | .connect _ | .hello _ | .drop _ | .disconnect _ | .replaced _ | .watch .. => isFalse id

/-! ## The invariant -/

def SocketPc.claiming : SocketPc → Bool
  | .claimGet | .claimSet _ => true
  | _ => false

/-- The socket has made its claim, is live and was sent no notice. -/
def Socket.Unreplaced (socket : Socket) : Prop :=
  socket.Live ∧ socket.replaceSent = false ∧ socket.pc.claiming = false

def Unreplaced (s : PresenceState) (i : Nat) : Prop := ∃ socket ∈ s.sockets[i]?, socket.Unreplaced

/-- Somebody is about to tell the socket. -/
def Pending (s : PresenceState) (i : Nat) : Prop :=
  ∃ k, k ≠ i ∧ ∃ socket ∈ s.sockets[k]?, socket.pc = .claimReplace (some i)

def Accounted (s : PresenceState) : Prop :=
  ∀ i, Unreplaced s i → s.owner = some i ∨ Pending s i

theorem Unreplaced.unnoticed {s : PresenceState} {i : Nat} (unreplaced : Unreplaced s i) :
    Unnoticed s i := by
  obtain ⟨socket, here, live, notSent, _⟩ := unreplaced
  exact ⟨socket, here, live, notSent⟩

theorem Accounted.exclusive {s : PresenceState} (accounted : Accounted s) (quiescent : Quiescent s) :
    Exclusive s := by
  -- at rest nobody is claiming or telling, so a live socket is the owner
  have owns : ∀ i, LiveAt s i → s.owner = some i := by
    rintro i ⟨socket, here, live⟩
    obtain ⟨resting, _, delivered⟩ := quiescent socket (List.mem_of_getElem? here)
    have notSent : socket.replaceSent = false := by
      cases sent : socket.replaceSent with
      | false => rfl
      | true =>
        have replaced := delivered sent live.1
        rw [live.2.2] at replaced
        cases replaced
    have claimed : socket.pc.claiming = false := by
      cases resting with
      | inl idle => rw [idle]; rfl
      | inr stopped => rw [stopped]; rfl
    cases accounted i ⟨socket, here, live, notSent, claimed⟩ with
    | inl owner => exact owner
    | inr pending =>
      obtain ⟨k, _, teller, there, tells⟩ := pending
      cases (quiescent teller (List.mem_of_getElem? there)).1 with
      | inl idle => rw [idle] at tells; cases tells
      | inr stopped => rw [stopped] at tells; cases tells
  refine ⟨fun i j here there => ?_, owns⟩
  have owner := owns i here
  rw [owns j there] at owner
  exact (Option.some.inj owner).symm

/-! ## Steps that keep it -/

variable {cfg : Settings} {s s' s'' : PresenceState} {i : Nat}

/-- Nobody needs more than before, and nobody loses what they have. -/
structure Keeps (s s' : PresenceState) : Prop where
  unreplaced : ∀ i, Unreplaced s' i → Unreplaced s i
  owner : ∀ i, Unreplaced s' i → s.owner = some i → s'.owner = some i
  pending : ∀ i, Unreplaced s' i → Pending s i → Pending s' i

theorem Keeps.accounted (keeps : Keeps s s') (accounted : Accounted s) : Accounted s' := by
  intro i unreplaced
  cases accounted i (keeps.unreplaced i unreplaced) with
  | inl owner => exact .inl (keeps.owner i unreplaced owner)
  | inr pending => exact .inr (keeps.pending i unreplaced pending)

theorem Keeps.trans (first : Keeps s s') (second : Keeps s' s'') : Keeps s s'' := by
  refine ⟨fun i unreplaced => first.unreplaced i (second.unreplaced i unreplaced), ?_, ?_⟩
  · intro i unreplaced owner
    exact second.owner i unreplaced (first.owner i (second.unreplaced i unreplaced) owner)
  · intro i unreplaced pending
    exact second.pending i unreplaced (first.pending i (second.unreplaced i unreplaced) pending)

theorem keeps_of_same (sockets : s'.sockets = s.sockets) (owner : s'.owner = s.owner) :
    Keeps s s' := by
  refine ⟨fun i unreplaced => ?_, fun i _ owned => owner.trans owned, fun i _ pending => ?_⟩
  · rwa [Unreplaced, sockets] at unreplaced
  · rwa [Pending, sockets]

theorem Keeps.refl (s : PresenceState) : Keeps s s := keeps_of_same rfl rfl

theorem updateSocket_getElem? (s : PresenceState) (i j : Nat) (f : Socket → Socket) :
    (s.updateSocket i f).sockets[j]? = if i = j then (s.sockets[j]?).map f else s.sockets[j]? := by
  simp only [PresenceState.updateSocket, List.getElem?_modify]
  split <;> cases s.sockets[j]? <;> rfl

/-- An update of one socket that makes it no needier and keeps what it has to tell. -/
theorem keeps_updateSocket (s : PresenceState) (i : Nat) {f : Socket → Socket}
    (tame : ∀ socket, s.sockets[i]? = some socket → ((f socket).Unreplaced → socket.Unreplaced) ∧
      ∀ j, socket.pc = .claimReplace j → (f socket).pc = .claimReplace j) :
    Keeps s (s.updateSocket i f) := by
  refine ⟨fun j unreplaced => ?_, fun _ _ owner => owner, fun j _ pending => ?_⟩
  · obtain ⟨socket, there, needs⟩ := unreplaced
    rw [updateSocket_getElem?] at there
    split at there
    next same =>
      subst same
      obtain ⟨old, here, rfl⟩ := Option.map_eq_some_iff.mp there
      exact ⟨old, here, (tame old here).1 needs⟩
    next => exact ⟨socket, there, needs⟩
  · obtain ⟨k, other, socket, there, tells⟩ := pending
    by_cases same : i = k
    · subst same
      refine ⟨i, other, f socket, ?_, (tame socket there).2 _ tells⟩
      rw [updateSocket_getElem?, if_pos rfl, Option.mem_def.mp there]
      rfl
    · refine ⟨k, other, socket, ?_, tells⟩
      rw [updateSocket_getElem?, if_neg same]
      exact there

theorem goto_getElem?_ne {j : Nat} (different : j ≠ i) (s : PresenceState) (pc : SocketPc) :
    (s.goto i pc).sockets[j]? = s.sockets[j]? := by
  rw [PresenceState.goto, updateSocket_getElem?, if_neg different.symm]

theorem goto_getElem?_self {socket : Socket} (here : s.sockets[i]? = some socket) (pc : SocketPc) :
    (s.goto i pc).sockets[i]? = some { socket with pc } := by
  rw [PresenceState.goto, updateSocket_getElem?, if_pos rfl, here]
  rfl

/-- A handler goes on; whom it had to tell needs it no more. -/
theorem keeps_goto {socket : Socket} {pc : SocketPc} (here : s.sockets[i]? = some socket)
    (settled : socket.pc.claiming = true → pc.claiming = true ∨ ¬ Unnoticed s i)
    (told : ∀ j, j ≠ i → socket.pc = .claimReplace (some j) → ¬ Unreplaced s j) :
    Keeps s (s.goto i pc) := by
  -- the sockets of the other handlers are as they were
  have others : ∀ j, j ≠ i → Unreplaced (s.goto i pc) j → Unreplaced s j := by
    intro j different unreplaced
    rwa [Unreplaced, goto_getElem?_ne different] at unreplaced
  refine ⟨fun j unreplaced => ?_, fun _ _ owner => owner, fun j unreplaced pending => ?_⟩
  · by_cases same : j = i
    · subst same
      obtain ⟨after, there, live, notSent, claimed⟩ := unreplaced
      cases (goto_getElem?_self here pc).symm.trans there
      refine ⟨socket, here, live, notSent, ?_⟩
      cases claiming : socket.pc.claiming with
      | false => rfl
      | true =>
        cases settled claiming with
        | inl still =>
          rw [show pc.claiming = false from claimed] at still
          cases still
        | inr noticed => exact absurd ⟨socket, here, live, notSent⟩ noticed
    · exact others j same unreplaced
  · obtain ⟨k, other, teller, there, tells⟩ := pending
    by_cases same : k = i
    · subst same
      cases here.symm.trans there
      exact absurd (others j other.symm unreplaced) (told j other.symm tells)
    · exact ⟨k, other, teller, by rwa [goto_getElem?_ne same], tells⟩

theorem keeps_popWatch (s : PresenceState) (process : Nat) : Keeps s (s.popWatch process) := by
  simp only [PresenceState.popWatch]
  split
  next => exact Keeps.refl s
  next => exact keeps_of_same rfl rfl

theorem keeps_replacePrevious (s : PresenceState) (i : Nat) (previous : Option Nat) :
    Keeps s (s.replacePrevious i previous) := by
  simp only [PresenceState.replacePrevious]
  split
  next => exact Keeps.refl s
  next =>
    split
    next => exact Keeps.refl s
    next =>
      apply keeps_updateSocket
      intro socket _
      exact ⟨fun sent => absurd sent.2.1 (by simp), fun _ tells => tells⟩

theorem replacePrevious_getElem?_self (s : PresenceState) (i : Nat) (previous : Option Nat) :
    (s.replacePrevious i previous).sockets[i]? = s.sockets[i]? := by
  simp only [PresenceState.replacePrevious]
  split
  next => rfl
  next =>
    split
    next => rfl
    next different => rw [updateSocket_getElem?, if_neg different]

/-- The notice is sent, or it is lost on a socket that needs none. -/
theorem keeps_claimReplace {socket : Socket} {previous : Option Nat} {fails : Bool}
    (here : s.sockets[i]? = some socket) (tells : socket.pc = .claimReplace previous)
    (kept : ¬ SocketPc.Loses cfg s i fails (.claimReplace previous)) :
    Keeps s ((if fails then s else s.replacePrevious i previous).goto i .clearDelete) := by
  have settled : ∀ s', socket.pc.claiming = true →
      SocketPc.clearDelete.claiming = true ∨ ¬ Unnoticed s' i := by
    intro s' claiming
    rw [tells] at claiming
    cases claiming
  cases fails with
  | true =>
    rw [if_pos rfl]
    refine keeps_goto here (settled s) fun j _ target unreplaced => ?_
    rw [tells] at target
    cases target
    -- the notice would be lost on a socket that needs it
    exact kept ⟨rfl, j, rfl, unreplaced.unnoticed⟩
  | false =>
    rw [if_neg (by decide)]
    have there := (replacePrevious_getElem?_self s i previous).trans here
    refine (keeps_replacePrevious s i previous).trans
      (keeps_goto there (settled _) fun j different target unreplaced => ?_)
    rw [tells] at target
    cases target
    obtain ⟨other, at_, _, notSent, _⟩ := unreplaced
    simp only [PresenceState.replacePrevious, if_neg different, updateSocket_getElem?, if_true] at at_
    obtain ⟨old, _, rfl⟩ := Option.map_eq_some_iff.mp at_
    cases notSent

/-- The new claim is the socket's own, and the one it has read is about to be told. -/
theorem accounted_claimSet {socket : Socket} {previous : Option Nat} {fails : Bool}
    (here : s.sockets[i]? = some socket) (sets : socket.pc = .claimSet previous)
    (kept : ¬ SocketPc.Loses cfg s i fails (.claimSet previous)) (accounted : Accounted s) :
    Accounted (if fails then s.goto i .clearDelete
      else { s with claim := some ⟨i, s.clock + cfg.participantSessionAge⟩ }.goto i
        (.claimReplace previous)) := by
  have notLost : (fails = true ∨ cfg.participantSessionAge ≤ 0) → ¬ Unnoticed s i :=
    fun lost unnoticed => kept (.inl ⟨lost, unnoticed⟩)
  cases fails with
  | true =>
    rw [if_pos rfl]
    refine (keeps_goto here (fun _ => .inr (notLost (.inl rfl))) fun j _ target => ?_).accounted
      accounted
    rw [sets] at target
    cases target
  | false =>
    rw [if_neg (by decide)]
    intro j unreplaced
    by_cases same : j = i
    · subst same
      left
      obtain ⟨after, there, live, notSent, _⟩ := unreplaced
      have opened := @goto_getElem?_self
        { s with claim := some ⟨j, s.clock + cfg.participantSessionAge⟩ } j socket here
        (.claimReplace previous)
      cases opened.symm.trans there
      have lasts : 0 < cfg.participantSessionAge := by
        by_contra over_
        exact notLost (.inr (by omega)) ⟨socket, here, live, notSent⟩
      show cacheGet s.clock (some ⟨j, s.clock + cfg.participantSessionAge⟩) = some j
      rw [cacheGet, if_pos (by simp only; omega)]
    · have before : Unreplaced s j := by
        rwa [Unreplaced, goto_getElem?_ne same] at unreplaced
      right
      cases accounted j before with
      | inl owner =>
        -- `j` owned the claim, and the socket has read it: the notice is on its way
        have known : previous = some j := by
          by_contra unread
          exact kept (.inr ⟨rfl, j, owner, before.unnoticed, unread⟩)
        exact ⟨i, Ne.symm same, _, goto_getElem?_self here _, by rw [known]⟩
      | inr pending =>
        obtain ⟨k, other, teller, there, tells⟩ := pending
        have different : k ≠ i := by
          rintro rfl
          cases here.symm.trans there
          rw [sets] at tells
          cases tells
        exact ⟨k, other, teller, by rwa [goto_getElem?_ne different], tells⟩

theorem keeps_closeDelete {socket : Socket} {fails : Bool} (here : s.sockets[i]? = some socket)
    (deletes : socket.pc = .closeDelete) (kept : ¬ SocketPc.Loses cfg s i fails .closeDelete) :
    Keeps s ((if fails then s else { s with claim := none }).goto i .pairLookup) := by
  have going : ∀ s' : PresenceState, s'.sockets[i]? = some socket → Keeps s' (s'.goto i .pairLookup) := by
    intro s' there
    refine keeps_goto there (fun claiming => ?_) fun j _ target => ?_
    · rw [deletes] at claiming
      cases claiming
    · rw [deletes] at target
      cases target
  cases fails with
  | true =>
    rw [if_pos rfl]
    exact going s here
  | false =>
    rw [if_neg (by decide)]
    have deleted : Keeps s { s with claim := none } := by
      refine ⟨fun _ unreplaced => unreplaced, fun j unreplaced owner => ?_, fun _ _ pending => pending⟩
      have unreplaced : Unreplaced s j := unreplaced
      exact absurd ⟨rfl, j, owner, unreplaced.unnoticed, by simp⟩ kept
    exact deleted.trans (going _ here)

theorem accounted_socketStep {socket : Socket} {fails paired : Bool}
    (here : s.sockets[i]? = some socket) (kept : ¬ socket.pc.Loses cfg s i fails)
    (accounted : Accounted s) : Accounted (s.socketStep cfg i socket fails paired) := by
  -- a step that leaves the sockets and the claim alone and goes on
  have going : ∀ {s' : PresenceState} {pc}, Keeps s s' → s'.sockets[i]? = some socket →
      socket.pc.claiming = false → (∀ j, socket.pc ≠ .claimReplace j) →
      Accounted (s'.goto i pc) := by
    intro s' pc keeps there claimed silent
    refine (keeps.trans (keeps_goto there (fun claiming => ?_) fun j _ target => ?_)).accounted accounted
    · rw [claimed] at claiming
      cases claiming
    · exact absurd target (silent _)
  simp only [PresenceState.socketStep]
  cases at_ : socket.pc with
  | idle | stopped => exact accounted
  | claimGet =>
    rw [at_] at kept
    simp only
    split
    next fails =>
      refine (keeps_goto here (fun _ => .inr fun unnoticed => kept ⟨fails, unnoticed⟩)
        fun j _ target => ?_).accounted accounted
      rw [at_] at target
      cases target
    next =>
      refine (keeps_goto here (fun _ => .inl rfl) fun j _ target => ?_).accounted accounted
      rw [at_] at target
      cases target
  | claimSet previous => exact accounted_claimSet here at_ (by rwa [at_] at kept) accounted
  | claimReplace previous =>
    exact (keeps_claimReplace here at_ (by rwa [at_] at kept)).accounted accounted
  | closeDelete =>
    exact (keeps_closeDelete here at_ (by rwa [at_] at kept)).accounted accounted
  | clearDelete =>
    simp only
    split
    next => exact going (Keeps.refl s) here (by rw [at_]; rfl) (by simp [at_])
    next =>
      -- the handshake is noted beside the key it deletes
      have deleted : Keeps s { s with absence := none } := keeps_of_same rfl rfl
      refine (deleted.trans (keeps_updateSocket _ i fun other there => ?_)).accounted accounted
      cases here.symm.trans there
      refine ⟨fun needs => ⟨needs.1, needs.2.1, by rw [at_]; rfl⟩, fun j target => ?_⟩
      rw [at_] at target
      cases target
  | clearTask =>
    have same : (s.popWatch socket.process).sockets = s.sockets := by
      simp only [PresenceState.popWatch]
      split <;> rfl
    exact going (keeps_popWatch s _) (by rw [same]; exact here) (by rw [at_]; rfl) (by simp [at_])
  | closeGet =>
    have stays := fun pc => @going s pc (Keeps.refl s) here (by rw [at_]; rfl) (by simp [at_])
    simp only
    split_ifs
    all_goals exact stays _
  | pairLookup =>
    have stays := fun pc => @going s pc (Keeps.refl s) here (by rw [at_]; rfl) (by simp [at_])
    simp only
    split_ifs
    all_goals exact stays _
  | storeGeneration generation =>
    simp only
    split
    next => exact going (Keeps.refl s) here (by rw [at_]; rfl) (by simp [at_])
    next => exact going (keeps_of_same rfl rfl) here (by rw [at_]; rfl) (by simp [at_])
  | startWatch generation =>
    have same : ((s.popWatch socket.process).createWatch socket.process generation).sockets =
        s.sockets := by
      simp only [PresenceState.createWatch]
      simp only [PresenceState.popWatch]
      split <;> rfl
    have keeps : Keeps s ((s.popWatch socket.process).createWatch socket.process generation) :=
      (keeps_popWatch s _).trans (keeps_of_same rfl rfl)
    exact going keeps (by rw [same]; exact here) (by rw [at_]; rfl) (by simp [at_])

theorem keeps_connect (s : PresenceState) (process : Nat) :
    Keeps s { s with sockets := s.sockets ++ [⟨process, .idle, true, none, none, false, false⟩] } := by
  refine ⟨fun j unreplaced => ?_, fun _ _ owner => owner, fun j _ pending => ?_⟩
  · obtain ⟨socket, there, needs⟩ := unreplaced
    simp only [List.getElem?_append, Option.mem_def] at there
    split at there
    next => exact ⟨socket, there, needs⟩
    next =>
      -- the new socket has not made its handshake
      have new := List.mem_of_getElem? there
      rw [List.mem_singleton.mp new] at needs
      exact absurd rfl needs.1.2.1
  · obtain ⟨k, other, teller, there, tells⟩ := pending
    refine ⟨k, other, teller, ?_, tells⟩
    have bound := (List.getElem?_eq_some_iff.mp there).1
    simp only [List.getElem?_append, if_pos bound]
    exact there

theorem keeps_watchStep (s : PresenceState) (i : Nat) (watch : Watch) (fails paired : Bool) :
    Keeps s (s.watchStep cfg i watch fails paired) := by
  simp only [PresenceState.watchStep]
  split
  next => exact Keeps.refl s
  next =>
    cases watch.pc with
    | created | notifying => exact keeps_of_same rfl rfl
    | finished => exact Keeps.refl s
    | sleeping wakeAt =>
      simp only
      split_ifs
      all_goals exact keeps_of_same rfl rfl

theorem Accounted.step {action : PresenceAction} (accounted : Accounted s)
    (kept : ¬ LosesClaim cfg s action) : Accounted (s.step cfg action) := by
  cases action with
  | pass now =>
    -- time can only take a claim away by letting it expire, which `kept` excludes
    have later : Keeps s (s.step cfg (.pass now)) := by
      refine ⟨fun _ unreplaced => unreplaced, fun j unreplaced owner => ?_, fun _ _ pending => pending⟩
      have unreplaced : Unreplaced s j := unreplaced
      by_contra lost
      exact kept ⟨j, owner, unreplaced.unnoticed, lost⟩
    exact later.accounted accounted
  | connect process => exact (keeps_connect s process).accounted accounted
  | hello i =>
    simp only [PresenceState.step]
    split
    next => exact accounted
    next socket here =>
      split
      next fresh =>
        refine (keeps_updateSocket s i fun other there => ?_).accounted accounted
        cases here.symm.trans there
        exact ⟨fun needs => (by cases needs.2.2), fun j target => by rw [fresh.1] at target; cases target⟩
      next => exact accounted
  | drop i =>
    refine (keeps_updateSocket s i fun socket _ => ?_).accounted accounted
    exact ⟨fun needs => (by cases needs.1.1), fun _ tells => tells⟩
  | disconnect i =>
    simp only [PresenceState.step]
    split
    next => exact accounted
    next socket here =>
      have goes : socket.pc = .idle → ∀ pc, Accounted (s.goto i pc) := by
        intro idle pc
        refine (keeps_goto here (fun claiming => ?_) fun j _ target => ?_).accounted accounted
        · rw [idle] at claiming
          cases claiming
        · rw [idle] at target
          cases target
      split
      next closed =>
        split
        all_goals exact goes closed.1 _
      next => exact accounted
  | replaced i =>
    simp only [PresenceState.step]
    split
    next => exact accounted
    next socket here =>
      split
      next =>
        refine (keeps_updateSocket s i fun other _ => ?_).accounted accounted
        exact ⟨fun needs => (by cases needs.1.1), fun _ tells => tells⟩
      next => exact accounted
  | socket i fails paired =>
    simp only [PresenceState.step]
    split
    next => exact accounted
    next socket here =>
      exact accounted_socketStep here (fun loses => kept ⟨socket, here, loses⟩) accounted
  | watch i fails paired =>
    simp only [PresenceState.step]
    split
    next => exact accounted
    next watch _ => exact (keeps_watchStep s i watch fails paired).accounted accounted

/-! ## Whole runs -/

/-- As long as no step loses a claim, every quiescent state is exclusive. -/
theorem exclusive_connection (cfg : Settings) (clock : Int) (actions : List PresenceAction)
    (kept : ∀ v ∈ visited (PresenceState.step cfg) (PresenceState.start clock) actions,
      ¬ LosesClaim cfg v.1 v.2)
    (quiescent : Quiescent (actions.foldl (PresenceState.step cfg) (PresenceState.start clock))) :
    Exclusive (actions.foldl (PresenceState.step cfg) (PresenceState.start clock)) := by
  have start : Accounted (PresenceState.start clock) := by
    rintro i ⟨socket, here, _⟩
    cases here
  have accounted := foldl_invariant (fun _ _ accounted kept => Accounted.step accounted kept) start kept
  exact accounted.exclusive quiescent

/-! ## Two windows, one after the other and at once -/

/-- The second window opens when the first has finished its handshake. -/
def secondWindow : List PresenceAction :=
  [.connect 0, .hello 0] ++ fiveSteps 0 ++ [.connect 0, .hello 1] ++ fiveSteps 1
    ++ [.replaced 0, .disconnect 0]

theorem secondWindow_exclusive : Exclusive
    (secondWindow.foldl (PresenceState.step usualSettings) (PresenceState.start 0)) :=
  exclusive_connection usualSettings 0 secondWindow (by decide +kernel) (by decide +kernel)

/-- Both handshakes read the claim before either writes it. -/
def simultaneousWindows : List PresenceAction :=
  [.connect 0, .connect 1, .hello 0, .hello 1, .socket 0 false true, .socket 1 false true]
    ++ List.replicate 4 (.socket 0 false true) ++ List.replicate 4 (.socket 1 false true)

theorem simultaneous_not_exclusive :
    let s := simultaneousWindows.foldl (PresenceState.step usualSettings) (PresenceState.start 0)
    Quiescent s ∧ ¬ Exclusive s := by
  refine ⟨by decide +kernel, fun exclusive => ?_⟩
  have same := exclusive.1 0 1 (by decide +kernel) (by decide +kernel)
  cases same

end EventPlatform.Presence
