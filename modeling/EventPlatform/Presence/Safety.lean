import EventPlatform.Presence.Sockets
import EventPlatform.Lib.Runs

/-! # Is a present participant ever reported as gone?

A closing socket reads the claim, deletes it and stores the absence generation
in separate steps.  A socket that opens in between has deleted the absence key
before the generation is stored, and nothing deletes it again: the watch finds
its generation and reports the participant, who is connected, as gone. -/

namespace EventPlatform.Presence

open EventPlatform.Lib

/-! ## Safety -/

/-- Open and not replaced. -/
def Socket.Present (socket : Socket) : Prop :=
  socket.connected = true ∧ socket.sessionReplaced = false

instance (socket : Socket) : Decidable socket.Present := inferInstanceAs (Decidable (_ ∧ _))

def Settings.grace (cfg : Settings) : Int := max cfg.partnerAbsenceGrace 0

/-- Handshake-complete, open and not replaced for the whole grace period: none of
    the three is ever undone. -/
def Socket.Protects (cfg : Settings) (now : Int) (socket : Socket) : Prop :=
  socket.Present ∧ ∃ since ∈ socket.handshakeAt, since + cfg.grace ≤ now

instance (cfg : Settings) (now : Int) (socket : Socket) : Decidable (socket.Protects cfg now) :=
  inferInstanceAs (Decidable (_ ∧ _))

/-- The step sends no `disconnected` over the head of a protecting socket. -/
def Safe (cfg : Settings) (s : PresenceState) (action : PresenceAction) : Prop :=
  (s.step cfg action).notices ≠ s.notices →
    ∀ socket ∈ s.sockets, ¬ socket.Protects cfg s.clock

/-! ## Two conditions on steps -/

def SocketPc.stores : SocketPc → Bool
  | .storeGeneration _ => true
  | _ => false

def WatchPc.readAt : WatchPc → Option Int
  | .notifying readAt => some readAt
  | _ => none

/-- A generation is stored although a present socket has already deleted the key. -/
def StoresBehind (s : PresenceState) : PresenceAction → Prop
  | .socket i false _ =>
    (∃ closing ∈ s.sockets[i]?, closing.pc.stores) ∧
      ∃ socket ∈ s.sockets, socket.Present ∧ socket.clearedAt ≠ none
  | _ => False

instance (s : PresenceState) : (action : PresenceAction) → Decidable (StoresBehind s action)
  | .socket _ false _ => inferInstanceAs (Decidable (_ ∧ _))
  | .socket _ true _ => inferInstanceAs (Decidable False)
  | .pass _ | .connect _ | .hello _ | .drop _ | .disconnect _ | .replaced _ | .watch .. =>
    inferInstanceAs (Decidable False)

/-- The handshake had not deleted the absence key at `t`. -/
def Socket.UnderWay (t : Int) (socket : Socket) : Prop :=
  socket.Present ∧ ∀ cleared ∈ socket.clearedAt, t ≤ cleared

/-- A watch reports a grace period or more after the beginning of a handshake that
    was still under way when the watch read the key. -/
def ReportsLate (cfg : Settings) (s : PresenceState) : PresenceAction → Prop
  | .watch i false true =>
    ∃ watch ∈ s.watches[i]?, ∃ readAt ∈ watch.pc.readAt,
      ∃ socket ∈ s.sockets, socket.UnderWay readAt ∧
        ∃ since ∈ socket.handshakeAt, since + cfg.grace ≤ s.clock
  | _ => False

instance (t : Int) (socket : Socket) : Decidable (socket.UnderWay t) :=
  inferInstanceAs (Decidable (_ ∧ _))

instance (cfg : Settings) (s : PresenceState) :
    (action : PresenceAction) → Decidable (ReportsLate cfg s action)
  | .watch i false true => inferInstanceAs (Decidable (∃ watch ∈ s.watches[i]?, _))
  | .watch _ true _ | .watch _ false false => inferInstanceAs (Decidable False)
  | .pass _ | .connect _ | .hello _ | .drop _ | .disconnect _ | .replaced _ | .socket .. =>
    inferInstanceAs (Decidable False)

/-! ## The invariant -/

structure Orderly (s : PresenceState) : Prop where
  /-- While there is an absence key, no present socket has deleted it. -/
  absent : s.absence ≠ none → ∀ socket ∈ s.sockets, socket.Present → socket.clearedAt = none
  /-- What a watch has read, it has read before any present socket deleted it. -/
  read : ∀ watch ∈ s.watches, ∀ readAt, watch.pc = .notifying readAt →
    readAt ≤ s.clock ∧ ∀ socket ∈ s.sockets, socket.Present →
      ∀ cleared ∈ socket.clearedAt, readAt ≤ cleared

/-- A step that neither stores a key nor reads it nor deletes it in a handshake. -/
structure Quiet (s s' : PresenceState) : Prop where
  clock : s.clock ≤ s'.clock
  absence : s'.absence ≠ none → s.absence ≠ none
  sockets : ∀ socket' ∈ s'.sockets, socket'.Present → socket'.clearedAt = none ∨
    ∃ socket ∈ s.sockets, socket.Present ∧ socket.clearedAt = socket'.clearedAt
  watches : ∀ watch' ∈ s'.watches, ∀ readAt, watch'.pc = .notifying readAt →
    ∃ watch ∈ s.watches, watch.pc = .notifying readAt

variable {cfg : Settings} {s s' s'' : PresenceState}

theorem Quiet.refl (s : PresenceState) : Quiet s s :=
  ⟨le_refl _, id, fun socket member present => .inr ⟨socket, member, present, rfl⟩,
    fun watch member _ reads => ⟨watch, member, reads⟩⟩

theorem Quiet.trans (first : Quiet s s') (second : Quiet s' s'') : Quiet s s'' := by
  refine ⟨le_trans first.clock second.clock, fun h => first.absence (second.absence h),
    fun socket member present => ?_, fun watch member readAt reads => ?_⟩
  · cases second.sockets socket member present with
    | inl uncleared => exact .inl uncleared
    | inr from_ =>
      obtain ⟨socket', member', present', same⟩ := from_
      rw [← same]
      exact first.sockets socket' member' present'
  · obtain ⟨watch', member', reads'⟩ := second.watches watch member readAt reads
    exact first.watches watch' member' readAt reads'

theorem Quiet.orderly (quiet : Quiet s s') (orderly : Orderly s) : Orderly s' := by
  refine ⟨fun key socket member present => ?_, fun watch member readAt reads => ?_⟩
  · cases quiet.sockets socket member present with
    | inl uncleared => exact uncleared
    | inr from_ =>
      obtain ⟨old, member', present', same⟩ := from_
      rw [← same]
      exact orderly.absent (quiet.absence key) old member' present'
  · obtain ⟨old, member', reads'⟩ := quiet.watches watch member readAt reads
    obtain ⟨past, before⟩ := orderly.read old member' readAt reads'
    refine ⟨le_trans past quiet.clock, fun socket inSockets present cleared at_ => ?_⟩
    cases quiet.sockets socket inSockets present with
    | inl uncleared => rw [uncleared] at at_; cases at_
    | inr from_ =>
      obtain ⟨socket', member'', present', same⟩ := from_
      exact before socket' member'' present' cleared (same ▸ at_)

theorem Quiet.of_same (clock : s.clock ≤ s'.clock) (absence : s'.absence = s.absence)
    (sockets : s'.sockets = s.sockets) (watches : s'.watches = s.watches) : Quiet s s' := by
  refine ⟨clock, fun h => absence ▸ h, fun socket member present => ?_, fun watch member _ reads => ?_⟩
  · exact .inr ⟨socket, sockets ▸ member, present, rfl⟩
  · exact ⟨watch, watches ▸ member, reads⟩

/-- An update of one socket that keeps the ghost and makes nobody present. -/
theorem quiet_updateSocket (s : PresenceState) (i : Nat) {f : Socket → Socket}
    (tame : ∀ socket, (f socket).clearedAt = socket.clearedAt ∧
      ((f socket).Present → socket.Present)) : Quiet s (s.updateSocket i f) := by
  refine ⟨le_refl _, id, fun socket member present => ?_,
    fun watch member _ reads => ⟨watch, member, reads⟩⟩
  right
  cases mem_modify member with
  | inl old => exact ⟨socket, old, present, rfl⟩
  | inr new =>
    obtain ⟨old, inSockets, rfl⟩ := new
    exact ⟨old, inSockets, (tame old).2 present, (tame old).1.symm⟩

theorem quiet_goto (s : PresenceState) (i : Nat) (pc : SocketPc) : Quiet s (s.goto i pc) :=
  quiet_updateSocket s i fun _ => ⟨rfl, id⟩

theorem quiet_updateWatch (s : PresenceState) (i : Nat) {f : Watch → Watch}
    (tame : ∀ watch readAt, (f watch).pc = .notifying readAt → watch.pc = .notifying readAt) :
    Quiet s (s.updateWatch i f) := by
  refine ⟨le_refl _, id, fun socket member present => .inr ⟨socket, member, present, rfl⟩,
    fun watch member readAt reads => ?_⟩
  cases mem_modify member with
  | inl old => exact ⟨watch, old, reads⟩
  | inr new =>
    obtain ⟨old, inWatches, rfl⟩ := new
    exact ⟨old, inWatches, tame old readAt reads⟩

theorem quiet_popWatch (s : PresenceState) (process : Nat) : Quiet s (s.popWatch process) := by
  simp only [PresenceState.popWatch]
  split
  · exact Quiet.refl s
  next i _ =>
    have cancel : Quiet s (s.updateWatch i fun watch => { watch with cancelled := true }) :=
      quiet_updateWatch s i fun _ _ => id
    exact cancel.trans (Quiet.of_same (le_refl _) rfl rfl rfl)

theorem quiet_createWatch (s : PresenceState) (process : Nat) (generation : Int) :
    Quiet s (s.createWatch process generation) := by
  refine ⟨le_refl _, id, fun socket member present => .inr ⟨socket, member, present, rfl⟩,
    fun watch member readAt reads => ?_⟩
  cases List.mem_append.mp member with
  | inl old => exact ⟨watch, old, reads⟩
  | inr new =>
    rw [List.mem_singleton.mp new] at reads
    cases reads

theorem quiet_replacePrevious (s : PresenceState) (i : Nat) (previous : Option Nat) :
    Quiet s (s.replacePrevious i previous) := by
  simp only [PresenceState.replacePrevious]
  split
  · exact Quiet.refl s
  · split
    · exact Quiet.refl s
    · exact quiet_updateSocket s _ fun _ => ⟨rfl, id⟩

/-! ## The steps that touch the absence key -/

theorem Orderly.delete (orderly : Orderly s) (i : Nat) :
    Orderly ({ s with absence := none }.updateSocket i fun socket =>
      { socket with clearedAt := some s.clock, pc := .clearTask }) := by
  refine ⟨fun key => absurd rfl key, fun watch member readAt reads => ?_⟩
  obtain ⟨past, before⟩ := orderly.read watch member readAt reads
  refine ⟨past, fun socket inSockets present cleared at_ => ?_⟩
  cases mem_modify inSockets with
  | inl old => exact before socket old present cleared at_
  | inr new =>
    obtain ⟨old, _, rfl⟩ := new
    cases at_
    exact past

theorem Orderly.store (orderly : Orderly s) (entry : CacheEntry Int)
    (free : ∀ socket ∈ s.sockets, socket.Present → socket.clearedAt = none) :
    Orderly { s with absence := some entry } :=
  ⟨fun _ => free, orderly.read⟩

/-- A watch that finds its generation finds no present socket that has deleted it. -/
theorem Orderly.get (orderly : Orderly s) (i : Nat) (key : s.absence ≠ none) :
    Orderly (s.updateWatch i fun watch => { watch with pc := .notifying s.clock }) := by
  refine ⟨orderly.absent, fun watch member readAt reads => ?_⟩
  cases mem_modify member with
  | inl old => exact orderly.read watch old readAt reads
  | inr new =>
    obtain ⟨old, _, rfl⟩ := new
    cases reads
    refine ⟨le_refl _, fun socket inSockets present cleared at_ => ?_⟩
    rw [orderly.absent key socket inSockets present] at at_
    cases at_

/-! ## One step -/

theorem Orderly.socketStep (orderly : Orderly s) {i : Nat} {socket : Socket}
    (here : s.sockets[i]? = some socket) (fails paired : Bool)
    (notBehind : ¬ StoresBehind s (.socket i fails paired)) :
    Orderly (s.socketStep cfg i socket fails paired) := by
  have claimed : ∀ claim, Quiet s { s with claim := claim } := fun _ =>
    Quiet.of_same (le_refl _) rfl rfl rfl
  -- a task that only goes on to its next statement changes nothing that is ordered
  have moved : ∀ pc, Orderly (s.goto i pc) := fun pc => (quiet_goto s i pc).orderly orderly
  simp only [PresenceState.socketStep]
  cases pc : socket.pc with
  | idle => exact orderly
  | stopped => exact orderly
  | claimGet =>
    cases fails with
    | true => exact moved _
    | false => exact moved _
  | claimSet previous =>
    cases fails with
    | true => exact moved _
    | false => exact ((claimed _).trans (quiet_goto _ i _)).orderly orderly
  | claimReplace previous =>
    cases fails with
    | true => exact moved _
    | false => exact ((quiet_replacePrevious s i previous).trans (quiet_goto _ i _)).orderly orderly
  | clearDelete =>
    cases fails with
    | true => exact moved _
    | false => exact orderly.delete i
  | clearTask => exact ((quiet_popWatch s _).trans (quiet_goto _ i _)).orderly orderly
  | closeGet =>
    simp only
    split
    · exact moved _
    · split
      · exact moved _
      · exact moved _
  | closeDelete =>
    cases fails with
    | true => exact moved _
    | false => exact ((claimed _).trans (quiet_goto _ i _)).orderly orderly
  | pairLookup =>
    simp only
    split
    · exact moved _
    · exact moved _
  | storeGeneration generation =>
    cases fails with
    | true => exact moved _
    | false =>
      have free : ∀ socket ∈ s.sockets, socket.Present → socket.clearedAt = none := by
        intro other member present
        by_contra cleared
        exact notBehind ⟨⟨socket, here, by rw [pc]; rfl⟩, other, member, present, cleared⟩
      exact (quiet_goto _ i _).orderly (orderly.store _ free)
  | startWatch generation =>
    exact (((quiet_popWatch s _).trans (quiet_createWatch _ _ generation)).trans
      (quiet_goto _ i _)).orderly orderly

theorem Orderly.watchStep (orderly : Orderly s) (i : Nat) (watch : Watch) (fails paired : Bool) :
    Orderly (s.watchStep cfg i watch fails paired) := by
  have finish : Quiet s (s.updateWatch i fun watch => { watch with pc := .finished }) :=
    quiet_updateWatch s i fun _ _ reads => by cases reads
  simp only [PresenceState.watchStep]
  split
  · exact orderly
  · cases watch.pc with
    | created => exact (quiet_updateWatch s i fun _ _ reads => by cases reads).orderly orderly
    | sleeping wakeAt =>
      simp only
      split
      · exact orderly
      · split
        next found =>
          -- the watch reads its own generation, so there is an absence to notify of
          refine orderly.get i fun none_ => ?_
          rw [none_] at found
          cases found.2
        next => exact finish.orderly orderly
    | notifying readAt =>
      have told : ∀ notices, Quiet s
          { s.updateWatch i (fun watch => { watch with pc := .finished }) with notices := notices } :=
        fun _ => finish.trans (Quiet.of_same (le_refl _) rfl rfl rfl)
      exact (told _).orderly orderly
    | finished => exact orderly

theorem Orderly.step (orderly : Orderly s) {action : PresenceAction}
    (notBehind : ¬ StoresBehind s action) : Orderly (s.step cfg action) := by
  cases action with
  | pass now =>
    have quiet : Quiet s (s.step cfg (.pass now)) := .of_same (le_max_left _ _) rfl rfl rfl
    exact quiet.orderly orderly
  | connect process =>
    -- the new socket has not shaken hands, so it is not present yet
    have quiet : Quiet s (s.step cfg (.connect process)) := by
      refine ⟨le_refl _, id, fun socket member present => ?_,
        fun watch member _ reads => ⟨watch, member, reads⟩⟩
      cases List.mem_append.mp member with
      | inl old => exact .inr ⟨socket, old, present, rfl⟩
      | inr new => rw [List.mem_singleton.mp new]; exact .inl rfl
    exact quiet.orderly orderly
  | hello i =>
    have quiet : Quiet s (s.updateSocket i fun socket =>
        { socket with handshakeAt := some s.clock, pc := .claimGet }) :=
      quiet_updateSocket s i fun _ => ⟨rfl, id⟩
    simp only [PresenceState.step]
    split
    · exact orderly
    · split
      · exact quiet.orderly orderly
      · exact orderly
  | drop i =>
    have quiet : Quiet s (s.step cfg (.drop i)) :=
      quiet_updateSocket s i fun _ => ⟨rfl, fun present => by cases present.1⟩
    exact quiet.orderly orderly
  | disconnect i =>
    simp only [PresenceState.step]
    split
    · exact orderly
    · split
      · split
        · exact (quiet_goto s i _).orderly orderly
        · exact (quiet_goto s i _).orderly orderly
      · exact orderly
  | replaced i =>
    have quiet : Quiet s (s.updateSocket i fun socket =>
        { socket with sessionReplaced := true, connected := false }) :=
      quiet_updateSocket s i fun _ => ⟨rfl, fun present => by cases present.1⟩
    simp only [PresenceState.step]
    split
    · exact orderly
    · split
      · exact quiet.orderly orderly
      · exact orderly
  | socket i fails paired =>
    simp only [PresenceState.step]
    split
    · exact orderly
    next socket here => exact orderly.socketStep here fails paired notBehind
  | watch i fails paired =>
    simp only [PresenceState.step]
    split
    · exact orderly
    next watch here => exact orderly.watchStep i watch fails paired

theorem popWatch_notices (s : PresenceState) (process : Nat) :
    (s.popWatch process).notices = s.notices := by
  simp only [PresenceState.popWatch]
  split <;> rfl

theorem replacePrevious_notices (s : PresenceState) (i : Nat) (previous : Option Nat) :
    (s.replacePrevious i previous).notices = s.notices := by
  simp only [PresenceState.replacePrevious]
  split
  · rfl
  · split <;> rfl

theorem socketStep_notices (s : PresenceState) (i : Nat) (socket : Socket) (fails paired : Bool) :
    (s.socketStep cfg i socket fails paired).notices = s.notices := by
  have goes : ∀ (s' : PresenceState) pc, (s'.goto i pc).notices = s'.notices := fun _ _ => rfl
  simp only [PresenceState.socketStep]
  cases socket.pc with
  | claimReplace previous =>
    cases fails with
    | true => rfl
    | false => exact replacePrevious_notices s i previous
  | clearTask => exact popWatch_notices s _
  | startWatch generation => exact popWatch_notices s _
  | closeGet => simp only; split_ifs <;> rfl
  | pairLookup => simp only; split_ifs <;> rfl
  | _ => cases fails <;> rfl

/-- Only a watch that has found its generation sends a notice. -/
theorem notices_step {action : PresenceAction} (sends : (s.step cfg action).notices ≠ s.notices) :
    ∃ i watch readAt, action = .watch i false true ∧ s.watches[i]? = some watch ∧
      watch.pc = .notifying readAt := by
  cases action with
  | pass now => exact absurd rfl sends
  | connect process => exact absurd rfl sends
  | drop i => exact absurd rfl sends
  | hello i =>
    simp only [PresenceState.step] at sends
    split at sends
    · exact absurd rfl sends
    · split at sends <;> exact absurd rfl sends
  | disconnect i =>
    simp only [PresenceState.step] at sends
    split at sends
    · exact absurd rfl sends
    · split_ifs at sends <;> exact absurd rfl sends
  | replaced i =>
    simp only [PresenceState.step] at sends
    split at sends
    · exact absurd rfl sends
    · split at sends <;> exact absurd rfl sends
  | socket i fails paired =>
    simp only [PresenceState.step] at sends
    split at sends
    · exact absurd rfl sends
    · exact absurd (socketStep_notices s i _ fails paired) sends
  | watch i fails paired =>
    simp only [PresenceState.step] at sends
    split at sends
    next => exact absurd rfl sends
    next watch here =>
      simp only [PresenceState.watchStep] at sends
      split at sends
      next => exact absurd rfl sends
      next =>
        cases pc : watch.pc with
        | created => rw [pc] at sends; exact absurd rfl sends
        | finished => rw [pc] at sends; exact absurd rfl sends
        | sleeping wakeAt =>
          rw [pc] at sends
          simp only at sends
          split_ifs at sends <;> exact absurd rfl sends
        | notifying readAt =>
          rw [pc] at sends
          cases fails with
          | true => exact absurd rfl sends
          | false =>
            cases paired with
            | false => exact absurd rfl sends
            | true => exact ⟨i, watch, readAt, rfl, here, pc⟩

theorem Orderly.safe (orderly : Orderly s) {action : PresenceAction}
    (notLate : ¬ ReportsLate cfg s action) : Safe cfg s action := by
  intro sends socket member protects
  obtain ⟨i, watch, readAt, rfl, here, reads⟩ := notices_step sends
  obtain ⟨present, since, handshake, long⟩ := protects
  have inWatches : watch ∈ s.watches := List.mem_of_getElem? here
  have underWay : socket.UnderWay readAt :=
    ⟨present, (orderly.read watch inWatches readAt reads).2 socket member present⟩
  exact notLate ⟨watch, here, readAt, by rw [reads]; rfl, socket, member, underWay, since, handshake, long⟩

/-! ## Whole runs -/

/-- When no generation is stored behind a present socket and no watch reports
    late, nobody present is reported as gone. -/
theorem present_never_reported (cfg : Settings) (clock : Int) (actions : List PresenceAction)
    (notBehind : ∀ v ∈ visited (PresenceState.step cfg) (PresenceState.start clock) actions,
      ¬ StoresBehind v.1 v.2)
    (notLate : ∀ v ∈ visited (PresenceState.step cfg) (PresenceState.start clock) actions,
      ¬ ReportsLate cfg v.1 v.2) :
    ∀ v ∈ visited (PresenceState.step cfg) (PresenceState.start clock) actions, Safe cfg v.1 v.2 := by
  have start : Orderly (PresenceState.start clock) :=
    ⟨fun key => absurd rfl key, fun watch member => by cases member⟩
  have preserved : ∀ (s : PresenceState) (action : PresenceAction), Orderly s →
      ¬ StoresBehind s action → Orderly (s.step cfg action) :=
    fun _ _ orderly notBehind => orderly.step notBehind
  have orderly := visited_invariant preserved start notBehind
  exact fun v member => (orderly v member).safe (notLate v member)

/-! ## A drop with and without an overlapping return -/

/-- Twenty-five seconds of grace, five minutes to reconnect, a month of session. -/
def usualSettings : Settings := ⟨25000000000, 2592000000000000, 300000000000⟩

/-- The five steps of a handshake, or of a closing socket. -/
def fiveSteps (socket : Nat) : List PresenceAction := List.replicate 5 (.socket socket false true)

/-- The first socket is open, drops, and is closed. -/
def droppedOnce : List PresenceAction :=
  [.connect 0, .hello 0] ++ fiveSteps 0 ++ [.drop 0, .disconnect 0]

/-- The participant returns when the dropped socket has been handled, and leaves again;
    only then is the partner told. -/
def orderlyReturn : List PresenceAction :=
  droppedOnce ++ fiveSteps 0 ++ [.watch 0 false true, .connect 0, .hello 1] ++ fiveSteps 1
    ++ [.pass 25000000000, .watch 0 false true, .drop 1, .disconnect 1] ++ fiveSteps 1
    ++ [.watch 1 false true, .pass 50000000000, .watch 1 false true, .watch 1 false true]

theorem orderlyReturn_safe :
    (orderlyReturn.foldl (PresenceState.step usualSettings) (PresenceState.start 0)).notices.length = 1 ∧
    ∀ v ∈ visited (PresenceState.step usualSettings) (PresenceState.start 0) orderlyReturn,
      Safe usualSettings v.1 v.2 :=
  ⟨by decide +kernel,
    present_never_reported usualSettings 0 orderlyReturn (by decide +kernel) (by decide +kernel)⟩

/-- The participant returns between the dropped socket's look at the claim and its
    storing of a generation. -/
def overlappingReturn : List PresenceAction :=
  droppedOnce ++ [.socket 0 false true, .connect 0, .hello 1] ++ fiveSteps 1
    ++ List.replicate 4 (.socket 0 false true)
    ++ [.watch 0 false true, .pass 25000000000, .watch 0 false true]

theorem present_reported : ¬ ∀ v ∈ visited (PresenceState.step usualSettings)
    (PresenceState.start 0) (overlappingReturn ++ [.watch 0 false true]),
    Safe usualSettings v.1 v.2 := by
  intro safe
  let s := overlappingReturn.foldl (PresenceState.step usualSettings) (PresenceState.start 0)
  have member : (s, PresenceAction.watch 0 false true) ∈ visited (PresenceState.step usualSettings)
      (PresenceState.start 0) (overlappingReturn ++ [.watch 0 false true]) :=
    mem_visited.mpr ⟨overlappingReturn, [], rfl, rfl⟩
  have sends : (s.step usualSettings (.watch 0 false true)).notices ≠ s.notices := by decide +kernel
  have present : ∃ socket ∈ s.sockets, socket.Protects usualSettings s.clock := by decide +kernel
  obtain ⟨socket, inSockets, protects⟩ := present
  exact safe _ member sends socket inSockets protects

end EventPlatform.Presence
