import EventPlatform.CallRoom.Controller

/-! # A late assignment opens its media

`server.round_start` opens the transport there is.  When the handler of
`server.pairing` has still to create or to prepare the transport, it is left
preconnected and muted. -/

namespace EventPlatform.CallRoom

open EventPlatform.Lib

/-! ## What a handler may still do to the transport -/

namespace FailoverMediaTransport

def Assigned (t : FailoverMediaTransport) (p : Partner) : Prop :=
  t.roomId = p.roomId ∧ t.partnerId = p.partnerId

def Open (t : FailoverMediaTransport) : Prop := t.state = .open_ ∧ t.isMuted = false

/-- A forced fallback is not activated. -/
def KeepsPath (t : FailoverMediaTransport) : Prop :=
  t.forceFallbackOnOpen = false ∨ t.usingFallback = true ∨
    fallbackAllowedForRoom t.roomId t.selectedRoomId = false

instance (t : FailoverMediaTransport) (p : Partner) : Decidable (t.Assigned p) :=
  inferInstanceAs (Decidable (_ ∧ _))

instance (t : FailoverMediaTransport) : Decidable t.Open := inferInstanceAs (Decidable (_ ∧ _))

instance (t : FailoverMediaTransport) : Decidable t.KeepsPath :=
  inferInstanceAs (Decidable (_ ∨ _ ∨ _))

end FailoverMediaTransport

/-- The call will not change the transport. -/
def Call.Quiet (t : FailoverMediaTransport) : Call → Prop
  | .settling => True
  | .opening => t.KeepsPath
  | _ => False

instance (t : FailoverMediaTransport) : DecidablePred (Call.Quiet t)
  | .settling => isTrue trivial
  | .opening => inferInstanceAs (Decidable t.KeepsPath)
  | .restoring _ _ | .relayMedia _ | .relayPreconnect _ | .relayOpen => isFalse id

/-- The handler will not change the transport at `k`, which is `t`. -/
def Handler.Quiet (k : Nat) (t : FailoverMediaTransport) : Handler → Prop
  | .iceServers | .localMedia => t.active.pc = true
  | .acquiring => False
  | .preparing i call | .starting i call => i = k → call.Quiet t
  | .offering | .ending | .failed | .finished => True

instance (k : Nat) (t : FailoverMediaTransport) : DecidablePred (Handler.Quiet k t)
  | .iceServers | .localMedia => inferInstanceAs (Decidable (t.active.pc = true))
  | .acquiring => isFalse id
  | .preparing i call | .starting i call => inferInstanceAs (Decidable (i = k → call.Quiet t))
  | .offering | .ending | .failed | .finished => isTrue trivial

/-- The transport is assigned to the partner, and no handler under way will
    change it. -/
def Settled (s : CallRoomController) (p : Partner) : Prop :=
  ∃ k t, s.negotiator = some k ∧ s.transports[k]? = some t ∧ t.Assigned p ∧
    ∀ handler ∈ s.handlers, handler.Quiet k t

/-- The controller has an open transport for the partner. -/
def AssignmentOpen (s : CallRoomController) (p : Partner) : Prop :=
  ∃ t, s.transport = some t ∧ t.Assigned p ∧ t.Open

/-! ## Calls on the transport -/

variable {t : FailoverMediaTransport} {p : Partner}

/-- The transport still serves whom it served. -/
structure Follows (t t' : FailoverMediaTransport) : Prop where
  roomId : t'.roomId = t.roomId
  partnerId : t'.partnerId = t.partnerId
  pc : t.active.pc = true → t'.active.pc = true
  keepsPath : t.KeepsPath → t'.KeepsPath

theorem Follows.assigned {t' : FailoverMediaTransport} (follows : Follows t t')
    (assigned : t.Assigned p) : t'.Assigned p :=
  ⟨follows.roomId.trans assigned.1, follows.partnerId.trans assigned.2⟩

theorem Follows.callQuiet {t' : FailoverMediaTransport} (follows : Follows t t') {call : Call}
    (quiet : call.Quiet t) : call.Quiet t' := by
  cases call with
  | opening => exact follows.keepsPath quiet
  | _ => exact quiet

theorem Follows.quiet {t' : FailoverMediaTransport} (follows : Follows t t') {k : Nat}
    {handler : Handler} (quiet : handler.Quiet k t) : handler.Quiet k t' := by
  cases handler with
  | iceServers | localMedia => exact follows.pc quiet
  | preparing i call | starting i call => exact fun same => follows.callQuiet (quiet same)
  | _ => exact quiet

theorem follows_open (t : FailoverMediaTransport) : Follows t t.open_.1 :=
  ⟨rfl, rfl, fun pc => pc, fun keeps => keeps⟩

theorem follows_switched (t : FailoverMediaTransport) (switching : Bool) :
    Follows t { t with switching } :=
  ⟨rfl, rfl, fun pc => pc, fun keeps => keeps⟩

theorem resume_quiet {call : Call} (quiet : call.Quiet t) : t.resume call = (t, none) := by
  cases call with
  | settling => rfl
  | opening =>
    simp only [FailoverMediaTransport.resume]
    split
    next force =>
      cases quiet with
      | inl forced => rw [forced] at force; cases force
      | inr keeps =>
        cases keeps with
        | inl relay => simp [FailoverMediaTransport.activateFallback, relay]
        | inr refused => simp [FailoverMediaTransport.activateFallback, refused]
    next => rfl
  | restoring | relayMedia | relayPreconnect | relayOpen => exact quiet.elim

/-- What the call of `open` for the partner has reached. -/
def Call.Opens (t : FailoverMediaTransport) (p : Partner) : Call → Prop
  | .opening | .relayOpen => t.Open
  | .relayMedia snap | .relayPreconnect snap =>
    snap.prevState = .open_ ∧ snap.roomId = p.roomId ∧ snap.partnerId = p.partnerId
  | .settling | .restoring _ _ => False

/-- What the call of `open` leaves behind when it goes on: an open transport if it
    returns. -/
def OpensNext (p : Partner) (r : FailoverMediaTransport × Option Call) : Prop :=
  match r.2 with
  | some call => call.Opens r.1 p
  | none => r.1.Open

theorem reopen_opens {snap : Snapshot} (wasOpen : snap.prevState = .open_) :
    Follows t (t.reopen snap).1 ∧ OpensNext p (t.reopen snap) := by
  simp only [FailoverMediaTransport.reopen, if_pos wasOpen]
  exact ⟨follows_open t, rfl, rfl⟩

theorem activateFallback_opens (assigned : t.Assigned p) (isOpen : t.Open) :
    Follows t t.activateFallback.1 ∧ OpensNext p t.activateFallback := by
  have unchanged : Follows t t ∧ OpensNext p (t, none) :=
    ⟨⟨rfl, rfl, fun pc => pc, fun keeps => keeps⟩, isOpen⟩
  simp only [FailoverMediaTransport.activateFallback]
  split
  next => exact unchanged
  next =>
    split
    next =>
      have room : (t.detachActive.spawn t.roomId t.partnerId).roomId = t.roomId := by
        simp only [FailoverMediaTransport.spawn, PerfectNegotiator.create]
        split <;> rfl
      have partner : (t.detachActive.spawn t.roomId t.partnerId).partnerId = t.partnerId := by
        simp only [FailoverMediaTransport.spawn, PerfectNegotiator.create]
        split <;> rfl
      exact ⟨⟨room, partner, fun _ => rfl, fun _ => .inr (.inl rfl)⟩, isOpen.1, assigned⟩
    next => exact unchanged

/-- One step of the call of `open`. -/
theorem resume_opens {call : Call} (assigned : t.Assigned p) (opens : call.Opens t p) :
    Follows t (t.resume call).1 ∧ OpensNext p (t.resume call) := by
  cases call with
  | settling | restoring => exact opens.elim
  | opening =>
    simp only [FailoverMediaTransport.resume]
    split
    next => exact activateFallback_opens assigned opens
    next => exact ⟨⟨rfl, rfl, fun pc => pc, fun keeps => keeps⟩, opens⟩
  | relayMedia snap =>
    simp only [FailoverMediaTransport.resume]
    split
    next =>
      obtain ⟨wasOpen, room, partner⟩ := opens
      -- the relay is preconnected to the room of the snapshot, which is the assigned one
      have follows : Follows t { t with active := t.active.preconnect snap.roomId snap.partnerId } := by
        refine ⟨room.trans assigned.1.symm, partner.trans assigned.2.symm, fun pc => pc, ?_⟩
        intro keeps
        show _ ∨ _ ∨ fallbackAllowedForRoom snap.roomId t.selectedRoomId = false
        rw [room, ← assigned.1]
        exact keeps
      exact ⟨follows, wasOpen, room, partner⟩
    next => exact reopen_opens opens.1
  | relayPreconnect snap => exact reopen_opens opens.1
  | relayOpen => exact ⟨follows_switched t false, opens⟩

/-! ## Steps of the controller -/

variable {s : CallRoomController} {k i : Nat} {handler : Handler}

/-- The transport at `k` is the controller's, and it serves the partner. -/
structure Holds (p : Partner) (k : Nat) (t : FailoverMediaTransport) (s : CallRoomController) :
    Prop where
  negotiator : s.negotiator = some k
  transport : s.transports[k]? = some t
  assigned : t.Assigned p
  partner : s.partner = none ∨ s.partner = some p

theorem Holds.transport_eq (holds : Holds p k t s) : s.transport = some t := by
  simp [CallRoomController.transport, holds.negotiator, holds.transport]

theorem Holds.goto (holds : Holds p k t s) (i : Nat) (handler : Handler) :
    Holds p k t (s.goto i handler) :=
  ⟨holds.negotiator, holds.transport, holds.assigned, holds.partner⟩

theorem Holds.setTransport (holds : Holds p k t s) {t' : FailoverMediaTransport}
    (follows : Follows t t') : Holds p k t' (s.setTransport k t') := by
  refine ⟨holds.negotiator, ?_, follows.assigned holds.assigned, holds.partner⟩
  have bound : k < s.transports.length := (List.getElem?_eq_some_iff.mp holds.transport).1
  show (s.transports.set k t')[k]? = some t'
  simp [bound]

/-- A call on another transport, or one that changes nothing. -/
theorem Holds.setOther (holds : Holds p k t s) {j : Nat} {t' : FailoverMediaTransport}
    (keeps : j = k → t' = t) : Holds p k t (s.setTransport j t') := by
  refine ⟨holds.negotiator, ?_, holds.assigned, holds.partner⟩
  show (s.transports.set j t')[k]? = some t
  rw [List.getElem?_set]
  split
  next same =>
    have bound : k < s.transports.length := (List.getElem?_eq_some_iff.mp holds.transport).1
    rw [if_pos (by omega), keeps same]
  next => exact holds.transport

theorem offer_goto (s : CallRoomController) (i : Nat) :
    ∃ handler, s.offer i = s.goto i handler ∧ ∀ k t, handler.Quiet k t := by
  simp only [CallRoomController.offer]
  cases s.partner with
  | none => exact ⟨.failed, rfl, fun _ _ => trivial⟩
  | some partner =>
    simp only
    split
    next =>
      split
      next => exact ⟨.offering, rfl, fun _ _ => trivial⟩
      next => exact ⟨.failed, rfl, fun _ _ => trivial⟩
    next => exact ⟨.finished, rfl, fun _ _ => trivial⟩

/-- A handler that leaves the transport alone finds its assignment made, or no
    partner any more. -/
theorem assign_goto (holds : Holds p k t s) (pc : t.active.pc = true) (i : Nat) :
    ∃ handler, s.assign i = s.goto i handler ∧ handler.Quiet k t := by
  simp only [CallRoomController.assign]
  rw [holds.negotiator, holds.transport_eq]
  cases holds.partner with
  | inl gone => exact ⟨.failed, by rw [gone], trivial⟩
  | inr partner =>
    have same : s.isSamePartnerAssignment = true := by
      simp [CallRoomController.isSamePartnerAssignment, holds.transport_eq, partner, pc,
        holds.assigned.1, holds.assigned.2]
    exact ⟨.finished, by simp only [partner, if_pos same], trivial⟩

/-- A quiet call goes on. -/
theorem Holds.resumeCall (holds : Holds p k t s) {j : Nat} {call : Call}
    (quiet : j = k → call.Quiet t) {t' : FailoverMediaTransport} (held : s.transports[j]? = some t') :
    Holds p k t (s.setTransport j (t'.resume call).1) ∧ (j = k → (t'.resume call).2 = none) := by
  have keeps : j = k → t'.resume call = (t, none) := by
    rintro rfl
    rw [Option.some.inj (held.symm.trans holds.transport)]
    exact resume_quiet (quiet rfl)
  exact ⟨holds.setOther fun same => congrArg Prod.fst (keeps same),
    fun same => congrArg Prod.snd (keeps same)⟩

/-- What a quiet handler does when it goes on. -/
theorem resume_quiet_handler (holds : Holds p k t s) (quiet : handler.Quiet k t)
    (here : s.handlers[i]? = some handler) :
    Holds p k t (s.resume i handler) ∧
      ∃ next, (s.resume i handler).handlers = s.handlers.set i next ∧ next.Quiet k t := by
  have unchanged : s.handlers = s.handlers.set i handler := by
    obtain ⟨bound, rfl⟩ := List.getElem?_eq_some_iff.mp here
    exact (List.set_getElem_self bound).symm
  cases handler with
  | iceServers => exact ⟨holds.goto i _, .localMedia, rfl, quiet⟩
  | localMedia =>
    obtain ⟨next, goes, calm⟩ := assign_goto holds quiet i
    simp only [CallRoomController.resume, goes]
    exact ⟨holds.goto i next, next, rfl, calm⟩
  | acquiring => exact quiet.elim
  | offering => exact ⟨holds.goto i _, .finished, rfl, trivial⟩
  | ending =>
    exact ⟨⟨holds.negotiator, holds.transport, holds.assigned, .inl rfl⟩, .finished, rfl, trivial⟩
  | failed | finished => exact ⟨holds, _, unchanged, trivial⟩
  | preparing j call =>
    simp only [CallRoomController.resume]
    cases held : s.transports[j]? with
    | none => exact ⟨holds, _, unchanged, quiet⟩
    | some t' =>
      obtain ⟨after, returns⟩ := holds.resumeCall quiet held
      simp only
      cases result : (t'.resume call).2 with
      | none =>
        obtain ⟨next, goes, calm⟩ := offer_goto (s.setTransport j (t'.resume call).1) i
        simp only [goes]
        exact ⟨after.goto i next, next, rfl, calm k t⟩
      | some call' =>
        -- a call that is still going on is not that of `k`, which returns at once
        have other : j ≠ k := fun same => by rw [returns same] at result; cases result
        exact ⟨after.goto i _, _, rfl, fun same => absurd same other⟩
  | starting j call =>
    simp only [CallRoomController.resume]
    cases held : s.transports[j]? with
    | none => exact ⟨holds, _, unchanged, quiet⟩
    | some t' =>
      obtain ⟨after, returns⟩ := holds.resumeCall quiet held
      simp only
      cases result : (t'.resume call).2 with
      | none => exact ⟨after.goto i _, .finished, rfl, trivial⟩
      | some call' =>
        have other : j ≠ k := fun same => by rw [returns same] at result; cases result
        exact ⟨after.goto i _, _, rfl, fun same => absurd same other⟩

/-! ## The handler of `server.round_start` -/

/-- The handler `b` opens the transport, and nobody else changes it. -/
structure Serving (p : Partner) (k b : Nat) (t : FailoverMediaTransport) (s : CallRoomController) :
    Prop where
  holds : Holds p k t s
  others : ∀ i handler, s.handlers[i]? = some handler → i ≠ b → handler.Quiet k t
  own : s.handlers[b]? = some .finished ∧ t.Open ∨
    ∃ call, s.handlers[b]? = some (.starting k call) ∧ call.Opens t p

/-- Another handler goes on. -/
theorem Serving.other {b : Nat} (serving : Serving p k b t s) (different : i ≠ b)
    (here : s.handlers[i]? = some handler) : Serving p k b t (s.resume i handler) := by
  have quiet := serving.others i handler here different
  obtain ⟨holds, next, handlers, calm⟩ := resume_quiet_handler serving.holds quiet here
  refine ⟨holds, ?_, ?_⟩
  · intro j other there notOwn
    rw [handlers, List.getElem?_set] at there
    split at there
    next =>
      split at there
      next => cases there; exact calm
      next => cases there
    next => exact serving.others j other there notOwn
  · rw [handlers, List.getElem?_set_ne different]
    exact serving.own

/-- The call of `open` goes on. -/
theorem Serving.step_own {b : Nat} (serving : Serving p k b t s)
    (here : s.handlers[b]? = some handler) : ∃ t', Serving p k b t' (s.resume b handler) := by
  have bound : b < s.handlers.length := (List.getElem?_eq_some_iff.mp here).1
  cases serving.own with
  | inl done =>
    rw [done.1] at here
    cases here
    exact ⟨t, serving⟩
  | inr under =>
    obtain ⟨call, starting, opens⟩ := under
    rw [starting] at here
    cases here
    obtain ⟨follows, next⟩ := resume_opens serving.holds.assigned opens
    have holds := serving.holds.setTransport follows
    -- the other handlers wait for what they waited for before
    have others : ∀ handler' i handler, (s.handlers.set b handler')[i]? = some handler → i ≠ b →
        handler.Quiet k (t.resume call).1 := by
      intro handler' i handler there notOwn
      rw [List.getElem?_set_ne notOwn.symm] at there
      exact follows.quiet (serving.others i handler there notOwn)
    refine ⟨(t.resume call).1, ?_⟩
    simp only [CallRoomController.resume, serving.holds.transport]
    cases result : (t.resume call).2 with
    | none =>
      simp only [OpensNext, result] at next
      exact ⟨holds.goto b _, others .finished, .inl ⟨List.getElem?_set_self bound, next⟩⟩
    | some call' =>
      simp only [OpensNext, result] at next
      exact ⟨holds.goto b _, others _, .inr ⟨call', List.getElem?_set_self bound, next⟩⟩

/-- No message is delivered. -/
def RoomEvent.Local : RoomEvent → Prop
  | .deliver _ => False
  | _ => True

instance : DecidablePred RoomEvent.Local
  | .deliver _ => isFalse id
  | .openSocket | .resume _ => isTrue trivial

theorem Serving.step {b : Nat} (serving : Serving p k b t s) {event : RoomEvent}
    (local_ : event.Local) : ∃ t', Serving p k b t' (s.step event) := by
  cases event with
  | openSocket =>
    obtain ⟨holds, others, own⟩ := serving
    exact ⟨t, ⟨holds.negotiator, holds.transport, holds.assigned, holds.partner⟩, others, own⟩
  | deliver message => exact local_.elim
  | resume i =>
    simp only [CallRoomController.step]
    cases here : s.handlers[i]? with
    | none => exact ⟨t, serving⟩
    | some handler =>
      by_cases own : i = b
      · subst own
        exact serving.step_own here
      · exact ⟨t, serving.other own here⟩

theorem onRoundStart_open (negotiator : s.negotiator = some k) (transport : s.transports[k]? = some t)
    (roundNumber : Option Int) :
    s.onRoundStart roundNumber =
      ({ s with roundNumber := roundNumber <|> s.roundNumber }.setTransport k t.open_.1).begin_
        (.starting k .opening) := by
  have present : CallRoomController.transport { s with roundNumber := roundNumber <|> s.roundNumber }
      = some t := by
    simp [CallRoomController.transport, negotiator, transport]
  simp only [CallRoomController.onRoundStart, present]
  rw [negotiator]
  rfl

/-- `server.round_start` is delivered when the assignment is settled. -/
theorem Settled.serving (settled : Settled s p) (partner : s.partner = none ∨ s.partner = some p)
    (receives : s.receiving = true) (roundNumber : Option Int) :
    ∃ k t, Serving p k s.handlers.length t (s.step (.deliver (.roundStart roundNumber))) := by
  obtain ⟨k, t, negotiator, transport, assigned, quiet⟩ := settled
  have holds : Holds p k t s := ⟨negotiator, transport, assigned, partner⟩
  have opened := holds.setTransport (follows_open t)
  refine ⟨k, t.open_.1, ?_⟩
  simp only [CallRoomController.step, if_pos receives, CallRoomController.handleMessage,
    onRoundStart_open negotiator transport]
  refine ⟨⟨negotiator, opened.transport, opened.assigned, partner⟩, ?_, .inr ⟨.opening, ?_, rfl, rfl⟩⟩
  · intro i handler there notOwn
    change (s.handlers ++ [Handler.starting k .opening])[i]? = some handler at there
    -- the handler of this message is the last one, and the others are the old ones
    have old : handler ∈ s.handlers := by
      rw [List.getElem?_append] at there
      split at there
      next => exact List.mem_of_getElem? there
      next =>
        have beyond : [Handler.starting k .opening].length ≤ i - s.handlers.length := by
          simp only [List.length_singleton]
          omega
        rw [List.getElem?_eq_none beyond] at there
        cases there
    exact (follows_open t).quiet (quiet handler old)
  · show (s.handlers ++ [Handler.starting k .opening])[s.handlers.length]? = _
    simp

/-! ## Runs -/

/-- No later assignment is delivered. -/
def RoomEvent.KeepsPartner : RoomEvent → Prop
  | .deliver (.pairing _) => False
  | _ => True

instance : DecidablePred RoomEvent.KeepsPartner
  | .deliver (.pairing _) => isFalse id
  | .deliver (.roundStart _) | .deliver (.roundEnd _) | .deliver .eventEnd
  | .deliver .sessionReplaced | .deliver .other | .openSocket | .resume _ => isTrue trivial

theorem assign_partner (s : CallRoomController) (i : Nat) : (s.assign i).partner = s.partner := by
  simp only [CallRoomController.assign]
  split
  next => split <;> rfl
  next => rfl
  next => rfl

theorem preconnect_partner (s : CallRoomController) (i : Nat) :
    (s.preconnect i).partner = s.partner := by
  simp only [CallRoomController.preconnect]
  split <;> rfl

theorem offer_partner (s : CallRoomController) (i : Nat) : (s.offer i).partner = s.partner := by
  obtain ⟨handler, goes, _⟩ := offer_goto s i
  rw [goes]
  rfl

/-- Only `_onRoundEnd` forgets the partner. -/
theorem resume_partner (s : CallRoomController) (i : Nat) (handler : Handler) :
    (s.resume i handler).partner = none ∨ (s.resume i handler).partner = s.partner := by
  cases handler with
  | ending => exact .inl rfl
  | iceServers | offering | failed | finished => exact .inr rfl
  | localMedia => exact .inr (assign_partner s i)
  | acquiring => exact .inr (preconnect_partner s i)
  | preparing k call =>
    right
    simp only [CallRoomController.resume]
    split
    next => rfl
    next =>
      split
      next => rfl
      next => exact offer_partner _ i
  | starting k call =>
    right
    simp only [CallRoomController.resume]
    split
    next => rfl
    next => split <;> rfl

theorem step_partner (partner : s.partner = none ∨ s.partner = some p) {event : RoomEvent}
    (keeps : event.KeepsPartner) :
    (s.step event).partner = none ∨ (s.step event).partner = some p := by
  -- no event but a pairing sets the partner
  have unchanged : ∀ s' : CallRoomController, s'.partner = none ∨ s'.partner = s.partner →
      s'.partner = none ∨ s'.partner = some p := by
    intro s' change
    cases change with
    | inl gone => exact .inl gone
    | inr same => rwa [same]
  apply unchanged
  cases event with
  | openSocket => exact .inr rfl
  | resume i =>
    simp only [CallRoomController.step]
    split
    next => exact .inr rfl
    next handler _ => exact resume_partner s i handler
  | deliver message =>
    simp only [CallRoomController.step]
    split
    next =>
      cases message with
      | pairing payload => exact keeps.elim
      | roundStart roundNumber =>
        simp only [CallRoomController.handleMessage, CallRoomController.onRoundStart]
        split <;> exact .inr rfl
      | roundEnd roundNumber =>
        simp only [CallRoomController.handleMessage, CallRoomController.onRoundEnd]
        split
        next => exact .inr rfl
        next => exact .inl rfl
      | eventEnd | sessionReplaced =>
        simp only [CallRoomController.handleMessage, CallRoomController.leaveRoom]
        split <;> exact .inr rfl
      | other => exact .inr rfl
    next => exact .inr rfl

/-- The controller when `server.round_start` arrives: `server.pairing` has been
    delivered, and the events between the two have happened. -/
def beforeRoundStart (s : CallRoomController) (p : Partner) (between : List RoomEvent) :
    CallRoomController :=
  (s.step (.deliver (.pairing p))).run between

def afterRoundStart (s : CallRoomController) (p : Partner) (between : List RoomEvent)
    (roundNumber : Option Int) (after : List RoomEvent) : CallRoomController :=
  ((beforeRoundStart s p between).step (.deliver (.roundStart roundNumber))).run after

/-- Both messages are delivered, with no assignment between them and no message
    after them.  Once the handler of `server.round_start` has finished, the
    transport is open for the partner if the assignment was settled when it began. -/
theorem late_assignment_opens (s : CallRoomController) (p : Partner) (between : List RoomEvent)
    (roundNumber : Option Int) (after : List RoomEvent) (received : s.receiving = true)
    (stillReceived : (beforeRoundStart s p between).receiving = true)
    (sameAssignment : ∀ event ∈ between, event.KeepsPartner)
    (lastMessage : ∀ event ∈ after, event.Local)
    (finished : (afterRoundStart s p between roundNumber after).handlers[
      (beforeRoundStart s p between).handlers.length]? = some .finished)
    (settled : Settled (beforeRoundStart s p between) p) :
    AssignmentOpen (afterRoundStart s p between roundNumber after) p := by
  have assigned : (s.step (.deliver (.pairing p))).partner = some p := by
    simp only [CallRoomController.step, if_pos received]
    rfl
  let Kept (s : CallRoomController) : Prop := s.partner = none ∨ s.partner = some p
  have keeps : ∀ s' event, Kept s' → event.KeepsPartner → Kept (s'.step event) :=
    fun _ _ partner keeps => step_partner partner keeps
  have partner : Kept (beforeRoundStart s p between) :=
    foldl_preserves keeps (.inr assigned) sameAssignment
  obtain ⟨k, t, serving⟩ := settled.serving partner stillReceived roundNumber
  -- From here on only the handler of `server.round_start` changes the transport.
  let Served (s' : CallRoomController) : Prop :=
    ∃ t, Serving p k (beforeRoundStart s p between).handlers.length t s'
  have preserved : ∀ s' event, Served s' → event.Local → Served (s'.step event) :=
    fun _ _ ⟨_, serving⟩ local_ => serving.step local_
  have ends : Served (afterRoundStart s p between roundNumber after) :=
    foldl_preserves preserved ⟨t, serving⟩ lastMessage
  obtain ⟨t, holds, _, own⟩ := ends
  cases own with
  | inl done => exact ⟨t, holds.transport_eq, holds.assigned, done.2⟩
  | inr under =>
    obtain ⟨call, starting, _⟩ := under
    rw [finished] at starting
    cases starting

/-! ## A round that starts with and after its assignment -/

def newRoom : CallRoomController := (CallRoomController.create "" false).run [.openSocket]

def firstPartner : Partner := ⟨"ada", "room-1", 1, true⟩

/-- The handler of `server.pairing` gets as far as the call of `preconnect`. -/
def preconnected : List RoomEvent := [.resume 0, .resume 0, .resume 0]

theorem preconnected_opens : AssignmentOpen
    (afterRoundStart newRoom firstPartner preconnected (some 1) [.resume 1, .resume 0, .resume 0])
    firstPartner := by
  apply late_assignment_opens
  · rfl
  · rfl
  · decide
  · decide
  · rfl
  · exact ⟨0, _, rfl, rfl, ⟨rfl, rfl⟩, by decide⟩

/-- The two messages of a reconnect snapshot arrive back to back: both handlers
    finish, and the transport stays muted. -/
theorem snapshot_stays_muted :
    let s := afterRoundStart newRoom firstPartner [] (some 1)
      [.resume 0, .resume 0, .resume 0, .resume 0, .resume 0]
    s.handlers = [.finished, .finished] ∧ ¬ AssignmentOpen s firstPartner := by
  refine ⟨rfl, ?_⟩
  rintro ⟨t, transport, _, isOpen, _⟩
  cases transport
  cases isOpen

end EventPlatform.CallRoom
