import EventPlatform.Media.PairIsolation

/-! # Failures and their answers

What the transport makes of a failure that it hears of: the relay takes over, or the
listeners are told.  A fallback that raises on the way leaves `_switching` set. -/

namespace EventPlatform.Media

open EventPlatform.Lib

/-- The transport when it hears of a failure, and when it is done with it. -/
structure Failure where
  before : FailoverMediaTransport
  after : FailoverMediaTransport

/-- The relay is in the room of the adapter that has failed. -/
structure TakenOver (t u : FailoverMediaTransport) : Prop where
  relay : u.relay.isSome = true
  usingFallback : u.usingFallback = true
  room : u.currentRoomId = t.currentRoomId
  partner : u.currentPartnerId = t.currentPartnerId

/-- The listeners have heard FAILED. -/
def Told (t u : FailoverMediaTransport) : Prop :=
  ∃ told, u.emitted = t.emitted ++ told ∧ ∃ signal ∈ told, signal.event = .failed

def Failure.Answered (f : Failure) : Prop := TakenOver f.before f.after ∨ Told f.before f.after

namespace FailoverMediaTransport

/-! ## The failures of a step -/

instance decidableActivates (t : FailoverMediaTransport) : Decidable (Activates t) :=
  decidable_of_iff (t.switching = false ∧ t.usingFallback = false ∧
    fallbackAllowedForRoom t.currentRoomId t.selectedRoomId = true)
    ⟨fun ⟨idle, direct, allowed⟩ => ⟨idle, direct, allowed⟩, fun activates =>
      ⟨activates.idle, activates.direct, activates.allowed⟩⟩

/-- The events that the transport hears of, each in its state at the time. -/
def heardBy (onSignal : Signal → FailoverMediaTransport → Outcome Unit) (byRelay : Bool) :
    List Signal → FailoverMediaTransport → List (Signal × FailoverMediaTransport)
  | [], _ => []
  | signal :: rest, t =>
    if t.hears byRelay then
      (signal, t) :: match (onSignal signal t).result with
        | none => []
        | some _ => heardBy onSignal byRelay rest (onSignal signal t).after
    else []

/-- The events that a call emits. -/
def callSignals (conduct : Conduct)
    (method : LifecycleAdapter → SharedLocalMedia → LifecycleAdapter × SharedLocalMedia) (announces : Bool)
    (t : FailoverMediaTransport) : List Signal :=
  (if announces && conduct.connects then [(method t.active t.sharedMedia).1.connectedSignal] else []) ++ conduct.emits

/-- The events of a call of the active adapter that the transport hears of. -/
def callHears (onSignal : Signal → FailoverMediaTransport → Outcome Unit) (conduct : Conduct)
    (method : LifecycleAdapter → SharedLocalMedia → LifecycleAdapter × SharedLocalMedia)
    (announces : Bool) (t : FailoverMediaTransport) : List (Signal × FailoverMediaTransport) :=
  if conduct.raises = some .atOnce then []
  else heardBy onSignal (afterMethod method t).relay.isSome (callSignals conduct method announces t)
    (afterMethod method t)

/-- The events of the relay while it goes to its room. -/
def roomHears (fb : FallbackConduct) (roomId partnerId : Option String) (wasOpen : Bool)
    (t : FailoverMediaTransport) : List (Signal × FailoverMediaTransport) :=
  if truthy roomId && truthy partnerId then
    let enter := LifecycleAdapter.preconnect (roomId.getD "") (partnerId.getD "")
    let entered := callActive forwardSwitching fb.preconnect enter false t
    callHears forwardSwitching fb.preconnect enter false t ++
      if wasOpen && entered.result.isSome then
        callHears forwardSwitching fb.opening LifecycleAdapter.open_ true entered.after
      else []
  else []

/-- The failures of the relay while `_switching` is set. -/
def failuresWhileSwitching (fb : FallbackConduct) (reason : String) (t : FailoverMediaTransport) : List Failure :=
  if Activates t ∧ fb.factoryRaises = false then
    ((roomHears fb t.currentRoomId t.currentPartnerId (t.state = .open_) (installRelay (dropActive reason t))).filter
      (·.1.event = .failed)).map fun (signal, u) => ⟨u, (forwardSwitching signal u).after⟩
  else []

/-- A failure, and those of the relay that it brings up. -/
def failuresOf (fb : FallbackConduct) : Signal × FailoverMediaTransport → List Failure
  | (signal, t) =>
    if signal.event = .failed then
      ⟨t, (forward fb signal t).after⟩ :: failuresWhileSwitching fb signal.reason t.clearEscalationTimer
    else []

def failures (t : FailoverMediaTransport) : TransportAction → List Failure
  | .preconnect roomId partnerId conduct fb =>
    (callHears (forward fb) conduct (LifecycleAdapter.preconnect roomId partnerId) false
      (restorePrimaryIfNeeded roomId { t.clearEscalationTimer with primaryConnected := false })).flatMap (failuresOf fb)
  | .open_ conduct fb =>
    (callHears (forward fb) conduct LifecycleAdapter.open_ true { t with primaryConnected := false }).flatMap
      (failuresOf fb)
  | .switchPartner newRoomId newPartnerId conduct fb =>
    (callHears (forward fb) conduct (LifecycleAdapter.switchPartner newRoomId newPartnerId) true
      (restorePrimaryIfNeeded newRoomId { t.clearEscalationTimer with primaryConnected := false })).flatMap
      (failuresOf fb)
  | .leave => []
  | .forceFallback fb => failuresWhileSwitching fb "TEST_TRIGGER" t
  | .emits signal fb => if t.active.bound then failuresOf fb (signal, t) else []
  | .timer k fb =>
    match t.scheduled[k]? with
    | none => []
    | some gen =>
      if gen ≠ t.escalationGeneration ∨ (t.usingFallback || t.switching || t.primaryConnected) then []
      else
        let t := { t with scheduled := t.scheduled.eraseIdx k }
        ⟨t, onEscalationTimeout fb gen t⟩ :: failuresWhileSwitching fb "ESCALATION_TIMEOUT" t

/-- All failures of the step are answered, and the next one will be. -/
structure StepAnswers (t : FailoverMediaTransport) (action : TransportAction) : Prop where
  answered : ∀ f ∈ t.failures action, f.Answered
  idle : (t.step action).switching = false

end FailoverMediaTransport

/-! ## What spoils a switch -/

/-- The switch in this room and with this partner does not get to its end: the fallback
    raises, or has no partner to go to. -/
structure SpoilsSwitch (t : FailoverMediaTransport) (fb : FallbackConduct) (roomId partnerId : Option String)
    (wasOpen : Bool) : Prop where
  idle : t.switching = false
  direct : t.usingFallback = false
  allowed : fallbackAllowedForRoom roomId t.selectedRoomId = true
  spoils : fb.factoryRaises = true ∨ truthy partnerId = false ∨ fb.preconnect.raises ≠ none ∨
    (wasOpen = true ∧ fb.opening.raises ≠ none)

/-- The steps after which a failure has no answer, or the next one will have none. -/
def Spoils (t : FailoverMediaTransport) : TransportAction → Prop
  | .preconnect roomId partnerId conduct fb =>
    FailsInCall t conduct ∧ SpoilsSwitch t fb (some roomId) (some partnerId) false
  | .open_ conduct fb => FailsInCall t conduct ∧ SpoilsSwitch t fb t.currentRoomId t.currentPartnerId true
  | .switchPartner newRoomId newPartnerId conduct fb =>
    FailsInCall t conduct ∧ SpoilsSwitch t fb (some newRoomId) (some newPartnerId) true
  | .leave => False
  -- without a partner a switch that is asked for strands the relay, but leaves no failure open
  | .forceFallback fb =>
    SpoilsSwitch t fb t.currentRoomId t.currentPartnerId (t.state = .open_) ∧
      (fb.factoryRaises = true ∨ truthy t.currentPartnerId = true)
  | .emits signal fb =>
    t.active.bound = true ∧ signal.event = .failed ∧
      SpoilsSwitch t fb t.currentRoomId t.currentPartnerId (t.state = .open_)
  | .timer k fb =>
    t.scheduled[k]? = some t.escalationGeneration ∧ t.primaryConnected = false ∧
      SpoilsSwitch t fb t.currentRoomId t.currentPartnerId (t.state = .open_)

namespace FailoverMediaTransport

variable {t u v : FailoverMediaTransport} {fb : FallbackConduct} {conduct : Conduct} {signal : Signal}

/-! ## While `_switching` is set -/

theorem forwardSwitching_returns (signal : Signal) (t : FailoverMediaTransport) :
    ∃ u, forwardSwitching signal t = .returns () u ∧ SamePlace t u := by
  refine ⟨(forwardSwitching signal t).after, ?_, forwardSwitching_samePlace signal t⟩
  unfold forwardSwitching forwardWith
  cases signal.event with
  | connected => rfl
  | failed => rfl
  | degraded => rfl
  | stats => rfl

theorem deliverSwitching_returns (byRelay : Bool) (signals : List Signal) (t : FailoverMediaTransport) :
    ∃ u, deliverAll forwardSwitching byRelay signals t = .returns () u ∧ SamePlace t u := by
  induction signals generalizing t with
  | nil => exact ⟨t, rfl, .refl t⟩
  | cons signal rest ih =>
    rw [deliverAll]
    split
    · obtain ⟨u, forwarded, same⟩ := forwardSwitching_returns signal t
      obtain ⟨v, delivered, same'⟩ := ih u
      rw [forwarded, Outcome.returns_andThen]
      exact ⟨v, delivered, same.trans same'⟩
    · exact ⟨t, rfl, .refl t⟩

theorem callActive_runs (onSignal : Signal → FailoverMediaTransport → Outcome Unit)
    (method : LifecycleAdapter → SharedLocalMedia → LifecycleAdapter × SharedLocalMedia) (announces : Bool)
    (t : FailoverMediaTransport) (runs : conduct.raises ≠ some .atOnce) :
    callActive onSignal conduct method announces t =
      (deliverAll onSignal (afterMethod method t).relay.isSome (callSignals conduct method announces t)
        (afterMethod method t)).andThen fun _ u =>
          if conduct.raises = some .atTheEnd then .raises u else .returns () u := by
  unfold callActive
  rw [if_neg runs]
  rfl

theorem callSwitching_returns (method : LifecycleAdapter → SharedLocalMedia → LifecycleAdapter × SharedLocalMedia)
    (quiet : conduct.raises = none) (announces : Bool) (t : FailoverMediaTransport) :
    ∃ u, callActive forwardSwitching conduct method announces t = .returns () u ∧ SamePlace (afterMethod method t) u := by
  obtain ⟨u, delivered, same⟩ := deliverSwitching_returns (afterMethod method t).relay.isSome
    (callSignals conduct method announces t) (afterMethod method t)
  refine ⟨u, ?_, same⟩
  rw [callActive_runs _ _ _ _ (by simp [quiet]), delivered, quiet]
  rfl

/-- A failure of the relay on its way is passed on. -/
theorem forwardSwitching_told (failed : signal.event = .failed) (t : FailoverMediaTransport) :
    Told t (forwardSwitching signal t).after := by
  have passed : (forwardSwitching signal t).after = t.clearEscalationTimer.emit signal := by
    unfold forwardSwitching forwardWith
    rw [failed]
    rfl
  rw [passed]
  exact ⟨[signal], rfl, signal, List.mem_singleton_self signal, failed⟩

theorem answered_whileSwitching {reason : String} :
    ∀ f ∈ failuresWhileSwitching fb reason t, f.Answered := by
  intro f member
  unfold failuresWhileSwitching at member
  split at member
  · obtain ⟨⟨signal, u⟩, heard, rfl⟩ := List.mem_map.mp member
    have failed : signal.event = .failed := by simpa using (List.mem_filter.mp heard).2
    exact .inr (forwardSwitching_told failed u)
  · cases member

/-! ## The switch -/

/-- The relay after `_activate_fallback` has left it. -/
structure Switched (t u : FailoverMediaTransport) : Prop extends TakenOver t u where
  idle : u.switching = false
  deaf : t.relay = none → u.primary.bound = false

theorem dropActive_deaf (reason : String) (direct : t.relay = none) : (dropActive reason t).primary.bound = false := by
  simp [dropActive, closeActiveKeepMedia, setActive, clearEscalationTimer, emit, direct, active, LifecycleAdapter.abandon]

theorem afterMethod_primary {method : LifecycleAdapter → SharedLocalMedia → LifecycleAdapter × SharedLocalMedia}
    (relay : t.relay.isSome = true) : (afterMethod method t).primary = t.primary := by
  unfold afterMethod setActive
  cases up : t.relay with
  | none =>
    rw [up] at relay
    cases relay
  | some adapter => rfl

/-- The relay is in this room, and the primary adapter is left alone. -/
structure InRoom (t : FailoverMediaTransport) (roomId partnerId : Option String) (u : FailoverMediaTransport) : Prop where
  relay : u.relay.isSome = true
  usingFallback : u.usingFallback = t.usingFallback
  room : u.currentRoomId = roomId
  partner : u.currentPartnerId = partnerId
  primary : u.primary = t.primary

theorem InRoom.samePlace {roomId partnerId : Option String} (inRoom : InRoom t roomId partnerId u)
    (same : SamePlace u v) : InRoom t roomId partnerId v where
  relay := by rw [same.relay]; exact inRoom.relay
  usingFallback := same.usingFallback.trans inRoom.usingFallback
  room := same.currentRoomId.trans inRoom.room
  partner := same.currentPartnerId.trans inRoom.partner
  primary := same.primary.trans inRoom.primary

/-- The relay gets to its room. -/
theorem enterRoom_inRoom {roomId partnerId : Option String} {wasOpen : Bool} (knownRoom : truthy roomId = true)
    (knownPartner : truthy partnerId = true) (enters : fb.preconnect.raises = none)
    (opens : wasOpen = true → fb.opening.raises = none) (relay : t.relay.isSome = true) :
    ∃ u, enterRoom fb roomId partnerId wasOpen t = .returns () u ∧ InRoom t roomId partnerId u := by
  obtain ⟨room, rfl⟩ : ∃ room, roomId = some room := by
    cases roomId with
    | none => cases knownRoom
    | some room => exact ⟨room, rfl⟩
  obtain ⟨partner, rfl⟩ : ∃ partner, partnerId = some partner := by
    cases partnerId with
    | none => cases knownPartner
    | some partner => exact ⟨partner, rfl⟩
  have preconnected : InRoom t (some room) (some partner) (afterMethod (LifecycleAdapter.preconnect room partner) t) :=
    { relay := (afterMethod_relay t).trans relay
      usingFallback := afterMethod_usingFallback t
      room := by rw [currentRoomId, afterMethod_active]; rfl
      partner := by rw [currentPartnerId, afterMethod_active]; rfl
      primary := afterMethod_primary relay }
  -- what the callbacks do meanwhile keeps the transport where it is
  obtain ⟨u, called, same⟩ :=
    callSwitching_returns (LifecycleAdapter.preconnect room partner) enters false t
  have entered := preconnected.samePlace same
  unfold enterRoom
  simp only [knownRoom, knownPartner, Bool.and_self, if_true, Option.getD_some, called, Outcome.returns_andThen]
  cases wasOpen with
  | false => exact ⟨u, rfl, entered⟩
  | true =>
    have opened : InRoom t (some room) (some partner) (afterMethod LifecycleAdapter.open_ u) :=
      { relay := (afterMethod_relay u).trans entered.relay
        usingFallback := (afterMethod_usingFallback u).trans entered.usingFallback
        room := by
          rw [currentRoomId, afterMethod_active, LifecycleAdapter.open_currentRoomId]
          exact entered.room
        partner := by
          rw [currentPartnerId, afterMethod_active, LifecycleAdapter.open_currentPartnerId]
          exact entered.partner
        primary := (afterMethod_primary entered.relay).trans entered.primary }
    obtain ⟨v, called', same'⟩ := callSwitching_returns LifecycleAdapter.open_ (opens rfl) true u
    exact ⟨v, by rw [if_pos rfl, called'], opened.samePlace same'⟩

/-- What a switch that is not spoiled comes to. -/
theorem switchToRelay_switched (fb : FallbackConduct) (reason : String) (activates : Activates t)
    (kept : ¬ SpoilsSwitch t fb t.currentRoomId t.currentPartnerId (t.state = .open_)) :
    ∃ u, switchToRelay fb reason t = .returns true u ∧ Switched t u := by
  have spoils : ¬ (fb.factoryRaises = true ∨ truthy t.currentPartnerId = false ∨ fb.preconnect.raises ≠ none ∨
      (decide (t.state = .open_) = true ∧ fb.opening.raises ≠ none)) := fun spoils =>
    kept ⟨activates.idle, activates.direct, activates.allowed, spoils⟩
  simp only [not_or, Bool.not_eq_true, Bool.not_eq_false, not_and, not_not] at spoils
  obtain ⟨built, partner, enters, opens⟩ := spoils
  obtain ⟨_, known⟩ := room_of_allowed activates.allowed
  obtain ⟨u, entered, inRoom⟩ := enterRoom_inRoom (t := installRelay (dropActive reason t)) known partner enters opens rfl
  refine ⟨{ u with switching := false }, ?_, ?_⟩
  · simp [switchToRelay, built, entered]
  · exact
      { relay := inRoom.relay
        usingFallback := inRoom.usingFallback
        room := inRoom.room
        partner := inRoom.partner
        idle := rfl
        deaf := fun direct => (congrArg LifecycleAdapter.bound inRoom.primary).trans (dropActive_deaf reason direct) }

/-! ## A failure that is heard -/

theorem SamePlace.spoils (same : SamePlace t u) {roomId partnerId : Option String} {wasOpen : Bool}
    (spoils : SpoilsSwitch t fb roomId partnerId wasOpen) : SpoilsSwitch u fb roomId partnerId wasOpen where
  idle := same.switching.trans spoils.idle
  direct := same.usingFallback.trans spoils.direct
  allowed := by rw [same.selectedRoomId]; exact spoils.allowed
  spoils := spoils.spoils

/-- A failure here and now spoils the switch. -/
def SpoilsHere (t : FailoverMediaTransport) (fb : FallbackConduct) : Prop :=
  SpoilsSwitch t fb t.currentRoomId t.currentPartnerId (t.state = .open_)

theorem SamePlace.spoilsHere (same : SamePlace t u) (spoils : SpoilsHere u fb) : SpoilsHere t fb := by
  have state : u.state = t.state := congrArg LifecycleAdapter.state same.active
  unfold SpoilsHere at spoils ⊢
  rw [same.currentRoomId, same.currentPartnerId, state] at spoils
  exact same.symm.spoils spoils

theorem Switched.of_samePlace (same : SamePlace t u) (switched : Switched u v) : Switched t v where
  relay := switched.relay
  usingFallback := switched.usingFallback
  room := switched.room.trans same.currentRoomId
  partner := switched.partner.trans same.currentPartnerId
  idle := switched.idle
  deaf := fun direct => switched.deaf (same.relay.trans direct)

theorem forward_failed (failed : signal.event = .failed) :
    forward fb signal t = onActiveFailed fb signal t.clearEscalationTimer := by
  simp only [forward, forwardWith, failed]

theorem forward_told (failed : signal.event = .failed) (stays : ¬ Activates t) :
    forward fb signal t = .returns () (t.clearEscalationTimer.emit signal) := by
  have still : ¬ Activates t.clearEscalationTimer := fun activates =>
    stays ((SamePlace.clearEscalationTimer t).symm.activates activates)
  rw [forward_failed failed, onActiveFailed, activateFallback_of_not_activates still]
  rfl

theorem forward_switched (signal : Signal) (failed : signal.event = .failed) (activates : Activates t) (kept : ¬ SpoilsHere t fb) :
    ∃ u, forward fb signal t = .returns () u ∧ Switched t u := by
  have same := SamePlace.clearEscalationTimer t
  have cleared : Activates t.clearEscalationTimer := same.activates activates
  obtain ⟨u, returned, switched⟩ := switchToRelay_switched fb signal.reason cleared
    fun spoils => kept (same.spoilsHere spoils)
  refine ⟨u, ?_, switched.of_samePlace same⟩
  rw [forward_failed failed, onActiveFailed, activateFallback_of_activates cleared, returned]
  rfl

/-- What a forwarder that is not spoiled does with an event. -/
theorem forward_answers (signal : Signal) (kept : signal.event = .failed → ¬ SpoilsHere t fb) :
    (∀ f ∈ failuresOf fb (signal, t), f.Answered) ∧
      ∃ u, forward fb signal t = .returns () u ∧ (SamePlace t u ∨ Activates t ∧ Switched t u) := by
  by_cases failed : signal.event = .failed
  · have own : ∃ u, forward fb signal t = .returns () u ∧ (SamePlace t u ∨ Activates t ∧ Switched t u) ∧
        Failure.Answered ⟨t, u⟩ := by
      by_cases activates : Activates t
      · obtain ⟨u, returned, switched⟩ := forward_switched signal failed activates (kept failed)
        exact ⟨u, returned, .inr ⟨activates, switched⟩, .inl switched.toTakenOver⟩
      · refine ⟨_, forward_told failed activates, .inl ?_, .inr ?_⟩
        · exact (SamePlace.clearEscalationTimer t).trans (.emit _ signal)
        · exact ⟨[signal], rfl, signal, List.mem_singleton_self signal, failed⟩
    obtain ⟨u, returned, place, answered⟩ := own
    refine ⟨fun f member => ?_, u, returned, place⟩
    rw [failuresOf, if_pos failed, returned] at member
    cases List.mem_cons.mp member with
    | inl here => rw [here]; exact answered
    | inr nested => exact answered_whileSwitching f nested
  · obtain ⟨u, returned, same⟩ := forward_of_not_activates (t := t) fb signal fun now => absurd now failed
    refine ⟨fun f member => ?_, u, returned, .inl same⟩
    rw [failuresOf, if_neg failed] at member
    cases member

/-! ## A call -/

/-- No switch is under way, and a relay that is not in use is not listened to. -/
structure Healthy (t : FailoverMediaTransport) : Prop where
  idle : t.switching = false
  deaf : t.usingFallback = false → t.relay.isSome = true → t.active.bound = false

theorem SamePlace.healthy (same : SamePlace t u) (healthy : Healthy t) : Healthy u where
  idle := same.switching.trans healthy.idle
  deaf := by
    rw [same.usingFallback, same.relay, same.active]
    exact healthy.deaf

theorem Switched.healthy (switched : Switched t u) : Healthy u where
  idle := switched.idle
  deaf := fun direct => by
    rw [switched.usingFallback] at direct
    cases direct

/-- Events that are delivered, up to the failure that brings up the relay. -/
theorem deliverAll_answers {byRelay : Bool} {signals : List Signal} (healthy : Healthy t)
    (source : byRelay = t.relay.isSome)
    (kept : t.active.bound = true → (∃ signal ∈ signals, signal.event = .failed) → ¬ SpoilsHere t fb) :
    (∀ f ∈ (heardBy (forward fb) byRelay signals t).flatMap (failuresOf fb), f.Answered) ∧
      Healthy (deliverAll (forward fb) byRelay signals t).after := by
  induction signals generalizing t with
  | nil => exact ⟨fun f member => (by cases member), healthy⟩
  | cons signal rest ih =>
    by_cases heard : t.hears byRelay = true
    · have bound : t.active.bound = true := by rw [← hears_active, ← source]; exact heard
      obtain ⟨answered, u, returned, place⟩ :=
        forward_answers signal fun failed => kept bound ⟨signal, List.mem_cons_self, failed⟩
      have next : (∀ f ∈ (heardBy (forward fb) byRelay rest u).flatMap (failuresOf fb), f.Answered) ∧
          Healthy (deliverAll (forward fb) byRelay rest u).after := by
        cases place with
        | inl same =>
          refine ih (same.healthy healthy) (source.trans (by rw [same.relay])) fun bound' fails spoils => ?_
          obtain ⟨later, member, failed⟩ := fails
          exact kept bound ⟨later, List.mem_cons_of_mem _ member, failed⟩ (same.spoilsHere spoils)
        | inr both =>
          -- the failed adapter is not listened to any more
          obtain ⟨activates, switched⟩ := both
          have direct : t.relay = none := by
            cases up : t.relay with
            | none => rfl
            | some relay =>
              have deaf := healthy.deaf activates.direct (by rw [up]; rfl)
              rw [deaf] at bound
              cases bound
          have silent : u.hears byRelay = false := by
            rw [source, direct]
            exact switched.deaf direct
          have nothing : heardBy (forward fb) byRelay rest u = [] := by
            cases rest with
            | nil => rfl
            | cons later rest => simp [heardBy, silent]
          have ended : (deliverAll (forward fb) byRelay rest u).after = u := by
            cases rest with
            | nil => rfl
            | cons later rest => simp [deliverAll, silent]
          rw [nothing, ended]
          exact ⟨fun f member => (by cases member), switched.healthy⟩
      constructor
      · intro f member
        rw [heardBy, if_pos heard, returned] at member
        simp only [Outcome.returns, List.flatMap_cons] at member
        cases List.mem_append.mp member with
        | inl here => exact answered f here
        | inr later => exact next.1 f later
      · rw [deliverAll, if_pos heard, returned]
        exact next.2
    · rw [heardBy, if_neg heard, deliverAll, if_neg heard]
      exact ⟨fun f member => (by cases member), healthy⟩

theorem afterMethod_healthy {method : LifecycleAdapter → SharedLocalMedia → LifecycleAdapter × SharedLocalMedia}
    (keepsBound : ∀ a media, (method a media).1.bound = a.bound) (healthy : Healthy t) :
    Healthy (afterMethod method t) where
  idle := (afterMethod_switching t).trans healthy.idle
  deaf := by
    rw [afterMethod_usingFallback, afterMethod_relay, afterMethod_active, keepsBound]
    exact healthy.deaf

theorem callActive_answers (method : LifecycleAdapter → SharedLocalMedia → LifecycleAdapter × SharedLocalMedia)
    (announces : Bool) (keepsBound : ∀ a media, (method a media).1.bound = a.bound) (healthy : Healthy t)
    (kept : FailsInCall t conduct → ¬ SpoilsHere (afterMethod method t) fb) :
    (∀ f ∈ (callHears (forward fb) conduct method announces t).flatMap (failuresOf fb), f.Answered) ∧
      Healthy (callActive (forward fb) conduct method announces t).after := by
  by_cases raised : conduct.raises = some .atOnce
  · rw [callHears, if_pos raised, callActive_atOnce raised]
    exact ⟨fun f member => (by cases member), healthy⟩
  · rw [callHears, if_neg raised, callActive_runs _ _ _ _ raised]
    -- the signals that the method hears are its own announcement and what the conduct emits
    have sound : (afterMethod method t).active.bound = true →
        (∃ signal ∈ callSignals conduct method announces t, signal.event = .failed) →
        ¬ SpoilsHere (afterMethod method t) fb := by
      rintro bound ⟨signal, member, failed⟩
      rw [afterMethod_active, keepsBound] at bound
      refine kept ⟨raised, bound, signal, ?_, failed⟩
      cases List.mem_append.mp member with
      | inl announced =>
        split at announced
        · rw [List.mem_singleton.mp announced] at failed
          cases failed
        · cases announced
      | inr emitted => exact emitted
    have delivered := deliverAll_answers (afterMethod_healthy keepsBound healthy) rfl sound
    refine ⟨delivered.1, Outcome.andThen_after delivered.2 fun _ u after => ?_⟩
    split
    · exact after
    · exact after

/-! ## The operations -/

theorem spoils_of_afterMethod {method : LifecycleAdapter → SharedLocalMedia → LifecycleAdapter × SharedLocalMedia}
    {roomId partnerId : Option String} {wasOpen : Bool}
    (spoils : SpoilsSwitch (afterMethod method t) fb roomId partnerId wasOpen) :
    SpoilsSwitch t fb roomId partnerId wasOpen where
  idle := (afterMethod_switching t).symm.trans spoils.idle
  direct := (afterMethod_usingFallback t).symm.trans spoils.direct
  allowed := by
    have allowed := spoils.allowed
    rw [afterMethod_selectedRoomId] at allowed
    exact allowed
  spoils := spoils.spoils

theorem restorePrimaryIfNeeded_switching (t : FailoverMediaTransport) (roomId : String) :
    (restorePrimaryIfNeeded roomId t).switching = t.switching := by
  unfold restorePrimaryIfNeeded
  split
  · rfl
  · split
    · rfl
    · exact (setActive_switching _ _).trans (setActive_switching t.clearEscalationTimer _)

theorem restorePrimaryIfNeeded_healthy (healthy : Healthy t) (roomId : String) :
    Healthy (restorePrimaryIfNeeded roomId t) := by
  refine ⟨(restorePrimaryIfNeeded_switching t roomId).trans healthy.idle, ?_⟩
  cases restorePrimaryIfNeeded_cases t roomId with
  | inl kept =>
    rw [kept.1]
    exact healthy.deaf
  | inr restored =>
    intro _ up
    rw [restored.2.1] at up
    cases up

/-- `preconnect` and `switch_partner`. -/
theorem callInRoom_answers {roomId partnerId : String}
    (method : LifecycleAdapter → SharedLocalMedia → LifecycleAdapter × SharedLocalMedia) (announces wasOpen : Bool)
    (keepsBound : ∀ a media, (method a media).1.bound = a.bound)
    (room : ∀ a media, (method a media).1.currentRoomId = some roomId)
    (partner : ∀ a media, (method a media).1.currentPartnerId = some partnerId)
    (state : ∀ a media, decide ((method a media).1.state = .open_) = wasOpen) (healthy : Healthy t)
    (kept : ¬ (FailsInCall t conduct ∧ SpoilsSwitch t fb (some roomId) (some partnerId) wasOpen)) :
    (∀ f ∈ (callHears (forward fb) conduct method announces (restorePrimaryIfNeeded roomId t)).flatMap (failuresOf fb),
        f.Answered) ∧
      Healthy (callActive (forward fb) conduct method announces (restorePrimaryIfNeeded roomId t)).after := by
  refine callActive_answers method announces keepsBound (restorePrimaryIfNeeded_healthy healthy roomId) fun fails spoils => ?_
  have here : SpoilsSwitch (restorePrimaryIfNeeded roomId t) fb (some roomId) (some partnerId) wasOpen := by
    unfold SpoilsHere currentRoomId currentPartnerId FailoverMediaTransport.state at spoils
    rw [afterMethod_active, room, partner, state] at spoils
    exact spoils_of_afterMethod spoils
  cases restorePrimaryIfNeeded_cases t roomId with
  | inl same =>
    rw [same.1] at here fails
    exact kept ⟨fails, here⟩
  | inr restored =>
    have allowed := here.allowed
    rw [restorePrimaryIfNeeded_selectedRoomId, restored.1] at allowed
    cases allowed

theorem leave_healthy (healthy : Healthy t) : Healthy t.leave where
  idle := by
    have kept : t.leave.switching = t.switching :=
      (setActive_switching _ _).trans (setActive_switching t.clearEscalationTimer _)
    exact kept.trans healthy.idle
  deaf := by
    intro _ _
    have left : t.leave.active = t.clearEscalationTimer.unbindActive.active.leave := setActive_active _ _
    rw [left]
    rfl

theorem callOpen_answers (healthy : Healthy t)
    (kept : ¬ (FailsInCall t conduct ∧ SpoilsSwitch t fb t.currentRoomId t.currentPartnerId true)) :
    (∀ f ∈ (callHears (forward fb) conduct LifecycleAdapter.open_ true t).flatMap (failuresOf fb), f.Answered) ∧
      Healthy (callActive (forward fb) conduct LifecycleAdapter.open_ true t).after := by
  refine callActive_answers LifecycleAdapter.open_ true (fun _ _ => rfl) healthy fun fails spoils => kept ⟨fails, ?_⟩
  unfold SpoilsHere currentRoomId currentPartnerId FailoverMediaTransport.state at spoils
  rw [afterMethod_active] at spoils
  exact spoils_of_afterMethod spoils

theorem onEscalationTimeout_idle {gen : Nat}
    (guards : gen ≠ t.escalationGeneration ∨ (t.usingFallback || t.switching || t.primaryConnected) = true) :
    onEscalationTimeout fb gen t = t := by
  unfold onEscalationTimeout
  split
  · rfl
  next present => exact if_pos (guards.resolve_left present)

/-- A switch that is asked for. -/
theorem forceFallback_healthy (healthy : Healthy t)
    (kept : ¬ (SpoilsHere t fb ∧ (fb.factoryRaises = true ∨ truthy t.currentPartnerId = true))) :
    Healthy (forceFallback fb t).after := by
  unfold forceFallback
  by_cases activates : Activates t
  · rw [activateFallback_of_activates activates]
    by_cases spoils : SpoilsHere t fb
    · -- there is no partner to go to
      have mild : fb.factoryRaises = false ∧ truthy t.currentPartnerId = false := by
        have mild := not_and.mp kept spoils
        simpa using mild
      simp only [switchToRelay, mild.1, enterRoom, mild.2, Bool.and_false, Bool.false_eq_true, if_false,
        Outcome.returns_andThen, Outcome.returns_after]
      refine ⟨rfl, fun direct => ?_⟩
      have up : (installRelay (dropActive "TEST_TRIGGER" t)).usingFallback = true := rfl
      have down : (installRelay (dropActive "TEST_TRIGGER" t)).usingFallback = false := direct
      rw [up] at down
      cases down
    · obtain ⟨u, returned, switched⟩ := switchToRelay_switched _ "TEST_TRIGGER" activates spoils
      rw [returned]
      exact switched.healthy
  · rw [activateFallback_of_not_activates activates]
    exact healthy

/-- A callback that acts. -/
theorem onEscalationTimeout_answers {gen : Nat} (healthy : Healthy t)
    (guards : ¬ (gen ≠ t.escalationGeneration ∨ (t.usingFallback || t.switching || t.primaryConnected) = true))
    (kept : ¬ SpoilsHere t fb) :
    Failure.Answered ⟨t, onEscalationTimeout fb gen t⟩ ∧ Healthy (onEscalationTimeout fb gen t) := by
  obtain ⟨present, idle⟩ := not_or.mp guards
  have direct : t.usingFallback = false ∧ t.switching = false ∧ t.primaryConnected = false := by simpa [and_assoc] using idle
  unfold onEscalationTimeout
  rw [if_neg present, if_neg idle]
  by_cases allowed : fallbackAllowedForRoom t.currentRoomId t.selectedRoomId = true
  · have activates : Activates t := ⟨direct.2.1, direct.1, allowed⟩
    obtain ⟨u, returned, switched⟩ := switchToRelay_switched _ "ESCALATION_TIMEOUT" activates kept
    -- the call stays in its room, now on the relay
    have handled : handleEscalationTimeout fb t = .returns () (u.recordEscalation .activated "ESCALATION_TIMEOUT") := by
      simp [handleEscalationTimeout, allowed, activateFallback_of_activates activates, returned]
    have same := SamePlace.recordEscalation u .activated "ESCALATION_TIMEOUT"
    rw [handled]
    refine ⟨.inl ?_, same.healthy switched.healthy⟩
    exact
      { relay := by rw [← switched.relay]; rfl
        usingFallback := switched.usingFallback
        room := same.currentRoomId.trans switched.room
        partner := same.currentPartnerId.trans switched.partner }
  -- the room has no fallback, and the page hears of the failure
  · have refused : handleEscalationTimeout fb t = .returns ()
        (emit (emit (t.recordEscalation .skipped "FALLBACK_UNAVAILABLE")
          ⟨.degraded, "ESCALATION_FALLBACK_UNAVAILABLE", none, none⟩)
          ⟨.failed, "ESCALATION_FALLBACK_UNAVAILABLE", none, none⟩) := by
      simp [handleEscalationTimeout, allowed]
    rw [refused]
    refine ⟨.inr ?_, healthy.idle, healthy.deaf⟩
    refine ⟨[⟨.degraded, "ESCALATION_FALLBACK_UNAVAILABLE", none, none⟩,
      ⟨.failed, "ESCALATION_FALLBACK_UNAVAILABLE", none, none⟩], ?_, ⟨_, List.mem_cons_of_mem _ List.mem_cons_self, rfl⟩⟩
    exact List.append_assoc t.emitted _ _

theorem timer_answers (healthy : Healthy t) (k : Nat) (kept : ¬ Spoils t (.timer k fb)) :
    (∀ f ∈ t.failures (.timer k fb), f.Answered) ∧ Healthy (t.step (.timer k fb)) := by
  simp only [failures, step]
  cases pending : t.scheduled[k]? with
  | none => exact ⟨fun f member => (by cases member), healthy⟩
  | some gen =>
    have taken : SamePlace t { t with scheduled := t.scheduled.eraseIdx k } := ⟨rfl, rfl, rfl, rfl, rfl⟩
    simp only []
    by_cases guards : gen ≠ t.escalationGeneration ∨ (t.usingFallback || t.switching || t.primaryConnected) = true
    · rw [if_pos guards, onEscalationTimeout_idle (t := { t with scheduled := t.scheduled.eraseIdx k }) guards]
      exact ⟨fun f member => (by cases member), taken.healthy healthy⟩
    · rw [if_neg guards]
      have sound : ¬ SpoilsHere { t with scheduled := t.scheduled.eraseIdx k } fb := fun spoils => by
        obtain ⟨present, idle⟩ := not_or.mp guards
        have unconnected : t.primaryConnected = false := by
          simp only [Bool.or_eq_true, not_or, Bool.not_eq_true] at idle
          exact idle.2
        exact kept ⟨by rw [pending, not_not.mp present], unconnected, taken.spoilsHere spoils⟩
      obtain ⟨answered, after⟩ := onEscalationTimeout_answers (taken.healthy healthy) guards sound
      refine ⟨fun f member => ?_, after⟩
      cases List.mem_cons.mp member with
      | inl here => rw [here]; exact answered
      | inr nested => exact answered_whileSwitching f nested

theorem emits_answers (healthy : Healthy t) (signal : Signal) (kept : ¬ Spoils t (.emits signal fb)) :
    (∀ f ∈ t.failures (.emits signal fb), f.Answered) ∧ Healthy (t.step (.emits signal fb)) := by
  simp only [failures, step]
  by_cases bound : t.active.bound = true
  · rw [if_pos bound, if_pos bound]
    have sound : signal.event = .failed → ¬ SpoilsHere t fb := fun failed spoils => kept ⟨bound, failed, spoils⟩
    obtain ⟨answered, u, returned, place⟩ := forward_answers signal sound
    rw [returned]
    refine ⟨answered, ?_⟩
    cases place with
    | inl same => exact same.healthy healthy
    | inr both => exact both.2.healthy
  · rw [if_neg bound, if_neg bound]
    exact ⟨fun f member => (by cases member), healthy⟩

/-- A step that spoils no switch answers its failures. -/
theorem step_answers (healthy : Healthy t) (action : TransportAction) (kept : ¬ Spoils t action) :
    (∀ f ∈ t.failures action, f.Answered) ∧ Healthy (t.step action) := by
  have same : SamePlace t { t with primaryConnected := false } := ⟨rfl, rfl, rfl, rfl, rfl⟩
  have cleared : SamePlace t { t.clearEscalationTimer with primaryConnected := false } := ⟨rfl, rfl, rfl, rfl, rfl⟩
  -- what each method does first keeps the place, and with it what can be spoiled
  cases action with
  | preconnect roomId partnerId conduct fb =>
    refine callInRoom_answers (LifecycleAdapter.preconnect roomId partnerId) false false (fun _ _ => rfl)
      (fun _ _ => rfl) (fun _ _ => rfl) (fun _ _ => rfl) (cleared.healthy healthy) ?_
    rintro ⟨fails, spoils⟩
    exact kept ⟨cleared.failsInCall_iff.mp fails, cleared.symm.spoils spoils⟩
  | open_ conduct fb =>
    have sound : ¬ (FailsInCall { t with primaryConnected := false } conduct ∧
        SpoilsSwitch { t with primaryConnected := false } fb t.currentRoomId t.currentPartnerId true) := by
      rintro ⟨fails, spoils⟩
      exact kept ⟨same.failsInCall_iff.mp fails, same.symm.spoils spoils⟩
    obtain ⟨answered, after⟩ := callOpen_answers (same.healthy healthy) sound
    exact ⟨answered, (andThen_samePlace _ fun _ u => .armEscalationTimer u).healthy after⟩
  | switchPartner newRoomId newPartnerId conduct fb =>
    have sound : ¬ (FailsInCall { t.clearEscalationTimer with primaryConnected := false } conduct ∧
        SpoilsSwitch { t.clearEscalationTimer with primaryConnected := false } fb (some newRoomId) (some newPartnerId)
          true) := by
      rintro ⟨fails, spoils⟩
      exact kept ⟨cleared.failsInCall_iff.mp fails, cleared.symm.spoils spoils⟩
    obtain ⟨answered, after⟩ := callInRoom_answers (LifecycleAdapter.switchPartner newRoomId newPartnerId) true true
      (fun _ _ => rfl) (fun _ _ => rfl) (fun _ _ => rfl) (fun _ _ => rfl) (cleared.healthy healthy) sound
    exact ⟨answered, (andThen_samePlace _ fun _ u => .armEscalationTimer u).healthy after⟩
  | leave => exact ⟨fun f member => (by cases member), leave_healthy healthy⟩
  | forceFallback fb => exact ⟨fun f member => answered_whileSwitching f member, forceFallback_healthy healthy kept⟩
  | emits signal fb => exact emits_answers healthy signal kept
  | timer k fb => exact timer_answers healthy k kept

end FailoverMediaTransport

/-! ## Whole runs -/

open FailoverMediaTransport

/-- In a run without a step that spoils a switch all failures are answered, and the transport
    is ready for the next one. -/
theorem failures_answered (selectedRoomId : Option String) (escalationTimeoutMs : Int) (actions : List TransportAction)
    (sound : ∀ v ∈ visited step (.create selectedRoomId escalationTimeoutMs) actions, ¬ Spoils v.1 v.2) :
    ∀ v ∈ visited step (.create selectedRoomId escalationTimeoutMs) actions, StepAnswers v.1 v.2 := by
  have keeps : ∀ (t : FailoverMediaTransport) (action : TransportAction), Healthy t → ¬ Spoils t action →
      Healthy (t.step action) := fun _ action healthy kept => (step_answers healthy action kept).2
  have start : Healthy (.create selectedRoomId escalationTimeoutMs) := ⟨rfl, fun _ up => (by cases up)⟩
  have healthy := visited_invariant keeps start sound
  intro v member
  obtain ⟨answered, after⟩ := step_answers (healthy v member) v.2 (sound v member)
  exact ⟨answered, after.idle⟩

def relayBlocked : FallbackConduct := ⟨true, .plain, .plain⟩

/-- The primary fails in the selected room. -/
def failsInRoom (fb : FallbackConduct) : List TransportAction :=
  [.preconnect "test-room-101" "partner-a" .plain .plain, .open_ .plain .plain,
    .emits ⟨.failed, "ICE_FAILED", none, none⟩ fb]

theorem answered_failsInRoom :
    (visited step (.create (some "test-room-101") 6000) (failsInRoom .plain)).length = 3 ∧
      ∀ v ∈ visited step (.create (some "test-room-101") 6000) (failsInRoom .plain), StepAnswers v.1 v.2 := by
  refine ⟨rfl, failures_answered _ _ _ fun v member spoils => ?_⟩
  simp only [visited, failsInRoom, List.mem_cons, List.not_mem_nil, or_false] at member
  rcases member with rfl | rfl | rfl
  · obtain ⟨_, nothing, _⟩ := spoils.1.fails
    cases nothing
  · obtain ⟨_, nothing, _⟩ := spoils.1.fails
    cases nothing
  · have spoiled := spoils.2.2.spoils
    revert spoiled
    decide +kernel

/-- No relay can be built: nobody is told, and `_switching` stays set. -/
theorem blocked_relay_leaves_failure_open : ¬ ∀ (selectedRoomId : Option String) (escalationTimeoutMs : Int)
    (actions : List TransportAction), ∀ v ∈ visited step (.create selectedRoomId escalationTimeoutMs) actions,
      StepAnswers v.1 v.2 := by
  intro all
  have idle := (all (some "test-room-101") 6000 (failsInRoom relayBlocked) _ (List.getLast_mem (by decide))).idle
  revert idle
  decide +kernel

end EventPlatform.Media
