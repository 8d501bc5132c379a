import EventPlatform.Media.Failover
import EventPlatform.Lib.Runs

/-! # The fallback stays in its room -/

namespace EventPlatform.Media

open EventPlatform.Lib

structure PairIsolated (t : FailoverMediaTransport) : Prop where
  active : t.relay.isSome = t.usingFallback
  selected : t.usingFallback = true → t.currentRoomId = some t.selectedRoomId
  elsewhere : ∀ roomId, t.currentRoomId = some roomId → roomId ≠ t.selectedRoomId → t.relay = none

/-- A failure in this room and with this partner brings up a relay that never gets to the
    room: its `preconnect` is left out for want of a partner, or raises. -/
structure StrandsRelay (t : FailoverMediaTransport) (fb : FallbackConduct)
    (roomId partnerId : Option String) : Prop where
  idle : t.switching = false
  direct : t.usingFallback = false
  allowed : fallbackAllowedForRoom roomId t.selectedRoomId = true
  built : fb.factoryRaises = false
  strands : truthy partnerId = false ∨ fb.preconnect.raises = some .atOnce

/-- The adapter fails within the call, and the transport hears of it. -/
structure FailsInCall (t : FailoverMediaTransport) (conduct : Conduct) : Prop where
  runs : conduct.raises ≠ some .atOnce
  bound : t.active.bound = true
  fails : ∃ signal ∈ conduct.emits, signal.event = .failed

/-- The steps that take the transport out of `PairIsolated`: `leave` on the relay, and
    whatever strands a relay. -/
def BreaksIsolation (t : FailoverMediaTransport) : TransportAction → Prop
  | .preconnect roomId partnerId conduct fb =>
    FailsInCall t conduct ∧ StrandsRelay t fb (some roomId) (some partnerId)
  | .open_ conduct fb => FailsInCall t conduct ∧ StrandsRelay t fb t.currentRoomId t.currentPartnerId
  | .switchPartner newRoomId newPartnerId conduct fb =>
    FailsInCall t conduct ∧ StrandsRelay t fb (some newRoomId) (some newPartnerId)
  | .leave => t.usingFallback = true
  | .forceFallback fb => StrandsRelay t fb t.currentRoomId t.currentPartnerId
  | .emits signal fb =>
    t.active.bound = true ∧ signal.event = .failed ∧ StrandsRelay t fb t.currentRoomId t.currentPartnerId
  | .timer k fb =>
    t.scheduled[k]? = some t.escalationGeneration ∧ t.primaryConnected = false ∧
      StrandsRelay t fb t.currentRoomId t.currentPartnerId

namespace FailoverMediaTransport

variable {t u v : FailoverMediaTransport} {fb : FallbackConduct} {conduct : Conduct} {signal : Signal}

/-- The third part follows from the others. -/
theorem isolated_of (active : t.relay.isSome = t.usingFallback)
    (selected : t.usingFallback = true → t.currentRoomId = some t.selectedRoomId) : PairIsolated t where
  active := active
  selected := selected
  elsewhere roomId here other := by
    cases up : t.relay with
    | none => rfl
    | some relay =>
      rw [up] at active
      rw [selected active.symm] at here
      exact absurd (Option.some.inj here).symm other

theorem isolated_of_direct (relay : t.relay.isSome = false) (direct : t.usingFallback = false) :
    PairIsolated t := by
  refine isolated_of (relay.trans direct.symm) fun on => ?_
  rw [direct] at on
  cases on

/-! ## What leaves the adapters alone -/

structure SamePlace (t u : FailoverMediaTransport) : Prop where
  primary : u.primary = t.primary
  relay : u.relay = t.relay
  usingFallback : u.usingFallback = t.usingFallback
  switching : u.switching = t.switching
  selectedRoomId : u.selectedRoomId = t.selectedRoomId

namespace SamePlace

theorem refl (t : FailoverMediaTransport) : SamePlace t t := ⟨rfl, rfl, rfl, rfl, rfl⟩

theorem trans (first : SamePlace t u) (second : SamePlace u v) : SamePlace t v where
  primary := second.primary.trans first.primary
  relay := second.relay.trans first.relay
  usingFallback := second.usingFallback.trans first.usingFallback
  switching := second.switching.trans first.switching
  selectedRoomId := second.selectedRoomId.trans first.selectedRoomId

theorem active (same : SamePlace t u) : u.active = t.active := by
  rw [FailoverMediaTransport.active, FailoverMediaTransport.active, same.relay, same.primary]

theorem currentRoomId (same : SamePlace t u) : u.currentRoomId = t.currentRoomId := by
  rw [FailoverMediaTransport.currentRoomId, same.active, FailoverMediaTransport.currentRoomId]

theorem currentPartnerId (same : SamePlace t u) : u.currentPartnerId = t.currentPartnerId := by
  rw [FailoverMediaTransport.currentPartnerId, same.active, FailoverMediaTransport.currentPartnerId]

theorem hears (same : SamePlace t u) (byRelay : Bool) : u.hears byRelay = t.hears byRelay := by
  rw [FailoverMediaTransport.hears, FailoverMediaTransport.hears, same.relay, same.primary]

theorem isolated (same : SamePlace t u) (isolated : PairIsolated t) : PairIsolated u where
  active := by rw [same.relay, same.usingFallback, isolated.active]
  selected := by
    rw [same.usingFallback, same.currentRoomId, same.selectedRoomId]
    exact isolated.selected
  elsewhere := by
    rw [same.currentRoomId, same.selectedRoomId, same.relay]
    exact isolated.elsewhere

theorem strands (same : SamePlace t u) {roomId partnerId : Option String}
    (strands : StrandsRelay t fb roomId partnerId) : StrandsRelay u fb roomId partnerId where
  idle := same.switching.trans strands.idle
  direct := same.usingFallback.trans strands.direct
  allowed := by rw [same.selectedRoomId]; exact strands.allowed
  built := strands.built
  strands := strands.strands

theorem symm (same : SamePlace t u) : SamePlace u t :=
  ⟨same.primary.symm, same.relay.symm, same.usingFallback.symm, same.switching.symm, same.selectedRoomId.symm⟩

theorem clearEscalationTimer (t : FailoverMediaTransport) : SamePlace t t.clearEscalationTimer :=
  ⟨rfl, rfl, rfl, rfl, rfl⟩

theorem emit (t : FailoverMediaTransport) (signal : Signal) : SamePlace t (t.emit signal) :=
  ⟨rfl, rfl, rfl, rfl, rfl⟩

theorem recordEscalation (t : FailoverMediaTransport) (result : EscalationResult) (reason : String) :
    SamePlace t (t.recordEscalation result reason) :=
  ⟨rfl, rfl, rfl, rfl, rfl⟩

theorem armEscalationTimer (t : FailoverMediaTransport) : SamePlace t t.armEscalationTimer := by
  unfold FailoverMediaTransport.armEscalationTimer
  simp only []
  split
  · exact ⟨rfl, rfl, rfl, rfl, rfl⟩
  · exact ⟨rfl, rfl, rfl, rfl, rfl⟩

end SamePlace

/-! ## The forwarders -/

structure Activates (t : FailoverMediaTransport) : Prop where
  idle : t.switching = false
  direct : t.usingFallback = false
  allowed : fallbackAllowedForRoom t.currentRoomId t.selectedRoomId = true

theorem SamePlace.activates (same : SamePlace t u) (activates : Activates t) : Activates u where
  idle := same.switching.trans activates.idle
  direct := same.usingFallback.trans activates.direct
  allowed := by rw [same.currentRoomId, same.selectedRoomId]; exact activates.allowed

theorem activateFallback_of_activates {reason : String} (activates : Activates t) :
    activateFallback fb reason t = switchToRelay fb reason t := by
  simp [activateFallback, activates.idle, activates.direct, activates.allowed]

theorem activateFallback_of_not_activates {reason : String} (stays : ¬ Activates t) :
    activateFallback fb reason t = .returns false t := by
  unfold activateFallback
  by_cases busy : t.switching || t.usingFallback
  · rw [if_pos busy]
  · have idle : t.switching = false ∧ t.usingFallback = false := by simpa using busy
    have refused : ¬ fallbackAllowedForRoom t.currentRoomId t.selectedRoomId = true :=
      fun allowed => stays ⟨idle.1, idle.2, allowed⟩
    rw [if_neg busy, if_pos (by simpa using refused)]

theorem forward_of_not_activates (fb : FallbackConduct) (signal : Signal) (stays : signal.event = .failed → ¬ Activates t) :
    ∃ u, forward fb signal t = .returns () u ∧ SamePlace t u := by
  unfold forward forwardWith
  cases kind : signal.event with
  | connected => exact ⟨_, rfl, ⟨rfl, rfl, rfl, rfl, rfl⟩⟩
  | failed =>
    have still : ¬ Activates t.clearEscalationTimer := fun activates =>
      stays kind ((SamePlace.clearEscalationTimer t).symm.activates activates)
    refine ⟨t.clearEscalationTimer.emit signal, ?_, ?_⟩
    · simp [onActiveFailed, activateFallback_of_not_activates still]
    · exact (SamePlace.clearEscalationTimer t).trans (.emit _ signal)
  | degraded => exact ⟨_, rfl, .emit t signal⟩
  | stats => exact ⟨_, rfl, .emit t signal⟩

theorem forwardSwitching_samePlace (signal : Signal) (t : FailoverMediaTransport) :
    SamePlace t (forwardSwitching signal t).after := by
  unfold forwardSwitching forwardWith
  cases signal.event with
  | connected => exact ⟨rfl, rfl, rfl, rfl, rfl⟩
  | failed => exact (SamePlace.clearEscalationTimer t).trans (.emit _ signal)
  | degraded => exact .emit t signal
  | stats => exact .emit t signal

/-! ## The relay -/

/-- The relay is active, with this room. -/
structure OnRelay (roomId : Option String) (selectedRoomId : String) (t : FailoverMediaTransport) : Prop where
  relay : t.relay.isSome = true
  usingFallback : t.usingFallback = true
  room : t.currentRoomId = roomId
  selectedRoom : t.selectedRoomId = selectedRoomId

theorem SamePlace.onRelay {roomId : Option String} {selectedRoomId : String} (same : SamePlace t u)
    (on : OnRelay roomId selectedRoomId t) : OnRelay roomId selectedRoomId u where
  relay := by rw [same.relay]; exact on.relay
  usingFallback := same.usingFallback.trans on.usingFallback
  room := same.currentRoomId.trans on.room
  selectedRoom := same.selectedRoomId.trans on.selectedRoom

theorem OnRelay.isolated {selectedRoomId : String} (on : OnRelay (some selectedRoomId) selectedRoomId t) :
    PairIsolated t :=
  isolated_of (on.relay.trans on.usingFallback.symm) fun _ => by rw [on.room, on.selectedRoom]

theorem OnRelay.not_isolated {selectedRoomId : String} (on : OnRelay none selectedRoomId t) :
    ¬ PairIsolated t := by
  intro isolated
  have room := isolated.selected on.usingFallback
  rw [on.room] at room
  cases room

theorem room_of_allowed {roomId : Option String} {selectedRoomId : String}
    (allowed : fallbackAllowedForRoom roomId selectedRoomId = true) :
    roomId = some selectedRoomId ∧ truthy roomId = true := by
  cases roomId with
  | none => cases allowed
  | some roomId =>
    simp only [fallbackAllowedForRoom, Bool.and_eq_true, bne_iff_ne, beq_iff_eq] at allowed
    exact ⟨by rw [allowed.2], by simpa [truthy] using allowed.1.2⟩

theorem dropActive_keeps (reason : String) (t : FailoverMediaTransport) :
    (dropActive reason t).relay.isSome = t.relay.isSome ∧
      (dropActive reason t).usingFallback = t.usingFallback ∧
      (dropActive reason t).currentRoomId = t.currentRoomId ∧
      (dropActive reason t).selectedRoomId = t.selectedRoomId := by
  unfold dropActive closeActiveKeepMedia
  refine ⟨?_, ?_, ?_, ?_⟩
  · exact setActive_relay_isSome _ _
  · exact setActive_usingFallback _ _
  · rw [currentRoomId, setActive_active]
    rfl
  · exact setActive_selectedRoomId _ _

theorem dropActive_switching (reason : String) (t : FailoverMediaTransport) :
    (dropActive reason t).switching = true := by
  unfold dropActive closeActiveKeepMedia
  exact setActive_switching _ _

theorem installRelay_onRelay (t : FailoverMediaTransport) : OnRelay none t.selectedRoomId t.installRelay :=
  ⟨rfl, rfl, rfl, rfl⟩

theorem enterRoom_stays_out {roomId partnerId : Option String} {wasOpen : Bool} {selectedRoomId : String}
    (out : truthy partnerId = false ∨ fb.preconnect.raises = some .atOnce)
    (on : OnRelay none selectedRoomId t) :
    OnRelay none selectedRoomId (enterRoom fb roomId partnerId wasOpen t).after := by
  unfold enterRoom
  split
  · rename_i known
    have partner : truthy partnerId = true := (Bool.and_eq_true _ _ ▸ known).2
    have raised : fb.preconnect.raises = some .atOnce := out.resolve_left (by simp [partner])
    rw [callActive_atOnce raised]
    exact on
  · exact on

/-- A method of the active adapter that ends in this room. -/
theorem setActive_onRelay {adapter : LifecycleAdapter} {media : SharedLocalMedia} {selectedRoomId : String}
    {roomId oldRoomId : Option String} (on : OnRelay oldRoomId selectedRoomId t)
    (ends : adapter.currentRoomId = roomId) :
    OnRelay roomId selectedRoomId { t.setActive adapter with sharedMedia := media } where
  relay := (setActive_relay_isSome t adapter).trans on.relay
  usingFallback := (setActive_usingFallback t adapter).trans on.usingFallback
  room := (congrArg LifecycleAdapter.currentRoomId (setActive_active t adapter)).trans ends
  selectedRoom := (setActive_selectedRoomId t adapter).trans on.selectedRoom

theorem enterRoom_goes_in {roomId : String} {partnerId : Option String} {wasOpen : Bool}
    {selectedRoomId : String} (known : truthy (some roomId) = true) (partner : truthy partnerId = true)
    (runs : fb.preconnect.raises ≠ some .atOnce) (on : OnRelay none selectedRoomId t) :
    OnRelay (some roomId) selectedRoomId (enterRoom fb (some roomId) partnerId wasOpen t).after := by
  have keeps : ∀ signal u, OnRelay (some roomId) selectedRoomId u →
      OnRelay (some roomId) selectedRoomId (forwardSwitching signal u).after :=
    fun signal u on => (forwardSwitching_samePlace signal u).onRelay on
  unfold enterRoom
  rw [known, partner, Bool.and_self, if_pos rfl]
  refine Outcome.andThen_after ?_ fun _ u entered => ?_
  · exact callActive_after runs (fun signal _ => keeps signal) (setActive_onRelay on rfl)
  · split
    · by_cases raised : fb.opening.raises = some .atOnce
      · rw [callActive_atOnce raised]
        exact entered
      · have opened : (u.active.open_ u.sharedMedia).1.currentRoomId = some roomId := entered.room
        exact callActive_after raised (fun signal _ => keeps signal) (setActive_onRelay entered opened)
    · exact entered

/-! ## The fallback -/

theorem switchToRelay_strands {reason : String}
    (strands : StrandsRelay t fb t.currentRoomId t.currentPartnerId) :
    OnRelay none t.selectedRoomId (switchToRelay fb reason t).after := by
  unfold switchToRelay
  simp only [strands.built, Bool.false_eq_true, if_false]
  have up := installRelay_onRelay (dropActive reason t)
  rw [(dropActive_keeps reason t).2.2.2] at up
  refine Outcome.andThen_after (enterRoom_stays_out strands.strands up) fun _ u on => ?_
  exact ⟨on.relay, on.usingFallback, on.room, on.selectedRoom⟩

/-- An activation that strands no relay; the next one has to wait for another room. -/
theorem switchToRelay_isolated (reason : String) (isolated : PairIsolated t) (activates : Activates t)
    (kept : ¬ StrandsRelay t fb t.currentRoomId t.currentPartnerId) :
    PairIsolated (switchToRelay fb reason t).after ∧ ¬ Activates (switchToRelay fb reason t).after := by
  obtain ⟨relay, usingFallback, room, selectedRoom⟩ := dropActive_keeps reason t
  unfold switchToRelay
  cases built : fb.factoryRaises with
  | true =>
    simp only [if_true, Outcome.raises_after]
    -- no relay was made, so there is none to be in a wrong room
    have off : (dropActive reason t).relay.isSome = false :=
      relay.trans (isolated.active.trans activates.direct)
    refine ⟨isolated_of_direct off (usingFallback.trans activates.direct), ?_⟩
    intro again
    have idle := again.idle
    rw [dropActive_switching] at idle
    cases idle
  | false =>
    simp only [Bool.false_eq_true, if_false]
    obtain ⟨here, known⟩ := room_of_allowed activates.allowed
    have partner : truthy t.currentPartnerId = true := by
      by_contra blank
      exact kept ⟨activates.idle, activates.direct, activates.allowed, built, .inl (by simpa using blank)⟩
    have runs : fb.preconnect.raises ≠ some .atOnce := fun raised =>
      kept ⟨activates.idle, activates.direct, activates.allowed, built, .inr raised⟩
    -- the relay enters the selected room, which is the only one that it is allowed in
    have up := installRelay_onRelay (dropActive reason t)
    rw [selectedRoom] at up
    rw [here] at known ⊢
    have entered : ∀ wasOpen, OnRelay (some t.selectedRoomId) t.selectedRoomId
        (enterRoom fb (some t.selectedRoomId) t.currentPartnerId wasOpen
          (dropActive reason t).installRelay).after :=
      fun wasOpen => enterRoom_goes_in known partner runs up
    have on : OnRelay (some t.selectedRoomId) t.selectedRoomId
        ((enterRoom fb (some t.selectedRoomId) t.currentPartnerId (t.state = .open_)
          (dropActive reason t).installRelay).andThen
            fun _ u => .returns true { u with switching := false }).after :=
      Outcome.andThen_after (entered _) fun _ u on => ⟨on.relay, on.usingFallback, on.room, on.selectedRoom⟩
    refine ⟨on.isolated, fun again => ?_⟩
    have direct := again.direct
    rw [on.usingFallback] at direct
    cases direct

theorem activates_of_strands (strands : StrandsRelay t fb t.currentRoomId t.currentPartnerId) : Activates t :=
  ⟨strands.idle, strands.direct, strands.allowed⟩

theorem switchToRelay_result (fb : FallbackConduct) (reason : String) (t : FailoverMediaTransport) :
    (switchToRelay fb reason t).result = none ∨ (switchToRelay fb reason t).result = some true := by
  unfold switchToRelay
  simp only []
  split
  · exact .inl rfl
  · unfold Outcome.andThen
    split
    · exact .inl rfl
    · exact .inr rfl

theorem forward_of_activates (failed : signal.event = .failed) (activates : Activates t) :
    (forward fb signal t).after = (switchToRelay fb signal.reason t.clearEscalationTimer).after := by
  have cleared : Activates t.clearEscalationTimer := (SamePlace.clearEscalationTimer t).activates activates
  simp only [forward, forwardWith, failed, onActiveFailed, activateFallback_of_activates cleared]
  unfold Outcome.andThen
  rcases switchToRelay_result fb signal.reason t.clearEscalationTimer with
    raised | returned
  · rw [raised]
    rfl
  · rw [returned]
    rfl

/-! ## A failure -/

/-- `PairIsolated`, with no relay to strand. -/
structure Safe (fb : FallbackConduct) (t : FailoverMediaTransport) : Prop where
  isolated : PairIsolated t
  kept : ¬ StrandsRelay t fb t.currentRoomId t.currentPartnerId

theorem SamePlace.safe (same : SamePlace t u) (safe : Safe fb t) : Safe fb u where
  isolated := same.isolated safe.isolated
  kept strands := by
    rw [same.currentRoomId, same.currentPartnerId] at strands
    exact safe.kept (same.symm.strands strands)

theorem forward_safe (safe : Safe fb t) : Safe fb (forward fb signal t).after := by
  by_cases fails : signal.event = .failed ∧ Activates t
  · rw [forward_of_activates fails.1 fails.2]
    have same := SamePlace.clearEscalationTimer t
    have cleared := same.safe safe
    obtain ⟨isolated, settled⟩ :=
      switchToRelay_isolated signal.reason cleared.isolated (same.activates fails.2) cleared.kept
    exact ⟨isolated, fun strands => settled (activates_of_strands strands)⟩
  · obtain ⟨u, forwarded, same⟩ := forward_of_not_activates (t := t) fb signal
      fun failed activates => fails ⟨failed, activates⟩
    rw [forwarded]
    exact same.safe safe

/-- A relay outside its room stays there, whatever the adapters emit. -/
theorem forward_onRelay {roomId : Option String} {selectedRoomId : String}
    (on : OnRelay roomId selectedRoomId t) : OnRelay roomId selectedRoomId (forward fb signal t).after := by
  have stays : ¬ Activates t := fun activates => by
    have direct := activates.direct
    rw [on.usingFallback] at direct
    cases direct
  obtain ⟨u, forwarded, same⟩ := forward_of_not_activates fb signal fun _ => stays
  rw [forwarded]
  exact same.onRelay on

theorem forward_strands (failed : signal.event = .failed)
    (strands : StrandsRelay t fb t.currentRoomId t.currentPartnerId) :
    OnRelay none t.selectedRoomId (forward fb signal t).after := by
  rw [forward_of_activates failed (activates_of_strands strands)]
  have same := SamePlace.clearEscalationTimer t
  have cleared : StrandsRelay t.clearEscalationTimer fb t.clearEscalationTimer.currentRoomId
      t.clearEscalationTimer.currentPartnerId := by
    rw [same.currentRoomId, same.currentPartnerId]
    exact same.strands strands
  rw [← same.selectedRoomId]
  exact switchToRelay_strands cleared

/-- The first failure that is heard strands the relay. -/
theorem deliverAll_strands {signals : List Signal} {byRelay : Bool}
    (strands : StrandsRelay t fb t.currentRoomId t.currentPartnerId) (hears : t.hears byRelay = true)
    (fails : ∃ signal ∈ signals, signal.event = .failed) :
    OnRelay none t.selectedRoomId (deliverAll (forward fb) byRelay signals t).after := by
  induction signals generalizing t with
  | nil =>
    obtain ⟨_, member, _⟩ := fails
    cases member
  | cons signal rest ih =>
    rw [deliverAll, if_pos hears]
    by_cases failed : signal.event = .failed
    · refine Outcome.andThen_after (forward_strands failed strands) fun _ u on => ?_
      exact deliverAll_after (fun _ _ _ => forward_onRelay) on
    · obtain ⟨u, forwarded, same⟩ := forward_of_not_activates (t := t) fb signal
        fun now => absurd now failed
      rw [forwarded, Outcome.returns_andThen, ← same.selectedRoomId]
      have still : StrandsRelay u fb u.currentRoomId u.currentPartnerId := by
        rw [same.currentRoomId, same.currentPartnerId]
        exact same.strands strands
      obtain ⟨later, member, kind⟩ := fails
      cases List.mem_cons.mp member with
      | inl now => exact absurd (now ▸ kind) failed
      | inr after => exact ih still ((same.hears byRelay).trans hears) ⟨later, after, kind⟩

/-! ## A call -/

section Call

variable {method : LifecycleAdapter → SharedLocalMedia → LifecycleAdapter × SharedLocalMedia}
  {announces : Bool}

/-- The transport when the method of its adapter has done its own work. -/
def afterMethod (method : LifecycleAdapter → SharedLocalMedia → LifecycleAdapter × SharedLocalMedia)
    (t : FailoverMediaTransport) : FailoverMediaTransport :=
  { t.setActive (method t.active t.sharedMedia).1 with sharedMedia := (method t.active t.sharedMedia).2 }

theorem afterMethod_active (t : FailoverMediaTransport) :
    (afterMethod method t).active = (method t.active t.sharedMedia).1 := setActive_active t _

theorem afterMethod_relay (t : FailoverMediaTransport) :
    (afterMethod method t).relay.isSome = t.relay.isSome := setActive_relay_isSome t _

theorem afterMethod_usingFallback (t : FailoverMediaTransport) :
    (afterMethod method t).usingFallback = t.usingFallback := setActive_usingFallback t _

theorem afterMethod_switching (t : FailoverMediaTransport) :
    (afterMethod method t).switching = t.switching := setActive_switching t _

theorem afterMethod_selectedRoomId (t : FailoverMediaTransport) :
    (afterMethod method t).selectedRoomId = t.selectedRoomId := setActive_selectedRoomId t _

theorem afterMethod_hears (keepsBound : ∀ a media, (method a media).1.bound = a.bound)
    (t : FailoverMediaTransport) :
    (afterMethod method t).hears (afterMethod method t).relay.isSome = t.active.bound := by
  rw [hears_active, afterMethod_active, keepsBound]

theorem strandsRelay_afterMethod {roomId partnerId : Option String} :
    StrandsRelay (afterMethod method t) fb roomId partnerId ↔ StrandsRelay t fb roomId partnerId := by
  constructor
  · rintro ⟨idle, direct, allowed, built, strands⟩
    rw [afterMethod_switching] at idle
    rw [afterMethod_usingFallback] at direct
    rw [afterMethod_selectedRoomId] at allowed
    exact ⟨idle, direct, allowed, built, strands⟩
  · rintro ⟨idle, direct, allowed, built, strands⟩
    refine ⟨?_, ?_, ?_, built, strands⟩
    · rw [afterMethod_switching, idle]
    · rw [afterMethod_usingFallback, direct]
    · rw [afterMethod_selectedRoomId, allowed]

theorem callActive_isolated (keepsBound : ∀ a media, (method a media).1.bound = a.bound)
    (before : PairIsolated t) (isolated : PairIsolated (afterMethod method t))
    (kept : FailsInCall t conduct → ¬ StrandsRelay (afterMethod method t) fb
      (afterMethod method t).currentRoomId (afterMethod method t).currentPartnerId) :
    PairIsolated (callActive (forward fb) conduct method announces t).after := by
  by_cases raised : conduct.raises = some .atOnce
  · rw [callActive_atOnce raised]
    exact before
  by_cases fails : FailsInCall t conduct
  · have safe : Safe fb (callActive (forward fb) conduct method announces t).after :=
      callActive_after raised (fun _ _ _ => forward_safe) ⟨isolated, kept fails⟩
    exact safe.isolated
  -- nothing can fail the active transport in the call, so it stays where the method put it
  have same : SamePlace (afterMethod method t) (callActive (forward fb) conduct method announces t).after := by
    cases bound : t.active.bound with
    | true =>
      refine callActive_after raised (fun signal emitted u same => ?_) (.refl _)
      obtain ⟨v, forwarded, next⟩ := forward_of_not_activates (t := u) fb signal
        fun failed _ => fails ⟨raised, bound, signal, emitted failed, failed⟩
      rw [forwarded]
      exact same.trans next
    | false =>
      have deaf := (afterMethod_hears keepsBound t).trans bound
      unfold callActive
      rw [if_neg raised]
      refine Outcome.andThen_after ?_ fun _ u same => ?_
      · have silent : ∀ signals, (deliverAll (forward fb) (afterMethod method t).relay.isSome signals
            (afterMethod method t)).after = afterMethod method t := fun signals => by
          cases signals with
          | nil => rfl
          | cons signal rest => rw [deliverAll, deaf]; rfl
        exact (silent _).symm ▸ .refl _
      · split
        · exact same
        · exact same
  exact same.isolated isolated

theorem callActive_strands (keepsBound : ∀ a media, (method a media).1.bound = a.bound)
    (fails : FailsInCall t conduct) (strands : StrandsRelay (afterMethod method t) fb
      (afterMethod method t).currentRoomId (afterMethod method t).currentPartnerId) :
    OnRelay none t.selectedRoomId (callActive (forward fb) conduct method announces t).after := by
  have hears := (afterMethod_hears keepsBound t).trans fails.bound
  obtain ⟨signal, member, failed⟩ := fails.fails
  unfold callActive
  rw [if_neg fails.runs]
  refine Outcome.andThen_after ?_ fun _ u on => ?_
  · rw [← afterMethod_selectedRoomId t]
    exact deliverAll_strands strands hears ⟨signal, List.mem_append_right _ member, failed⟩
  · split
    · exact on
    · exact on

end Call

/-! ## The operations -/

theorem SamePlace.isolated_iff (same : SamePlace t u) : PairIsolated u ↔ PairIsolated t :=
  ⟨same.symm.isolated, same.isolated⟩

theorem andThen_samePlace {α β : Type} {f : α → FailoverMediaTransport → Outcome β} (o : Outcome α)
    (keeps : ∀ a u, SamePlace u (f a u).after) : SamePlace o.after (o.andThen f).after :=
  Outcome.andThen_after (P := SamePlace o.after) (.refl _) fun a u same => same.trans (keeps a u)

/-- What `_restore_primary_if_needed` leaves before a call for this room. -/
theorem restorePrimaryIfNeeded_cases (t : FailoverMediaTransport) (roomId : String) :
    (restorePrimaryIfNeeded roomId t = t ∧ (t.usingFallback = true → roomId = t.selectedRoomId)) ∨
      (fallbackAllowedForRoom (some roomId) t.selectedRoomId = false ∧
        (restorePrimaryIfNeeded roomId t).relay = none ∧
        (restorePrimaryIfNeeded roomId t).usingFallback = false) := by
  unfold restorePrimaryIfNeeded
  cases on : t.usingFallback with
  | false => exact .inl ⟨by simp, by simp⟩
  | true =>
    cases allowed : fallbackAllowedForRoom (some roomId) t.selectedRoomId with
    | true =>
      have here := (room_of_allowed allowed).1
      exact .inl ⟨by simp, fun _ => Option.some.inj here⟩
    | false => exact .inr ⟨rfl, rfl, rfl⟩

theorem restorePrimaryIfNeeded_selectedRoomId (t : FailoverMediaTransport) (roomId : String) :
    (restorePrimaryIfNeeded roomId t).selectedRoomId = t.selectedRoomId := by
  unfold restorePrimaryIfNeeded
  split
  · rfl
  split
  · rfl
  · exact (setActive_selectedRoomId _ _).trans (setActive_selectedRoomId t.clearEscalationTimer _)

/-- `preconnect` and `switch_partner`: a method that brings its adapter to a room. -/
theorem callInRoom_isolated_iff {roomId partnerId : String} {announces : Bool}
    {method : LifecycleAdapter → SharedLocalMedia → LifecycleAdapter × SharedLocalMedia}
    (keepsBound : ∀ a media, (method a media).1.bound = a.bound)
    (room : ∀ a media, (method a media).1.currentRoomId = some roomId)
    (partner : ∀ a media, (method a media).1.currentPartnerId = some partnerId) (isolated : PairIsolated t) :
    PairIsolated (callActive (forward fb) conduct method announces (restorePrimaryIfNeeded roomId t)).after ↔
      ¬ (FailsInCall t conduct ∧ StrandsRelay t fb (some roomId) (some partnerId)) := by
  have ends : ∀ u, (afterMethod method u).currentRoomId = some roomId ∧
      (afterMethod method u).currentPartnerId = some partnerId := fun u => by
    rw [currentRoomId, currentPartnerId, afterMethod_active]
    exact ⟨room _ _, partner _ _⟩
  rcases restorePrimaryIfNeeded_cases t roomId with ⟨same, here⟩ | ⟨refused, relay, direct⟩
  · rw [same]
    constructor
    · rintro after ⟨fails, strands⟩
      have stranded : StrandsRelay (afterMethod method t) fb (afterMethod method t).currentRoomId
          (afterMethod method t).currentPartnerId := by
        rw [(ends t).1, (ends t).2]
        exact strandsRelay_afterMethod.mpr strands
      exact (callActive_strands keepsBound fails stranded).not_isolated after
    · intro kept
      refine callActive_isolated keepsBound isolated (isolated_of ?_ ?_) fun fails strands => ?_
      · rw [afterMethod_relay, afterMethod_usingFallback, isolated.active]
      · rw [afterMethod_usingFallback, (ends t).1, afterMethod_selectedRoomId]
        intro usingFallback
        rw [here usingFallback]
      · rw [(ends t).1, (ends t).2] at strands
        exact kept ⟨fails, strandsRelay_afterMethod.mp strands⟩
  · have restored : PairIsolated (restorePrimaryIfNeeded roomId t) :=
      isolated_of_direct (by rw [relay]; rfl) direct
    constructor
    · rintro - ⟨-, strands⟩
      have allowed := strands.allowed
      rw [refused] at allowed
      cases allowed
    · intro _
      refine callActive_isolated keepsBound restored (isolated_of_direct ?_ ?_) fun _ strands => ?_
      · rw [afterMethod_relay, relay]
        rfl
      · rw [afterMethod_usingFallback, direct]
      · have allowed := strands.allowed
        rw [(ends _).1, afterMethod_selectedRoomId, restorePrimaryIfNeeded_selectedRoomId, refused] at allowed
        cases allowed

theorem callOpen_isolated_iff {announces : Bool} (isolated : PairIsolated t) :
    PairIsolated (callActive (forward fb) conduct LifecycleAdapter.open_ announces t).after ↔
      ¬ (FailsInCall t conduct ∧ StrandsRelay t fb t.currentRoomId t.currentPartnerId) := by
  have keepsBound : ∀ a media, (LifecycleAdapter.open_ a media).1.bound = a.bound := fun _ _ => rfl
  have room : (afterMethod LifecycleAdapter.open_ t).currentRoomId = t.currentRoomId := by
    rw [currentRoomId, afterMethod_active, LifecycleAdapter.open_currentRoomId, currentRoomId]
  have partner : (afterMethod LifecycleAdapter.open_ t).currentPartnerId = t.currentPartnerId := by
    rw [currentPartnerId, afterMethod_active, LifecycleAdapter.open_currentPartnerId, currentPartnerId]
  constructor
  · rintro after ⟨fails, strands⟩
    have stranded : StrandsRelay (afterMethod LifecycleAdapter.open_ t) fb
        (afterMethod LifecycleAdapter.open_ t).currentRoomId
        (afterMethod LifecycleAdapter.open_ t).currentPartnerId := by
      rw [room, partner]
      exact strandsRelay_afterMethod.mpr strands
    exact (callActive_strands keepsBound fails stranded).not_isolated after
  · intro kept
    refine callActive_isolated keepsBound isolated (isolated_of ?_ ?_) fun fails strands => ?_
    · rw [afterMethod_relay, afterMethod_usingFallback, isolated.active]
    · rw [afterMethod_usingFallback, room, afterMethod_selectedRoomId]
      exact isolated.selected
    · rw [room, partner] at strands
      exact kept ⟨fails, strandsRelay_afterMethod.mp strands⟩

theorem leave_isolated_iff (isolated : PairIsolated t) : PairIsolated t.leave ↔ ¬ t.usingFallback = true := by
  have relay : t.leave.relay.isSome = t.relay.isSome :=
    (setActive_relay_isSome _ _).trans (setActive_relay_isSome t.clearEscalationTimer _)
  have direct : t.leave.usingFallback = false := rfl
  constructor
  · intro after on
    have active := after.active
    rw [relay, isolated.active, direct, on] at active
    cases active
  · intro off
    refine isolated_of_direct ?_ direct
    rw [relay, isolated.active]
    simpa using off

theorem activateFallback_isolated_iff (reason : String) (isolated : PairIsolated t) :
    PairIsolated (activateFallback fb reason t).after ↔
      ¬ StrandsRelay t fb t.currentRoomId t.currentPartnerId := by
  by_cases activates : Activates t
  · rw [activateFallback_of_activates activates]
    constructor
    · intro after strands
      exact (switchToRelay_strands strands).not_isolated after
    · intro kept
      exact (switchToRelay_isolated reason isolated activates kept).1
  · rw [activateFallback_of_not_activates activates]
    exact ⟨fun _ strands => activates (activates_of_strands strands), fun _ => isolated⟩

theorem forward_isolated_iff (isolated : PairIsolated t) :
    PairIsolated (forward fb signal t).after ↔
      ¬ (signal.event = .failed ∧ StrandsRelay t fb t.currentRoomId t.currentPartnerId) := by
  constructor
  · rintro after ⟨failed, strands⟩
    exact (forward_strands failed strands).not_isolated after
  · intro kept
    by_cases failed : signal.event = .failed
    · have safe : Safe fb t := ⟨isolated, fun strands => kept ⟨failed, strands⟩⟩
      exact (forward_safe safe).isolated
    · obtain ⟨u, forwarded, same⟩ := forward_of_not_activates (t := t) fb signal fun now => absurd now failed
      rw [forwarded]
      exact same.isolated isolated

theorem handleEscalationTimeout_isolated_iff (isolated : PairIsolated t) :
    PairIsolated (handleEscalationTimeout fb t).after ↔
      ¬ StrandsRelay t fb t.currentRoomId t.currentPartnerId := by
  unfold handleEscalationTimeout
  cases allowed : fallbackAllowedForRoom t.currentRoomId t.selectedRoomId with
  | false =>
    simp only [Bool.not_false, if_true, Outcome.returns_after]
    rw [(((SamePlace.recordEscalation t .skipped "FALLBACK_UNAVAILABLE").trans (.emit _ _)).trans
      (.emit _ _)).isolated_iff]
    refine ⟨fun _ strands => ?_, fun _ => isolated⟩
    have yes := strands.allowed
    rw [allowed] at yes
    cases yes
  | true =>
    simp only [Bool.not_true, Bool.false_eq_true, if_false]
    rw [← activateFallback_isolated_iff "ESCALATION_TIMEOUT" isolated]
    refine (andThen_samePlace _ fun ok u => ?_).isolated_iff
    cases ok with
    | true => exact .recordEscalation u .activated "ESCALATION_TIMEOUT"
    | false =>
      exact ((SamePlace.recordEscalation u .failed "FALLBACK_ACTIVATION_FAILED").trans (.emit _ _)).trans
        (.emit _ _)

theorem onEscalationTimeout_isolated_iff {gen : Nat} (isolated : PairIsolated t) :
    PairIsolated (onEscalationTimeout fb gen t) ↔
      ¬ (gen = t.escalationGeneration ∧ t.primaryConnected = false ∧
        StrandsRelay t fb t.currentRoomId t.currentPartnerId) := by
  by_cases stale : gen ≠ t.escalationGeneration
  · rw [onEscalationTimeout, if_pos stale]
    exact ⟨fun _ both => stale both.1, fun _ => isolated⟩
  cases settled : t.usingFallback || t.switching || t.primaryConnected with
  | true =>
    rw [onEscalationTimeout, if_neg stale, settled, if_pos rfl]
    refine ⟨?_, fun _ => isolated⟩
    rintro - ⟨-, connected, strands⟩
    simp [strands.direct, strands.idle, connected] at settled
  | false =>
    have connected : t.primaryConnected = false := ((Bool.or_eq_false_iff).mp settled).2
    -- a timeout that switches nothing only writes to the log
    have logged : SamePlace (handleEscalationTimeout fb t).after (onEscalationTimeout fb gen t) := by
      rw [onEscalationTimeout, if_neg stale, settled, if_neg Bool.false_ne_true]
      dsimp only
      split
      · exact .refl _
      · exact ⟨rfl, rfl, rfl, rfl, rfl⟩
    refine logged.isolated_iff.trans ((handleEscalationTimeout_isolated_iff isolated).trans ?_)
    constructor
    · intro kept both
      exact kept both.2.2
    · intro kept strands
      exact kept ⟨not_not.mp stale, connected, strands⟩

theorem SamePlace.strands_iff (same : SamePlace t u) {roomId partnerId : Option String} :
    StrandsRelay u fb roomId partnerId ↔ StrandsRelay t fb roomId partnerId :=
  ⟨same.symm.strands, same.strands⟩

theorem SamePlace.failsInCall_iff (same : SamePlace t u) : FailsInCall u conduct ↔ FailsInCall t conduct := by
  constructor
  · rintro ⟨runs, bound, fails⟩
    exact ⟨runs, same.active ▸ bound, fails⟩
  · rintro ⟨runs, bound, fails⟩
    exact ⟨runs, same.active.symm ▸ bound, fails⟩

/-- A step keeps a transport in its room unless it is one of those that break out. -/
theorem step_isolated_iff (isolated : PairIsolated t) (action : TransportAction) :
    PairIsolated (t.step action) ↔ ¬ BreaksIsolation t action := by
  have same : SamePlace t { t with primaryConnected := false } := ⟨rfl, rfl, rfl, rfl, rfl⟩
  have cleared : SamePlace t { t.clearEscalationTimer with primaryConnected := false } := ⟨rfl, rfl, rfl, rfl, rfl⟩
  -- what each method does first keeps the place, so its lemma applies after it
  cases action with
  | preconnect roomId partnerId conduct fb =>
    refine (callInRoom_isolated_iff (fun _ _ => rfl) (fun _ _ => rfl) (fun _ _ => rfl)
      (cleared.isolated isolated)).trans ?_
    rw [cleared.failsInCall_iff, cleared.strands_iff]
    rfl
  | open_ conduct fb =>
    refine (andThen_samePlace _ fun _ u => .armEscalationTimer u).isolated_iff.trans ?_
    refine (callOpen_isolated_iff (same.isolated isolated)).trans ?_
    rw [same.failsInCall_iff, same.strands_iff]
    rfl
  | switchPartner newRoomId newPartnerId conduct fb =>
    refine (andThen_samePlace _ fun _ u => .armEscalationTimer u).isolated_iff.trans ?_
    refine (callInRoom_isolated_iff (fun _ _ => rfl) (fun _ _ => rfl) (fun _ _ => rfl)
      (cleared.isolated isolated)).trans ?_
    rw [cleared.failsInCall_iff, cleared.strands_iff]
    rfl
  | leave => exact leave_isolated_iff isolated
  | forceFallback fb => exact activateFallback_isolated_iff "TEST_TRIGGER" isolated
  | emits signal fb =>
    unfold step BreaksIsolation
    cases bound : t.active.bound with
    | true => simpa using forward_isolated_iff isolated
    | false => simpa using isolated
  | timer k fb =>
    cases pending : t.scheduled[k]? with
    | none => simpa [step, BreaksIsolation, pending] using isolated
    | some gen =>
      simp only [step, BreaksIsolation, pending]
      have taken : SamePlace t { t with scheduled := t.scheduled.eraseIdx k } := ⟨rfl, rfl, rfl, rfl, rfl⟩
      refine (onEscalationTimeout_isolated_iff (taken.isolated isolated)).trans ?_
      rw [taken.strands_iff, Option.some.injEq]
      rfl

theorem create_isolated (selectedRoomId : Option String) (escalationTimeoutMs : Int) :
    PairIsolated (create selectedRoomId escalationTimeoutMs) :=
  isolated_of_direct rfl rfl

end FailoverMediaTransport

/-! ## Whole runs -/

/-- The fallback stays inside the selected room all along exactly where no step is a `leave`
    on the relay or strands one. -/
theorem stays_in_selected_room (selectedRoomId : Option String) (escalationTimeoutMs : Int)
    (actions : List TransportAction) :
    (∀ n, PairIsolated ((actions.take n).foldl FailoverMediaTransport.step
        (.create selectedRoomId escalationTimeoutMs))) ↔
      ∀ v ∈ visited FailoverMediaTransport.step (.create selectedRoomId escalationTimeoutMs) actions,
        ¬ BreaksIsolation v.1 v.2 := by
  have kept : ∀ (t : FailoverMediaTransport) (action : TransportAction), PairIsolated t →
      (PairIsolated (t.step action) ↔ ¬ BreaksIsolation t action) :=
    fun _ action isolated => FailoverMediaTransport.step_isolated_iff isolated action
  exact foldl_take_iff kept (FailoverMediaTransport.create_isolated selectedRoomId escalationTimeoutMs)

/-- A transport that leaves on the relay stays on it; the next room, which is not the
    selected one, is entered on the relay too. -/
theorem leave_keeps_the_relay :
    let run := fun actions : List TransportAction =>
      actions.foldl FailoverMediaTransport.step (.create (some "test-room-101") 6000)
    let left : List TransportAction :=
      [.preconnect "test-room-101" "partner-a" .plain .plain, .open_ .plain .plain, .forceFallback .plain, .leave]
    ¬ PairIsolated (run left) ∧
      (run (left ++ [.preconnect "test-room-202" "partner-c" .plain .plain])).currentRoomId = some "test-room-202" ∧
      (run (left ++ [.preconnect "test-room-202" "partner-c" .plain .plain])).relay.isSome = true := by
  refine ⟨fun isolated => ?_, by decide +kernel, by decide +kernel⟩
  have active := isolated.active
  revert active
  decide +kernel

end EventPlatform.Media
