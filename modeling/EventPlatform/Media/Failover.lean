import EventPlatform.Media.Adapter

/-! # The failover transport

`FailoverMediaTransport` drives one adapter at a time: the primary one, or a relay in the
selected room.  A call that raises leaves behind what it has changed so far. -/

namespace EventPlatform.Media

def fallbackAllowedForRoom (roomId : Option String) (selectedRoomId : String) : Bool :=
  match roomId with
  | none => false
  | some roomId => selectedRoomId != "" && roomId != "" && roomId == selectedRoomId

def truthy : Option String → Bool
  | none => false
  | some s => s != ""

inductive EscalationResult where
  | skipped
  | activated
  | failed
  | error
deriving DecidableEq

structure EscalationLog where
  roomId : Option String
  partnerId : Option String
  primaryPath : AdapterKind
  timeoutMs : Int
  fallbackConfigured : Bool
  fallbackSelectedRoomId : String
  fallbackAllowed : Bool
  usingFallback : Bool
  result : EscalationResult
  reason : String
deriving DecidableEq

/-- `relay` is the active adapter, unless the primary one is.  `scheduled` holds the
    generations of the timers that have not fired, cancelled ones included;
    `cancelEscalation` is the generation of the one that `_cancel_escalation` cancels;
    `emitted` is what the listeners have heard and `logged` what the logger has. -/
structure FailoverMediaTransport where
  sharedMedia : SharedLocalMedia
  selectedRoomId : String
  primary : LifecycleAdapter
  relay : Option LifecycleAdapter
  usingFallback : Bool
  switching : Bool
  fallbackActivations : Nat
  escalationTimeoutMs : Int
  cancelEscalation : Option Nat
  escalationGeneration : Nat
  primaryConnected : Bool
  lastEscalationLog : Option EscalationLog
  scheduled : List Nat
  emitted : List Signal
  logged : List EscalationLog
deriving DecidableEq

/-- Where a call ends, and its result unless it raises. -/
structure Outcome (α : Type) where
  result : Option α
  after : FailoverMediaTransport

namespace Outcome

variable {α β : Type}

def returns (a : α) (t : FailoverMediaTransport) : Outcome α := ⟨some a, t⟩

def raises (t : FailoverMediaTransport) : Outcome α := ⟨none, t⟩

def andThen (o : Outcome α) (f : α → FailoverMediaTransport → Outcome β) : Outcome β :=
  match o.result with
  | none => raises o.after
  | some a => f a o.after

@[simp] theorem returns_after (a : α) (t : FailoverMediaTransport) : (returns a t).after = t := rfl

@[simp] theorem raises_after (t : FailoverMediaTransport) : (raises t : Outcome α).after = t := rfl

@[simp] theorem returns_andThen (a : α) (t : FailoverMediaTransport)
    (f : α → FailoverMediaTransport → Outcome β) : (returns a t).andThen f = f a t := rfl

@[simp] theorem raises_andThen (t : FailoverMediaTransport)
    (f : α → FailoverMediaTransport → Outcome β) : (raises t : Outcome α).andThen f = raises t := rfl

/-- What both halves of a call keep, the call keeps. -/
theorem andThen_after {P : FailoverMediaTransport → Prop} {o : Outcome α}
    {f : α → FailoverMediaTransport → Outcome β} (first : P o.after)
    (second : ∀ a t, P t → P (f a t).after) : P (o.andThen f).after := by
  unfold andThen
  cases o.result with
  | none => exact first
  | some a => exact second a o.after first

end Outcome

namespace FailoverMediaTransport

def create (selectedRoomId : Option String) (escalationTimeoutMs : Int) : FailoverMediaTransport :=
  ⟨.create "local-stream", selectedRoomId.getD "", (LifecycleAdapter.create .direct).on, none, false, false,
    0, escalationTimeoutMs, none, 0, false, none, [], [], []⟩

/-! ## The active adapter -/

def active (t : FailoverMediaTransport) : LifecycleAdapter := t.relay.getD t.primary

def setActive (t : FailoverMediaTransport) (a : LifecycleAdapter) : FailoverMediaTransport :=
  match t.relay with
  | none => { t with primary := a }
  | some _ => { t with relay := some a }

@[simp] theorem setActive_active (t : FailoverMediaTransport) (a : LifecycleAdapter) :
    (t.setActive a).active = a := by
  unfold setActive active
  cases t.relay with
  | none => rfl
  | some relay => rfl

@[simp] theorem setActive_relay_isSome (t : FailoverMediaTransport) (a : LifecycleAdapter) :
    (t.setActive a).relay.isSome = t.relay.isSome := by
  unfold setActive
  cases t.relay with
  | none => simp
  | some relay => rfl

@[simp] theorem setActive_usingFallback (t : FailoverMediaTransport) (a : LifecycleAdapter) :
    (t.setActive a).usingFallback = t.usingFallback := by
  unfold setActive
  split
  · rfl
  · rfl

@[simp] theorem setActive_switching (t : FailoverMediaTransport) (a : LifecycleAdapter) :
    (t.setActive a).switching = t.switching := by
  unfold setActive
  split
  · rfl
  · rfl

@[simp] theorem setActive_selectedRoomId (t : FailoverMediaTransport) (a : LifecycleAdapter) :
    (t.setActive a).selectedRoomId = t.selectedRoomId := by
  unfold setActive
  split
  · rfl
  · rfl

def state (t : FailoverMediaTransport) : MediaTransportState := t.active.state

def currentRoomId (t : FailoverMediaTransport) : Option String := t.active.currentRoomId

def currentPartnerId (t : FailoverMediaTransport) : Option String := t.active.currentPartnerId

def bindActive (t : FailoverMediaTransport) : FailoverMediaTransport := t.setActive t.active.on

def unbindActive (t : FailoverMediaTransport) : FailoverMediaTransport := t.setActive t.active.off

def closeActiveKeepMedia (t : FailoverMediaTransport) : FailoverMediaTransport :=
  t.setActive t.active.off.abandon

def emit (t : FailoverMediaTransport) (signal : Signal) : FailoverMediaTransport :=
  { t with emitted := t.emitted ++ [signal] }

/-! ## The escalation timer -/

def clearEscalationTimer (t : FailoverMediaTransport) : FailoverMediaTransport :=
  { t with escalationGeneration := t.escalationGeneration + 1, cancelEscalation := none }

def armEscalationTimer (t : FailoverMediaTransport) : FailoverMediaTransport :=
  let t := t.clearEscalationTimer
  if t.usingFallback || t.switching || t.primaryConnected then t
  else { t with
    cancelEscalation := some t.escalationGeneration
    scheduled := t.scheduled ++ [t.escalationGeneration] }

def escalationLogFields (t : FailoverMediaTransport) (result : EscalationResult) (reason : String) :
    EscalationLog where
  roomId := t.currentRoomId
  partnerId := t.currentPartnerId
  primaryPath := .direct
  timeoutMs := t.escalationTimeoutMs
  fallbackConfigured := t.selectedRoomId != ""
  fallbackSelectedRoomId := t.selectedRoomId
  fallbackAllowed := fallbackAllowedForRoom t.currentRoomId t.selectedRoomId
  usingFallback := t.usingFallback
  result := result
  reason := reason

def recordEscalation (t : FailoverMediaTransport) (result : EscalationResult) (reason : String) :
    FailoverMediaTransport :=
  { t with
    lastEscalationLog := some (t.escalationLogFields result reason)
    logged := t.logged ++ [t.escalationLogFields result reason] }

/-! ## Calls of the active adapter -/

/-- Whether the forwarders still listen to the adapter that a call was made to. -/
def hears (t : FailoverMediaTransport) (byRelay : Bool) : Bool :=
  if byRelay then t.relay.any (·.bound) else t.primary.bound

theorem hears_active (t : FailoverMediaTransport) : t.hears t.relay.isSome = t.active.bound := by
  unfold hears active
  cases t.relay with
  | none => rfl
  | some relay => rfl

/-- The events that a call emits, one after another; a forwarder may raise. -/
def deliverAll (forward : Signal → FailoverMediaTransport → Outcome Unit) (byRelay : Bool) :
    List Signal → FailoverMediaTransport → Outcome Unit
  | [], t => .returns () t
  | signal :: rest, t =>
    if t.hears byRelay then (forward signal t).andThen fun _ t => deliverAll forward byRelay rest t
    else .returns () t

theorem deliverAll_after {t : FailoverMediaTransport} {P : FailoverMediaTransport → Prop}
    {onSignal : Signal → FailoverMediaTransport → Outcome Unit} {byRelay : Bool} {signals : List Signal}
    (keeps : ∀ signal ∈ signals, ∀ u, P u → P (onSignal signal u).after) (start : P t) :
    P (deliverAll onSignal byRelay signals t).after := by
  induction signals generalizing t with
  | nil => exact start
  | cons signal rest ih =>
    rw [deliverAll]
    split
    · have first : P (onSignal signal t).after := keeps signal List.mem_cons_self t start
      refine Outcome.andThen_after first fun _ u holds => ?_
      exact ih (fun later member => keeps later (List.mem_cons_of_mem signal member)) holds
    · exact start

/-- A call of a method that may end with CONNECTED (`announces`). -/
def callActive (forward : Signal → FailoverMediaTransport → Outcome Unit) (conduct : Conduct)
    (method : LifecycleAdapter → SharedLocalMedia → LifecycleAdapter × SharedLocalMedia)
    (announces : Bool) (t : FailoverMediaTransport) : Outcome Unit :=
  if conduct.raises = some .atOnce then .raises t
  else
    let called := method t.active t.sharedMedia
    let t := { t.setActive called.1 with sharedMedia := called.2 }
    let signals := (if announces && conduct.connects then [called.1.connectedSignal] else []) ++ conduct.emits
    (deliverAll forward t.relay.isSome signals t).andThen fun _ t =>
      if conduct.raises = some .atTheEnd then .raises t else .returns () t

theorem callActive_atOnce {onSignal : Signal → FailoverMediaTransport → Outcome Unit} {conduct : Conduct}
    {method : LifecycleAdapter → SharedLocalMedia → LifecycleAdapter × SharedLocalMedia} {announces : Bool}
    {t : FailoverMediaTransport} (raised : conduct.raises = some .atOnce) :
    callActive onSignal conduct method announces t = .raises t := if_pos raised

/-- What the method establishes and the forwarders keep. -/
theorem callActive_after {P : FailoverMediaTransport → Prop}
    {onSignal : Signal → FailoverMediaTransport → Outcome Unit} {conduct : Conduct}
    {method : LifecycleAdapter → SharedLocalMedia → LifecycleAdapter × SharedLocalMedia} {announces : Bool}
    {t : FailoverMediaTransport} (runs : conduct.raises ≠ some .atOnce)
    (keeps : ∀ signal, (signal.event = .failed → signal ∈ conduct.emits) → ∀ u, P u →
      P (onSignal signal u).after)
    (start : P { t.setActive (method t.active t.sharedMedia).1 with
      sharedMedia := (method t.active t.sharedMedia).2 }) :
    P (callActive onSignal conduct method announces t).after := by
  unfold callActive
  rw [if_neg runs]
  refine Outcome.andThen_after ?_ fun _ u holds => ?_
  · refine deliverAll_after (fun signal member => keeps signal fun failed => ?_) start
    cases List.mem_append.mp member with
    | inl announced =>
      split at announced
      · rw [List.mem_singleton.mp announced] at failed
        cases failed
      · cases announced
    | inr emitted => exact emitted
  · split
    · exact holds
    · exact holds

/-- A forwarder, where a failure is answered by `onFailed`. -/
def forwardWith (onFailed : Signal → FailoverMediaTransport → Outcome Unit) (signal : Signal)
    (t : FailoverMediaTransport) : Outcome Unit :=
  match signal.event with
  | .connected =>
    .returns () (emit (clearEscalationTimer { t with primaryConnected := !t.usingFallback }) signal)
  | .failed => onFailed signal t.clearEscalationTimer
  | .degraded | .stats => .returns () (t.emit signal)

/-- The forwarders while `_switching` is set: `_activate_fallback` returns False. -/
def forwardSwitching : Signal → FailoverMediaTransport → Outcome Unit :=
  forwardWith fun signal t => .returns () (t.emit signal)

/-! ## The fallback -/

/-- The active adapter goes, and `_switching` is set. -/
def dropActive (reason : String) (t : FailoverMediaTransport) : FailoverMediaTransport :=
  let t := { t.clearEscalationTimer with switching := true }
  let t := t.emit ⟨.degraded, if reason = "" then "PRIMARY_FAILED" else reason, none, none⟩
  t.closeActiveKeepMedia

/-- The relay comes, with no room yet. -/
def installRelay (t : FailoverMediaTransport) : FailoverMediaTransport :=
  bindActive { t with
    relay := some (.create .relay)
    usingFallback := true
    primaryConnected := false
    fallbackActivations := t.fallbackActivations + 1 }

/-- The relay goes to the room of the adapter that it replaces. -/
def enterRoom (fb : FallbackConduct) (roomId partnerId : Option String) (wasOpen : Bool)
    (t : FailoverMediaTransport) : Outcome Unit :=
  if truthy roomId && truthy partnerId then
    (callActive forwardSwitching fb.preconnect
        (LifecycleAdapter.preconnect (roomId.getD "") (partnerId.getD "")) false t).andThen fun _ t =>
      if wasOpen then callActive forwardSwitching fb.opening LifecycleAdapter.open_ true t
      else .returns () t
  else .returns () t

/-- `_activate_fallback` behind its guards. -/
def switchToRelay (fb : FallbackConduct) (reason : String) (t : FailoverMediaTransport) : Outcome Bool :=
  let wasOpen := t.state = .open_
  if fb.factoryRaises then .raises (dropActive reason t)
  else
    (enterRoom fb t.currentRoomId t.currentPartnerId wasOpen (installRelay (dropActive reason t))).andThen
      fun _ t => .returns true { t with switching := false }

def activateFallback (fb : FallbackConduct) (reason : String) (t : FailoverMediaTransport) : Outcome Bool :=
  if t.switching || t.usingFallback then .returns false t
  else if !fallbackAllowedForRoom t.currentRoomId t.selectedRoomId then .returns false t
  else switchToRelay fb reason t

def onActiveFailed (fb : FallbackConduct) (signal : Signal) (t : FailoverMediaTransport) : Outcome Unit :=
  (activateFallback fb signal.reason t).andThen fun activated t =>
    if activated then .returns () t else .returns () (t.emit signal)

def forward (fb : FallbackConduct) : Signal → FailoverMediaTransport → Outcome Unit :=
  forwardWith (onActiveFailed fb)

def restorePrimaryIfNeeded (newRoomId : String) (t : FailoverMediaTransport) : FailoverMediaTransport :=
  if !t.usingFallback then t
  else if fallbackAllowedForRoom (some newRoomId) t.selectedRoomId then t
  else
    bindActive { t.clearEscalationTimer.closeActiveKeepMedia with
      relay := none, usingFallback := false, primaryConnected := false }

def handleEscalationTimeout (fb : FallbackConduct) (t : FailoverMediaTransport) : Outcome Unit :=
  if !fallbackAllowedForRoom t.currentRoomId t.selectedRoomId then
    let t := t.recordEscalation .skipped "FALLBACK_UNAVAILABLE"
    let t := t.emit ⟨.degraded, "ESCALATION_FALLBACK_UNAVAILABLE", none, none⟩
    .returns () (t.emit ⟨.failed, "ESCALATION_FALLBACK_UNAVAILABLE", none, none⟩)
  else
    (activateFallback fb "ESCALATION_TIMEOUT" t).andThen fun ok t =>
      if ok then .returns () (t.recordEscalation .activated "ESCALATION_TIMEOUT")
      else
        let t := t.recordEscalation .failed "FALLBACK_ACTIVATION_FAILED"
        let t := t.emit ⟨.degraded, "ESCALATION_FAILED", none, none⟩
        .returns () (t.emit ⟨.failed, "ESCALATION_FAILED", none, none⟩)

/-- What is raised ends in the log. -/
def onEscalationTimeout (fb : FallbackConduct) (gen : Nat) (t : FailoverMediaTransport) :
    FailoverMediaTransport :=
  if gen ≠ t.escalationGeneration then t
  else if t.usingFallback || t.switching || t.primaryConnected then t
  else
    let handled := handleEscalationTimeout fb t
    match handled.result with
    | some _ => handled.after
    | none => { handled.after with
        logged := handled.after.logged ++ [handled.after.escalationLogFields .error ""] }

/-! ## The operations -/

def forceFallback (fb : FallbackConduct) (t : FailoverMediaTransport) : Outcome Bool :=
  activateFallback fb "TEST_TRIGGER" t

def preconnect (conduct : Conduct) (fb : FallbackConduct) (roomId partnerId : String)
    (t : FailoverMediaTransport) : Outcome Unit :=
  let t := restorePrimaryIfNeeded roomId { t.clearEscalationTimer with primaryConnected := false }
  callActive (forward fb) conduct (LifecycleAdapter.preconnect roomId partnerId) false t

def open_ (conduct : Conduct) (fb : FallbackConduct) (t : FailoverMediaTransport) : Outcome Unit :=
  (callActive (forward fb) conduct LifecycleAdapter.open_ true { t with primaryConnected := false }).andThen
    fun _ t => .returns () t.armEscalationTimer

def switchPartner (conduct : Conduct) (fb : FallbackConduct) (newRoomId newPartnerId : String)
    (t : FailoverMediaTransport) : Outcome Unit :=
  let t := restorePrimaryIfNeeded newRoomId { t.clearEscalationTimer with primaryConnected := false }
  (callActive (forward fb) conduct (LifecycleAdapter.switchPartner newRoomId newPartnerId) true t).andThen
    fun _ t => .returns () t.armEscalationTimer

def leave (t : FailoverMediaTransport) : FailoverMediaTransport :=
  let t := t.clearEscalationTimer.unbindActive
  { t.setActive t.active.leave with
    sharedMedia := t.sharedMedia.release, usingFallback := false, primaryConnected := false }

end FailoverMediaTransport

/-! ## Runs -/

/-- `emits` is an event of the active adapter outside every call, `timer k` the `k`-th of
    the timers that have not fired. -/
inductive TransportAction where
  | preconnect (roomId partnerId : String) (conduct : Conduct) (fb : FallbackConduct)
  | open_ (conduct : Conduct) (fb : FallbackConduct)
  | switchPartner (newRoomId newPartnerId : String) (conduct : Conduct) (fb : FallbackConduct)
  | leave
  | forceFallback (fb : FallbackConduct)
  | emits (signal : Signal) (fb : FallbackConduct)
  | timer (k : Nat) (fb : FallbackConduct)
deriving DecidableEq

namespace FailoverMediaTransport

def step (t : FailoverMediaTransport) : TransportAction → FailoverMediaTransport
  | .preconnect roomId partnerId conduct fb => (preconnect conduct fb roomId partnerId t).after
  | .open_ conduct fb => (open_ conduct fb t).after
  | .switchPartner newRoomId newPartnerId conduct fb =>
    (switchPartner conduct fb newRoomId newPartnerId t).after
  | .leave => t.leave
  | .forceFallback fb => (forceFallback fb t).after
  | .emits signal fb => if t.active.bound then (forward fb signal t).after else t
  | .timer k fb =>
    match t.scheduled[k]? with
    | none => t
    | some gen => onEscalationTimeout fb gen { t with scheduled := t.scheduled.eraseIdx k }

end FailoverMediaTransport

end EventPlatform.Media
