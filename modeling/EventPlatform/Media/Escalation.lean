import EventPlatform.Media.PairIsolation

/-! # No stale escalation

Every timer is scheduled with a generation, and whatever happens to the transport in earnest
raises the generation.  A callback of the present generation has seen nothing happen. -/

namespace EventPlatform.Media

open EventPlatform.Lib

/-- The events that clear the timer. -/
def Settles (signal : Signal) : Prop := signal.event = .connected ∨ signal.event = .failed

instance (signal : Signal) : Decidable (Settles signal) := inferInstanceAs (Decidable (_ ∨ _))

/-- The adapter connects or fails within the call, and the transport hears of it. -/
structure SettlesInCall (t : FailoverMediaTransport) (conduct : Conduct) : Prop where
  runs : conduct.raises ≠ some .atOnce
  bound : t.active.bound = true
  settles : conduct.connects = true ∨ ∃ signal ∈ conduct.emits, Settles signal

/-- After these no timer that was armed before acts any more. -/
def Retires (t : FailoverMediaTransport) : TransportAction → Prop
  | .preconnect _ _ _ _ | .switchPartner _ _ _ _ | .leave => True
  | .open_ conduct fb => (t.open_ conduct fb).result.isSome = true ∨ SettlesInCall t conduct
  | .forceFallback _ => FailoverMediaTransport.Activates t
  | .emits signal _ => t.active.bound = true ∧ Settles signal
  | .timer _ _ => False

namespace FailoverMediaTransport

variable {t u v : FailoverMediaTransport} {fb : FallbackConduct} {conduct : Conduct} {signal : Signal}

/-! ## Generations -/

/-- No timer has been armed in between. -/
structure Grows (t u : FailoverMediaTransport) : Prop where
  generation : t.escalationGeneration ≤ u.escalationGeneration
  scheduled : u.scheduled = t.scheduled

namespace Grows

theorem refl (t : FailoverMediaTransport) : Grows t t := ⟨le_refl _, rfl⟩

theorem trans (first : Grows t u) (second : Grows u v) : Grows t v :=
  ⟨first.generation.trans second.generation, second.scheduled.trans first.scheduled⟩

theorem clearEscalationTimer (t : FailoverMediaTransport) : Grows t t.clearEscalationTimer := ⟨Nat.le_succ _, rfl⟩

theorem emit (t : FailoverMediaTransport) (signal : Signal) : Grows t (t.emit signal) := ⟨le_refl _, rfl⟩

theorem recordEscalation (t : FailoverMediaTransport) (result : EscalationResult) (reason : String) :
    Grows t (t.recordEscalation result reason) := ⟨le_refl _, rfl⟩

theorem setActive (t : FailoverMediaTransport) (a : LifecycleAdapter) : Grows t (t.setActive a) := by
  unfold FailoverMediaTransport.setActive
  cases t.relay with
  | none => exact ⟨le_refl _, rfl⟩
  | some relay => exact ⟨le_refl _, rfl⟩

theorem andThen {α β : Type} {o : Outcome α} {f : α → FailoverMediaTransport → Outcome β} (first : Grows t o.after)
    (second : ∀ a u, Grows u (f a u).after) : Grows t (o.andThen f).after :=
  Outcome.andThen_after first fun a u grown => grown.trans (second a u)

theorem lt_andThen {α β : Type} {o : Outcome α} {f : α → FailoverMediaTransport → Outcome β}
    (less : t.escalationGeneration < o.after.escalationGeneration) (second : ∀ a u, Grows u (f a u).after) :
    t.escalationGeneration < (o.andThen f).after.escalationGeneration := by
  have rises : ∀ (a : α) (u : FailoverMediaTransport), t.escalationGeneration < u.escalationGeneration →
      t.escalationGeneration < (f a u).after.escalationGeneration :=
    fun a u above => above.trans_le (second a u).generation
  exact Outcome.andThen_after (P := fun u => t.escalationGeneration < u.escalationGeneration) less rises

end Grows

theorem callActive_grows {onSignal : Signal → FailoverMediaTransport → Outcome Unit}
    (keeps : ∀ signal u, Grows u (onSignal signal u).after) (conduct : Conduct)
    (method : LifecycleAdapter → SharedLocalMedia → LifecycleAdapter × SharedLocalMedia) (announces : Bool)
    (t : FailoverMediaTransport) : Grows t (callActive onSignal conduct method announces t).after := by
  by_cases raised : conduct.raises = some .atOnce
  · rw [callActive_atOnce raised]
    exact .refl t
  · apply callActive_after raised
    · intro signal _ u grown
      exact grown.trans (keeps signal u)
    · obtain ⟨generation, scheduled⟩ := Grows.setActive t (method t.active t.sharedMedia).1
      exact ⟨generation, scheduled⟩

theorem forwardSwitching_grows (signal : Signal) (t : FailoverMediaTransport) :
    Grows t (forwardSwitching signal t).after := by
  unfold forwardSwitching forwardWith
  cases signal.event with
  | connected => exact ⟨Nat.le_succ _, rfl⟩
  | failed => exact (Grows.clearEscalationTimer t).trans (.emit _ signal)
  | degraded => exact .emit t signal
  | stats => exact .emit t signal

/-- The forwarders activate nothing while `_switching` is set. -/
theorem forwardSwitching_activations (signal : Signal) (t : FailoverMediaTransport) :
    (forwardSwitching signal t).after.fallbackActivations = t.fallbackActivations := by
  unfold forwardSwitching forwardWith
  cases signal.event with
  | connected => rfl
  | failed => rfl
  | degraded => rfl
  | stats => rfl

theorem setActive_fallbackActivations (t : FailoverMediaTransport) (a : LifecycleAdapter) :
    (t.setActive a).fallbackActivations = t.fallbackActivations := by
  unfold setActive
  cases t.relay with
  | none => rfl
  | some relay => rfl

theorem callSwitching_activations (conduct : Conduct)
    (method : LifecycleAdapter → SharedLocalMedia → LifecycleAdapter × SharedLocalMedia) (announces : Bool)
    (t : FailoverMediaTransport) : (callActive forwardSwitching conduct method announces t).after.fallbackActivations =
      t.fallbackActivations := by
  by_cases raised : conduct.raises = some .atOnce
  · rw [callActive_atOnce raised]
    rfl
  · refine callActive_after (P := fun u => u.fallbackActivations = t.fallbackActivations) raised ?_
      (setActive_fallbackActivations t _)
    intro signal _ u same
    exact (forwardSwitching_activations signal u).trans same

theorem activateFallback_activations (fb : FallbackConduct) (reason : String) (t : FailoverMediaTransport) :
    (activateFallback fb reason t).after.fallbackActivations ≤ t.fallbackActivations + 1 := by
  by_cases activates : Activates t
  · rw [activateFallback_of_activates activates]
    have dropped : (dropActive reason t).fallbackActivations = t.fallbackActivations :=
      setActive_fallbackActivations _ _
    -- the counter goes up with the relay, and entering the room leaves it alone
    have installed : (installRelay (dropActive reason t)).fallbackActivations = t.fallbackActivations + 1 :=
      congrArg (· + 1) dropped
    unfold switchToRelay
    simp only []
    split
    · exact dropped.le.trans (Nat.le_succ _)
    · refine Outcome.andThen_after (P := fun u => u.fallbackActivations ≤ t.fallbackActivations + 1) ?_ fun _ _ le => le
      unfold enterRoom
      split
      · refine Outcome.andThen_after (P := fun u => u.fallbackActivations ≤ t.fallbackActivations + 1) ?_
          fun _ u le => ?_
        · rw [callSwitching_activations, installed]
        · split
          · rw [callSwitching_activations]
            exact le
          · exact le
      · exact installed.le
  · rw [activateFallback_of_not_activates activates]
    exact Nat.le_succ _

theorem enterRoom_grows (fb : FallbackConduct) (roomId partnerId : Option String) (wasOpen : Bool)
    (t : FailoverMediaTransport) : Grows t (enterRoom fb roomId partnerId wasOpen t).after := by
  unfold enterRoom
  split
  · refine Grows.andThen (callActive_grows forwardSwitching_grows _ _ _ t) fun _ u => ?_
    cases wasOpen with
    | true => exact callActive_grows forwardSwitching_grows _ _ _ u
    | false => exact .refl u
  · exact .refl t

/-- `_activate_fallback` clears the timer first. -/
theorem dropActive_grows (reason : String) (t : FailoverMediaTransport) :
    t.escalationGeneration < (dropActive reason t).escalationGeneration ∧
      (dropActive reason t).scheduled = t.scheduled := by
  unfold dropActive closeActiveKeepMedia
  obtain ⟨generation, scheduled⟩ := Grows.setActive
    (emit { t.clearEscalationTimer with switching := true }
      ⟨.degraded, if reason = "" then "PRIMARY_FAILED" else reason, none, none⟩)
    (emit { t.clearEscalationTimer with switching := true }
      ⟨.degraded, if reason = "" then "PRIMARY_FAILED" else reason, none, none⟩).active.off.abandon
  exact ⟨generation, scheduled⟩

theorem installRelay_grows (t : FailoverMediaTransport) : Grows t t.installRelay := ⟨le_refl _, rfl⟩

theorem switchToRelay_grows (fb : FallbackConduct) (reason : String) (t : FailoverMediaTransport) :
    t.escalationGeneration < (switchToRelay fb reason t).after.escalationGeneration ∧
      (switchToRelay fb reason t).after.scheduled = t.scheduled := by
  obtain ⟨less, scheduled⟩ := dropActive_grows reason t
  have rest : Grows (dropActive reason t) (switchToRelay fb reason t).after := by
    unfold switchToRelay
    simp only []
    split
    · exact .refl _
    · refine Grows.andThen ((installRelay_grows _).trans (enterRoom_grows fb _ _ _ _)) fun _ u => ?_
      exact ⟨le_refl _, rfl⟩
  exact ⟨less.trans_le rest.generation, rest.scheduled.trans scheduled⟩

theorem activateFallback_grows (fb : FallbackConduct) (reason : String) (t : FailoverMediaTransport) :
    Grows t (activateFallback fb reason t).after := by
  by_cases activates : Activates t
  · rw [activateFallback_of_activates activates]
    obtain ⟨less, scheduled⟩ := switchToRelay_grows fb reason t
    exact ⟨less.le, scheduled⟩
  · rw [activateFallback_of_not_activates activates]
    exact .refl t

theorem forward_grows (fb : FallbackConduct) (signal : Signal) (t : FailoverMediaTransport) :
    Grows t (forward fb signal t).after := by
  unfold forward forwardWith
  cases signal.event with
  | connected => exact ⟨Nat.le_succ _, rfl⟩
  | failed =>
    refine (Grows.clearEscalationTimer t).trans ?_
    refine Grows.andThen (activateFallback_grows fb signal.reason _) fun activated u => ?_
    cases activated with
    | true => exact .refl u
    | false => exact .emit u signal
  | degraded => exact .emit t signal
  | stats => exact .emit t signal

/-- An event that settles the call raises the generation. -/
theorem forward_settles (fb : FallbackConduct) (settles : Settles signal) (t : FailoverMediaTransport) :
    t.escalationGeneration < (forward fb signal t).after.escalationGeneration := by
  have cleared : Grows t.clearEscalationTimer (forward fb signal t).after := by
    unfold forward forwardWith
    cases kind : signal.event with
    | connected => exact ⟨le_refl _, rfl⟩
    | failed =>
      refine Grows.andThen (activateFallback_grows fb signal.reason _) fun activated u => ?_
      cases activated with
      | true => exact .refl u
      | false => exact .emit u signal
    | degraded => simp [Settles, kind] at settles
    | stats => simp [Settles, kind] at settles
  exact cleared.generation

/-! ## One generation -/

theorem place_trans (raised : t.escalationGeneration ≤ u.escalationGeneration)
    (raised' : u.escalationGeneration ≤ v.escalationGeneration)
    (first : u.escalationGeneration = t.escalationGeneration →
      u.currentRoomId = t.currentRoomId ∧ u.currentPartnerId = t.currentPartnerId)
    (second : v.escalationGeneration = u.escalationGeneration →
      v.currentRoomId = u.currentRoomId ∧ v.currentPartnerId = u.currentPartnerId) :
    v.escalationGeneration = t.escalationGeneration →
      v.currentRoomId = t.currentRoomId ∧ v.currentPartnerId = t.currentPartnerId := by
  intro same
  -- the generation never goes back, so it is the same at `u` too
  obtain ⟨room, partner⟩ := first (by omega)
  obtain ⟨room', partner'⟩ := second (by omega)
  exact ⟨room'.trans room, partner'.trans partner⟩

/-- In one generation the transport stays in its room. -/
structure Since (t u : FailoverMediaTransport) : Prop extends Grows t u where
  place : u.escalationGeneration = t.escalationGeneration →
    u.currentRoomId = t.currentRoomId ∧ u.currentPartnerId = t.currentPartnerId

namespace Since

theorem trans (first : Since t u) (second : Since u v) : Since t v where
  toGrows := first.toGrows.trans second.toGrows
  place := place_trans first.generation second.generation first.place second.place

theorem of_samePlace (grows : Grows t u) (same : SamePlace t u) : Since t u :=
  ⟨grows, fun _ => ⟨same.currentRoomId, same.currentPartnerId⟩⟩

theorem refl (t : FailoverMediaTransport) : Since t t := of_samePlace (.refl t) (.refl t)

theorem of_lt (grows : Grows t u) (less : t.escalationGeneration < u.escalationGeneration) : Since t u :=
  ⟨grows, fun same => absurd same less.ne'⟩

end Since

theorem forward_since (fb : FallbackConduct) (signal : Signal) (t : FailoverMediaTransport) :
    Since t (forward fb signal t).after := by
  by_cases settles : Settles signal
  · exact .of_lt (forward_grows fb signal t) (forward_settles fb settles t)
  · have quiet : signal.event = .failed → ¬ Activates t := fun failed => absurd (.inr failed) settles
    obtain ⟨u, returned, same⟩ := forward_of_not_activates fb signal quiet
    refine .of_samePlace (forward_grows fb signal t) ?_
    rw [returned]
    exact same

theorem callOpen_since (fb : FallbackConduct) (conduct : Conduct) (t : FailoverMediaTransport) :
    Since t (callActive (forward fb) conduct LifecycleAdapter.open_ true t).after := by
  by_cases raised : conduct.raises = some .atOnce
  · rw [callActive_atOnce raised]
    exact .refl t
  · apply callActive_after raised
    · intro signal _ u since
      exact since.trans (forward_since fb signal u)
    · obtain ⟨generation, scheduled⟩ := Grows.setActive t (LifecycleAdapter.open_ t.active t.sharedMedia).1
      have active : (afterMethod LifecycleAdapter.open_ t).active = (LifecycleAdapter.open_ t.active t.sharedMedia).1 :=
        afterMethod_active t
      refine ⟨⟨generation, scheduled⟩, fun _ => ?_⟩
      simp only [currentRoomId, currentPartnerId]
      rw [afterMethod] at active
      rw [active]
      exact ⟨rfl, rfl⟩

/-- Events that are delivered raise the generation when one of them settles the call. -/
theorem deliverAll_settles {byRelay : Bool} {signals : List Signal} (settles : ∃ signal ∈ signals, Settles signal)
    (heard : t.hears byRelay = true) :
    t.escalationGeneration < (deliverAll (forward fb) byRelay signals t).after.escalationGeneration := by
  induction signals generalizing t with
  | nil => simp at settles
  | cons signal rest ih =>
    rw [deliverAll, if_pos heard]
    by_cases here : Settles signal
    · refine Grows.lt_andThen (forward_settles fb here t) fun _ u => ?_
      exact deliverAll_after (fun signal _ w grown => grown.trans (forward_grows fb signal w)) (.refl u)
    · obtain ⟨u, returned, same⟩ :=
        forward_of_not_activates (t := t) fb signal fun failed => absurd (.inr failed) here
      have grown := forward_grows fb signal t
      rw [returned] at grown ⊢
      have later : ∃ signal ∈ rest, Settles signal := by
        obtain ⟨other, member, settles⟩ := settles
        cases List.mem_cons.mp member with
        | inl same => exact absurd (same ▸ settles) here
        | inr member => exact ⟨other, member, settles⟩
      exact grown.generation.trans_lt (ih later ((same.hears byRelay).trans heard))

theorem callOpen_settles (fb : FallbackConduct) (settles : SettlesInCall t conduct) : t.escalationGeneration <
    (callActive (forward fb) conduct LifecycleAdapter.open_ true t).after.escalationGeneration := by
  unfold callActive
  rw [if_neg settles.runs]
  refine Grows.lt_andThen ?_ fun _ u => ?_
  · have start : Grows t (afterMethod LifecycleAdapter.open_ t) := by
      obtain ⟨generation, scheduled⟩ := Grows.setActive t (LifecycleAdapter.open_ t.active t.sharedMedia).1
      exact ⟨generation, scheduled⟩
    have heard := (afterMethod_hears LifecycleAdapter.open_bound t).trans settles.bound
    refine start.generation.trans_lt (deliverAll_settles ?_ heard)
    cases settles.settles with
    | inl connects =>
      refine ⟨(LifecycleAdapter.open_ t.active t.sharedMedia).1.connectedSignal, List.mem_append_left _ ?_, .inl rfl⟩
      simp [connects]
    | inr fails =>
      obtain ⟨signal, member, settles⟩ := fails
      exact ⟨signal, List.mem_append_right _ member, settles⟩
  · split
    · exact .refl u
    · exact .refl u

/-! ## One step -/

/-- A step raises the generation if it retires the timers, and otherwise the transport stays
    in its room; a timer that it arms has a new generation. -/
structure TimerStep (t : FailoverMediaTransport) (action : TransportAction) (u : FailoverMediaTransport) : Prop where
  generation : t.escalationGeneration ≤ u.escalationGeneration
  retires : Retires t action → t.escalationGeneration < u.escalationGeneration
  place : u.escalationGeneration = t.escalationGeneration →
    u.currentRoomId = t.currentRoomId ∧ u.currentPartnerId = t.currentPartnerId
  scheduled : u.scheduled.Sublist t.scheduled ∨
    (t.escalationGeneration < u.escalationGeneration ∧ u.scheduled = t.scheduled ++ [u.escalationGeneration])

variable {action : TransportAction}

theorem TimerStep.of_grows (grows : Grows t u) (less : t.escalationGeneration < u.escalationGeneration) :
    TimerStep t action u where
  generation := less.le
  retires := fun _ => less
  place := fun same => absurd same less.ne'
  scheduled := .inl (grows.scheduled ▸ List.Sublist.refl t.scheduled)

theorem TimerStep.of_since (since : Since t u) (quiet : ¬ Retires t action) : TimerStep t action u where
  generation := since.generation
  retires := fun retires => absurd retires quiet
  place := since.place
  scheduled := .inl (since.scheduled ▸ List.Sublist.refl t.scheduled)

/-- What ends with `_arm_escalation_timer`. -/
theorem TimerStep.of_armed (grows : Grows t u) : TimerStep t action u.armEscalationTimer := by
  have generation := grows.generation
  have raised : t.escalationGeneration < u.armEscalationTimer.escalationGeneration := by
    unfold armEscalationTimer
    simp only []
    split
    · simp only [clearEscalationTimer]; omega
    · simp only [clearEscalationTimer]; omega
  refine ⟨raised.le, fun _ => raised, fun same => absurd same raised.ne', ?_⟩
  unfold armEscalationTimer at raised ⊢
  simp only [] at raised ⊢
  split
  · exact .inl (grows.scheduled ▸ List.Sublist.refl t.scheduled)
  · rename_i idle
    rw [if_neg idle] at raised
    exact .inr ⟨raised, by rw [← grows.scheduled]; rfl⟩

theorem restorePrimaryIfNeeded_grows (newRoomId : String) (t : FailoverMediaTransport) :
    Grows t (restorePrimaryIfNeeded newRoomId t) := by
  unfold restorePrimaryIfNeeded
  split
  · exact .refl t
  · split
    · exact .refl t
    · obtain ⟨generation, scheduled⟩ := (Grows.clearEscalationTimer t).trans
        (Grows.setActive t.clearEscalationTimer t.clearEscalationTimer.active.off.abandon)
      exact ⟨generation, scheduled⟩

theorem enterNext_grows (newRoomId : String) (t : FailoverMediaTransport) : t.escalationGeneration <
    (restorePrimaryIfNeeded newRoomId { t.clearEscalationTimer with primaryConnected := false }).escalationGeneration ∧
      Grows t (restorePrimaryIfNeeded newRoomId { t.clearEscalationTimer with primaryConnected := false }) := by
  obtain ⟨generation, scheduled⟩ :=
    restorePrimaryIfNeeded_grows newRoomId { t.clearEscalationTimer with primaryConnected := false }
  have raised : t.escalationGeneration < t.clearEscalationTimer.escalationGeneration := Nat.lt_succ_self _
  exact ⟨raised.trans_le generation, (raised.trans_le generation).le, scheduled⟩

theorem leave_grows (t : FailoverMediaTransport) : t.escalationGeneration < t.leave.escalationGeneration ∧
    t.leave.scheduled = t.scheduled := by
  obtain ⟨generation, scheduled⟩ := (Grows.setActive t.clearEscalationTimer t.clearEscalationTimer.active.off).trans
    (Grows.setActive t.clearEscalationTimer.unbindActive t.clearEscalationTimer.unbindActive.active.leave)
  exact ⟨generation, scheduled⟩

/-- A call that is followed by `_arm_escalation_timer` when it returns. -/
theorem TimerStep.of_called {o : Outcome Unit} (grows : Grows t o.after)
    (raised : o.result = none → TimerStep t action o.after) :
    TimerStep t action (o.andThen fun _ u => .returns () u.armEscalationTimer).after := by
  unfold Outcome.andThen
  cases returned : o.result with
  | none => exact raised returned
  | some _ => exact .of_armed grows

theorem open_timerStep (conduct : Conduct) (fb : FallbackConduct) (t : FailoverMediaTransport) :
    TimerStep t (.open_ conduct fb) (t.step (.open_ conduct fb)) := by
  have start : Since t { t with primaryConnected := false } :=
    .of_samePlace ⟨le_refl _, rfl⟩ ⟨rfl, rfl, rfl, rfl, rfl⟩
  have since := start.trans (callOpen_since fb conduct { t with primaryConnected := false })
  refine TimerStep.of_called since.toGrows fun raised => ?_
  by_cases settles : SettlesInCall t conduct
  · have still : SettlesInCall { t with primaryConnected := false } conduct :=
      ⟨settles.runs, settles.bound, settles.settles⟩
    exact .of_grows since.toGrows (callOpen_settles fb still)
  · refine .of_since since ?_
    rintro (returned | settled)
    · rw [open_, Outcome.andThen, raised] at returned
      cases returned
    · exact settles settled

theorem onEscalationTimeout_since (fb : FallbackConduct) (gen : Nat) (t : FailoverMediaTransport) :
    Since t (onEscalationTimeout fb gen t) := by
  have handled : Since t (handleEscalationTimeout fb t).after := by
    unfold handleEscalationTimeout
    split
    · exact .of_samePlace ⟨le_refl _, rfl⟩ ⟨rfl, rfl, rfl, rfl, rfl⟩
    -- an activation raises the generation, and a refusal changes nothing
    · have activated : Since t (activateFallback fb "ESCALATION_TIMEOUT" t).after := by
        by_cases activates : Activates t
        · rw [activateFallback_of_activates activates]
          obtain ⟨less, scheduled⟩ := switchToRelay_grows fb "ESCALATION_TIMEOUT" t
          exact .of_lt ⟨less.le, scheduled⟩ less
        · rw [activateFallback_of_not_activates activates]
          exact .refl t
      refine Outcome.andThen_after activated fun ok u since => since.trans ?_
      split
      · exact .of_samePlace ⟨le_refl _, rfl⟩ ⟨rfl, rfl, rfl, rfl, rfl⟩
      · exact .of_samePlace ⟨le_refl _, rfl⟩ ⟨rfl, rfl, rfl, rfl, rfl⟩
  unfold onEscalationTimeout
  split
  · exact .refl t
  · split
    · exact .refl t
    · simp only []
      split
      · exact handled
      · exact handled.trans (.of_samePlace ⟨le_refl _, rfl⟩ ⟨rfl, rfl, rfl, rfl, rfl⟩)

theorem onEscalationTimeout_activations (fb : FallbackConduct) (gen : Nat) (t : FailoverMediaTransport) :
    (onEscalationTimeout fb gen t).fallbackActivations ≤ t.fallbackActivations + 1 := by
  have handled : (handleEscalationTimeout fb t).after.fallbackActivations ≤ t.fallbackActivations + 1 := by
    unfold handleEscalationTimeout
    split
    · exact Nat.le_succ _
    · refine Outcome.andThen_after (P := fun u => u.fallbackActivations ≤ t.fallbackActivations + 1)
        (activateFallback_activations fb "ESCALATION_TIMEOUT" t) fun ok u le => ?_
      split
      · exact le
      · exact le
  unfold onEscalationTimeout
  split
  · exact Nat.le_succ _
  · split
    · exact Nat.le_succ _
    · simp only []
      split
      · exact handled
      · exact handled

theorem timerStep (t : FailoverMediaTransport) (action : TransportAction) : TimerStep t action (t.step action) := by
  cases action with
  | preconnect roomId partnerId conduct fb =>
    obtain ⟨less, entered⟩ := enterNext_grows roomId t
    have called := callActive_grows (forward_grows fb) conduct (LifecycleAdapter.preconnect roomId partnerId) false
      (restorePrimaryIfNeeded roomId { t.clearEscalationTimer with primaryConnected := false })
    exact .of_grows (entered.trans called) (less.trans_le called.generation)
  | open_ conduct fb => exact open_timerStep conduct fb t
  | switchPartner newRoomId newPartnerId conduct fb =>
    obtain ⟨less, entered⟩ := enterNext_grows newRoomId t
    have called := callActive_grows (forward_grows fb) conduct
      (LifecycleAdapter.switchPartner newRoomId newPartnerId) true
      (restorePrimaryIfNeeded newRoomId { t.clearEscalationTimer with primaryConnected := false })
    exact .of_called (entered.trans called) fun _ => .of_grows (entered.trans called) (less.trans_le called.generation)
  | leave =>
    obtain ⟨less, scheduled⟩ := leave_grows t
    exact .of_grows ⟨less.le, scheduled⟩ less
  | forceFallback fb =>
    simp only [step, forceFallback]
    by_cases activates : Activates t
    · rw [activateFallback_of_activates activates]
      obtain ⟨less, scheduled⟩ := switchToRelay_grows fb "TEST_TRIGGER" t
      exact .of_grows ⟨less.le, scheduled⟩ less
    · rw [activateFallback_of_not_activates activates]
      exact .of_since (.refl t) activates
  | emits signal fb =>
    simp only [step]
    -- an adapter that is no longer bound is not heard
    by_cases bound : t.active.bound = true
    · rw [if_pos bound]
      by_cases settles : Settles signal
      · exact .of_grows (forward_grows fb signal t) (forward_settles fb settles t)
      · exact .of_since (forward_since fb signal t) fun retires => settles retires.2
    · rw [if_neg bound]
      exact .of_since (.refl t) fun retires => bound retires.1
  | timer k fb =>
    simp only [step]
    cases pending : t.scheduled[k]? with
    | none => exact .of_since (.refl t) id
    | some gen =>
      have since := onEscalationTimeout_since fb gen { t with scheduled := t.scheduled.eraseIdx k }
      have shorter : (onEscalationTimeout fb gen { t with scheduled := t.scheduled.eraseIdx k }).scheduled.Sublist
          t.scheduled := by
        rw [since.scheduled]
        exact List.eraseIdx_sublist t.scheduled k
      exact ⟨since.generation, False.elim, since.place, .inl shorter⟩

/-! ## The timers of a run -/

/-- A timer is scheduled once, and for a generation that has been. -/
structure TimersInOrder (t : FailoverMediaTransport) : Prop where
  nodup : t.scheduled.Nodup
  past : ∀ gen ∈ t.scheduled, gen ≤ t.escalationGeneration

theorem timersInOrder_step (order : TimersInOrder t) (action : TransportAction) : TimersInOrder (t.step action) := by
  have step := timerStep t action
  cases step.scheduled with
  | inl fewer =>
    exact ⟨fewer.nodup order.nodup, fun gen pending => (order.past gen (fewer.subset pending)).trans step.generation⟩
  | inr armed =>
    obtain ⟨raised, scheduled⟩ := armed
    have new : (t.step action).escalationGeneration ∉ t.scheduled := fun pending =>
      absurd (order.past _ pending) (Nat.not_le.mpr raised)
    constructor
    · rw [scheduled]
      exact List.nodup_append.mpr ⟨order.nodup, List.nodup_singleton _, fun gen pending other single same =>
        new (List.mem_singleton.mp single ▸ same ▸ pending)⟩
    · intro gen pending
      rw [scheduled] at pending
      cases List.mem_append.mp pending with
      | inl old => exact (order.past gen old).trans raised.le
      | inr single => rw [List.mem_singleton.mp single]

/-- A generation that has been and has no timer left gets none again. -/
theorem spent_step {gen : Nat} (spent : gen ∉ t.scheduled ∧ gen ≤ t.escalationGeneration) (action : TransportAction) :
    gen ∉ (t.step action).scheduled ∧ gen ≤ (t.step action).escalationGeneration := by
  have step := timerStep t action
  refine ⟨fun pending => ?_, spent.2.trans step.generation⟩
  cases step.scheduled with
  | inl fewer => exact spent.1 (fewer.subset pending)
  | inr armed =>
    obtain ⟨raised, scheduled⟩ := armed
    rw [scheduled] at pending
    cases List.mem_append.mp pending with
    | inl old => exact spent.1 old
    | inr single => exact absurd spent.2 (Nat.not_le.mpr (List.mem_singleton.mp single ▸ raised))

/-- In a later state of the same generation the transport is in the same room. -/
structure Later (t u : FailoverMediaTransport) : Prop where
  generation : t.escalationGeneration ≤ u.escalationGeneration
  place : u.escalationGeneration = t.escalationGeneration →
    u.currentRoomId = t.currentRoomId ∧ u.currentPartnerId = t.currentPartnerId

theorem Later.trans (first : Later t u) (second : Later u v) : Later t v where
  generation := first.generation.trans second.generation
  place := place_trans first.generation second.generation first.place second.place

theorem later_step (t : FailoverMediaTransport) (action : TransportAction) : Later t (t.step action) :=
  ⟨(timerStep t action).generation, (timerStep t action).place⟩

end FailoverMediaTransport

/-! ## Callbacks -/

section Callbacks

open FailoverMediaTransport

variable (selectedRoomId : Option String) (escalationTimeoutMs : Int) (actions : List TransportAction)

/-- The transport before the `n`-th action of a run. -/
def transportAt (n : Nat) : FailoverMediaTransport := stateAt step (.create selectedRoomId escalationTimeoutMs) actions n

/-- The `n`-th action arms the timer of this generation. -/
structure Arms (n gen : Nat) : Prop where
  fresh : gen ∉ (transportAt selectedRoomId escalationTimeoutMs actions n).scheduled
  armed : gen ∈ (transportAt selectedRoomId escalationTimeoutMs actions (n + 1)).scheduled

def takeTimer (k : Nat) (t : FailoverMediaTransport) : FailoverMediaTransport :=
  { t with scheduled := t.scheduled.eraseIdx k }

/-- The callback does something. -/
def ActsOn (fb : FallbackConduct) (gen : Nat) (t : FailoverMediaTransport) : Prop := onEscalationTimeout fb gen t ≠ t

/-- The `m`-th action is the callback of the timer of this generation, and it does something. -/
def Fires (m gen : Nat) : Prop :=
  ∃ k fb, actions[m]? = some (.timer k fb) ∧
    (transportAt selectedRoomId escalationTimeoutMs actions m).scheduled[k]? = some gen ∧
    ActsOn fb gen (takeTimer k (transportAt selectedRoomId escalationTimeoutMs actions m))

/-- Nothing that retires timers has happened between two actions. -/
def QuietBetween (n m : Nat) : Prop :=
  ∀ i action, n < i → i < m → actions[i]? = some action →
    ¬ Retires (transportAt selectedRoomId escalationTimeoutMs actions i) action

/-- A timer that fires for its room: since it was armed nothing has retired it, the transport
    is in the same room with the same partner and not connected, and it fires once. -/
structure FiresFresh (m gen : Nat) : Prop where
  armed : ∃ n < m, Arms selectedRoomId escalationTimeoutMs actions n gen ∧
    QuietBetween selectedRoomId escalationTimeoutMs actions n m ∧
    (transportAt selectedRoomId escalationTimeoutMs actions m).currentRoomId =
      (transportAt selectedRoomId escalationTimeoutMs actions (n + 1)).currentRoomId ∧
    (transportAt selectedRoomId escalationTimeoutMs actions m).currentPartnerId =
      (transportAt selectedRoomId escalationTimeoutMs actions (n + 1)).currentPartnerId
  armedOnce : ∀ n n', Arms selectedRoomId escalationTimeoutMs actions n gen →
    Arms selectedRoomId escalationTimeoutMs actions n' gen → n = n'
  unconnected : (transportAt selectedRoomId escalationTimeoutMs actions m).usingFallback = false ∧
    (transportAt selectedRoomId escalationTimeoutMs actions m).primaryConnected = false
  oneActivation : (transportAt selectedRoomId escalationTimeoutMs actions (m + 1)).fallbackActivations ≤
    (transportAt selectedRoomId escalationTimeoutMs actions m).fallbackActivations + 1
  once : ∀ m', Fires selectedRoomId escalationTimeoutMs actions m' gen → m' = m

variable {selectedRoomId : Option String} {escalationTimeoutMs : Int} {actions : List TransportAction} {n m gen : Nat}
  {t : FailoverMediaTransport} {fb : FallbackConduct}

/-- The guards of the callback. -/
theorem actsOn_cases (acts : ActsOn fb gen t) :
    gen = t.escalationGeneration ∧ t.usingFallback = false ∧ t.switching = false ∧ t.primaryConnected = false := by
  unfold ActsOn onEscalationTimeout at acts
  by_cases present : gen = t.escalationGeneration
  · rw [if_neg (not_not_intro present)] at acts
    by_cases busy : t.usingFallback || t.switching || t.primaryConnected
    · rw [if_pos busy] at acts
      exact absurd rfl acts
    · simp only [Bool.or_eq_true, not_or, Bool.not_eq_true] at busy
      exact ⟨present, busy.1.1, busy.1.2, busy.2⟩
  · rw [if_pos present] at acts
    exact absurd rfl acts

theorem inOrder_transportAt (n : Nat) : TimersInOrder (transportAt selectedRoomId escalationTimeoutMs actions n) := by
  have start : TimersInOrder (.create selectedRoomId escalationTimeoutMs) :=
    ⟨List.nodup_nil, fun _ pending => absurd pending List.not_mem_nil⟩
  have keeps : ∀ (t : FailoverMediaTransport) (action : TransportAction), TimersInOrder t → TimersInOrder (t.step action) :=
    fun _ action order => timersInOrder_step order action
  exact stateAt_invariant keeps start n

theorem later_transportAt (ordered : n ≤ m) : Later (transportAt selectedRoomId escalationTimeoutMs actions n)
    (transportAt selectedRoomId escalationTimeoutMs actions m) :=
  stateAt_related (fun _ => ⟨le_refl _, fun _ => ⟨rfl, rfl⟩⟩) Later.trans later_step ordered

/-- A timer that is gone stays away. -/
theorem spent_later (ordered : n ≤ m)
    (spent : gen ∉ (transportAt selectedRoomId escalationTimeoutMs actions n).scheduled ∧
      gen ≤ (transportAt selectedRoomId escalationTimeoutMs actions n).escalationGeneration) :
    gen ∉ (transportAt selectedRoomId escalationTimeoutMs actions m).scheduled := by
  have stays : ∀ (t : FailoverMediaTransport) (action : TransportAction),
      (gen ∉ t.scheduled ∧ gen ≤ t.escalationGeneration) →
      gen ∉ (t.step action).scheduled ∧ gen ≤ (t.step action).escalationGeneration :=
    fun _ action gone => spent_step gone action
  exact (stateAt_related (R := fun t u : FailoverMediaTransport => (gen ∉ t.scheduled ∧ gen ≤ t.escalationGeneration) →
    gen ∉ u.scheduled ∧ gen ≤ u.escalationGeneration) (fun _ => id) (fun first second => second ∘ first) stays
    ordered spent).1

/-- An armed timer has the generation that the arming has left. -/
theorem generation_of_arms (arms : Arms selectedRoomId escalationTimeoutMs actions n gen) :
    (transportAt selectedRoomId escalationTimeoutMs actions (n + 1)).escalationGeneration = gen := by
  have armed := arms.armed
  cases input : actions[n]? with
  | none =>
    rw [transportAt, stateAt_succ_of_none input] at armed
    exact absurd armed arms.fresh
  | some action =>
    rw [transportAt, stateAt_succ input] at armed ⊢
    cases (timerStep (transportAt selectedRoomId escalationTimeoutMs actions n) action).scheduled with
    | inl fewer => exact absurd (fewer.subset armed) arms.fresh
    | inr new =>
      obtain ⟨_, scheduled⟩ := new
      rw [transportAt] at scheduled
      rw [scheduled] at armed
      cases List.mem_append.mp armed with
      | inl old => exact absurd old arms.fresh
      | inr single => exact (List.mem_singleton.mp single).symm

theorem armed_of_pending (pending : gen ∈ (transportAt selectedRoomId escalationTimeoutMs actions m).scheduled) :
    ∃ n < m, Arms selectedRoomId escalationTimeoutMs actions n gen := by
  have none_ : ¬ gen ∈ (transportAt selectedRoomId escalationTimeoutMs actions 0).scheduled := fun first => by
    cases first
  obtain ⟨n, before, fresh, armed⟩ :=
    exists_turn (P := fun n => gen ∈ (transportAt selectedRoomId escalationTimeoutMs actions n).scheduled) none_ pending
  exact ⟨n, before, fresh, armed⟩

theorem arms_unique {n' : Nat} (arms : Arms selectedRoomId escalationTimeoutMs actions n gen)
    (arms' : Arms selectedRoomId escalationTimeoutMs actions n' gen) (ordered : n < n') : False := by
  have past : gen ≤ (transportAt selectedRoomId escalationTimeoutMs actions n').escalationGeneration := by
    rw [← generation_of_arms arms]
    exact (later_transportAt ordered).generation
  exact spent_later (Nat.le_succ n') ⟨arms'.fresh, past⟩ arms'.armed

theorem next_of_fires {k : Nat} (input : actions[m]? = some (.timer k fb))
    (pending : (transportAt selectedRoomId escalationTimeoutMs actions m).scheduled[k]? = some gen) :
    transportAt selectedRoomId escalationTimeoutMs actions (m + 1) =
      onEscalationTimeout fb gen (takeTimer k (transportAt selectedRoomId escalationTimeoutMs actions m)) := by
  rw [transportAt] at pending
  rw [transportAt, stateAt_succ input, step]
  simp only [pending]
  rfl

/-- The callback takes its timer with it. -/
theorem spent_of_fires (fires : Fires selectedRoomId escalationTimeoutMs actions m gen) :
    gen ∉ (transportAt selectedRoomId escalationTimeoutMs actions (m + 1)).scheduled ∧
      gen ≤ (transportAt selectedRoomId escalationTimeoutMs actions (m + 1)).escalationGeneration := by
  obtain ⟨k, fb, input, pending, acts⟩ := fires
  have order : TimersInOrder (transportAt selectedRoomId escalationTimeoutMs actions m) := inOrder_transportAt m
  have since := onEscalationTimeout_since fb gen
    (takeTimer k (transportAt selectedRoomId escalationTimeoutMs actions m))
  rw [next_of_fires input pending, since.scheduled]
  constructor
  · intro still
    obtain ⟨i, other, found⟩ := List.mem_eraseIdx_iff_getElem?.mp still
    have inside : k < (transportAt selectedRoomId escalationTimeoutMs actions m).scheduled.length :=
      (List.getElem?_eq_some_iff.mp pending).1
    exact other ((List.getElem?_inj inside order.nodup).mp (pending.trans found.symm)).symm
  · exact (order.past gen (List.mem_of_getElem? pending)).trans since.generation

/-- A callback has an effect only for the room, the partner and the connection that it was
    armed for. -/
theorem no_stale_escalation (fires : Fires selectedRoomId escalationTimeoutMs actions m gen) :
    FiresFresh selectedRoomId escalationTimeoutMs actions m gen := by
  have fired := fires
  obtain ⟨k, fb, input, pending, acts⟩ := fires
  obtain ⟨present, direct, _, unconnected⟩ := actsOn_cases acts
  obtain ⟨n, earlier, arms⟩ := armed_of_pending (List.mem_of_getElem? pending)
  have generation := generation_of_arms arms
  have here : (transportAt selectedRoomId escalationTimeoutMs actions m).escalationGeneration = gen := present.symm
  -- the generation is still the one of the arming
  have same : ∀ i, n < i → i ≤ m →
      (transportAt selectedRoomId escalationTimeoutMs actions i).escalationGeneration = gen := by
    intro i after upTo
    have lower : Later (transportAt selectedRoomId escalationTimeoutMs actions (n + 1))
      (transportAt selectedRoomId escalationTimeoutMs actions i) := later_transportAt after
    have upper : Later (transportAt selectedRoomId escalationTimeoutMs actions i)
      (transportAt selectedRoomId escalationTimeoutMs actions m) := later_transportAt upTo
    have first := lower.generation
    have second := upper.generation
    omega
  have since : Later (transportAt selectedRoomId escalationTimeoutMs actions (n + 1))
    (transportAt selectedRoomId escalationTimeoutMs actions m) := later_transportAt earlier
  have place := since.place (here.trans generation.symm)
  refine
    { armed := ⟨n, earlier, arms, fun i action after until_ input retires => ?_, place⟩
      armedOnce := fun i j arms arms' => ?_
      unconnected := ⟨direct, unconnected⟩
      oneActivation := ?_
      once := fun m' fires' => ?_ }
  · have raised := (timerStep (transportAt selectedRoomId escalationTimeoutMs actions i) action).retires retires
    have next : (transportAt selectedRoomId escalationTimeoutMs actions i).step action =
        transportAt selectedRoomId escalationTimeoutMs actions (i + 1) := (stateAt_succ input).symm
    rw [next, same i after until_.le, same (i + 1) (Nat.lt_succ_of_lt after) until_] at raised
    exact lt_irrefl gen raised
  · cases Nat.lt_trichotomy i j with
    | inl less => exact (arms_unique arms arms' less).elim
    | inr others => exact others.elim id fun more => (arms_unique arms' arms more).elim
  · rw [next_of_fires input pending]
    exact onEscalationTimeout_activations fb gen _
  · have apart : ∀ {i j : Nat}, Fires selectedRoomId escalationTimeoutMs actions i gen →
        Fires selectedRoomId escalationTimeoutMs actions j gen → ¬ i < j := by
      intro i j first second less
      obtain ⟨_, _, _, still, _⟩ := second
      exact spent_later less (spent_of_fires first) (List.mem_of_getElem? still)
    exact le_antisymm (Nat.not_lt.mp (apart fired fires')) (Nat.not_lt.mp (apart fires' fired))

/-- The primary adapter does not connect, and the timer brings up the relay. -/
def neverConnects : List TransportAction :=
  [.preconnect "test-room-101" "partner-a" .plain .plain, .open_ ⟨none, false, []⟩ .plain, .timer 0 .plain]

theorem fires_neverConnects : FiresFresh (some "test-room-101") 6000 neverConnects 2 2 :=
  no_stale_escalation ⟨0, .plain, rfl, by decide +kernel, by unfold ActsOn; decide +kernel⟩

/-- An operation, or an event that the timer is for. -/
def Happens : TransportAction → Prop
  | .preconnect _ _ _ _ | .open_ _ _ | .switchPartner _ _ _ _ | .leave | .forceFallback _ => True
  | .emits signal _ => Settles signal
  | .timer _ _ => False

/-- A fallback that is asked for in a room without one leaves the timer armed. -/
def askedInVain : List TransportAction :=
  [.preconnect "test-room-202" "partner-c" .plain .plain, .open_ ⟨none, false, []⟩ .plain, .forceFallback .plain,
    .timer 0 .plain]

theorem refused_fallback_leaves_timer : ¬ ∀ (selectedRoomId : Option String) (escalationTimeoutMs : Int)
    (actions : List TransportAction) (m gen : Nat), Fires selectedRoomId escalationTimeoutMs actions m gen →
      ∃ n < m, Arms selectedRoomId escalationTimeoutMs actions n gen ∧
        ∀ i action, n < i → i < m → actions[i]? = some action → ¬ Happens action := by
  intro all
  have fires : Fires (some "test-room-101") 6000 askedInVain 3 2 :=
    ⟨0, .plain, rfl, by decide +kernel, by unfold ActsOn; decide +kernel⟩
  obtain ⟨n, earlier, arms, quiet⟩ := all _ _ _ _ _ fires
  have generation := generation_of_arms arms
  have fresh := arms.fresh
  by_cases last : n = 2
  · -- the refused request itself arms nothing
    subst last
    revert fresh
    decide +kernel
  · exact quiet 2 (.forceFallback .plain) (by omega) (by omega) rfl trivial

end Callbacks

end EventPlatform.Media
