import EventPlatform.Media.Answered

/-! # With the fallback off

Without a selected room the failover transport is its primary adapter: it shows the same
and passes the same events on. -/

namespace EventPlatform.Media

open EventPlatform.Lib

/-! ## Adapters without the transport -/

/-- What a transport shows to its caller. -/
structure TransportView where
  state : MediaTransportState
  currentRoomId : Option String
  currentPartnerId : Option String
  audioMuted : Bool
  videoMuted : Bool
  callHistory : List Method
deriving DecidableEq

def LifecycleAdapter.view (a : LifecycleAdapter) : TransportView :=
  ⟨a.state, a.currentRoomId, a.currentPartnerId, a.audioMuted, a.videoMuted, a.callHistory⟩

def FailoverMediaTransport.view (t : FailoverMediaTransport) : TransportView := t.active.view

/-- An adapter with the caller's own listeners, and what they have heard. -/
structure BareAdapter where
  adapter : LifecycleAdapter
  media : SharedLocalMedia
  heard : List Signal

namespace BareAdapter

def create : BareAdapter := ⟨(LifecycleAdapter.create .direct).on, .create "local-stream", []⟩

def emit (signals : List Signal) (b : BareAdapter) : BareAdapter :=
  if b.adapter.bound then { b with heard := b.heard ++ signals } else b

def call (conduct : Conduct)
    (method : LifecycleAdapter → SharedLocalMedia → LifecycleAdapter × SharedLocalMedia) (announces : Bool)
    (b : BareAdapter) : BareAdapter :=
  if conduct.raises = some .atOnce then b
  else
    let called := method b.adapter b.media
    emit ((if announces && conduct.connects then [called.1.connectedSignal] else []) ++ conduct.emits)
      { b with adapter := called.1, media := called.2 }

def step (b : BareAdapter) : TransportAction → BareAdapter
  | .preconnect roomId partnerId conduct _ => b.call conduct (LifecycleAdapter.preconnect roomId partnerId) false
  | .open_ conduct _ => b.call conduct LifecycleAdapter.open_ true
  | .switchPartner newRoomId newPartnerId conduct _ =>
    b.call conduct (LifecycleAdapter.switchPartner newRoomId newPartnerId) true
  | .leave => { b with adapter := b.adapter.leave }
  | .emits signal _ => b.emit [signal]
  -- an adapter has neither
  | .forceFallback _ | .timer _ _ => b

end BareAdapter

/-- The adapter of the tests, with what its listeners have heard. -/
structure FakeMediaTransport where
  view : TransportView
  heard : List Signal

namespace FakeMediaTransport

def create : FakeMediaTransport := ⟨⟨.idle, none, none, true, true, []⟩, []⟩

def preconnect (roomId partnerId : String) (v : TransportView) : TransportView :=
  let v := { v with
    callHistory := v.callHistory ++ [Method.preconnect]
    state := .preconnecting
    currentRoomId := some roomId
    currentPartnerId := some partnerId
    audioMuted := true
    videoMuted := true }
  { v with state := .preconnected }

def open_ (v : TransportView) : TransportView :=
  { v with
    callHistory := v.callHistory ++ [.open_]
    audioMuted := false
    videoMuted := false
    state := .open_ }

def switchPartner (newRoomId newPartnerId : String) (v : TransportView) : TransportView :=
  let v := { v with
    callHistory := v.callHistory ++ [Method.switchPartner]
    state := .switching
    currentRoomId := some newRoomId
    currentPartnerId := some newPartnerId
    audioMuted := false
    videoMuted := false }
  { v with state := .open_ }

def leave (v : TransportView) : TransportView :=
  { v with
    callHistory := v.callHistory ++ [.leave]
    audioMuted := true
    videoMuted := true
    currentRoomId := none
    currentPartnerId := none
    state := .closed }

def call (conduct : Conduct) (method : TransportView → TransportView) (announces : Bool) (f : FakeMediaTransport) :
    FakeMediaTransport :=
  if conduct.raises = some .atOnce then f
  else
    let v := method f.view
    let connected : List Signal :=
      if announces && conduct.connects then [⟨.connected, "", v.currentRoomId, v.currentPartnerId⟩] else []
    ⟨v, f.heard ++ (connected ++ conduct.emits)⟩

def step (f : FakeMediaTransport) : TransportAction → FakeMediaTransport
  | .preconnect roomId partnerId conduct _ => f.call conduct (preconnect roomId partnerId) false
  | .open_ conduct _ => f.call conduct open_ true
  | .switchPartner newRoomId newPartnerId conduct _ => f.call conduct (switchPartner newRoomId newPartnerId) true
  | .leave => { f with view := leave f.view }
  | .emits signal _ => { f with heard := f.heard ++ [signal] }
  | .forceFallback _ | .timer _ _ => f

end FakeMediaTransport

/-! ## The simulation -/

/-- `preconnect`, `open`, `switch_partner`, and events of the adapter. -/
def Plain : TransportAction → Prop
  | .preconnect _ _ _ _ | .open_ _ _ | .switchPartner _ _ _ _ | .emits _ _ => True
  | .leave | .forceFallback _ | .timer _ _ => False

/-- The transport drives the adapter that the caller would drive without it. -/
structure Mirrors (t : FailoverMediaTransport) (b : BareAdapter) : Prop where
  off : t.selectedRoomId = ""
  direct : t.usingFallback = false
  relay : t.relay = none
  adapter : t.primary = b.adapter
  media : t.sharedMedia = b.media
  heard : t.emitted = b.heard
  bound : b.adapter.bound = true

/-- What the caller of either sees and hears. -/
structure ShowsSame (t : FailoverMediaTransport) (b : BareAdapter) (f : FakeMediaTransport) : Prop where
  adapter : t.view = b.adapter.view
  heard : t.emitted = b.heard
  fake : t.view = f.view
  fakeHeard : t.emitted = f.heard

open FailoverMediaTransport

variable {t u : FailoverMediaTransport} {fb : FallbackConduct} {conduct : Conduct} {signal : Signal} {b : BareAdapter}
  {f : FakeMediaTransport}

theorem Mirrors.active (mirrors : Mirrors t b) : t.active = b.adapter := by
  rw [FailoverMediaTransport.active, mirrors.relay]
  exact mirrors.adapter

theorem Mirrors.of_samePlace (mirrors : Mirrors t b) (same : SamePlace t u) (media : u.sharedMedia = t.sharedMedia)
    (emitted : u.emitted = t.emitted) : Mirrors u b where
  off := same.selectedRoomId.trans mirrors.off
  direct := same.usingFallback.trans mirrors.direct
  relay := same.relay.trans mirrors.relay
  adapter := same.primary.trans mirrors.adapter
  media := media.trans mirrors.media
  heard := emitted.trans mirrors.heard
  bound := mirrors.bound

theorem not_activates_of_off (off : t.selectedRoomId = "") : ¬ Activates t := by
  intro activates
  obtain ⟨room, known⟩ := room_of_allowed activates.allowed
  rw [room, off] at known
  simp [truthy] at known

theorem emit_bound {signals : List Signal} (mirrors : Mirrors t b) :
    b.emit signals = { b with heard := b.heard ++ signals } := if_pos mirrors.bound

theorem Mirrors.emit (mirrors : Mirrors t b) (signal : Signal) : Mirrors (t.emit signal) (b.emit [signal]) := by
  rw [emit_bound mirrors]
  exact { mirrors with heard := congrArg (· ++ [signal]) mirrors.heard }

/-- The forwarders pass an event on. -/
theorem forward_mirrors (fb : FallbackConduct) (mirrors : Mirrors t b) (signal : Signal) :
    ∃ u, forward fb signal t = .returns () u ∧ Mirrors u (b.emit [signal]) := by
  have cleared : Mirrors t.clearEscalationTimer b :=
    mirrors.of_samePlace (.clearEscalationTimer t) rfl rfl
  have connected : Mirrors (clearEscalationTimer { t with primaryConnected := !t.usingFallback }) b :=
    mirrors.of_samePlace ⟨rfl, rfl, rfl, rfl, rfl⟩ rfl rfl
  cases kind : signal.event with
  | connected => exact ⟨_, by simp only [forward, forwardWith, kind], connected.emit signal⟩
  | failed => exact ⟨_, forward_told kind (not_activates_of_off mirrors.off), cleared.emit signal⟩
  | degraded => exact ⟨_, by simp only [forward, forwardWith, kind], mirrors.emit signal⟩
  | stats => exact ⟨_, by simp only [forward, forwardWith, kind], mirrors.emit signal⟩

theorem deliverAll_mirrors (fb : FallbackConduct) (signals : List Signal) (mirrors : Mirrors t b) :
    ∃ u, deliverAll (forward fb) t.relay.isSome signals t = .returns () u ∧ Mirrors u (b.emit signals) := by
  induction signals generalizing t b with
  | nil => exact ⟨t, rfl, by rw [emit_bound mirrors, List.append_nil]; exact mirrors⟩
  | cons signal rest ih =>
    have heard : t.hears t.relay.isSome = true := by
      rw [hears_active, mirrors.active]
      exact mirrors.bound
    obtain ⟨u, forwarded, next⟩ := forward_mirrors fb mirrors signal
    obtain ⟨v, delivered, last⟩ := ih next
    refine ⟨v, ?_, ?_⟩
    · rw [deliverAll, if_pos heard, forwarded, Outcome.returns_andThen, ← delivered, next.relay, mirrors.relay]
    · rw [emit_bound next] at last
      rw [emit_bound mirrors] at last ⊢
      simpa using last

/-- A call of the primary adapter. -/
theorem callActive_mirrors (mirrors : Mirrors t b)
    {method : LifecycleAdapter → SharedLocalMedia → LifecycleAdapter × SharedLocalMedia} (announces : Bool)
    (keepsBound : ∀ a media, (method a media).1.bound = a.bound) :
    Mirrors (callActive (forward fb) conduct method announces t).after (b.call conduct method announces) := by
  unfold BareAdapter.call
  by_cases raised : conduct.raises = some .atOnce
  · rw [callActive_atOnce raised, if_pos raised]
    exact mirrors
  · rw [callActive_runs _ _ _ _ raised, if_neg raised]
    have active := mirrors.active
    -- the transport hands the method to its primary adapter, whose state is that of the bare one
    have called : Mirrors (afterMethod method t)
        { b with adapter := (method b.adapter b.media).1, media := (method b.adapter b.media).2 } := by
      have place : afterMethod method t =
          { t with primary := (method b.adapter b.media).1, sharedMedia := (method b.adapter b.media).2 } := by
        simp only [afterMethod, setActive, mirrors.relay, active, mirrors.media]
      rw [place]
      exact { mirrors with adapter := rfl, media := rfl, bound := (keepsBound _ _).trans mirrors.bound }
    obtain ⟨u, delivered, next⟩ := deliverAll_mirrors fb (callSignals conduct method announces t) called
    rw [delivered, Outcome.returns_andThen]
    have signals : callSignals conduct method announces t =
        (if announces && conduct.connects then [(method b.adapter b.media).1.connectedSignal] else []) ++
          conduct.emits := by
      rw [callSignals, active, mirrors.media]
    rw [signals] at next
    split
    · exact next
    · exact next

theorem restorePrimaryIfNeeded_mirrors (mirrors : Mirrors t b) (roomId : String) :
    restorePrimaryIfNeeded roomId { t.clearEscalationTimer with primaryConnected := false } =
      { t.clearEscalationTimer with primaryConnected := false } :=
  if_pos (by simp [clearEscalationTimer, mirrors.direct])

theorem armEscalationTimer_mirrors (mirrors : Mirrors t b) : Mirrors t.armEscalationTimer b := by
  refine mirrors.of_samePlace (.armEscalationTimer t) ?_ ?_
  · unfold armEscalationTimer
    simp only []
    split
    · rfl
    · rfl
  · unfold armEscalationTimer
    simp only []
    split
    · rfl
    · rfl

/-- A step of the one is a step of the other. -/
theorem step_mirrors (mirrors : Mirrors t b) (action : TransportAction) (plain : Plain action) :
    Mirrors (t.step action) (b.step action) := by
  have cleared : Mirrors { t.clearEscalationTimer with primaryConnected := false } b :=
    mirrors.of_samePlace ⟨rfl, rfl, rfl, rfl, rfl⟩ rfl rfl
  have unconnected : Mirrors { t with primaryConnected := false } b :=
    mirrors.of_samePlace ⟨rfl, rfl, rfl, rfl, rfl⟩ rfl rfl
  -- the escalation timer is no part of what the page hears
  have armed : ∀ o : Outcome Unit, ∀ b : BareAdapter, Mirrors o.after b →
      Mirrors (o.andThen fun _ u => .returns () u.armEscalationTimer).after b := fun o b called =>
    Outcome.andThen_after (P := fun u => Mirrors u b) called fun _ u mirrors => armEscalationTimer_mirrors mirrors
  cases action with
  | preconnect roomId partnerId conduct fb =>
    simp only [step, FailoverMediaTransport.preconnect, restorePrimaryIfNeeded_mirrors mirrors]
    exact callActive_mirrors cleared false fun _ _ => rfl
  | open_ conduct fb => exact armed _ _ (callActive_mirrors unconnected true fun _ _ => rfl)
  | switchPartner newRoomId newPartnerId conduct fb =>
    simp only [step, FailoverMediaTransport.switchPartner, restorePrimaryIfNeeded_mirrors mirrors]
    exact armed _ _ (callActive_mirrors cleared true fun _ _ => rfl)
  | leave => exact plain.elim
  | forceFallback fb => exact plain.elim
  | emits signal fb =>
    have bound : t.active.bound = true := by rw [mirrors.active, mirrors.bound]
    obtain ⟨u, forwarded, next⟩ := forward_mirrors fb mirrors signal
    simp only [step, bound, if_true, forwarded]
    exact next
  | timer k fb => exact plain.elim

/-! ## The adapter of the tests -/

/-- `FakeMediaTransport` shows what the adapter shows. -/
structure Imitates (f : FakeMediaTransport) (b : BareAdapter) : Prop where
  view : f.view = b.adapter.view
  heard : f.heard = b.heard
  bound : b.adapter.bound = true

theorem call_imitates (imitates : Imitates f b)
    {method : LifecycleAdapter → SharedLocalMedia → LifecycleAdapter × SharedLocalMedia}
    {fakeMethod : TransportView → TransportView} (announces : Bool)
    (keepsBound : ∀ a media, (method a media).1.bound = a.bound)
    (same : ∀ a media, fakeMethod a.view = (method a media).1.view) :
    Imitates (f.call conduct fakeMethod announces) (b.call conduct method announces) := by
  unfold FakeMediaTransport.call BareAdapter.call
  by_cases raised : conduct.raises = some .atOnce
  · rw [if_pos raised, if_pos raised]
    exact imitates
  · rw [if_neg raised, if_neg raised]
    have view : fakeMethod f.view = (method b.adapter b.media).1.view := by rw [imitates.view, same]
    have listens : (method b.adapter b.media).1.bound = true := (keepsBound _ _).trans imitates.bound
    simp only [view, BareAdapter.emit, listens, if_true]
    exact ⟨rfl, by rw [imitates.heard]; rfl, listens⟩

theorem step_imitates (imitates : Imitates f b) (action : TransportAction) (plain : Plain action) :
    Imitates (f.step action) (b.step action) := by
  cases action with
  | preconnect roomId partnerId conduct fb =>
    exact call_imitates imitates false (fun _ _ => rfl) fun _ _ => rfl
  | open_ conduct fb => exact call_imitates imitates true (fun _ _ => rfl) fun _ _ => rfl
  | switchPartner newRoomId newPartnerId conduct fb =>
    exact call_imitates imitates true (fun _ _ => rfl) fun _ _ => rfl
  | leave => exact plain.elim
  | forceFallback fb => exact plain.elim
  | emits signal fb =>
    have passed : b.emit [signal] = { b with heard := b.heard ++ [signal] } := if_pos imitates.bound
    simp only [BareAdapter.step, passed]
    exact ⟨imitates.view, congrArg (· ++ [signal]) imitates.heard, imitates.bound⟩
  | timer k fb => exact plain.elim

/-! ## Whole runs -/

/-- The caller leaves at the end, if at all. -/
def LeavesLast (actions : List TransportAction) : Prop :=
  ∃ calls, (∀ action ∈ calls, Plain action) ∧ (actions = calls ∨ actions = calls ++ [.leave])

theorem leavesLast_take {actions : List TransportAction} (leaves : LeavesLast actions) (n : Nat) :
    LeavesLast (actions.take n) := by
  obtain ⟨calls, plain, whole⟩ := leaves
  have fewer : LeavesLast (calls.take n) := ⟨_, fun action member => plain action (List.mem_of_mem_take member), .inl rfl⟩
  cases whole with
  | inl same => rw [same]; exact fewer
  | inr left =>
    rw [left]
    by_cases inside : n ≤ calls.length
    · rw [List.take_append_of_le_length inside]
      exact fewer
    · rw [List.take_of_length_le (by simp; omega)]
      exact ⟨calls, plain, .inr rfl⟩

/-- The transport, its adapter alone and the adapter of the tests under one list of actions. -/
def ShowSame (selectedRoomId : Option String) (escalationTimeoutMs : Int) (actions : List TransportAction) : Prop :=
  ShowsSame (actions.foldl step (.create selectedRoomId escalationTimeoutMs))
    (actions.foldl BareAdapter.step .create) (actions.foldl FakeMediaTransport.step .create)

theorem showsSame_of (mirrors : Mirrors t b) (imitates : Imitates f b) : ShowsSame t b f where
  adapter := congrArg LifecycleAdapter.view mirrors.active
  heard := mirrors.heard
  fake := (congrArg LifecycleAdapter.view mirrors.active).trans imitates.view.symm
  fakeHeard := mirrors.heard.trans imitates.heard.symm

/-- The last call lets the listeners go, and they hear nothing of it. -/
theorem showsSame_leave (mirrors : Mirrors t b) (imitates : Imitates f b) :
    ShowsSame (t.step .leave) (b.step .leave) (f.step .leave) := by
  have left : (t.step .leave).active = t.active.off.leave := by
    simp [step, leave, unbindActive, clearEscalationTimer, FailoverMediaTransport.active, setActive, mirrors.relay]
  have kept : (t.step .leave).emitted = t.emitted := by
    simp [step, leave, unbindActive, clearEscalationTimer, setActive, mirrors.relay]
  have same : (t.step .leave).view = (b.step .leave).adapter.view := by
    rw [FailoverMediaTransport.view, left, mirrors.active]
    rfl
  have fake : (f.step .leave).view = (b.step .leave).adapter.view := by
    simp only [FakeMediaTransport.step, imitates.view]
    rfl
  exact
    { adapter := same
      heard := kept.trans mirrors.heard
      fake := same.trans fake.symm
      fakeHeard := kept.trans (mirrors.heard.trans imitates.heard.symm) }

/-- With no room selected, the transport shows at every moment what its adapter would show
    alone, and its listeners hear the same. -/
theorem transparent_without_fallback {selectedRoomId : Option String} (off : selectedRoomId.getD "" = "")
    (escalationTimeoutMs : Int) {actions : List TransportAction} (leaves : LeavesLast actions) (n : Nat) :
    ShowSame selectedRoomId escalationTimeoutMs (actions.take n) := by
  obtain ⟨calls, plain, whole⟩ := leavesLast_take leaves n
  have start : Mirrors (.create selectedRoomId escalationTimeoutMs) .create := ⟨off, rfl, rfl, rfl, rfl, rfl, rfl⟩
  have listening : Imitates .create .create := ⟨rfl, rfl, rfl⟩
  have keeps : ∀ (t : FailoverMediaTransport) (b : BareAdapter) (action : TransportAction), Mirrors t b →
      Plain action → Mirrors (t.step action) (b.step action) := fun _ _ action both plain => step_mirrors both action plain
  have keeps' : ∀ (f : FakeMediaTransport) (b : BareAdapter) (action : TransportAction), Imitates f b →
      Plain action → Imitates (f.step action) (b.step action) := fun _ _ action both plain =>
    step_imitates both action plain
  have mirrors := foldl_related keeps start plain
  have imitates := foldl_related keeps' listening plain
  unfold ShowSame
  cases whole with
  | inl same =>
    rw [same]
    exact showsSame_of mirrors imitates
  | inr left =>
    rw [left, List.foldl_append, List.foldl_append, List.foldl_append]
    exact showsSame_leave mirrors imitates

/-- The adapter fails while the partner is switched. -/
def failsMidSwitch : List TransportAction :=
  [.preconnect "room-1" "partner-a" .plain .plain, .open_ .plain .plain,
    .switchPartner "room-2" "partner-b" ⟨none, true, [⟨.failed, "ICE_FAILED", none, none⟩]⟩ .plain, .leave]

theorem transparent_failsMidSwitch : ShowSame none 6000 (failsMidSwitch.take 3) := by
  refine transparent_without_fallback rfl 6000 ⟨failsMidSwitch.take 3, ?_, .inr rfl⟩ 3
  intro action member
  simp only [failsMidSwitch, List.take_succ_cons, List.take_zero, List.mem_cons, List.not_mem_nil, or_false] at member
  rcases member with rfl | rfl | rfl
  · trivial
  · trivial
  · trivial

end EventPlatform.Media
