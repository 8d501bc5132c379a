import EventPlatform.Browser.Retired

/-! # Runs of a transport

The owner of a transport calls it, and its adapter, its timers and the camera answer, in any
order; whatever is suspended goes on when it may. -/

namespace EventPlatform.Browser

/-- `calls` are the calls so far, the returned ones included. -/
structure TransportRun where
  transport : FailoverMediaTransport
  camera : SharedCamera
  calls : List Call
deriving DecidableEq

/-- `timer k` is the `k`-th of the timers that have not fired, `grant` the answer to a request of
    `getUserMedia`; `failure`, `quality` and `connection` come from the active adapter. -/
inductive TransportAction where
  | acquireLocalMedia
  | preconnect (roomId partnerId : String)
  | open_
  | createManualOffer
  | prepareRound (newRoomId newPartnerId : String)
  | endRound
  | switchPartner (newRoomId newPartnerId : String)
  | leave
  | forceFallback
  | recoverAfterSignalingRestore
  | failure (reason : String)
  | quality (quality : ConnectionQuality)
  | connection (connState : PeerConnectionState)
  | timer (k : Nat)
  | grant (request : Nat)
  | resume (call : Nat)
deriving DecidableEq

namespace TransportAction

/-- The calls that start a new round. -/
def startsAnew : TransportAction → Bool
  | .acquireLocalMedia | .preconnect _ _ | .open_ | .prepareRound _ _ | .switchPartner _ _ => true
  | _ => false

/-- The other calls of the owner. -/
def called : TransportAction → Bool
  | .createManualOffer | .endRound | .leave | .forceFallback | .recoverAfterSignalingRestore => true
  | _ => false

end TransportAction

namespace TransportRun

def create (roomId partnerId selectedRoomId : String) (forceFallback : Bool) (localStream : Option Nat)
    (camera : SharedCamera) : TransportRun :=
  let made := FailoverMediaTransport.create roomId partnerId selectedRoomId forceFallback localStream camera
  ⟨made.1, made.2, []⟩

def begin_ (s : TransportRun) (p : Progress) : TransportRun := ⟨p.transport, p.camera, s.calls ++ [p.call]⟩

def set (s : TransportRun) (i : Nat) (p : Progress) : TransportRun := ⟨p.transport, p.camera, s.calls.set i p.call⟩

def leave (s : TransportRun) : TransportRun :=
  ⟨(s.transport.leave s.camera).1, (s.transport.leave s.camera).2, s.calls⟩

def step (s : TransportRun) : TransportAction → TransportRun
  | .acquireLocalMedia => s.begin_ (s.transport.acquireLocalMedia s.camera)
  | .preconnect roomId partnerId => s.begin_ (s.transport.preconnect roomId partnerId s.camera)
  | .open_ => s.begin_ (s.transport.open_ s.camera)
  | .createManualOffer => s.begin_ (s.transport.createManualOffer s.camera)
  | .prepareRound newRoomId newPartnerId => s.begin_ (s.transport.prepareRound newRoomId newPartnerId s.camera)
  | .endRound => { s with transport := s.transport.endRound }
  | .switchPartner newRoomId newPartnerId => s.begin_ (s.transport.switchPartner newRoomId newPartnerId s.camera)
  | .leave => s.leave
  | .forceFallback => s.begin_ (s.transport.activateFallback .forceFallback s.camera)
  | .recoverAfterSignalingRestore => { s with transport := s.transport.recoverAfterSignalingRestore }
  | .failure reason => s.begin_ (s.transport.onActiveFailure reason s.camera)
  | .quality quality => { s with transport := s.transport.onQuality quality }
  | .connection connState => { s with transport := s.transport.onConnectionState connState }
  | .timer k =>
    match s.transport.scheduled[k]? with
    | none => s
    | some gen =>
      s.begin_ (FailoverMediaTransport.onEscalationTimeout gen
        { s.transport with scheduled := s.transport.scheduled.eraseIdx k } s.camera)
  | .grant request => { s with camera := s.camera.grant request }
  | .resume i =>
    match s.calls[i]? with
    | none => s
    | some call => s.set i (s.transport.resume call s.camera)

end TransportRun

/-! ## What holds in every run -/

/-- The request that a call waits for. -/
def Call.request : Call → Option Nat
  | .media _ (.request id) _ => some id
  | _ => none

/-- The rest of an `_activateFallback`. -/
def Call.Activating : Call → Prop
  | .media _ _ (.relay _ _) | .hasMedia _ (.relay _ _) | .relayPreconnect _ _ | .relayOpen _ => True
  | _ => False

/-- The promise of the camera is that of a request. -/
def SharedCamera.Sound (c : SharedCamera) : Prop :=
  ∀ promise, c.sharedAcquirePromise = some promise → promise < c.sharedGetUserMediaCalls

namespace SharedCamera

variable {c : SharedCamera}

theorem Sound.adopt (sound : c.Sound) (stream : Option Nat) : (c.adopt stream).Sound := by
  cases stream with
  | none => exact sound
  | some stream =>
    simp only [SharedCamera.adopt]
    split
    · exact sound
    · exact sound

theorem adopt_calls (c : SharedCamera) (stream : Option Nat) :
    (c.adopt stream).sharedGetUserMediaCalls = c.sharedGetUserMediaCalls := by
  cases stream with
  | none => rfl
  | some stream =>
    simp only [SharedCamera.adopt]
    split
    · rfl
    · rfl

/-- A caller waits for a stream that is there, or for a request that was made. -/
theorem Sound.acquire (sound : c.Sound) :
    c.acquireSharedLocalMedia.1.Sound ∧
      c.sharedGetUserMediaCalls ≤ c.acquireSharedLocalMedia.1.sharedGetUserMediaCalls ∧
      ∀ id, c.acquireSharedLocalMedia.2 = .request id → id < c.acquireSharedLocalMedia.1.sharedGetUserMediaCalls := by
  have requested : c.requestMedia.1.Sound ∧ c.sharedGetUserMediaCalls ≤ c.requestMedia.1.sharedGetUserMediaCalls ∧
      ∀ id, c.requestMedia.2 = .request id → id < c.requestMedia.1.sharedGetUserMediaCalls := by
    unfold SharedCamera.requestMedia
    cases promised : c.sharedAcquirePromise with
    | none =>
      refine ⟨fun promise same => ?_, Nat.le_succ _, fun id same => ?_⟩
      · cases same
        exact Nat.lt_succ_self _
      · cases same
        exact Nat.lt_succ_self _
    | some promise =>
      refine ⟨sound, le_rfl, fun id same => ?_⟩
      cases same
      exact sound promise promised
  unfold SharedCamera.acquireSharedLocalMedia
  split
  · split
    · exact ⟨sound, le_rfl, fun id same => by cases same⟩
    · exact requested
  · exact requested

theorem Sound.grant (sound : c.Sound) (request : Nat) : (c.grant request).Sound := by
  unfold SharedCamera.grant
  split
  · exact sound
  · exact sound

theorem grant_calls (c : SharedCamera) (request : Nat) :
    (c.grant request).sharedGetUserMediaCalls = c.sharedGetUserMediaCalls := by
  unfold SharedCamera.grant
  split
  · rfl
  · rfl

end SharedCamera

/-- A call whose request is answered has its stream. -/
theorem arrived_of_answered {c : SharedCamera} {adapter : Nat} {wait : Wait} {next : AfterMedia}
    (answered : ∀ id, (Call.media adapter wait next).request = some id → id ∈ c.settled) :
    ∃ stream, c.arrived wait = some stream := by
  cases wait with
  | stream id => exact ⟨id, rfl⟩
  | request id => exact ⟨id, if_pos (answered id rfl)⟩

/-- After a piece of a call nobody waits for a request that was not made. -/
structure Progress.Answerable (c : SharedCamera) (p : Progress) : Prop where
  camera : p.camera.Sound
  more : c.sharedGetUserMediaCalls ≤ p.camera.sharedGetUserMediaCalls
  request : ∀ id, p.call.request = some id → id < p.camera.sharedGetUserMediaCalls

/-- The first piece of a call; if it makes the transport switch, then the call is an activation. -/
structure Progress.Regular (t : FailoverMediaTransport) (c : SharedCamera) (p : Progress) : Prop extends
    p.Answerable c where
  activating : p.transport.switching = true → p.call.Activating ∨ t.switching = true

namespace FailoverMediaTransport

variable {t u : FailoverMediaTransport} {c : SharedCamera} {p : Progress}

/-- A piece of a call that asks for nothing. -/
theorem answerable_of_same (sound : c.Sound) (camera : p.camera = c) (request : p.call.request = none) :
    p.Answerable c where
  camera := camera ▸ sound
  more := by rw [camera]
  request id asked := by rw [request] at asked; cases asked

theorem regular_of_same (sound : c.Sound) (camera : p.camera = c) (request : p.call.request = none)
    (switching : p.transport.switching = t.switching) : p.Regular t c :=
  ⟨answerable_of_same sound camera request, fun switches => .inr (switching ▸ switches)⟩

theorem regular_of_switching (regular : p.Regular u c) (same : u.switching = t.switching) : p.Regular t c :=
  ⟨regular.toAnswerable, same ▸ regular.activating⟩

theorem regular_acquire (sound : c.Sound) (next : AfterMedia) : (t.acquire next c).Regular t c := by
  unfold FailoverMediaTransport.acquire
  split
  · exact regular_of_same sound rfl rfl rfl
  · obtain ⟨kept, more, waits⟩ := sound.acquire
    refine ⟨⟨kept, more, fun id asked => waits id ?_⟩, .inr⟩
    cases wait : c.acquireSharedLocalMedia.2 with
    | stream stream => simp [Call.request, wait] at asked
    | request request => simp only [Call.request, wait, Option.some.injEq] at asked; rw [asked]

theorem regular_spawned (sound : c.Sound) (u : FailoverMediaTransport) (next : AfterMedia) :
    ((u.spawn c).1.acquire next (u.spawn c).2).Regular u c := by
  obtain ⟨⟨camera, more, request⟩, activating⟩ := @regular_acquire (u.spawn c).1 (u.spawn c).2 (sound.adopt _) next
  exact ⟨⟨camera, (c.adopt_calls _).symm.le.trans more, request⟩, activating⟩

theorem activating_acquire (snap : Snapshot) (caller : Caller) : (t.acquire (.relay snap caller) c).call.Activating := by
  unfold FailoverMediaTransport.acquire
  split
  · exact trivial
  · exact trivial

theorem regular_activateFallback (sound : c.Sound) (caller : Caller) : (t.activateFallback caller c).Regular t c := by
  unfold FailoverMediaTransport.activateFallback
  split
  · exact regular_of_same sound rfl rfl rfl
  · exact ⟨(regular_spawned sound _ _).toAnswerable, fun _ => .inl (activating_acquire _ _)⟩

theorem regular_restorePrimary (sound : c.Sound) (newRoomId newPartnerId : String) (reopen : Bool) :
    (t.restorePrimary newRoomId newPartnerId reopen c).Regular t c :=
  regular_of_switching (regular_spawned sound _ _) rfl

theorem regular_preconnect (sound : c.Sound) (roomId partnerId : String) :
    (t.preconnect roomId partnerId c).Regular t c := by
  unfold FailoverMediaTransport.preconnect
  simp only []
  split
  · exact regular_of_switching (regular_restorePrimary sound _ _ _) rfl
  · exact regular_of_same sound rfl rfl rfl

theorem regular_prepareRound (sound : c.Sound) (newRoomId newPartnerId : String) :
    (t.prepareRound newRoomId newPartnerId c).Regular t c := by
  unfold FailoverMediaTransport.prepareRound
  simp only []
  split
  · exact regular_of_switching (regular_restorePrimary sound _ _ _) rfl
  · exact regular_of_same sound rfl rfl rfl

theorem regular_switchPartner (sound : c.Sound) (newRoomId newPartnerId : String) :
    (t.switchPartner newRoomId newPartnerId c).Regular t c := by
  unfold FailoverMediaTransport.switchPartner
  simp only []
  split
  · exact regular_of_switching (regular_restorePrimary sound _ _ _) rfl
  · exact regular_of_same sound rfl rfl rfl

theorem regular_createManualOffer (sound : c.Sound) : (t.createManualOffer c).Regular t c := by
  unfold FailoverMediaTransport.createManualOffer
  split
  · exact regular_of_same sound rfl rfl rfl
  · exact regular_of_same sound rfl rfl rfl

theorem regular_onActiveFailure (sound : c.Sound) (reason : String) : (t.onActiveFailure reason c).Regular t c := by
  unfold FailoverMediaTransport.onActiveFailure
  split
  · exact regular_of_same sound rfl rfl rfl
  · exact regular_of_switching (regular_activateFallback sound _) rfl

theorem regular_onEscalationTimeout (sound : c.Sound) (gen : Nat) : (t.onEscalationTimeout gen c).Regular t c := by
  unfold FailoverMediaTransport.onEscalationTimeout
  split
  · exact regular_of_same sound rfl rfl rfl
  split
  · exact regular_of_same sound rfl rfl rfl
  · exact regular_activateFallback sound _

theorem switching_armEscalationTimer (t : FailoverMediaTransport) : t.armEscalationTimer.switching = t.switching := by
  unfold armEscalationTimer
  simp only []
  split
  · rfl
  split
  · rfl
  · rfl

theorem switching_onQuality (t : FailoverMediaTransport) (quality : ConnectionQuality) :
    (t.onQuality quality).switching = t.switching := by
  unfold onQuality
  simp only []
  split
  · rfl
  split
  · rfl
  · rfl

theorem switching_onConnectionState (t : FailoverMediaTransport) (connState : PeerConnectionState) :
    (t.onConnectionState connState).switching = t.switching := by
  unfold onConnectionState
  simp only []
  split
  · rfl
  · cases connState with
    | new | connecting => rfl
    | _ => rw [switching_onQuality]

theorem switching_recoverAfterSignalingRestore (t : FailoverMediaTransport) :
    t.recoverAfterSignalingRestore.switching = t.switching := by
  have recovered : t.clearEscalationTimer.recoverActive.switching = t.switching := by
    unfold recoverActive
    split
    · rfl
    split
    · exact switching_onQuality _ _
    split
    · rfl
    · exact switching_onQuality _ _
  unfold FailoverMediaTransport.recoverAfterSignalingRestore
  simp only []
  split
  · exact recovered
  split
  · exact recovered
  · rw [switching_armEscalationTimer]
    exact recovered

theorem switching_afterActivation (t : FailoverMediaTransport) (caller : Caller) (activated : Bool) :
    (t.afterActivation caller activated).switching = t.switching := by
  unfold afterActivation
  split
  · rfl
  · split
    · rfl
    · exact switching_armEscalationTimer t
  · split
    · rfl
    · rfl
  · split
    · rfl
    · rfl

theorem switching_receiveMedia (t : FailoverMediaTransport) (adapter stream : Nat) :
    (t.receiveMedia adapter stream).switching = t.switching := by
  unfold receiveMedia
  split
  · rfl
  · rfl

theorem waiting_receiveMedia (t : FailoverMediaTransport) (adapter stream : Nat) :
    (t.receiveMedia adapter stream).primaryConnected = t.primaryConnected := by
  unfold receiveMedia
  split
  · rfl
  · rfl

theorem answerable_reopenRelay (sound : c.Sound) (snap : Snapshot) (caller : Caller) :
    (t.reopenRelay snap caller c).Answerable c := by
  unfold FailoverMediaTransport.reopenRelay
  split
  · exact answerable_of_same sound rfl rfl
  · exact answerable_of_same sound rfl rfl

theorem answerable_afterMedia (sound : c.Sound) (stream : Option Nat) (next : AfterMedia) :
    (t.afterMedia stream next c).Answerable c := by
  cases next with
  | keep => exact answerable_of_same sound rfl rfl
  | restore newRoomId newPartnerId reopen =>
    cases reopen with
    | true => exact answerable_of_same sound rfl rfl
    | false => exact answerable_of_same sound rfl rfl
  | relay snap caller =>
    simp only [FailoverMediaTransport.afterMedia]
    split
    · exact answerable_of_same sound rfl rfl
    · exact answerable_reopenRelay sound snap caller

theorem answerable_resume (sound : c.Sound) {call : Call}
    (asked : ∀ id, call.request = some id → id < c.sharedGetUserMediaCalls) : (t.resume call c).Answerable c := by
  cases call with
  | media adapter wait next =>
    simp only [FailoverMediaTransport.resume]
    split
    · exact ⟨sound, le_rfl, asked⟩
    · exact answerable_of_same sound rfl rfl
  | hasMedia stream next => exact answerable_afterMedia sound stream next
  | relayPreconnect snap caller => exact answerable_reopenRelay sound snap caller
  | opening =>
    simp only [FailoverMediaTransport.resume]
    split
    · exact (regular_activateFallback sound _).toAnswerable
    · exact answerable_of_same sound rfl rfl
  | creatingOffer adapter pc =>
    simp only [FailoverMediaTransport.resume]
    split
    · exact answerable_of_same sound rfl rfl
    · exact answerable_of_same sound rfl rfl
  | _ => exact answerable_of_same sound rfl rfl

theorem activating_reopenRelay (snap : Snapshot) (caller : Caller)
    (switches : (t.reopenRelay snap caller c).transport.switching = true) :
    (t.reopenRelay snap caller c).call.Activating := by
  unfold FailoverMediaTransport.reopenRelay at switches ⊢
  split at switches
  · rw [if_pos ‹_›]
    exact trivial
  · cases switches

/-- An activation that goes on is one still, or it has ended and the transport no longer switches. -/
theorem activating_resume (call : Call) (switches : (t.resume call c).transport.switching = true) :
    (t.resume call c).call.Activating ∨ (t.switching = true ∧ ¬ call.Activating) := by
  cases call with
  | media adapter wait next =>
    cases arrived : c.arrived wait with
    | none =>
      simp only [FailoverMediaTransport.resume, arrived] at switches ⊢
      cases next with
      | relay snap caller => exact .inl trivial
      | keep | restore => exact .inr ⟨switches, id⟩
    | some stream =>
      simp only [FailoverMediaTransport.resume, arrived, switching_receiveMedia] at switches ⊢
      cases next with
      | relay snap caller => exact .inl trivial
      | keep | restore => exact .inr ⟨switches, id⟩
  | hasMedia stream next =>
    cases next with
    | keep => exact .inr ⟨switches, id⟩
    | restore newRoomId newPartnerId reopen =>
      cases reopen with
      | true => exact .inr ⟨switches, id⟩
      | false => exact .inr ⟨switches, id⟩
    | relay snap caller =>
      simp only [FailoverMediaTransport.resume, FailoverMediaTransport.afterMedia] at switches ⊢
      split
      · exact .inl trivial
      · rename_i nowhere
        rw [if_neg nowhere] at switches
        exact .inl (activating_reopenRelay snap caller switches)
  | relayPreconnect snap caller => exact .inl (activating_reopenRelay snap caller switches)
  | relayOpen caller => cases switches
  | answered caller activated =>
    rw [← switching_afterActivation t caller activated]
    exact .inr ⟨switches, id⟩
  | opening =>
    cases forced : t.forceFallbackOnOpen with
    | true =>
      simp only [FailoverMediaTransport.resume, forced, if_true] at switches ⊢
      unfold FailoverMediaTransport.activateFallback at switches ⊢
      split
      · rename_i refused
        rw [if_pos refused] at switches
        exact .inr ⟨switches, id⟩
      · exact .inl (activating_acquire _ _)
    | false =>
      simp only [FailoverMediaTransport.resume, forced, Bool.false_eq_true, if_false] at switches
      split at switches
      · exact .inr ⟨switches, id⟩
      · rw [switching_armEscalationTimer] at switches
        exact .inr ⟨switches, id⟩
  | switched =>
    rw [← switching_armEscalationTimer t]
    exact .inr ⟨switches, id⟩
  | creatingOffer | settingOffer | settling | returned => exact .inr ⟨switches, id⟩

end FailoverMediaTransport

namespace TransportRun

open FailoverMediaTransport

variable {s : TransportRun} {p : Progress}

/-- What the calls of a run have in common. -/
structure Regular (s : TransportRun) : Prop where
  numbered : s.transport.Numbered
  camera : s.camera.Sound
  request : ∀ call ∈ s.calls, ∀ id, call.request = some id → id < s.camera.sharedGetUserMediaCalls
  activating : s.transport.switching = true → ∃ call ∈ s.calls, call.Activating

theorem Regular.begin_ (regular : s.Regular) (numbered : p.transport.Numbered)
    (begun : p.Regular s.transport s.camera) : (s.begin_ p).Regular where
  numbered := numbered
  camera := begun.camera
  request call member id asked := by
    rcases List.mem_append.mp member with old | new
    · exact (regular.request call old id asked).trans_le begun.more
    · rw [List.mem_singleton.mp new] at asked
      exact begun.request id asked
  activating switches := by
    rcases begun.activating switches with new | before
    · exact ⟨p.call, List.mem_append_right _ (List.mem_singleton_self _), new⟩
    · obtain ⟨call, member, activating⟩ := regular.activating before
      exact ⟨call, List.mem_append_left _ member, activating⟩

theorem Regular.move (regular : s.Regular) {t : FailoverMediaTransport} (numbered : t.Numbered)
    (switching : t.switching = s.transport.switching) : Regular { s with transport := t } :=
  ⟨numbered, regular.camera, regular.request, fun switches => regular.activating (switching ▸ switches)⟩

theorem Regular.resume (regular : s.Regular) {i : Nat} {call : Call} (found : s.calls[i]? = some call) :
    (s.set i (s.transport.resume call s.camera)).Regular := by
  have member := List.mem_of_getElem? found
  have bound := (List.getElem?_eq_some_iff.mp found).1
  have answerable := @answerable_resume s.transport s.camera regular.camera call (regular.request call member)
  refine ⟨regular.numbered.resume call, answerable.camera, fun other among id asked => ?_, fun switches => ?_⟩
  · rcases List.mem_or_eq_of_mem_set among with old | rfl
    · exact (regular.request other old id asked).trans_le answerable.more
    · exact answerable.request id asked
  · rcases activating_resume call switches with new | ⟨before, ended⟩
    · exact ⟨_, List.mem_set bound _, new⟩
    · -- the activation is another call, and stays where it is
      obtain ⟨other, among, activating⟩ := regular.activating before
      obtain ⟨j, at_j⟩ := List.mem_iff_getElem?.mp among
      have apart : i ≠ j := by
        rintro rfl
        rw [found] at at_j
        cases at_j
        exact ended activating
      refine ⟨other, List.mem_iff_getElem?.mpr ⟨j, ?_⟩, activating⟩
      show (s.calls.set i _)[j]? = some other
      rw [List.getElem?_set_ne apart, at_j]

theorem Regular.leave (regular : s.Regular) : s.leave.Regular :=
  ⟨@Numbered.leave _ s.camera regular.numbered, fun promise same => (by cases same), regular.request, regular.activating⟩

theorem Regular.step (regular : s.Regular) (action : TransportAction) : (s.step action).Regular := by
  have numbered := regular.numbered
  have sound := regular.camera
  cases action with
  | acquireLocalMedia => exact regular.begin_ (numbered.acquire _) (regular_acquire sound _)
  | preconnect roomId partnerId => exact regular.begin_ (numbered.preconnect _ _) (regular_preconnect sound _ _)
  | open_ => exact regular.begin_ numbered.open_ (regular_of_same sound rfl rfl rfl)
  | createManualOffer => exact regular.begin_ numbered.createManualOffer (regular_createManualOffer sound)
  | prepareRound => exact regular.begin_ (numbered.prepareRound _ _) (regular_prepareRound sound _ _)
  | endRound => exact regular.move numbered.endRound rfl
  | switchPartner => exact regular.begin_ (numbered.switchPartner _ _) (regular_switchPartner sound _ _)
  | leave => exact regular.leave
  | forceFallback => exact regular.begin_ (numbered.activateFallback _) (regular_activateFallback sound _)
  | recoverAfterSignalingRestore =>
    exact regular.move numbered.recoverAfterSignalingRestore (switching_recoverAfterSignalingRestore _)
  | failure reason => exact regular.begin_ (numbered.onActiveFailure _) (regular_onActiveFailure sound _)
  | quality quality => exact regular.move (numbered.onQuality _) (switching_onQuality _ _)
  | connection connState => exact regular.move (numbered.onConnectionState _) (switching_onConnectionState _ _)
  | timer k =>
    unfold TransportRun.step
    cases pending : s.transport.scheduled[k]? with
    | none => simpa only [pending] using regular
    | some gen =>
      simp only [pending]
      exact regular.begin_ ((numbered.fire k).onEscalationTimeout gen)
        (regular_of_switching (regular_onEscalationTimeout sound gen) rfl)
  | grant request =>
    refine ⟨numbered, sound.grant request, fun call member id asked => ?_, regular.activating⟩
    show id < (s.camera.grant request).sharedGetUserMediaCalls
    rw [SharedCamera.grant_calls]
    exact regular.request call member id asked
  | resume i =>
    unfold TransportRun.step
    cases found : s.calls[i]? with
    | none => simpa only [found] using regular
    | some call =>
      simp only [found]
      exact regular.resume found

theorem regular_create (roomId partnerId selectedRoomId : String) (forceFallback : Bool) (localStream : Option Nat)
    {camera : SharedCamera} (sound : camera.Sound) :
    (create roomId partnerId selectedRoomId forceFallback localStream camera).Regular where
  numbered := @numbered_create camera _ _ _ _ _
  camera := sound.adopt localStream
  request call member := absurd member List.not_mem_nil
  activating switches := by cases switches

end TransportRun

end EventPlatform.Browser
