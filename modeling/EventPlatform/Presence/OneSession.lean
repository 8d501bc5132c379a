import EventPlatform.Presence.LatestLink

/-! # One session for each participant

The cache entry of a participant lasts at least as long as every session that
was opened before it was written. -/

namespace EventPlatform.Presence

open EventPlatform.Lib EventPlatform.Operator

variable {hasher : PasswordHasher} {participantSessionAge : Int} {s : IdentityState} {i : Nat}
  {request new : JoinRequest}

/-- The cache neither fails a request nor drops a key. -/
def IdentityAction.Lossless : IdentityAction → Prop
  | .proceed _ fails => fails = false
  | .evict _ => False
  | .pass _ | .issue _ _ | .request _ _ => True

instance decidableLossless (a : IdentityAction) : Decidable a.Lossless := by
  cases a <;> unfold IdentityAction.Lossless <;> infer_instance

/-- Every session is one that a request is about to remember, or the cache knows a session of the
    same participant for as long as it lasts. -/
structure SessionsRemembered (participantSessionAge : Int) (s : IdentityState) : Prop where
  bounded : ∀ (key : Nat) (session : StoredSession), s.sessions[key]? = some (some session) →
    session.expiresAt ≤ s.clock + participantSessionAge
  remembered : ∀ (key : Nat) (session : StoredSession), s.sessions[key]? = some (some session) →
    (∃ (i : Nat) (request : JoinRequest), s.requests[i]? = some request ∧
      request.pc = .established session.participantId) ∨
      ∃ entry, s.currentSession session.participantId = some entry ∧ session.expiresAt ≤ entry.expiresAt

namespace SessionsRemembered

/-- A request that is not about to remember a session goes on. -/
theorem putRequest (kept : SessionsRemembered participantSessionAge s) (here : s.requests[i]? = some request)
    (early : ∀ pk, request.pc ≠ .established pk) : SessionsRemembered participantSessionAge (s.putRequest i new) := by
  refine ⟨kept.bounded, fun key session stored => ?_⟩
  cases kept.remembered key session stored with
  | inl pending =>
    obtain ⟨j, other, there, pc⟩ := pending
    refine .inl ⟨j, other, (IdentityState.getElem_putRequest here).mpr (.inr ⟨?_, there⟩), pc⟩
    rintro rfl
    obtain rfl := Option.some.inj (here.symm.trans there)
    exact early _ pc
  | inr known => exact .inr known

theorem proceed (kept : SessionsRemembered participantSessionAge s) (here : s.requests[i]? = some request) :
    SessionsRemembered participantSessionAge (s.joinParticipant hasher participantSessionAge i request false) := by
  unfold IdentityState.joinParticipant
  split
  · next received =>
    have early : ∀ pk, request.pc ≠ .established pk := by simp [received]
    split
    · exact kept.putRequest here early
    · next participant _ =>
      have updated : SessionsRemembered participantSessionAge (s.updateRow participant.pk (·.join s.clock)) :=
        ⟨kept.bounded, kept.remembered⟩
      exact updated.putRequest here early
  · next pk authenticated =>
    have here' := (s.requests_establish participantSessionAge request.cookie pk).symm ▸ here
    have clock : (s.establishParticipantSession participantSessionAge request.cookie pk).clock = s.clock := by
      cases request.cookie <;> rfl
    have current : (s.establishParticipantSession participantSessionAge request.cookie pk).currentSession =
        s.currentSession := by
      cases request.cookie <;> rfl
    refine ⟨?_, ?_⟩
    · intro key session stored
      simp only [IdentityState.putRequest, clock]
      rcases IdentityState.getElem_establish stored with old | ⟨_, rfl⟩
      · exact kept.bounded key session old
      · exact le_refl _
    · intro key session stored
      simp only [IdentityState.getElem_putRequest here']
      rcases IdentityState.getElem_establish stored with old | ⟨_, rfl⟩
      · cases kept.remembered key session old with
        | inl pending =>
          obtain ⟨j, other, there, pc⟩ := pending
          refine .inl ⟨j, other, .inr ⟨?_, by simpa using there⟩, pc⟩
          rintro rfl
          obtain rfl := Option.some.inj (here.symm.trans there)
          simp [authenticated] at pc
        | inr known => exact .inr (by simpa [IdentityState.putRequest, current] using known)
      · exact .inl ⟨i, _, .inl ⟨rfl, rfl⟩, rfl⟩
  · next pk sessionKey established _ =>
    have here' := (s.requests_remember participantSessionAge pk sessionKey false).symm ▸ here
    refine ⟨kept.bounded, fun key session stored => ?_⟩
    simp only [IdentityState.getElem_putRequest here']
    by_cases mine : session.participantId = pk
    · -- the new entry lasts as long as any session that there is
      exact .inr ⟨⟨sessionKey, s.clock + participantSessionAge⟩,
        by simp [IdentityState.putRequest, IdentityState.rememberParticipantSession, mine],
        kept.bounded key session stored⟩
    · cases kept.remembered key session stored with
      | inl pending =>
        obtain ⟨j, other, there, pc⟩ := pending
        refine .inl ⟨j, other, .inr ⟨?_, by simpa using there⟩, pc⟩
        rintro rfl
        obtain rfl := Option.some.inj (here.symm.trans there)
        rw [established] at pc
        cases pc
        exact mine rfl
      | inr known =>
        right
        simpa [IdentityState.putRequest, IdentityState.rememberParticipantSession, Function.update_of_ne mine]
          using known
  · exact kept
  · exact kept

theorem step {a : IdentityAction} (kept : SessionsRemembered participantSessionAge s) (lossless : a.Lossless) :
    SessionsRemembered participantSessionAge (s.step hasher participantSessionAge a) := by
  cases a with
  | pass now =>
    refine ⟨fun key session stored => ?_, kept.remembered⟩
    have before := kept.bounded key session stored
    have later : s.clock ≤ max s.clock now := le_max_left _ _
    simp only [IdentityState.step]
    omega
  | issue pk random =>
    simp only [IdentityState.step, IdentityState.issue]
    split_ifs
    · exact ⟨kept.bounded, kept.remembered⟩
    · exact kept
  | request rawToken cookie =>
    refine ⟨kept.bounded, fun key session stored => ?_⟩
    cases kept.remembered key session stored with
    | inl pending =>
      obtain ⟨j, other, there, pc⟩ := pending
      obtain ⟨inside, _⟩ := List.getElem?_eq_some_iff.mp there
      exact .inl ⟨j, other, (List.getElem?_append_left inside).trans there, pc⟩
    | inr known => exact .inr known
  | proceed i fails =>
    cases (lossless : fails = false)
    simp only [IdentityState.step]
    cases here : s.requests[i]? with
    | none => exact kept
    | some request => exact kept.proceed here
  | evict pk => cases lossless

/-- The cache entry of a participant outlasts the participant's sessions and admits one of them. -/
theorem current {key : Nat} {participant : TokenHolder} (kept : SessionsRemembered participantSessionAge s)
    (quiet : ∀ request ∈ s.requests, request.pc ≠ .established participant.pk)
    (resolved : s.resolveParticipantFromSession key false = some participant) :
    ∃ entry, s.currentSession participant.pk = some entry ∧ entry.value = key := by
  obtain ⟨session, stored, live, same, matches_⟩ := resolve_some resolved
  cases kept.remembered key session stored with
  | inl pending =>
    obtain ⟨j, other, there, pc⟩ := pending
    exact absurd (same ▸ pc) (quiet other (List.mem_of_getElem? there))
  | inr known =>
    obtain ⟨entry, cached, outlasts⟩ := known
    rw [same] at cached
    have fresh : s.clock < entry.expiresAt := by omega
    simp only [IdentityState.sessionMatchesParticipant, cached, cacheGet, fresh, if_true, Bool.false_or,
      Option.all_some, decide_eq_true_eq] at matches_
    exact ⟨entry, cached, matches_⟩

end SessionsRemembered

/-- While the cache fails nothing and drops nothing, no two sessions speak for the same participant, except between a
    new session of that participant and the write that makes it the current one. -/
theorem one_session_per_participant (hasher : PasswordHasher) (participantSessionAge clock : Int)
    (rows : List TokenHolder) (actions : List IdentityAction) (lossless : ∀ a ∈ actions, a.Lossless) {key key' : Nat}
    {participant participant' : TokenHolder}
    (quiet : ∀ request ∈ (runIdentity hasher participantSessionAge clock rows actions).requests,
      request.pc ≠ .established participant.pk)
    (resolved : (runIdentity hasher participantSessionAge clock rows actions).resolveParticipantFromSession key false =
      some participant)
    (resolved' : (runIdentity hasher participantSessionAge clock rows actions).resolveParticipantFromSession key' false =
      some participant')
    (same : participant.pk = participant'.pk) : key = key' := by
  have start : SessionsRemembered participantSessionAge (IdentityState.start clock rows) :=
    ⟨by simp [IdentityState.start], by simp [IdentityState.start]⟩
  have preserved : ∀ (s : IdentityState) (a : IdentityAction), SessionsRemembered participantSessionAge s → a.Lossless →
      SessionsRemembered participantSessionAge (s.step hasher participantSessionAge a) := fun _ _ kept ok => kept.step ok
  have kept : SessionsRemembered participantSessionAge (runIdentity hasher participantSessionAge clock rows actions) :=
    foldl_preserves preserved start lossless
  obtain ⟨entry, cached, value⟩ := kept.current quiet resolved
  obtain ⟨entry', cached', value'⟩ := kept.current (same ▸ quiet) resolved'
  rw [same, cached'] at cached
  rw [← value, ← value', Option.some.inj cached]

/-- Two browsers open the link at the same time; the first is the last to be remembered. -/
def adaJoinsTwice : List IdentityAction :=
  [.issue ada.pk "new", .request "p1_new" none, .request "p1_new" none, .proceed 0 false, .proceed 1 false,
    .proceed 0 false, .proceed 1 false, .proceed 1 false, .proceed 0 false]

theorem one_session_per_participant_adaJoinsTwice :
    ∃ participant, (runIdentity plainHasher 60 0 [ada] adaJoinsTwice).resolveParticipantFromSession 0 false =
        some participant ∧
      ∀ key' participant', (runIdentity plainHasher 60 0 [ada] adaJoinsTwice).resolveParticipantFromSession key' false =
        some participant' → participant.pk = participant'.pk → 0 = key' := by
  have opened : ((runIdentity plainHasher 60 0 [ada] adaJoinsTwice).resolveParticipantFromSession 0 false).isSome =
      true := by
    decide +kernel
  have quiet : (runIdentity plainHasher 60 0 [ada] adaJoinsTwice).requests.map (·.pc) =
      [.answered (.authenticated ada.pk), .answered (.authenticated ada.pk)] := by
    decide +kernel
  obtain ⟨participant, resolved⟩ := Option.isSome_iff_exists.mp opened
  refine ⟨participant, resolved, fun key' participant' resolved' same => ?_⟩
  refine one_session_per_participant plainHasher 60 0 [ada] adaJoinsTwice (by decide) ?_ resolved resolved' same
  intro request member
  have answered := List.mem_map_of_mem (f := (·.pc)) member
  rw [quiet] at answered
  intro established
  simp [established] at answered

end EventPlatform.Presence
