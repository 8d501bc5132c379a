import EventPlatform.Presence.Identity

/-! # A session is opened by the latest link

Every row carries the digest and the hash of the last token its participant was
sent.  So a link is admitted as long as no newer one was sent and the event is
not over, and a session that speaks for a participant was opened by such a link,
whatever ran in between. -/

namespace EventPlatform.Presence

open EventPlatform.Lib EventPlatform.Operator

/-! ## The tokens in the rows -/

def drawnToken : IdentityAction → Option String
  | .issue _ random => some (tokenPrefix ++ random)
  | _ => none

def drawnTokens (actions : List IdentityAction) : List String := actions.filterMap drawnToken

def presentedToken : IdentityAction → Option String
  | .request rawToken _ => some rawToken
  | _ => none

def presentedTokens (actions : List IdentityAction) : List String := actions.filterMap presentedToken

/-- Every row carries what its participant's latest token left there. -/
structure TokensKept (hasher : PasswordHasher) (drawn : List String) (s : IdentityState) : Prop where
  distinct : (s.rows.map (·.pk)).Nodup
  latest : ∀ pk raw, s.latestToken pk = some raw → raw ∈ drawn
  separate : ∀ pk pk' raw, s.latestToken pk = some raw → s.latestToken pk' = some raw → pk = pk'
  blank : ∀ row ∈ s.rows, s.latestToken row.pk = none → row.joinTokenDigest = ""
  issued : ∀ row ∈ s.rows, ∀ raw, s.latestToken row.pk = some raw →
    ∃ random, issueJoinToken hasher row random = (raw, row)

theorem tokenDigest_ne_empty (raw : String) : tokenDigest raw ≠ "" := by
  intro empty
  have length := congrArg (·.toList.length) empty
  simp [tokenDigest, Sha256.length_hexdigest] at length

theorem issueJoinToken_digest {hasher : PasswordHasher} {row : TokenHolder} {random raw : String}
    (issued : issueJoinToken hasher row random = (raw, row)) :
    row.joinTokenDigest = tokenDigest raw ∧ row.joinTokenExpiresAt = some (eventEnd row.event) := by
  obtain ⟨rfl, same⟩ := Prod.mk.inj issued
  rw [← same]
  exact ⟨rfl, rfl⟩

namespace TokensKept

variable {hasher : PasswordHasher} {participantSessionAge : Int} {drawn : List String} {s : IdentityState}

theorem digest {row : TokenHolder} {raw : String} (kept : TokensKept hasher drawn s) (member : row ∈ s.rows)
    (apart : ∀ token ∈ drawn, tokenDigest token = tokenDigest raw → token = raw) :
    row.joinTokenDigest = tokenDigest raw ↔ s.latestToken row.pk = some raw := by
  constructor
  · intro same
    cases latest : s.latestToken row.pk with
    | none => exact absurd (same ▸ kept.blank row member latest) (tokenDigest_ne_empty raw)
    | some token =>
      obtain ⟨random, issued⟩ := kept.issued row member token latest
      have collision := (issueJoinToken_digest issued).1 ▸ same
      rw [apart token (kept.latest _ _ latest) collision]
  · intro latest
    obtain ⟨random, issued⟩ := kept.issued row member raw latest
    exact (issueJoinToken_digest issued).1

/-- The latest token opens its participant's row until the event is over. -/
theorem authenticate_latest {row : TokenHolder} {raw : String} (kept : TokensKept hasher drawn s) (member : row ∈ s.rows)
    (latest : s.latestToken row.pk = some raw)
    (apart : ∀ token ∈ drawn, tokenDigest token = tokenDigest raw → token = raw) :
    authenticateJoinToken hasher s.rows s.clock raw =
      if eventEnd row.event ≤ s.clock then .error .expired else .ok (row.join s.clock) := by
  obtain ⟨random, issued⟩ := kept.issued row member raw latest
  have found : s.rows.find? (·.joinTokenDigest = tokenDigest raw) = some row := by
    obtain ⟨other, here⟩ : ∃ other, s.rows.find? (·.joinTokenDigest = tokenDigest raw) = some other := by
      have some_ := List.find?_isSome (p := (·.joinTokenDigest = tokenDigest raw)) |>.mpr
        ⟨row, member, by simpa using (kept.digest member apart).mpr latest⟩
      exact Option.isSome_iff_exists.mp some_
    have other_mem := List.mem_of_find?_eq_some here
    have same : other.joinTokenDigest = tokenDigest raw := by simpa using List.find?_some here
    have pk := kept.separate _ _ raw ((kept.digest other_mem apart).mp same) latest
    rw [here, List.inj_on_of_nodup_map kept.distinct other_mem member pk]
  rw [authenticateJoinToken_issued issued found]
  simp [TokenHolder.tokenIsExpired, (issueJoinToken_digest issued).2]

/-- Any other token is unknown. -/
theorem authenticate_other {raw : String} (kept : TokensKept hasher drawn s)
    (unknown : ∀ row ∈ s.rows, s.latestToken row.pk ≠ some raw)
    (apart : ∀ token ∈ drawn, tokenDigest token = tokenDigest raw → token = raw) :
    authenticateJoinToken hasher s.rows s.clock raw = .error .invalid := by
  have missing : s.rows.find? (·.joinTokenDigest = tokenDigest raw) = none := by
    apply List.find?_eq_none.mpr
    intro row member
    simpa using mt (kept.digest member apart).mp (unknown row member)
  unfold authenticateJoinToken
  rw [missing]
  split_ifs <;> rfl

theorem of_eq {s' : IdentityState} (kept : TokensKept hasher drawn s) (rows : s'.rows = s.rows)
    (latest : s'.latestToken = s.latestToken) : TokensKept hasher drawn s' := by
  refine ⟨?_, ?_, ?_, ?_, ?_⟩
  · rw [rows]; exact kept.distinct
  · rw [latest]; exact kept.latest
  · rw [latest]; exact kept.separate
  · rw [rows, latest]; exact kept.blank
  · rw [rows, latest]; exact kept.issued

theorem mem_updateRow {pk : String} {f : TokenHolder → TokenHolder} {row : TokenHolder} :
    row ∈ (s.updateRow pk f).rows ↔ ∃ old ∈ s.rows, (if old.pk = pk then f old else old) = row :=
  List.mem_map

theorem pks_updateRow {pk : String} {f : TokenHolder → TokenHolder} (same : ∀ row, (f row).pk = row.pk) :
    (s.updateRow pk f).rows.map (·.pk) = s.rows.map (·.pk) := by
  simp only [IdentityState.updateRow, List.map_map]
  apply List.map_congr_left
  intro row _
  simp only [Function.comp_apply]
  split_ifs
  · exact same row
  · rfl

theorem join (kept : TokensKept hasher drawn s) (pk : String) (now : Int) :
    TokensKept hasher drawn (s.updateRow pk (·.join now)) := by
  refine ⟨?_, kept.latest, kept.separate, ?_, ?_⟩
  · rw [@pks_updateRow s pk (·.join now) fun _ => rfl]
    exact kept.distinct
  · intro row member blank
    obtain ⟨old, inRows, rfl⟩ := mem_updateRow.mp member
    split_ifs at blank ⊢
    · exact kept.blank old inRows blank
    · exact kept.blank old inRows blank
  · intro row member raw latest
    obtain ⟨old, inRows, rfl⟩ := mem_updateRow.mp member
    split_ifs at latest ⊢ with here
    · obtain ⟨random, issued⟩ := kept.issued old inRows raw latest
      obtain ⟨rfl, same⟩ := Prod.mk.inj issued
      -- `joined_at` is not one of the columns of a token
      exact ⟨random, congrArg (fun row : TokenHolder => (tokenPrefix ++ random, row.join now)) same⟩
    · exact kept.issued old inRows raw latest

theorem issue {pk random : String} (kept : TokensKept hasher drawn s) (fresh : tokenPrefix ++ random ∉ drawn) :
    TokensKept hasher (drawn ++ [tokenPrefix ++ random]) (s.issue hasher pk random) := by
  unfold IdentityState.issue
  split_ifs with known
  · refine ⟨?_, ?_, ?_, ?_, ?_⟩
    · exact (@pks_updateRow s pk (fun row => (issueJoinToken hasher row random).2) fun _ => rfl) ▸ kept.distinct
    · intro other raw latest
      by_cases here : other = pk
      · subst here
        simp only [Function.update_self, Option.some.injEq] at latest
        simp [latest]
      · simp only [Function.update_of_ne here] at latest
        exact List.mem_append_left _ (kept.latest other raw latest)
    · intro first second raw latest latest'
      by_cases here : first = pk <;> by_cases there : second = pk
      · rw [here, there]
      · -- the token is new, and nobody else has it
        simp only [here, Function.update_self, Option.some.injEq, Function.update_of_ne there] at latest latest'
        exact absurd (latest ▸ kept.latest _ _ latest') fresh
      · simp only [there, Function.update_self, Option.some.injEq, Function.update_of_ne here] at latest latest'
        exact absurd (latest' ▸ kept.latest _ _ latest) fresh
      · simp only [Function.update_of_ne here, Function.update_of_ne there] at latest latest'
        exact kept.separate _ _ raw latest latest'
    · intro row member blank
      obtain ⟨old, inRows, rfl⟩ := mem_updateRow.mp member
      split_ifs at blank ⊢ with here
      · simp only [issueJoinToken, TokenHolder.setJoinToken, here, Function.update_self, reduceCtorEq] at blank
      · simp only [Function.update_of_ne here] at blank
        exact kept.blank old inRows blank
    · intro row member raw latest
      obtain ⟨old, inRows, rfl⟩ := mem_updateRow.mp member
      split_ifs at latest ⊢ with here
      · simp only [issueJoinToken, TokenHolder.setJoinToken, here, Function.update_self, Option.some.injEq] at latest
        exact ⟨random, Prod.ext latest rfl⟩
      · simp only [Function.update_of_ne here] at latest
        exact kept.issued old inRows raw latest
  · exact { kept with latest := fun pk raw latest => List.mem_append_left _ (kept.latest pk raw latest) }

theorem proceed {i : Nat} {request : JoinRequest} {s' : IdentityState} (kept : TokensKept hasher drawn s)
    (step : JoinStep hasher participantSessionAge s i request s') : TokensKept hasher drawn s' := by
  cases step with
  | refused _ _ => exact kept.of_eq rfl rfl
  | admitted _ _ => exact (kept.join _ _).of_eq rfl rfl
  | established _ => exact kept.of_eq (by simp [IdentityState.putRequest]) (by simp [IdentityState.putRequest])
  | remembered _ _ => exact kept.of_eq (by simp [IdentityState.putRequest]) (by simp [IdentityState.putRequest])
  | idle => exact kept

theorem step {a : IdentityAction} {past : List IdentityAction} (kept : TokensKept hasher (drawnTokens past) s)
    (fresh : (drawnTokens (past ++ [a])).Nodup) :
    TokensKept hasher (drawnTokens (past ++ [a])) (s.step hasher participantSessionAge a) := by
  cases a with
  | issue pk random =>
    simp only [drawnTokens, List.filterMap_append, List.filterMap_cons, drawnToken, List.filterMap_nil] at fresh ⊢
    have new := (List.nodup_append.mp fresh).2.2
    exact kept.issue fun old => new _ old _ (by simp) rfl
  | pass now | request rawToken cookie | evict pk =>
    simp only [drawnTokens, List.filterMap_append, List.filterMap_cons, drawnToken, List.filterMap_nil,
      List.append_nil]
    exact kept.of_eq rfl rfl
  | proceed i fails =>
    simp only [drawnTokens, List.filterMap_append, List.filterMap_cons, drawnToken, List.filterMap_nil,
      List.append_nil, IdentityState.step]
    cases s.requests[i]? with
    | none => exact kept
    | some request => exact kept.proceed joinStep_joinParticipant

theorem start {rows : List TokenHolder} {clock : Int} (distinct : (rows.map (·.pk)).Nodup)
    (blank : ∀ row ∈ rows, row.joinTokenDigest = "") : TokensKept hasher [] (IdentityState.start clock rows) where
  distinct := distinct
  latest _ _ latest := by cases latest
  separate _ _ _ latest := by cases latest
  blank row member _ := blank row member
  issued _ _ _ latest := by cases latest

end TokensKept

/-! ## Which link opens whose session -/

namespace IdentityState

/-- The token is the last one the participant was sent, and the event is not over. -/
def Opens (s : IdentityState) (raw pk : String) : Prop :=
  s.latestToken pk = some raw ∧ ∃ row ∈ s.rows, row.pk = pk ∧ s.clock < eventEnd row.event

/-- The token is the last one that some participant was sent, and the event is over. -/
def Outlived (s : IdentityState) (raw : String) : Prop :=
  ∃ row ∈ s.rows, s.latestToken row.pk = some raw ∧ eventEnd row.event ≤ s.clock

/-- A request presents a token that opens the participant's identity. -/
def Presents (s : IdentityState) (i : Nat) (pk : String) : Prop :=
  ∃ request, s.requests[i]? = some request ∧ s.Opens request.rawToken pk

theorem getElem_putRequest {s : IdentityState} {i j : Nat} {request new found : JoinRequest}
    (here : s.requests[i]? = some request) :
    (s.putRequest i new).requests[j]? = some found ↔
      (j = i ∧ found = new) ∨ (j ≠ i ∧ s.requests[j]? = some found) := by
  obtain ⟨inside, _⟩ := List.getElem?_eq_some_iff.mp here
  simp only [putRequest, List.getElem?_set, inside, if_true]
  by_cases same : i = j
  · simp [same, eq_comm]
  · simp [same, Ne.symm same]

theorem getElem_establish {s : IdentityState} {participantSessionAge : Int} {cookie : Option Nat} {pk : String}
    {key : Nat} {session : StoredSession}
    (stored : (s.establishParticipantSession participantSessionAge cookie pk).sessions[key]? = some (some session)) :
    s.sessions[key]? = some (some session) ∨
      (key = s.sessions.length ∧ session = ⟨pk, s.clock + participantSessionAge⟩) := by
  have length : (s.cycleKey cookie).sessions.length = s.sessions.length := by
    cases cookie with
    | none => rfl
    | some old => exact List.length_set
  simp only [establishParticipantSession, List.getElem?_append, length] at stored
  split_ifs at stored with inside
  · left
    cases cookie with
    | none => exact stored
    | some old =>
      simp only [cycleKey, List.getElem?_set] at stored
      split_ifs at stored with same
      · simp at stored
      · exact stored
  · have last : key - s.sessions.length = 0 := by
      by_contra beyond
      rw [List.getElem?_eq_none (by simp only [List.length_singleton]; omega)] at stored
      cases stored
    simp only [last, List.getElem?_cons_zero, Option.some.injEq] at stored
    exact .inr ⟨by omega, stored.symm⟩

end IdentityState

theorem TokensKept.authenticate_ok {hasher : PasswordHasher} {drawn : List String} {s : IdentityState} {raw : String}
    {participant : TokenHolder} (kept : TokensKept hasher drawn s)
    (apart : ∀ token ∈ drawn, tokenDigest token = tokenDigest raw → token = raw)
    (result : authenticateJoinToken hasher s.rows s.clock raw = .ok participant) : s.Opens raw participant.pk := by
  by_cases known : ∃ row ∈ s.rows, s.latestToken row.pk = some raw
  · obtain ⟨row, member, latest⟩ := known
    rw [kept.authenticate_latest member latest apart] at result
    split_ifs at result with over_
    cases result
    exact ⟨latest, row, member, rfl, by omega⟩
  · rw [kept.authenticate_other (fun row member latest => known ⟨row, member, latest⟩) apart] at result
    cases result

/-! ## Whole runs -/

section Runs

variable {hasher : PasswordHasher} {participantSessionAge clock : Int} {rows : List TokenHolder}
  {actions : List IdentityAction}

/-- The state after these actions. -/
def runIdentity (hasher : PasswordHasher) (participantSessionAge clock : Int) (rows : List TokenHolder)
    (actions : List IdentityAction) : IdentityState :=
  actions.foldl (IdentityState.step hasher participantSessionAge) (IdentityState.start clock rows)

/-- The drawn tokens are new, and no token presented has the digest of another one. -/
structure TokensApart (actions : List IdentityAction) : Prop where
  drawn : (drawnTokens actions).Nodup
  digests : ∀ token ∈ drawnTokens actions, ∀ raw ∈ presentedTokens actions,
    tokenDigest token = tokenDigest raw → token = raw

/-- At some moment of the run this request presented a token that opens the participant's identity. -/
def Vouched (hasher : PasswordHasher) (participantSessionAge clock : Int) (rows : List TokenHolder)
    (actions : List IdentityAction) (i : Nat) (pk : String) : Prop :=
  ∃ v ∈ visited (IdentityState.step hasher participantSessionAge) (IdentityState.start clock rows) actions,
    (∃ fails, v.2 = .proceed i fails) ∧ v.1.Presents i pk

def JoinViewPc.Unopened : JoinViewPc → Prop
  | .received | .authenticated _ => True
  | .established _ | .answered _ => False

/-- Every session was opened by a request that was vouched for. -/
structure Traced (vouched : Nat → String → Prop) (s : IdentityState) : Prop where
  unopened : ∀ request ∈ s.requests, request.pc.Unopened → request.sessionKey = none
  authenticated : ∀ i request pk, s.requests[i]? = some request → request.pc = .authenticated pk → vouched i pk
  opened : ∀ key session, s.sessions[key]? = some (some session) →
    ∃ i request, s.requests[i]? = some request ∧ request.sessionKey = some key ∧ vouched i session.participantId

variable {vouched : Nat → String → Prop} {s s' : IdentityState} {i : Nat} {request new : JoinRequest}

/-- A request goes on and keeps the session it has. -/
theorem Traced.putRequest (traced : Traced vouched s) (here : s.requests[i]? = some request)
    (session : request.sessionKey = none ∨ new.sessionKey = request.sessionKey)
    (unopened : new.pc.Unopened → new.sessionKey = none)
    (authenticated : ∀ pk, new.pc = .authenticated pk → vouched i pk) : Traced vouched (s.putRequest i new) := by
  refine ⟨?_, ?_, ?_⟩
  · intro other member
    cases List.mem_or_eq_of_mem_set member with
    | inl old => exact traced.unopened other old
    | inr same => exact same ▸ unopened
  · intro j other pk there pc
    rcases (IdentityState.getElem_putRequest here).mp there with ⟨rfl, rfl⟩ | ⟨_, old⟩
    · exact authenticated pk pc
    · exact traced.authenticated j other pk old pc
  · intro key session_ stored
    obtain ⟨j, opener, there, mine, vouch⟩ := traced.opened key session_ stored
    by_cases same : j = i
    · subst same
      obtain rfl := Option.some.inj (here.symm.trans there)
      refine ⟨j, new, (IdentityState.getElem_putRequest here).mpr (.inl ⟨rfl, rfl⟩), ?_, vouch⟩
      cases session with
      | inl none_ => simp [none_] at mine
      | inr kept => rw [kept, mine]
    · exact ⟨j, opener, (IdentityState.getElem_putRequest here).mpr (.inr ⟨same, there⟩), mine, vouch⟩

theorem Traced.proceed (traced : Traced vouched s) (here : s.requests[i]? = some request)
    (step : JoinStep hasher participantSessionAge s i request s')
    (admits : ∀ participant, authenticateJoinToken hasher s.rows s.clock request.rawToken = .ok participant →
      vouched i participant.pk) : Traced vouched s' := by
  have member := List.mem_of_getElem? here
  cases step with
  | refused received _ => exact traced.putRequest here (.inr rfl) (by simp [JoinViewPc.Unopened]) (by simp)
  | @admitted participant received result =>
    have none_ := traced.unopened request member (by simp [received, JoinViewPc.Unopened])
    have updated : Traced vouched (s.updateRow participant.pk (·.join s.clock)) :=
      ⟨traced.unopened, traced.authenticated, traced.opened⟩
    refine updated.putRequest here (.inl none_) (fun _ => none_) fun pk same => ?_
    cases same
    exact admits participant result
  | @established pk authenticated =>
    have none_ := traced.unopened request member (by simp [authenticated, JoinViewPc.Unopened])
    have requests := s.requests_establish participantSessionAge request.cookie pk
    have here' := requests ▸ here
    refine ⟨?_, ?_, ?_⟩
    · intro other inRequests unopened
      cases List.mem_or_eq_of_mem_set inRequests with
      | inl old => exact traced.unopened other (requests ▸ old) unopened
      | inr same => simp [same, JoinViewPc.Unopened] at unopened
    · intro j other pk' there pc
      rcases (IdentityState.getElem_putRequest here').mp there with ⟨rfl, rfl⟩ | ⟨_, old⟩
      · cases pc
      · exact traced.authenticated j other pk' (requests ▸ old) pc
    · intro key session stored
      rcases IdentityState.getElem_establish stored with old | ⟨rfl, rfl⟩
      · obtain ⟨j, opener, there, mine, vouch⟩ := traced.opened key session old
        refine ⟨j, opener, (IdentityState.getElem_putRequest here').mpr (.inr ⟨?_, requests ▸ there⟩), mine, vouch⟩
        rintro rfl
        obtain rfl := Option.some.inj (here.symm.trans there)
        simp [none_] at mine
      · exact ⟨i, _, (IdentityState.getElem_putRequest here').mpr (.inl ⟨rfl, rfl⟩), rfl,
          traced.authenticated i request pk here authenticated⟩
  | @remembered pk sessionKey fails established mine =>
    have requests := s.requests_remember participantSessionAge pk sessionKey fails
    have remembered : Traced vouched (s.rememberParticipantSession participantSessionAge pk sessionKey fails) := by
      refine ⟨?_, ?_, ?_⟩
      · rw [requests]; exact traced.unopened
      · rw [requests]; exact traced.authenticated
      · rw [requests, IdentityState.sessions_remember]; exact traced.opened
    have here' := requests ▸ here
    exact remembered.putRequest here' (.inr rfl) (by simp [JoinViewPc.Unopened]) (by simp)
  | idle => exact traced

theorem JoinStep.presented {tokens : List String} (step : JoinStep hasher participantSessionAge s i request s')
    (here : s.requests[i]? = some request) (presented : ∀ request ∈ s.requests, request.rawToken ∈ tokens) :
    ∀ request ∈ s'.requests, request.rawToken ∈ tokens := by
  have mine := presented request (List.mem_of_getElem? here)
  cases step with
  | refused _ _ => exact forall_mem_set presented mine
  | admitted _ _ => exact forall_mem_set presented mine
  | established _ =>
    simp only [IdentityState.putRequest, IdentityState.requests_establish]
    exact forall_mem_set presented mine
  | remembered _ _ =>
    simp only [IdentityState.putRequest, IdentityState.requests_remember]
    exact forall_mem_set presented mine
  | idle => exact presented

/-- What holds after the first `past` of the actions of a run. -/
structure IdentitySound (hasher : PasswordHasher) (participantSessionAge clock : Int) (rows : List TokenHolder)
    (actions past : List IdentityAction) (s : IdentityState) : Prop where
  reached : s = runIdentity hasher participantSessionAge clock rows past
  kept : TokensKept hasher (drawnTokens past) s
  presented : ∀ request ∈ s.requests, request.rawToken ∈ presentedTokens past
  traced : Traced (Vouched hasher participantSessionAge clock rows actions) s

variable {past rest : List IdentityAction} {a : IdentityAction}

theorem mem_of_past {f : IdentityAction → Option String} {token : String} (split : actions = past ++ rest)
    (member : token ∈ past.filterMap f) : token ∈ actions.filterMap f := by
  rw [split, List.filterMap_append]
  exact List.mem_append_left _ member

theorem IdentitySound.step (sound : IdentitySound hasher participantSessionAge clock rows actions past s)
    (apart : TokensApart actions) (split : actions = past ++ a :: rest) :
    IdentitySound hasher participantSessionAge clock rows actions (past ++ [a])
      (s.step hasher participantSessionAge a) := by
  have split' : actions = (past ++ [a]) ++ rest := by simpa using split
  have fresh : (drawnTokens (past ++ [a])).Nodup := by
    have all := apart.drawn
    rw [split', drawnTokens, List.filterMap_append] at all
    exact (List.nodup_append.mp all).1
  have kept : TokensKept hasher _ (s.step hasher participantSessionAge a) := sound.kept.step fresh
  refine ⟨?_, kept, ?_, ?_⟩
  · rw [sound.reached, runIdentity, runIdentity, List.foldl_append]
    rfl
  · simp only [presentedTokens, List.filterMap_append]
    have presented : ∀ request ∈ s.requests, request.rawToken ∈
        past.filterMap presentedToken ++ [a].filterMap presentedToken :=
      fun request member => List.mem_append_left _ (sound.presented request member)
    cases a with
    | request rawToken cookie =>
      intro request member
      rcases List.mem_append.mp member with old | new_
      · exact presented request old
      · simp [List.mem_singleton.mp new_, presentedToken]
    | issue pk random =>
      simp only [IdentityState.step, IdentityState.issue]
      split_ifs <;> exact presented
    | pass now | evict pk => exact presented
    | proceed i fails =>
      simp only [IdentityState.step]
      cases here : s.requests[i]? with
      | none => exact presented
      | some request => exact joinStep_joinParticipant.presented here presented
  · have traced := sound.traced
    cases a with
    | request rawToken cookie =>
      refine ⟨?_, ?_, ?_⟩
      · intro request member unopened
        rcases List.mem_append.mp member with old | new_
        · exact traced.unopened request old unopened
        · rw [List.mem_singleton.mp new_]
      · intro i request pk here pc
        simp only [IdentityState.step, List.getElem?_append] at here
        split_ifs at here with inside
        · exact traced.authenticated i request pk here pc
        · obtain rfl := List.mem_singleton.mp (List.mem_of_getElem? here)
          cases pc
      · intro key session stored
        obtain ⟨i, request, here, mine, vouch⟩ := traced.opened key session stored
        obtain ⟨inside, _⟩ := List.getElem?_eq_some_iff.mp here
        exact ⟨i, request, (List.getElem?_append_left inside).trans here, mine, vouch⟩
    | issue pk random =>
      simp only [IdentityState.step, IdentityState.issue]
      split_ifs
      · exact ⟨traced.unopened, traced.authenticated, traced.opened⟩
      · exact traced
    | pass now | evict pk => exact ⟨traced.unopened, traced.authenticated, traced.opened⟩
    | proceed i fails =>
      simp only [IdentityState.step]
      cases here : s.requests[i]? with
      | none => exact traced
      | some request =>
        refine traced.proceed here joinStep_joinParticipant fun participant result => ?_
        -- the state that admits the request is one the run visits
        have presented := sound.presented request (List.mem_of_getElem? here)
        have opens := sound.kept.authenticate_ok
          (fun token member => apart.digests token (mem_of_past split member) _ (mem_of_past split presented)) result
        have visit := mem_visited (v := (s, .proceed i fails)).mpr ⟨past, rest, split, sound.reached⟩
        exact ⟨_, visit, ⟨fails, rfl⟩, request, here, opens⟩

theorem identitySound_run (apart : TokensApart actions) (distinct : (rows.map (·.pk)).Nodup)
    (blank : ∀ row ∈ rows, row.joinTokenDigest = "") :
    IdentitySound hasher participantSessionAge clock rows actions actions
      (runIdentity hasher participantSessionAge clock rows actions) := by
  have start : IdentitySound hasher participantSessionAge clock rows actions [] (IdentityState.start clock rows) := by
    refine ⟨rfl, .start distinct blank, ?_, ?_⟩
    · intro request member
      cases member
    · exact ⟨by simp [IdentityState.start], by simp [IdentityState.start], by simp [IdentityState.start]⟩
  exact foldl_history start fun past a rest split s sound => sound.step apart split

theorem resolve_some {key : Nat} {fails : Bool} {participant : TokenHolder}
    (resolved : s.resolveParticipantFromSession key fails = some participant) :
    ∃ session, s.sessions[key]? = some (some session) ∧ s.clock < session.expiresAt ∧
      session.participantId = participant.pk ∧ s.sessionMatchesParticipant key participant.pk fails = true := by
  simp only [IdentityState.resolveParticipantFromSession, Option.bind_eq_bind, Option.bind_eq_some_iff,
    Option.guard_eq_some', Option.pure_def, Option.some.injEq] at resolved
  obtain ⟨session, loaded, _, found, _, matches_, rfl⟩ := resolved
  simp only [IdentityState.load, Option.filter_eq_some_iff, Option.join_eq_some_iff, decide_eq_true_eq] at loaded
  have same := List.find?_some found
  exact ⟨session, loaded.1, loaded.2, (of_decide_eq_true same).symm, matches_⟩

/-- Whoever a session speaks for, it was opened by a request that presented the last token
    this participant had been sent, before the event was over. -/
theorem session_needs_latest_link (hasher : PasswordHasher) (participantSessionAge clock : Int)
    (rows : List TokenHolder) (actions : List IdentityAction) (apart : TokensApart actions)
    (distinct : (rows.map (·.pk)).Nodup) (blank : ∀ row ∈ rows, row.joinTokenDigest = "") {key : Nat} {fails : Bool}
    {participant : TokenHolder}
    (resolved : (runIdentity hasher participantSessionAge clock rows actions).resolveParticipantFromSession key fails =
      some participant) :
    ∃ i request, (runIdentity hasher participantSessionAge clock rows actions).requests[i]? = some request ∧
      request.sessionKey = some key ∧
      Vouched hasher participantSessionAge clock rows actions i participant.pk := by
  have sound : IdentitySound hasher participantSessionAge clock rows actions actions _ :=
    identitySound_run apart distinct blank
  obtain ⟨session, stored, _, same, _⟩ := resolve_some resolved
  exact same ▸ sound.traced.opened key session stored

/-- Ada is sent a second link and opens it. -/
def adaSent : List IdentityAction :=
  [.issue ada.pk "old", .issue ada.pk "new", .request "p1_new" none]

def adaJoins : List IdentityAction := adaSent ++ [.proceed 0 false, .proceed 0 false, .proceed 0 false]

theorem adaSent_apart : TokensApart adaSent := by
  refine ⟨by decide, ?_⟩
  have apart : tokenDigest "p1_old" ≠ tokenDigest "p1_new" := by decide +kernel
  simp [adaSent, drawnTokens, presentedTokens, drawnToken, presentedToken, tokenPrefix, apart]

theorem session_needs_latest_link_adaJoins :
    ∃ participant, (runIdentity plainHasher 60 0 [ada] adaJoins).resolveParticipantFromSession 0 false =
        some participant ∧
      ∃ i request, (runIdentity plainHasher 60 0 [ada] adaJoins).requests[i]? = some request ∧
        request.sessionKey = some 0 ∧ Vouched plainHasher 60 0 [ada] adaJoins i participant.pk := by
  have opened : ((runIdentity plainHasher 60 0 [ada] adaJoins).resolveParticipantFromSession 0 false).isSome = true := by
    decide +kernel
  obtain ⟨participant, resolved⟩ := Option.isSome_iff_exists.mp opened
  have apart : TokensApart adaJoins := ⟨adaSent_apart.drawn, adaSent_apart.digests⟩
  exact ⟨participant, resolved, session_needs_latest_link plainHasher 60 0 [ada] adaJoins apart (by decide)
    (by simp [ada]) resolved⟩

/-- A request that presents a token is admitted as the participant whose latest token it is, and told that the link
    has expired when that participant's event is over; every other token, an older one of the same participant too,
    is invalid. -/
theorem join_follows_latest_link (hasher : PasswordHasher) (participantSessionAge clock : Int)
    (rows : List TokenHolder) (actions : List IdentityAction) (apart : TokensApart actions)
    (distinct : (rows.map (·.pk)).Nodup) (blank : ∀ row ∈ rows, row.joinTokenDigest = "") {i : Nat}
    {request : JoinRequest}
    (here : (runIdentity hasher participantSessionAge clock rows actions).requests[i]? = some request)
    (received : request.pc = .received) (fails : Bool) :
    ∃ pc, ((runIdentity hasher participantSessionAge clock rows actions).step hasher participantSessionAge
        (.proceed i fails)).requests[i]? = some { request with pc } ∧
      (∀ pk, pc = .authenticated pk ↔
        (runIdentity hasher participantSessionAge clock rows actions).Opens request.rawToken pk) ∧
      (pc = .answered (.refused .expired) ↔
        (runIdentity hasher participantSessionAge clock rows actions).Outlived request.rawToken) ∧
      (pc = .answered (.refused .invalid) ↔
        ∀ row ∈ (runIdentity hasher participantSessionAge clock rows actions).rows,
          (runIdentity hasher participantSessionAge clock rows actions).latestToken row.pk ≠
            some request.rawToken) := by
  have sound : IdentitySound hasher participantSessionAge clock rows actions actions _ :=
    identitySound_run apart distinct blank
  generalize runIdentity hasher participantSessionAge clock rows actions = s at *
  have known := sound.presented request (List.mem_of_getElem? here)
  have apart' : ∀ token ∈ drawnTokens actions, tokenDigest token = tokenDigest request.rawToken →
      token = request.rawToken := fun token member => apart.digests token member _ known
  have inside := (List.getElem?_eq_some_iff.mp here).1
  simp only [IdentityState.step, here, IdentityState.joinParticipant, received]
  by_cases sent : ∃ row ∈ s.rows, s.latestToken row.pk = some request.rawToken
  · obtain ⟨row, member, latest⟩ := sent
    -- two rows with this latest token are one row
    have only : ∀ other ∈ s.rows, s.latestToken other.pk = some request.rawToken → other = row :=
      fun other inRows same =>
        List.inj_on_of_nodup_map sound.kept.distinct inRows member (sound.kept.separate _ _ _ same latest)
    rw [sound.kept.authenticate_latest member latest apart']
    by_cases over_ : eventEnd row.event ≤ s.clock
    · rw [if_pos over_]
      refine ⟨.answered (.refused .expired), ?_, ?_, ?_, ?_⟩
      · exact List.getElem?_set_self inside
      · intro pk
        simp only [reduceCtorEq, false_iff]
        rintro ⟨mine, other, inRows, rfl, before⟩
        rw [only other inRows mine] at before
        omega
      · exact iff_of_true rfl ⟨row, member, latest, over_⟩
      · simp only [JoinViewPc.answered.injEq, JoinResponse.refused.injEq, reduceCtorEq, false_iff]
        exact fun unknown => unknown row member latest
    · rw [if_neg over_]
      refine ⟨.authenticated row.pk, ?_, ?_, ?_, ?_⟩
      · exact List.getElem?_set_self inside
      · intro pk
        simp only [JoinViewPc.authenticated.injEq]
        constructor
        · rintro rfl
          exact ⟨latest, row, member, rfl, by omega⟩
        · rintro ⟨mine, _⟩
          exact sound.kept.separate _ _ _ latest mine
      · simp only [reduceCtorEq, false_iff]
        rintro ⟨other, inRows, mine, ended⟩
        rw [only other inRows mine] at ended
        exact over_ ended
      · simp only [reduceCtorEq, false_iff]
        exact fun unknown => unknown row member latest
  · have unknown : ∀ row ∈ s.rows, s.latestToken row.pk ≠ some request.rawToken :=
      fun row member latest => sent ⟨row, member, latest⟩
    rw [sound.kept.authenticate_other unknown apart']
    refine ⟨.answered (.refused .invalid), ?_, ?_, ?_, iff_of_true rfl unknown⟩
    · exact List.getElem?_set_self inside
    · intro pk
      simp only [reduceCtorEq, false_iff]
      rintro ⟨latest, row, member, rfl, _⟩
      exact unknown row member latest
    · simp only [JoinViewPc.answered.injEq, JoinResponse.refused.injEq, reduceCtorEq, false_iff]
      rintro ⟨row, member, latest, _⟩
      exact unknown row member latest

theorem join_follows_latest_link_adaSent :
    ∃ pc, ((runIdentity plainHasher 60 0 [ada] adaSent).step plainHasher 60
        (.proceed 0 false)).requests[0]? = some ⟨"p1_new", none, none, pc⟩ ∧
      (∀ pk, pc = .authenticated pk ↔ (runIdentity plainHasher 60 0 [ada] adaSent).Opens "p1_new" pk) ∧
      (pc = .answered (.refused .expired) ↔
        (runIdentity plainHasher 60 0 [ada] adaSent).Outlived "p1_new") ∧
      (pc = .answered (.refused .invalid) ↔
        ∀ row ∈ (runIdentity plainHasher 60 0 [ada] adaSent).rows,
          (runIdentity plainHasher 60 0 [ada] adaSent).latestToken row.pk ≠ some "p1_new") := by
  have here : (runIdentity plainHasher 60 0 [ada] adaSent).requests[0]? = some ⟨"p1_new", none, none, .received⟩ := by
    decide +kernel
  exact join_follows_latest_link plainHasher 60 0 [ada] adaSent adaSent_apart (by decide) (by simp [ada]) here rfl false

end Runs

end EventPlatform.Presence
