import EventPlatform.Lib.Processes
import EventPlatform.Lib.Runs
import EventPlatform.Presence.LatestLink

/-! # Following the link of the e-mail

`verify_email_view` reads the token, marks it used, fetches the participant and
saves the whole row again, each statement for itself.  Other requests, new join
tokens and joins come between any two of them. -/

namespace EventPlatform.Registration

open EventPlatform.Lib EventPlatform.Operator EventPlatform.Presence

/-! ## Rows, requests and responses -/

/-- A row of `EmailVerificationToken`; `token` is unique. -/
structure VerificationRow where
  token : String
  participantId : String
  expiresAt : Int
  usedAt : Option Int
deriving DecidableEq

/-- `raised` is an exception of the view, for a participant that is gone. -/
inductive VerificationResponse where
  | invalidLink
  | expiredOrUsed
  | verified
  | raised
deriving DecidableEq

namespace VerificationResponse

def status : VerificationResponse → Nat
  | invalidLink => 404
  | expiredOrUsed => 410
  | verified => 200
  | raised => 500

/-- The body for a client that asks for JSON. -/
def body : VerificationResponse → Option (String × String)
  | invalidLink => some ("error", "Invalid verification link.")
  | expiredOrUsed => some ("error", "This link has expired or has already been used.")
  | verified => some ("message", "Your registration has been successfully verified.")
  | raised => none

end VerificationResponse

/-- What the view does next: read the token, `mark_used`, fetch the participant, save it.
    `latest`, which the code does not keep, is the participant's latest join token at the fetch. -/
inductive VerificationPc where
  | received
  | admitted (now : Int) (participantId : String)
  | marked (now : Int) (participantId : String)
  | fetched (participant : TokenHolder) (latest : Option String)
  | answered (response : VerificationResponse)

structure VerificationRequest where
  token : String
  pc : VerificationPc

structure VerificationState where
  clock : Int
  tokens : List VerificationRow
  rows : List TokenHolder
  requests : List VerificationRequest
  latestToken : String → Option String

inductive VerificationAction where
  | pass (now : Int)
  | request (token : String)
  | proceed (request : Nat)
  /-- `issue_join_token` for the participant, with what it draws. -/
  | issue (participantId random : String)
  /-- The participant's link is opened for the first time. -/
  | join (participantId : String)

namespace VerificationState

def updateRow (s : VerificationState) (pk : String) (f : TokenHolder → TokenHolder) : VerificationState :=
  { s with rows := s.rows.map fun row => if row.pk = pk then f row else row }

def put (s : VerificationState) (i : Nat) (request : VerificationRequest) : VerificationState :=
  { s with requests := s.requests.set i request }

/-- A token that expires at this moment is still good. -/
def good (s : VerificationState) (row : VerificationRow) : Bool :=
  s.clock ≤ row.expiresAt && row.usedAt.isNone

def markUsed (s : VerificationState) (token : String) : VerificationState :=
  { s with tokens := s.tokens.map fun row => if row.token = token then { row with usedAt := some s.clock } else row }

/-- `verify_email_view`, one statement. -/
def verifyEmail (s : VerificationState) (i : Nat) (request : VerificationRequest) : VerificationState :=
  match request.pc with
  | .received =>
    match s.tokens.find? (·.token = request.token) with
    | none => s.put i { request with pc := .answered .invalidLink }
    | some row =>
      if s.good row then s.put i { request with pc := .admitted s.clock row.participantId }
      else s.put i { request with pc := .answered .expiredOrUsed }
  | .admitted now pk => (s.markUsed request.token).put i { request with pc := .marked now pk }
  | .marked now pk =>
    match s.rows.find? (·.pk = pk) with
    | none => s.put i { request with pc := .answered .raised }
    | some participant => s.put i { request with pc := .fetched (participant.join now) (s.latestToken pk) }
  -- `save` without `update_fields` writes every column
  | .fetched participant _ =>
    (s.updateRow participant.pk fun _ => participant).put i { request with pc := .answered .verified }
  | .answered _ => s

def issue (hasher : PasswordHasher) (s : VerificationState) (pk random : String) : VerificationState :=
  if pk ∈ s.rows.map (·.pk) then
    { s.updateRow pk fun row => (issueJoinToken hasher row random).2 with
      latestToken := Function.update s.latestToken pk (some (tokenPrefix ++ random)) }
  else s

def step (hasher : PasswordHasher) (s : VerificationState) : VerificationAction → VerificationState
  | .pass now => { s with clock := max s.clock now }
  | .request token => { s with requests := s.requests ++ [⟨token, .received⟩] }
  | .proceed i =>
    match s.requests[i]? with
    | none => s
    | some request => s.verifyEmail i request
  | .issue pk random => s.issue hasher pk random
  | .join pk => s.updateRow pk (·.join s.clock)

/-- The tokens as they were sent, and the participants before anybody has a join token. -/
def start (clock : Int) (tokens : List VerificationRow) (rows : List TokenHolder) : VerificationState :=
  ⟨clock, tokens, rows, [], fun _ => none⟩

end VerificationState

/-! ## Each link once -/

/-- The request got past the check of its token. -/
def VerificationPc.Passed : VerificationPc → Prop
  | .admitted .. | .marked .. | .fetched .. | .answered .verified | .answered .raised => True
  | .received | .answered .invalidLink | .answered .expiredOrUsed => False

/-- Both got past the check of the same token. -/
def SharesLink (first second : VerificationRequest) : Prop :=
  first.pc.Passed ∧ second.pc.Passed ∧ first.token = second.token

/-- A request that is past `mark_used` has marked its token, and no two got past the check of one. -/
structure EachOnce (s : VerificationState) : Prop where
  distinct : (s.tokens.map (·.token)).Nodup
  marked : ∀ request ∈ s.requests, request.pc.Passed → (∀ now pk, request.pc ≠ .admitted now pk) →
    ∀ row ∈ s.tokens, row.token = request.token → row.usedAt.isSome = true
  once : MutualExclusion SharesLink s.requests

/-- A request reads a good token while another one that has read it is still to mark it. -/
def Overtakes (s : VerificationState) (a : VerificationAction) : Prop :=
  ∃ (i j : Nat) (first second : VerificationRequest), a = .proceed i ∧ s.requests[i]? = some first ∧
    first.pc = .received ∧ (∃ row ∈ s.tokens, row.token = first.token ∧ s.good row = true) ∧
    s.requests[j]? = some second ∧ second.token = first.token ∧ ∃ now pk, second.pc = .admitted now pk

section EachOnce

variable {hasher : PasswordHasher} {s s' : VerificationState} {i : Nat} {request new : VerificationRequest}
  {a : VerificationAction}

theorem SharesLink.symm {first second : VerificationRequest} (shares : SharesLink first second) :
    SharesLink second first :=
  ⟨shares.2.1, shares.1, shares.2.2.symm⟩

/-- A request goes on without passing the check, or after it has. -/
theorem EachOnce.put (each : EachOnce s) (here : s.requests[i]? = some request) (token : new.token = request.token)
    (passed : new.pc.Passed → request.pc.Passed) (marked : new.pc.Passed → (∀ now pk, new.pc ≠ .admitted now pk) →
      ∀ row ∈ s.tokens, row.token = request.token → row.usedAt.isSome = true) : EachOnce (s.put i new) := by
  refine ⟨each.distinct, ?_, each.once.set (fun _ _ => .symm) ?_⟩
  · intro other member past beyond row inTokens same
    cases List.mem_or_eq_of_mem_set member with
    | inl old => exact each.marked other old past beyond row inTokens same
    | inr new_ =>
      subst new_
      exact marked past beyond row inTokens (same.trans token)
  · intro j other there different shares
    obtain ⟨past, past', same⟩ := shares
    exact different (each.once j i other request there here ⟨past', passed past, same.symm.trans token⟩)

theorem EachOnce.of_requests (each : EachOnce s) (tokens : s'.tokens = s.tokens) (requests : s'.requests = s.requests) :
    EachOnce s' := by
  refine ⟨?_, ?_, ?_⟩
  · rw [tokens]; exact each.distinct
  · rw [tokens, requests]; exact each.marked
  · rw [requests]; exact each.once

theorem EachOnce.markUsed (each : EachOnce s) (token : String) : EachOnce (s.markUsed token) := by
  refine ⟨?_, ?_, each.once⟩
  · have texts : (s.markUsed token).tokens.map (·.token) = s.tokens.map (·.token) := by
      simp only [VerificationState.markUsed, List.map_map]
      apply List.map_congr_left
      intro row _
      simp only [Function.comp_apply]
      split_ifs <;> rfl
    rw [texts]
    exact each.distinct
  · intro request member past beyond row inTokens same
    obtain ⟨old, inOld, rfl⟩ := List.mem_map.mp inTokens
    split_ifs at same ⊢
    · rfl
    · exact each.marked request member past beyond old inOld same

theorem markUsed_used {token : String} :
    ∀ row ∈ (s.markUsed token).tokens, row.token = token → row.usedAt.isSome = true := by
  intro row inTokens same
  obtain ⟨old, _, rfl⟩ := List.mem_map.mp inTokens
  split_ifs at same ⊢
  · rfl
  · contradiction

/-- What a step must be: no harm when nothing is overtaken, and harm when something is. -/
structure Exact (s s' : VerificationState) (a : VerificationAction) : Prop where
  harmful : MutualExclusion SharesLink s'.requests → ¬ Overtakes s a
  harmless : ¬ Overtakes s a → EachOnce s'

theorem Exact.of_harmless (each : EachOnce s') (other : ∀ i request, a = .proceed i → s.requests[i]? = some request →
    request.pc = .received → (∃ row ∈ s.tokens, row.token = request.token ∧ s.good row = true) → False) :
    Exact s s' a := by
  refine ⟨fun _ overtakes => ?_, fun _ => each⟩
  obtain ⟨i, _, first, _, same, atFirst, received, good, _⟩ := overtakes
  exact other i first same atFirst received good

/-- A request that reads a good token is the first to pass its check, unless it overtakes another. -/
theorem EachOnce.admits (each : EachOnce s) (here : s.requests[i]? = some request) (received : request.pc = .received)
    {row : VerificationRow} (member : row ∈ s.tokens) (token : row.token = request.token) (good : s.good row = true)
    {now : Int} {pk : String} : Exact s (s.put i { request with pc := .admitted now pk }) (.proceed i) := by
  obtain ⟨inside, _⟩ := List.getElem?_eq_some_iff.mp here
  refine ⟨?_, fun alone => ?_⟩
  · rintro once ⟨_, j, first, second, same, atFirst, _, _, atSecond, shared, now', pk', pc⟩
    cases same
    obtain rfl := Option.some.inj (here.symm.trans atFirst)
    have different : j ≠ i := by
      rintro rfl
      obtain rfl := Option.some.inj (here.symm.trans atSecond)
      simp [received] at pc
    have passed : second.pc.Passed := by
      rw [pc]
      trivial
    exact different (once j i second _ ((List.getElem?_set_ne different.symm).trans atSecond)
      (List.getElem?_set_self inside) ⟨passed, trivial, shared⟩)
  · refine ⟨each.distinct, ?_, each.once.set (fun _ _ => .symm) ?_⟩
    · intro other inRequests past beyond
      cases List.mem_or_eq_of_mem_set inRequests with
      | inl old => exact each.marked other old past beyond
      | inr same => exact absurd rfl (same ▸ beyond now pk)
    · intro j other there _ shares
      obtain ⟨_, past, shared⟩ := shares
      by_cases waiting : ∃ now' pk', other.pc = .admitted now' pk'
      · exact alone ⟨i, j, request, other, rfl, here, received, ⟨row, member, token, good⟩, there, shared.symm, waiting⟩
      · -- whoever has passed the check of this token before has marked it
        have beyond : ∀ now' pk', other.pc ≠ .admitted now' pk' := fun now' pk' pc => waiting ⟨now', pk', pc⟩
        have used := each.marked other (List.mem_of_getElem? there) past beyond row member (token.trans shared)
        simp only [VerificationState.good, Bool.and_eq_true, Option.isNone_iff_eq_none] at good
        simp [good.2] at used

theorem EachOnce.verifyEmail (each : EachOnce s) (here : s.requests[i]? = some request) :
    Exact s (s.verifyEmail i request) (.proceed i) := by
  -- every branch but one reads no good token
  have safe : ∀ {s'}, EachOnce s' → (request.pc = .received →
      ¬ ∃ row ∈ s.tokens, row.token = request.token ∧ s.good row = true) → Exact s s' (.proceed i) := by
    intro s' each' none_
    refine .of_harmless each' fun j other same there received good => ?_
    cases same
    obtain rfl := Option.some.inj (here.symm.trans there)
    exact none_ received good
  unfold VerificationState.verifyEmail
  split
  · next received =>
    split
    · next missing =>
      refine safe (each.put here rfl (by simp [VerificationPc.Passed]) (by simp [VerificationPc.Passed])) fun _ good => ?_
      obtain ⟨row, member, token, _⟩ := good
      simpa [token] using List.find?_eq_none.mp missing row member
    · next row found =>
      have member := List.mem_of_find?_eq_some found
      have token : row.token = request.token := by simpa using List.find?_some found
      split_ifs with good
      · exact each.admits here received member token good
      · refine safe (each.put here rfl (by simp [VerificationPc.Passed]) (by simp [VerificationPc.Passed]))
          fun _ exists_ => ?_
        obtain ⟨other, inTokens, same, good'⟩ := exists_
        rw [List.inj_on_of_nodup_map each.distinct inTokens member (same.trans token.symm)] at good'
        exact good good'
  · next now pk admitted =>
    have here' : (s.markUsed request.token).requests[i]? = some request := here
    refine safe ?_ (by simp [admitted])
    exact (each.markUsed request.token).put here' rfl (fun _ => by rw [admitted]; trivial) fun _ _ => markUsed_used
  · next now pk marked =>
    have passed : request.pc.Passed := by rw [marked]; trivial
    have used := each.marked request (List.mem_of_getElem? here) passed (by simp [marked])
    split
    · exact safe (each.put here rfl (fun _ => passed) fun _ _ => used) (by simp [marked])
    · exact safe (each.put here rfl (fun _ => passed) fun _ _ => used) (by simp [marked])
  · next participant latest fetched =>
    have passed : request.pc.Passed := by rw [fetched]; trivial
    have used := each.marked request (List.mem_of_getElem? here) passed (by simp [fetched])
    have saved : EachOnce (s.updateRow participant.pk fun _ => participant) := each.of_requests rfl rfl
    exact safe (saved.put here rfl (fun _ => passed) fun _ _ => used) (by simp [fetched])
  · next response answered => exact safe each (by simp [answered])

theorem EachOnce.step (each : EachOnce s) : Exact s (s.step hasher a) a := by
  cases a with
  | pass now | join pk => exact .of_harmless (each.of_requests rfl rfl) (by simp)
  | issue pk random =>
    refine .of_harmless ?_ (by simp)
    simp only [VerificationState.step, VerificationState.issue]
    split_ifs
    · exact each.of_requests rfl rfl
    · exact each
  | request token =>
    refine .of_harmless ⟨each.distinct, ?_, each.once.append (fun _ _ => .symm) ?_⟩ (by simp)
    · intro request member past beyond
      rcases List.mem_append.mp member with old | new_
      · exact each.marked request old past beyond
      · rw [List.mem_singleton.mp new_] at past
        cases past
    · intro other _ shares
      cases shares.1
  | proceed i =>
    simp only [VerificationState.step]
    cases here : s.requests[i]? with
    | none =>
      refine .of_harmless each fun j request same there => ?_
      cases same
      simp [here] at there
    | some request => exact each.verifyEmail here

end EachOnce

/-- All along a run at most one request gets past the check of each link, exactly when none reads a
    good token while another one that has read it is still to mark it. -/
theorem each_link_once_iff (hasher : PasswordHasher) (clock : Int) (tokens : List VerificationRow)
    (distinct : (tokens.map (·.token)).Nodup) (rows : List TokenHolder) (actions : List VerificationAction) :
    (∀ n, MutualExclusion SharesLink
      (stateAt (VerificationState.step hasher) (.start clock tokens rows) actions n).requests) ↔
      ∀ v ∈ visited (VerificationState.step hasher) (.start clock tokens rows) actions, ¬ Overtakes v.1 v.2 := by
  have start : EachOnce (.start clock tokens rows) :=
    ⟨distinct, fun _ member => (by cases member), fun _ _ _ _ here => (by cases here)⟩
  have exact_ : ∀ s a, EachOnce s → Exact s (s.step hasher a) a := fun _ _ each => each.step
  exact stateAt_iff (fun s a each _ => (exact_ s a each).harmful) (fun s a each _ => (exact_ s a each).harmless)
    (fun _ each => each.once) start (fun _ _ => trivial)

/-- The link is clicked twice, and both requests read the token before either marks it. -/
def twoClicks : List VerificationAction :=
  [.request "link", .request "link", .proceed 0, .proceed 1, .proceed 0, .proceed 1]

theorem each_link_once_iff_twoClicks :
    (∀ n, MutualExclusion SharesLink
      (stateAt (VerificationState.step plainHasher) (.start 0 [⟨"link", ada.pk, 10, none⟩] [ada]) twoClicks n).requests) ↔
      ∀ v ∈ visited (VerificationState.step plainHasher) (.start 0 [⟨"link", ada.pk, 10, none⟩] [ada]) twoClicks,
        ¬ Overtakes v.1 v.2 :=
  each_link_once_iff plainHasher 0 [⟨"link", ada.pk, 10, none⟩] (by decide) [ada] twoClicks

/-! ## The latest join token -/

/-- The row is as the last join token of its participant has left it. -/
def Carries (hasher : PasswordHasher) (row : TokenHolder) : Option String → Prop
  | none => row.joinTokenDigest = ""
  | some raw => ∃ random, issueJoinToken hasher row random = (raw, row)

/-- Every participant's row answers to the last link the participant was sent. -/
def CarryLatest (hasher : PasswordHasher) (s : VerificationState) : Prop :=
  ∀ row ∈ s.rows, Carries hasher row (s.latestToken row.pk)

/-- A verification saves a row that it fetched before the participant's latest join token was issued. -/
def Undoes (s : VerificationState) (a : VerificationAction) : Prop :=
  ∃ (i : Nat) (request : VerificationRequest) (participant : TokenHolder) (latest : Option String), a = .proceed i ∧
    s.requests[i]? = some request ∧ request.pc = .fetched participant latest ∧ latest ≠ s.latestToken participant.pk

def issuedToken : VerificationAction → Option String
  | .issue _ random => some (tokenPrefix ++ random)
  | _ => none

/-- The rows, and the copies of rows on their way, carry the tokens they are said to. -/
structure LatestKept (hasher : PasswordHasher) (drawn : List String) (s : VerificationState) : Prop where
  distinct : (s.rows.map (·.pk)).Nodup
  known : ∀ pk, ∀ raw ∈ s.latestToken pk, raw ∈ drawn
  rows : CarryLatest hasher s
  copies : ∀ request ∈ s.requests, ∀ participant latest, request.pc = .fetched participant latest →
    Carries hasher participant latest ∧ (∀ raw ∈ latest, raw ∈ drawn) ∧ participant.pk ∈ s.rows.map (·.pk)

section Latest

variable {hasher : PasswordHasher} {drawn : List String} {s : VerificationState} {i : Nat}
  {request new : VerificationRequest} {row : TokenHolder} {latest latest' : Option String}

theorem Carries.join (carries : Carries hasher row latest) (now : Int) : Carries hasher (row.join now) latest := by
  cases latest with
  | none => exact carries
  | some raw =>
    obtain ⟨random, issued⟩ := carries
    obtain ⟨rfl, same⟩ := Prod.mk.inj issued
    exact ⟨random, congrArg (fun row : TokenHolder => (tokenPrefix ++ random, row.join now)) same⟩

/-- A row carries one token only. -/
theorem Carries.unique (carries : Carries hasher row latest) (carries' : Carries hasher row latest')
    (apart : ∀ raw ∈ latest, ∀ raw' ∈ latest', tokenDigest raw = tokenDigest raw' → raw = raw') : latest = latest' := by
  cases latest with
  | none =>
    cases latest' with
    | none => rfl
    | some raw' =>
      obtain ⟨_, issued⟩ := carries'
      exact absurd ((issueJoinToken_digest issued).1.symm.trans carries) (tokenDigest_ne_empty raw')
  | some raw =>
    obtain ⟨_, issued⟩ := carries
    have digest := (issueJoinToken_digest issued).1
    cases latest' with
    | none => exact absurd (digest.symm.trans carries') (tokenDigest_ne_empty raw)
    | some raw' =>
      obtain ⟨_, issued'⟩ := carries'
      rw [apart raw rfl raw' rfl (digest.symm.trans (issueJoinToken_digest issued').1)]

theorem pks_updateRow {pk : String} {f : TokenHolder → TokenHolder} (same : ∀ row ∈ s.rows, row.pk = pk → (f row).pk = pk) :
    (s.updateRow pk f).rows.map (·.pk) = s.rows.map (·.pk) := by
  simp only [VerificationState.updateRow, List.map_map]
  apply List.map_congr_left
  intro row member
  simp only [Function.comp_apply]
  split_ifs with here
  · exact (same row member here).trans here.symm
  · rfl

/-- A row is rewritten to one that carries the latest token. -/
theorem LatestKept.updateRow {pk : String} {f : TokenHolder → TokenHolder} (kept : LatestKept hasher drawn s)
    (same : ∀ row ∈ s.rows, row.pk = pk → (f row).pk = pk)
    (carries : ∀ row ∈ s.rows, row.pk = pk → Carries hasher (f row) (s.latestToken pk)) :
    LatestKept hasher drawn (s.updateRow pk f) := by
  refine ⟨?_, kept.known, ?_, ?_⟩
  · rw [pks_updateRow same]
    exact kept.distinct
  · intro row member
    obtain ⟨old, inRows, rfl⟩ := List.mem_map.mp member
    split_ifs with here
    · rw [same old inRows here]
      exact carries old inRows here
    · exact kept.rows old inRows
  · rw [pks_updateRow same]
    exact kept.copies

theorem LatestKept.put (kept : LatestKept hasher drawn s)
    (copy : ∀ participant latest, new.pc = .fetched participant latest →
      Carries hasher participant latest ∧ (∀ raw ∈ latest, raw ∈ drawn) ∧ participant.pk ∈ s.rows.map (·.pk)) :
    LatestKept hasher drawn (s.put i new) :=
  ⟨kept.distinct, kept.known, kept.rows, forall_mem_set kept.copies copy⟩

theorem LatestKept.issue {pk random : String} (kept : LatestKept hasher drawn s) (known : tokenPrefix ++ random ∈ drawn) :
    LatestKept hasher drawn (s.issue hasher pk random) := by
  unfold VerificationState.issue
  split_ifs
  · have pks := @pks_updateRow s pk (fun row => (issueJoinToken hasher row random).2) fun _ _ here => here
    refine ⟨pks ▸ kept.distinct, ?_, ?_, ?_⟩
    · intro other raw latest
      by_cases here : other = pk
      · subst here
        simp only [Function.update_self, Option.mem_some_iff] at latest
        exact latest ▸ known
      · simp only [Function.update_of_ne here] at latest
        exact kept.known other raw latest
    · intro row member
      obtain ⟨old, inRows, rfl⟩ := List.mem_map.mp member
      split_ifs with here
      · simp only [issueJoinToken, TokenHolder.setJoinToken, here, Function.update_self]
        exact ⟨random, rfl⟩
      · simp only [Function.update_of_ne here]
        exact kept.rows old inRows
    · intro request member participant latest fetched
      obtain ⟨carries, drawn_, inRows⟩ := kept.copies request member participant latest fetched
      exact ⟨carries, drawn_, pks ▸ inRows⟩
  · exact kept

/-- Only a save writes a copy back. -/
theorem LatestKept.verifyEmail (kept : LatestKept hasher drawn s) (here : s.requests[i]? = some request)
    (fresh : ∀ participant latest, request.pc = .fetched participant latest → latest = s.latestToken participant.pk) :
    LatestKept hasher drawn (s.verifyEmail i request) := by
  unfold VerificationState.verifyEmail
  split
  · split
    · exact kept.put (by simp)
    · split_ifs
      · exact kept.put (by simp)
      · exact kept.put (by simp)
  · have marked : LatestKept hasher drawn (s.markUsed request.token) := ⟨kept.distinct, kept.known, kept.rows, kept.copies⟩
    exact marked.put (by simp)
  · next now pk _ =>
    split
    · exact kept.put (by simp)
    · next participant found =>
      have member := List.mem_of_find?_eq_some found
      have same : participant.pk = pk := by simpa using List.find?_some found
      refine kept.put fun copy latest fetched => ?_
      cases fetched
      exact ⟨same ▸ (kept.rows participant member).join now, kept.known pk, List.mem_map.mpr ⟨participant, member, rfl⟩⟩
  · next participant latest fetched =>
    obtain ⟨carries, _, _⟩ := kept.copies request (List.mem_of_getElem? here) participant latest fetched
    have saved := @LatestKept.updateRow hasher drawn s participant.pk (fun _ => participant) kept (fun _ _ _ => rfl)
      fun _ _ _ => fresh participant latest fetched ▸ carries
    exact saved.put (by simp)
  · exact kept

theorem LatestKept.harmless {a : VerificationAction} (kept : LatestKept hasher drawn s)
    (known : ∀ raw ∈ issuedToken a, raw ∈ drawn) (careful : ¬ Undoes s a) : LatestKept hasher drawn (s.step hasher a) := by
  cases a with
  | pass now => exact ⟨kept.distinct, kept.known, kept.rows, kept.copies⟩
  | request token =>
    refine ⟨kept.distinct, kept.known, kept.rows, fun request member participant latest fetched => ?_⟩
    rcases List.mem_append.mp member with old | new_
    · exact kept.copies request old participant latest fetched
    · rw [List.mem_singleton.mp new_] at fetched
      cases fetched
  | proceed i =>
    simp only [VerificationState.step]
    cases here : s.requests[i]? with
    | none => exact kept
    | some request =>
      refine kept.verifyEmail here fun participant latest fetched => ?_
      by_contra stale
      exact careful ⟨i, request, participant, latest, rfl, here, fetched, stale⟩
  | issue pk random => exact kept.issue (known _ rfl)
  | join pk => exact kept.updateRow (fun _ _ here => here) fun row member here => here ▸ (kept.rows row member).join _

/-- A copy that is out of date takes the latest token out of the row. -/
theorem LatestKept.harmful {a : VerificationAction} (kept : LatestKept hasher drawn s)
    (apart : ∀ raw ∈ drawn, ∀ raw' ∈ drawn, tokenDigest raw = tokenDigest raw' → raw = raw')
    (next : CarryLatest hasher (s.step hasher a)) : ¬ Undoes s a := by
  rintro ⟨i, request, participant, latest, rfl, here, fetched, stale⟩
  obtain ⟨carries, drawn_, inRows⟩ := kept.copies request (List.mem_of_getElem? here) participant latest fetched
  obtain ⟨row, member, same⟩ := List.mem_map.mp inRows
  have saved : participant ∈ (s.step hasher (.proceed i)).rows := by
    simp only [VerificationState.step, here, VerificationState.verifyEmail, fetched]
    exact List.mem_map.mpr ⟨row, member, by simp [same]⟩
  have now := next participant saved
  have latest_ : (s.step hasher (.proceed i)).latestToken = s.latestToken := by
    simp only [VerificationState.step, here, VerificationState.verifyEmail, fetched]
    rfl
  rw [latest_] at now
  exact stale (carries.unique now fun raw inLatest raw' inLatest' =>
    apart raw (drawn_ raw inLatest) raw' (kept.known participant.pk raw' inLatest'))

end Latest

/-- All along a run every participant's row answers to the last join link the participant was sent, exactly when
    no verification saves a row that it fetched before that link was made. -/
theorem latest_link_survives_iff (hasher : PasswordHasher) (clock : Int) (tokens : List VerificationRow)
    (rows : List TokenHolder) (distinct : (rows.map (·.pk)).Nodup) (blank : ∀ row ∈ rows, row.joinTokenDigest = "")
    (actions : List VerificationAction)
    (apart : ∀ raw ∈ actions.filterMap issuedToken, ∀ raw' ∈ actions.filterMap issuedToken,
      tokenDigest raw = tokenDigest raw' → raw = raw') :
    (∀ n, CarryLatest hasher (stateAt (VerificationState.step hasher) (.start clock tokens rows) actions n)) ↔
      ∀ v ∈ visited (VerificationState.step hasher) (.start clock tokens rows) actions, ¬ Undoes v.1 v.2 := by
  have start : LatestKept hasher (actions.filterMap issuedToken) (.start clock tokens rows) :=
    ⟨distinct, fun _ _ known => (by cases known), blank, fun _ member => (by cases member)⟩
  have drawn : ∀ a ∈ actions, ∀ raw ∈ issuedToken a, raw ∈ actions.filterMap issuedToken :=
    fun a member raw issued => List.mem_filterMap.mpr ⟨a, member, issued⟩
  exact stateAt_iff (fun _ _ kept _ next => kept.harmful apart next)
    (fun _ _ kept known careful => kept.harmless known careful) (fun _ kept => kept.rows) start drawn

/-- Ada is sent her join link while her verification is under way. -/
def linkSentMeanwhile : List VerificationAction :=
  [.request "link", .proceed 0, .proceed 0, .proceed 0, .issue ada.pk "random", .proceed 0]

theorem latest_link_survives_iff_linkSentMeanwhile :
    (∀ n, CarryLatest plainHasher
      (stateAt (VerificationState.step plainHasher) (.start 0 [⟨"link", ada.pk, 10, none⟩] [ada]) linkSentMeanwhile n)) ↔
      ∀ v ∈ visited (VerificationState.step plainHasher) (.start 0 [⟨"link", ada.pk, 10, none⟩] [ada]) linkSentMeanwhile,
        ¬ Undoes v.1 v.2 :=
  latest_link_survives_iff plainHasher 0 [⟨"link", ada.pk, 10, none⟩] [ada] (by decide) (by simp [ada])
    linkSentMeanwhile (by simp [linkSentMeanwhile, issuedToken])

end EventPlatform.Registration
