import EventPlatform.Lib.Runs
import EventPlatform.Operator.JoinTokens
import EventPlatform.Presence.Sockets

/-! # Who a session speaks for

A personal link carries a join token.  A request with it authenticates, moves
its browser to a new session, and writes that session into the cache as the
participant's current one.  Requests of any browsers interleave between these
three, with each other and with new tokens.  A session whose participant has
another current session is refused; a cache that fails or knows no session
refuses nobody. -/

namespace EventPlatform.Presence

open EventPlatform.Lib EventPlatform.Operator

/-! ## Links, sessions and requests -/

/-- A row of the session store. -/
structure StoredSession where
  participantId : String
  expiresAt : Int
deriving DecidableEq

inductive JoinResponse where
  | refused (error : JoinTokenError)
  | authenticated (participantId : String)
deriving DecidableEq

def JoinResponse.status : JoinResponse → Nat
  | .refused .invalid => 400
  | .refused .expired => 410
  | .authenticated _ => 200

def JoinResponse.error : JoinResponse → Option (String × String)
  | .refused .invalid => some ("join_token_invalid", "Invalid join token")
  | .refused .expired => some ("join_token_expired", "Join token expired")
  | .authenticated _ => none

/-- What `join_participant` does next: `authenticate_join_token`, the new session,
    or `remember_participant_session`. -/
inductive JoinViewPc where
  | received
  | authenticated (participantId : String)
  | established (participantId : String)
  | answered (response : JoinResponse)
deriving DecidableEq

/-- `cookie` is the session the browser came with, `sessionKey` the one it leaves with. -/
structure JoinRequest where
  rawToken : String
  cookie : Option Nat
  sessionKey : Option Nat
  pc : JoinViewPc
deriving DecidableEq

/-- A session key is a position in `sessions`; a deleted session leaves `none`.
    `latestToken`, which the code does not keep, is the token a participant was sent last. -/
structure IdentityState where
  clock : Int
  rows : List TokenHolder
  sessions : List (Option StoredSession)
  currentSession : String → Option (CacheEntry Nat)
  requests : List JoinRequest
  latestToken : String → Option String

inductive IdentityAction where
  | pass (now : Int)
  /-- `issue_join_token`, with what it draws. -/
  | issue (participantId random : String)
  | request (rawToken : String) (cookie : Option Nat)
  /-- The view goes on; the cache may fail it. -/
  | proceed (request : Nat) (fails : Bool)
  /-- The cache drops a key. -/
  | evict (participantId : String)

namespace IdentityState

/-- `UPDATE` of the row with this key. -/
def updateRow (s : IdentityState) (pk : String) (f : TokenHolder → TokenHolder) : IdentityState :=
  { s with rows := s.rows.map fun row => if row.pk = pk then f row else row }

def putRequest (s : IdentityState) (i : Nat) (request : JoinRequest) : IdentityState :=
  { s with requests := s.requests.set i request }

/-- The session behind a cookie, unless it has expired. -/
def load (s : IdentityState) (key : Nat) : Option StoredSession :=
  s.sessions[key]?.join.filter (s.clock < ·.expiresAt)

def issue (hasher : PasswordHasher) (s : IdentityState) (pk random : String) : IdentityState :=
  if pk ∈ s.rows.map (·.pk) then
    { s.updateRow pk fun row => (issueJoinToken hasher row random).2 with
      latestToken := Function.update s.latestToken pk (some (tokenPrefix ++ random)) }
  else s

/-- `cycle_key` deletes the session of the cookie. -/
def cycleKey (s : IdentityState) : Option Nat → IdentityState
  | none => s
  | some key => { s with sessions := s.sessions.set key none }

def establishParticipantSession (participantSessionAge : Int) (s : IdentityState) (cookie : Option Nat) (pk : String) :
    IdentityState :=
  let cycled := s.cycleKey cookie
  { cycled with sessions := cycled.sessions ++ [some ⟨pk, s.clock + participantSessionAge⟩] }

/-- A failure of the cache is logged. -/
def rememberParticipantSession (participantSessionAge : Int) (s : IdentityState) (pk : String) (sessionKey : Nat)
    (fails : Bool) : IdentityState :=
  if fails then s
  else { s with
    currentSession := Function.update s.currentSession pk (some ⟨sessionKey, s.clock + participantSessionAge⟩) }

/-- `join_participant`, one step. -/
def joinParticipant (hasher : PasswordHasher) (participantSessionAge : Int) (s : IdentityState) (i : Nat)
    (request : JoinRequest) (fails : Bool) : IdentityState :=
  match request.pc, request.sessionKey with
  | .received, _ =>
    match authenticateJoinToken hasher s.rows s.clock request.rawToken with
    | .error error => s.putRequest i { request with pc := .answered (.refused error) }
    | .ok participant =>
      (s.updateRow participant.pk (·.join s.clock)).putRequest i { request with pc := .authenticated participant.pk }
  | .authenticated pk, _ =>
    (s.establishParticipantSession participantSessionAge request.cookie pk).putRequest i
      { request with sessionKey := some s.sessions.length, pc := .established pk }
  | .established pk, some sessionKey =>
    (s.rememberParticipantSession participantSessionAge pk sessionKey fails).putRequest i
      { request with pc := .answered (.authenticated pk) }
  | .established _, none | .answered _, _ => s

def step (hasher : PasswordHasher) (participantSessionAge : Int) (s : IdentityState) :
    IdentityAction → IdentityState
  | .pass now => { s with clock := max s.clock now }
  | .issue pk random => s.issue hasher pk random
  | .request rawToken cookie => { s with requests := s.requests ++ [⟨rawToken, cookie, none, .received⟩] }
  | .proceed i fails =>
    match s.requests[i]? with
    | none => s
    | some request => s.joinParticipant hasher participantSessionAge i request fails
  | .evict pk => { s with currentSession := Function.update s.currentSession pk none }

/-- The participants as they were entered, before anybody was sent a token. -/
def start (clock : Int) (rows : List TokenHolder) : IdentityState :=
  ⟨clock, rows, [], fun _ => none, [], fun _ => none⟩

def sessionMatchesParticipant (s : IdentityState) (sessionKey : Nat) (pk : String) (fails : Bool) : Bool :=
  fails || (cacheGet s.clock (s.currentSession pk)).all (· = sessionKey)

def resolveParticipantFromSession (s : IdentityState) (sessionKey : Nat) (fails : Bool) : Option TokenHolder := do
  let session ← s.load sessionKey
  let participant ← s.rows.find? (·.pk = session.participantId)
  guard (s.sessionMatchesParticipant sessionKey participant.pk fails)
  return participant

section Updates

variable (participantSessionAge : Int) (s : IdentityState) (cookie : Option Nat) (pk : String) (sessionKey : Nat)
  (fails : Bool)

@[simp] theorem requests_establish :
    (s.establishParticipantSession participantSessionAge cookie pk).requests = s.requests := by
  cases cookie <;> rfl

@[simp] theorem rows_establish : (s.establishParticipantSession participantSessionAge cookie pk).rows = s.rows := by
  cases cookie <;> rfl

@[simp] theorem latestToken_establish :
    (s.establishParticipantSession participantSessionAge cookie pk).latestToken = s.latestToken := by
  cases cookie <;> rfl

@[simp] theorem requests_remember :
    (s.rememberParticipantSession participantSessionAge pk sessionKey fails).requests = s.requests := by
  cases fails <;> rfl

@[simp] theorem rows_remember :
    (s.rememberParticipantSession participantSessionAge pk sessionKey fails).rows = s.rows := by
  cases fails <;> rfl

@[simp] theorem sessions_remember :
    (s.rememberParticipantSession participantSessionAge pk sessionKey fails).sessions = s.sessions := by
  cases fails <;> rfl

@[simp] theorem latestToken_remember :
    (s.rememberParticipantSession participantSessionAge pk sessionKey fails).latestToken = s.latestToken := by
  cases fails <;> rfl

end Updates

end IdentityState

/-! ## What a step can do -/

section Steps

variable {hasher : PasswordHasher} {participantSessionAge : Int} {s : IdentityState} {i : Nat} {request : JoinRequest}
  {fails : Bool}

/-- The steps of `join_participant`. -/
inductive JoinStep (hasher : PasswordHasher) (participantSessionAge : Int) (s : IdentityState) (i : Nat)
    (request : JoinRequest) : IdentityState → Prop
  | refused {error : JoinTokenError} (received : request.pc = .received)
      (result : authenticateJoinToken hasher s.rows s.clock request.rawToken = .error error) :
      JoinStep hasher participantSessionAge s i request
        (s.putRequest i { request with pc := .answered (.refused error) })
  | admitted {participant : TokenHolder} (received : request.pc = .received)
      (result : authenticateJoinToken hasher s.rows s.clock request.rawToken = .ok participant) :
      JoinStep hasher participantSessionAge s i request
        ((s.updateRow participant.pk (·.join s.clock)).putRequest i
          { request with pc := .authenticated participant.pk })
  | established {pk : String} (authenticated : request.pc = .authenticated pk) :
      JoinStep hasher participantSessionAge s i request
        ((s.establishParticipantSession participantSessionAge request.cookie pk).putRequest i
          { request with sessionKey := some s.sessions.length, pc := .established pk })
  | remembered {pk : String} {sessionKey : Nat} {fails : Bool} (established : request.pc = .established pk)
      (mine : request.sessionKey = some sessionKey) :
      JoinStep hasher participantSessionAge s i request
        ((s.rememberParticipantSession participantSessionAge pk sessionKey fails).putRequest i
          { request with pc := .answered (.authenticated pk) })
  | idle : JoinStep hasher participantSessionAge s i request s

theorem joinStep_joinParticipant :
    JoinStep hasher participantSessionAge s i request
      (s.joinParticipant hasher participantSessionAge i request fails) := by
  unfold IdentityState.joinParticipant
  split
  · split
    · exact .refused ‹_› ‹_›
    · exact .admitted ‹_› ‹_›
  · exact .established ‹_›
  · exact .remembered ‹_› ‹_›
  · exact .idle
  · exact .idle

end Steps

end EventPlatform.Presence
