import EventPlatform.Lib.Transaction
import EventPlatform.Matching.Uuid
import EventPlatform.Registration.Forms

/-! # Registering a participant

`register_view` creates the participant, sets the tags, creates the verification token and
sends the e-mail, one after another and each for itself: what an earlier step has written
stays when a later one raises. -/

namespace EventPlatform.Registration

open EventPlatform.Lib EventPlatform.Protocol EventPlatform.Matching

/-! ## Rows -/

structure EventRow where
  pk : Nat
  uniqueTags : Bool

/-- The columns that a registration fills in; `age`, `gender`, `want_to_date` and `whatsapp`
    hold what the form has passed on. -/
structure ParticipantRow where
  pk : Nat
  eventPk : Nat
  displayName : String
  email : String
  age : Option Int
  gender : Json
  wantToDate : Json
  whatsapp : Json

structure EmailVerificationToken where
  participantPk : Nat
  token : String
  expiresAt : Int
deriving DecidableEq

structure VerificationEmail where
  recipientEmail : String
  name : String
  token : String

/-- `tags` are the primary keys of the tags, `participantTags` the pairs of a participant
    and a tag, `outbox` what has been sent. -/
structure RegistrationTables where
  events : List EventRow
  tags : List Nat
  participants : List ParticipantRow
  participantTags : List (Nat × Nat)
  tokens : List EmailVerificationToken
  outbox : List VerificationEmail

/-! ## Requests and responses -/

inductive RequestBody where
  | json (data : Json)
  | invalidJson
  /-- `json.loads` raises another exception, for bytes that are no text, say. -/
  | unreadable

structure RegistrationRequest where
  method : String
  eventId : Option Nat
  body : RequestBody

inductive RegistrationStep where
  | findEvent
  | findDuplicate
  | createParticipant
  | findTags
  | setTags
  | createToken
  | sendEmail
deriving DecidableEq

/-- What the view cannot choose: the values that are drawn, and the steps that fail. -/
structure RegistrationEnv where
  participantPk : Nat
  rawToken : String
  now : Int
  fails : RegistrationStep → Bool

/-- Why the steps after validation raise. -/
inductive RegistrationFailure where
  | step (step : RegistrationStep)
  | integrityError
  | dataError
  | invalidTagId

inductive RegistrationResponse where
  | refused (status : Nat) (error : String) (code : Option String)
  | failed (cause : RegistrationFailure)
  | received (participantPk : Nat)
  /-- The exception leaves the view. -/
  | uncaught

namespace RegistrationResponse

def status : RegistrationResponse → Nat
  | refused status _ _ => status
  | failed _ => 500
  | received _ => 201
  | uncaught => 500

def code : RegistrationResponse → Option String
  | refused _ _ code => code
  | failed _ => some "server_error"
  | received _ => none
  | uncaught => none

end RegistrationResponse

/-! ## The steps after validation -/

/-- `text` is `str(value)`, which a text column holds. -/
structure PyValues extends PyNumbers where
  text : Json → String

abbrev RegistrationDb := Db RegistrationTables RegistrationFailure

/-- `varchar(length)`, with or without NULL. -/
def fitsColumn (py : PyValues) (nullable : Bool) (length : Nat) (value : Json) : Bool :=
  match value with
  | .null => nullable
  | value => (py.text value).length ≤ length

def participantRow (env : RegistrationEnv) (eventPk : Nat) (payload : RegistrationPayload) : ParticipantRow where
  pk := env.participantPk
  eventPk := eventPk
  displayName := payload.displayName
  email := payload.email
  age := payload.age
  gender := payload.gender
  wantToDate := payload.wantToDate
  whatsapp := payload.whatsapp

def fitsColumns (py : PyValues) (row : ParticipantRow) : Bool :=
  row.displayName.length ≤ 200 && row.email.length ≤ 254 && fitsColumn py false 50 row.gender
    && fitsColumn py false 50 row.wantToDate && fitsColumn py true 50 row.whatsapp

/-- The primary key, and `uniq_participant_name_per_event`. -/
def uniqueParticipant (participants : List ParticipantRow) (row : ParticipantRow) : Bool :=
  participants.all fun other =>
    other.pk ≠ row.pk ∧ ¬ (other.eventPk = row.eventPk ∧ other.displayName = row.displayName)

/-- A step of its own that does not depend on what the database holds. -/
def runStep (env : RegistrationEnv) (step : RegistrationStep) : RegistrationDb Unit :=
  Db.require (!env.fails step) (.step step)

def createParticipant (py : PyValues) (env : RegistrationEnv) (eventPk : Nat) (payload : RegistrationPayload) :
    RegistrationDb ParticipantRow := do
  runStep env .createParticipant
  let row := participantRow env eventPk payload
  let tables ← get
  Db.require (fitsColumns py row) .dataError
  Db.require (uniqueParticipant tables.participants row) .integrityError
  modify fun tables => { tables with participants := tables.participants ++ [row] }
  return row

/-- The UUID that `id__in` makes of a value; NULL matches nothing. -/
def tagValue : Json → Option (Option Nat)
  | .null => some none
  | .str value => (uuidValue value).map some
  | .int value => if 0 ≤ value ∧ value < 2 ^ 128 then some (some value.toNat) else none
  | .bool value => some (some value.toNat)
  | .float _ | .list _ | .dict _ => none

/-- `filter(id__in=tag_ids)`, where an id that is no UUID raises. -/
def tagValues : Json → Option (List Nat)
  | .list items => (items.mapM tagValue).map (·.filterMap id)
  | .str value => (value.toList.mapM fun c => tagValue (.str c.toString)).map (·.filterMap id)
  | .dict fields => (fields.mapM fun field => tagValue (.str field.1)).map (·.filterMap id)
  | .null | .bool _ | .int _ | .float _ => none

def requireTagIds (tagIds : Json) : RegistrationDb (List Nat) :=
  match tagValues tagIds with
  | none => throw .invalidTagId
  | some values => pure values

/-- `participant.tags.set(tags)` is a transaction of its own. -/
def assignTags (py : PyValues) (env : RegistrationEnv) (payload : RegistrationPayload) (participant : ParticipantRow) :
    RegistrationDb Unit := do
  if truthy py.toPyNumbers payload.tagIds then
    let values ← requireTagIds payload.tagIds
    runStep env .findTags
    let tables ← get
    let tags := tables.tags.filter (· ∈ values)
    runStep env .setTags
    modify fun tables =>
      { tables with participantTags := tables.participantTags ++ tags.map fun tag => (participant.pk, tag) }

/-- `TOKEN_TTL` -/
def tokenTtl : Int := 24 * 3600 * 1000000

/-- `EmailVerificationToken.create_for`; `token` is unique. -/
def createToken (env : RegistrationEnv) (participant : ParticipantRow) : RegistrationDb EmailVerificationToken := do
  runStep env .createToken
  let tables ← get
  Db.require (tables.tokens.all (·.token ≠ env.rawToken)) .integrityError
  let token : EmailVerificationToken := ⟨participant.pk, env.rawToken, env.now + tokenTtl⟩
  modify fun tables => { tables with tokens := tables.tokens ++ [token] }
  return token

def sendVerificationEmail (env : RegistrationEnv) (recipientEmail name token : String) : RegistrationDb Unit := do
  runStep env .sendEmail
  modify fun tables => { tables with outbox := tables.outbox ++ [⟨recipientEmail, name, token⟩] }

def completeRegistration (py : PyValues) (env : RegistrationEnv) (payload : RegistrationPayload)
    (participant : ParticipantRow) : RegistrationDb ParticipantRow := do
  assignTags py env payload participant
  let token ← createToken env participant
  sendVerificationEmail env payload.email participant.displayName token.token
  return participant

/-- The body of the second `try`; there is no transaction around it. -/
def createRegistration (py : PyValues) (env : RegistrationEnv) (eventPk : Nat) (payload : RegistrationPayload) :
    RegistrationDb ParticipantRow := do
  let participant ← createParticipant py env eventPk payload
  completeRegistration py env payload participant

/-! ## The view -/

/-- `is_rate_limited` -/
def isRateLimited : Bool := false

def invalidRequest : RegistrationResponse := .refused 400 "Invalid request data." (some "invalid_json")

def duplicateEmail : RegistrationResponse :=
  .refused 400 "This email is already registered for this event." (some "duplicate_email")

/-- `json.loads` and the validation; without an event the validation lacks an argument. -/
def readPayload (py : PyValues) (event : Option EventRow) : RequestBody → Except RegistrationResponse RegistrationPayload
  | .invalidJson => .error invalidRequest
  | .unreadable => .error .uncaught
  | .json data =>
    match event with
    | none => .error .uncaught
    | some event =>
      match validateRegistrationData py.toPyNumbers event.uniqueTags data with
      | .ok payload => .ok payload
      | .error (.registrationError error) => .error (.refused 400 error.message (some error.code))
      | .error _ => .error .uncaught

def findEvent (tables : RegistrationTables) (request : RegistrationRequest) : Option EventRow :=
  request.eventId.bind fun eventId => tables.events.find? (·.pk = eventId)

def isRegistered (tables : RegistrationTables) (eventPk : Nat) (email : String) : Bool :=
  tables.participants.any fun participant => participant.email = email ∧ participant.eventPk = eventPk

def registerView (py : PyValues) (env : RegistrationEnv) (request : RegistrationRequest)
    (tables : RegistrationTables) : RegistrationResponse × RegistrationTables :=
  if request.method ≠ "POST" then (.refused 405 "Method not allowed." none, tables)
  else if isRateLimited then (.refused 429 "Too many requests. Please try again later." none, tables)
  else if request.eventId.isSome ∧ env.fails .findEvent then (.uncaught, tables)
  else
    match readPayload py (findEvent tables request) request.body with
    | .error response => (response, tables)
    | .ok payload =>
      match findEvent tables request with
      | none => (.uncaught, tables)
      | some event =>
        if env.fails .findDuplicate then (.uncaught, tables)
        else if isRegistered tables event.pk payload.email then (duplicateEmail, tables)
        else
          match (createRegistration py env event.pk payload).runOn tables with
          | (.ok participant, tables) => (.received participant.pk, tables)
          | (.error cause, tables) => (.failed cause, tables)

end EventPlatform.Registration
