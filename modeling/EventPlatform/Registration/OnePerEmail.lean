import EventPlatform.Lib.Processes
import EventPlatform.Lib.Runs
import EventPlatform.Registration.Atomic

/-! # One registration for each e-mail

No constraint of the database keeps the e-mails of an event apart: the view looks for the
e-mail, and inserts the participant in a later statement.  Here the requests go on statement by
statement, in any order, and each statement is committed by itself. -/

namespace EventPlatform.Registration

open EventPlatform.Lib EventPlatform.Protocol

/-! ## Requests side by side -/

/-- The next statement of a request.  The tags are one statement, as no request writes what
    is read for them. -/
inductive RegistrationPc where
  | findEvent
  | findDuplicate (eventPk : Nat) (payload : RegistrationPayload)
  | createParticipant (eventPk : Nat) (payload : RegistrationPayload)
  | assignTags (payload : RegistrationPayload) (participant : ParticipantRow)
  | createToken (payload : RegistrationPayload) (participant : ParticipantRow)
  | sendEmail (payload : RegistrationPayload) (participant : ParticipantRow) (token : EmailVerificationToken)
  | answered (response : RegistrationResponse)

/-- The event is read, and the body is validated. -/
def receive (py : PyValues) (env : RegistrationEnv) (request : RegistrationRequest) (tables : RegistrationTables) :
    RegistrationPc :=
  if request.method ≠ "POST" then .answered (.refused 405 "Method not allowed." none)
  else if isRateLimited then .answered (.refused 429 "Too many requests. Please try again later." none)
  else if request.eventId.isSome ∧ env.fails .findEvent then .answered .uncaught
  else
    match readPayload py (findEvent tables request) request.body with
    | .error response => .answered response
    | .ok payload =>
      match findEvent tables request with
      | none => .answered .uncaught
      | some event => .findDuplicate event.pk payload

/-- A statement of the second `try`. -/
def attempt {α : Type} (x : RegistrationDb α) (next : α → RegistrationPc) (tables : RegistrationTables) :
    RegistrationPc × RegistrationTables :=
  match x.runOn tables with
  | (.ok a, tables) => (next a, tables)
  | (.error cause, tables) => (.answered (.failed cause), tables)

def RegistrationPc.execute (py : PyValues) (env : RegistrationEnv) (request : RegistrationRequest)
    (tables : RegistrationTables) : RegistrationPc → RegistrationPc × RegistrationTables
  | .findEvent => (receive py env request tables, tables)
  | .findDuplicate eventPk payload =>
    if env.fails .findDuplicate then (.answered .uncaught, tables)
    else if isRegistered tables eventPk payload.email then (.answered duplicateEmail, tables)
    else (.createParticipant eventPk payload, tables)
  | .createParticipant eventPk payload =>
    attempt (Registration.createParticipant py env eventPk payload) (.assignTags payload) tables
  | .assignTags payload participant =>
    attempt (Registration.assignTags py env payload participant) (fun _ => .createToken payload participant) tables
  | .createToken payload participant =>
    attempt (Registration.createToken env participant) (.sendEmail payload participant) tables
  | .sendEmail payload participant token =>
    attempt (sendVerificationEmail env payload.email participant.displayName token.token)
      (fun _ => .answered (.received participant.pk)) tables
  | .answered response => (.answered response, tables)

structure RegistrationProcess where
  env : RegistrationEnv
  request : RegistrationRequest
  pc : RegistrationPc

def RegistrationProcess.begin (env : RegistrationEnv) (request : RegistrationRequest) : RegistrationProcess :=
  ⟨env, request, .findEvent⟩

/-- The committed rows, and the requests. -/
structure RegistrationSystem where
  tables : RegistrationTables
  processes : List RegistrationProcess

namespace RegistrationSystem

def start (tables : RegistrationTables) (requests : List (RegistrationEnv × RegistrationRequest)) :
    RegistrationSystem :=
  ⟨tables, requests.map fun call => .begin call.1 call.2⟩

/-- A request executes its next statement. -/
def step (py : PyValues) (s : RegistrationSystem) (i : Nat) : RegistrationSystem :=
  match s.processes[i]? with
  | none => s
  | some process =>
    let (pc, tables) := process.pc.execute py process.env process.request s.tables
    ⟨tables, s.processes.set i { process with pc := pc }⟩

end RegistrationSystem

variable {py : PyValues} {env : RegistrationEnv} {request : RegistrationRequest} {tables after : RegistrationTables}
  {event : EventRow} {payload : RegistrationPayload} {participant : ParticipantRow} {eventPk : Nat}
  {pc next : RegistrationPc}

/-! ## One request by itself -/

/-- A request executes its next statement, and there is no other request. -/
def executeAlone (py : PyValues) (env : RegistrationEnv) (request : RegistrationRequest)
    (here : RegistrationPc × RegistrationTables) : RegistrationPc × RegistrationTables :=
  here.1.execute py env request here.2

@[simp] theorem executeAlone_answered (response : RegistrationResponse) :
    executeAlone py env request (.answered response, tables) = (.answered response, tables) := rfl

theorem iterate_answered (n : Nat) (response : RegistrationResponse) :
    (executeAlone py env request)^[n] (.answered response, tables) = (.answered response, tables) :=
  Function.iterate_fixed rfl n

def createdAnswer (participant : ParticipantRow) : RegistrationPc := .answered (.received participant.pk)

/-- What follows a statement follows it in the `try` as well. -/
theorem iterate_attempt {α : Type} {n : Nat} {x : RegistrationDb α} {f : α → RegistrationDb ParticipantRow}
    {next : α → RegistrationPc} (later : ∀ (a : α) (t : RegistrationTables),
      (executeAlone py env request)^[n] (next a, t) = attempt (f a) createdAnswer t) :
    (executeAlone py env request)^[n] (attempt x next tables) = attempt (x >>= f) createdAnswer tables := by
  simp only [attempt, Db.runOn_bind]
  cases ran : x.runOn tables with
  | mk result t =>
    cases result with
    | ok a => exact later a t
    | error cause => exact iterate_answered n _

theorem iterate_createParticipant (request : RegistrationRequest) :
    (executeAlone py env request)^[4] (.createParticipant eventPk payload, tables) =
      attempt (createRegistration py env eventPk payload) createdAnswer tables := by
  rw [Function.iterate_succ_apply]
  apply iterate_attempt
  intro participant t
  rw [Function.iterate_succ_apply]
  apply iterate_attempt
  intro _ t
  rw [Function.iterate_succ_apply]
  apply iterate_attempt
  intro token t
  rw [Function.iterate_succ_apply]
  exact iterate_attempt fun _ _ => rfl

theorem iterate_findDuplicate : (executeAlone py env request)^[5] (.findDuplicate eventPk payload, tables) =
    if env.fails .findDuplicate then (.answered .uncaught, tables)
    else if isRegistered tables eventPk payload.email then (.answered duplicateEmail, tables)
    else attempt (createRegistration py env eventPk payload) createdAnswer tables := by
  rw [Function.iterate_succ_apply, ← iterate_createParticipant request]
  simp only [executeAlone, RegistrationPc.execute]
  split
  · exact iterate_answered _ _
  · split
    · exact iterate_answered _ _
    · rfl

/-- Statement by statement, a request that nobody interferes with is `register_view`. -/
theorem executeAlone_registerView (py : PyValues) (env : RegistrationEnv) (request : RegistrationRequest)
    (tables : RegistrationTables) : (executeAlone py env request)^[6] (.findEvent, tables) =
      (.answered (registerView py env request tables).1, (registerView py env request tables).2) := by
  have first : executeAlone py env request (.findEvent, tables) = (receive py env request tables, tables) := rfl
  rw [Function.iterate_succ_apply, first]
  by_cases posted : request.method = "POST"
  · by_cases lost : request.eventId.isSome ∧ env.fails .findEvent
    · simp [receive, registerView, posted, isRateLimited, lost]
    · cases found : findEvent tables request with
      | none =>
        cases read : readPayload py none request.body <;>
          simp [receive, registerView, posted, isRateLimited, lost, found, read]
      | some event =>
        cases read : readPayload py (some event) request.body with
        | error response => simp [receive, registerView, posted, isRateLimited, lost, found, read]
        | ok payload =>
          have received : receive py env request tables = .findDuplicate event.pk payload := by
            simp [receive, posted, isRateLimited, lost, found, read]
          -- the remaining steps are those of the transaction
          rw [received, iterate_findDuplicate]
          simp only [registerView, posted, isRateLimited, lost, read, found]
          cases searched : env.fails .findDuplicate with
          | true => rfl
          | false =>
            cases registered : isRegistered tables event.pk payload.email with
            | true => simp
            | false =>
              cases ran : (createRegistration py env event.pk payload).runOn tables with
              | mk result after => cases result <;> simp [attempt, ran, createdAnswer]
  · simp [receive, registerView, posted]

/-! ## The property and its condition -/

def emailsOf (eventPk : Nat) (tables : RegistrationTables) : List String :=
  (tables.participants.filter (·.eventPk = eventPk)).map (·.email)

def RegistrationTables.insert (tables : RegistrationTables) (row : ParticipantRow) : RegistrationTables :=
  { tables with participants := tables.participants ++ [row] }

/-- No two participants of the event have the same e-mail. -/
def DistinctEmails (eventPk : Nat) (tables : RegistrationTables) : Prop := (emailsOf eventPk tables).Nodup

/-- Two requests with one e-mail and two names, of which each can still create its participant. -/
structure Rivals (py : PyValues) (tables : RegistrationTables) (eventPk : Nat) (env env' : RegistrationEnv)
    (payload payload' : RegistrationPayload) : Prop where
  email : payload.email = payload'.email
  names : payload.displayName ≠ payload'.displayName
  keys : env.participantPk ≠ env'.participantPk
  first : Creatable py env tables eventPk payload
  second : Creatable py env' tables eventPk payload'

/-- Request `i` is about to find its e-mail new, while a rival has found the same and has not yet
    created its participant. -/
def PassesBeside (py : PyValues) (eventPk : Nat) (s : RegistrationSystem) (i : Nat) : Prop :=
  ∃ process payload, s.processes[i]? = some process ∧ process.pc = .findDuplicate eventPk payload ∧
    process.env.fails .findDuplicate = false ∧ isRegistered s.tables eventPk payload.email = false ∧
    ∃ other ∈ s.processes, ∃ payload', other.pc = .createParticipant eventPk payload' ∧
      Rivals py s.tables eventPk process.env other.env payload payload'

/-! The condition can be computed. -/

instance distinctEmailsDecidable : Decidable (DistinctEmails eventPk tables) :=
  inferInstanceAs (Decidable (emailsOf eventPk tables).Nodup)

instance creatableDecidable : Decidable (Creatable py env tables eventPk payload) :=
  decidable_of_iff (env.fails .createParticipant = false ∧ fitsColumns py (participantRow env eventPk payload) = true ∧
      uniqueParticipant tables.participants (participantRow env eventPk payload) = true)
    ⟨fun ⟨creates, fits, unique⟩ => ⟨creates, fits, unique⟩,
      fun creatable => ⟨creatable.creates, creatable.fits, creatable.unique⟩⟩

instance rivalsDecidable {env' : RegistrationEnv} {payload' : RegistrationPayload} :
    Decidable (Rivals py tables eventPk env env' payload payload') :=
  decidable_of_iff (payload.email = payload'.email ∧ payload.displayName ≠ payload'.displayName ∧
      env.participantPk ≠ env'.participantPk ∧ Creatable py env tables eventPk payload ∧
      Creatable py env' tables eventPk payload')
    ⟨fun ⟨email, names, keys, first, second⟩ => ⟨email, names, keys, first, second⟩,
      fun rivals => ⟨rivals.email, rivals.names, rivals.keys, rivals.first, rivals.second⟩⟩

def RegistrationPc.checking (eventPk : Nat) : RegistrationPc → Option RegistrationPayload
  | .findDuplicate pk payload => if pk = eventPk then some payload else none
  | _ => none

def RegistrationPc.creating (eventPk : Nat) : RegistrationPc → Option RegistrationPayload
  | .createParticipant pk payload => if pk = eventPk then some payload else none
  | _ => none

theorem checking_eq_some : pc.checking eventPk = some payload ↔ pc = .findDuplicate eventPk payload := by
  cases pc <;> simp [RegistrationPc.checking]

theorem creating_eq_some : pc.creating eventPk = some payload ↔ pc = .createParticipant eventPk payload := by
  cases pc <;> simp [RegistrationPc.creating]

instance passesBesideDecidable {s : RegistrationSystem} {i : Nat} : Decidable (PassesBeside py eventPk s i) :=
  decidable_of_iff (∃ process ∈ s.processes[i]?, ∃ payload ∈ process.pc.checking eventPk,
      process.env.fails .findDuplicate = false ∧ isRegistered s.tables eventPk payload.email = false ∧
      ∃ other ∈ s.processes, ∃ payload' ∈ other.pc.creating eventPk,
        Rivals py s.tables eventPk process.env other.env payload payload') (by
    simp only [Option.mem_def, checking_eq_some, creating_eq_some, PassesBeside, exists_and_left])

theorem Rivals.symm {env' : RegistrationEnv} {payload' : RegistrationPayload}
    (rivals : Rivals py tables eventPk env env' payload payload') :
    Rivals py tables eventPk env' env payload' payload where
  email := rivals.email.symm
  names := rivals.names.symm
  keys := rivals.keys.symm
  first := rivals.second
  second := rivals.first

theorem isRegistered_iff {email : String} : isRegistered tables eventPk email = true ↔ email ∈ emailsOf eventPk tables := by
  simp only [isRegistered, emailsOf, List.any_eq_true, List.mem_map, List.mem_filter, decide_eq_true_eq]
  grind

theorem emailsOf_insert (row : ParticipantRow) :
    emailsOf eventPk (tables.insert row) =
      emailsOf eventPk tables ++ if row.eventPk = eventPk then [row.email] else [] := by
  by_cases same : row.eventPk = eventPk <;> simp [emailsOf, RegistrationTables.insert, same]

/-- What can be created later can be created now. -/
theorem Creatable.before {row : ParticipantRow}
    (creatable : Creatable py env (tables.insert row) eventPk payload) :
    Creatable py env tables eventPk payload where
  creates := creatable.creates
  fits := creatable.fits
  unique := by
    have unique := creatable.unique
    simp only [uniqueParticipant, RegistrationTables.insert, List.all_append, Bool.and_eq_true] at unique
    exact unique.1

/-- The constraints keep a participant apart from the one that was created last. -/
theorem Creatable.apart {row : ParticipantRow}
    (creatable : Creatable py env (tables.insert row) eventPk payload) :
    row.pk ≠ env.participantPk ∧ (row.eventPk = eventPk → row.displayName ≠ payload.displayName) := by
  have unique := creatable.unique
  simp only [uniqueParticipant, RegistrationTables.insert, List.all_append, Bool.and_eq_true, List.all_cons] at unique
  simpa [participantRow, imp_iff_not_or] using unique.2

/-! ## One statement -/

/-- The participant has been created, or the request is answered. -/
def RegistrationPc.Past : RegistrationPc → Prop
  | .findEvent | .findDuplicate _ _ | .createParticipant _ _ => False
  | .assignTags _ _ | .createToken _ _ | .sendEmail _ _ _ | .answered _ => True

/-- What a statement comes to. -/
inductive Moves (py : PyValues) (env : RegistrationEnv) (request : RegistrationRequest) (tables : RegistrationTables) :
    RegistrationPc → RegistrationPc × RegistrationTables → Prop
  | received {event : EventRow} {payload : RegistrationPayload} (posted : request.method = "POST")
      (looked : env.fails .findEvent = false) (found : findEvent tables request = some event)
      (valid : readPayload py (some event) request.body = .ok payload) :
      Moves py env request tables .findEvent (.findDuplicate event.pk payload, tables)
  | passed {eventPk : Nat} {payload : RegistrationPayload} (searched : env.fails .findDuplicate = false)
      (unregistered : isRegistered tables eventPk payload.email = false) :
      Moves py env request tables (.findDuplicate eventPk payload) (.createParticipant eventPk payload, tables)
  | created {eventPk : Nat} {payload : RegistrationPayload} (creatable : Creatable py env tables eventPk payload) :
      Moves py env request tables (.createParticipant eventPk payload)
        (.assignTags payload (participantRow env eventPk payload),
          tables.insert (participantRow env eventPk payload))
  | later {pc next : RegistrationPc} {after : RegistrationTables} (past : next.Past)
      (participants : after.participants = tables.participants) (events : after.events = tables.events) :
      Moves py env request tables pc (next, after)

theorem Moves.attempt {α : Type} {x : RegistrationDb α} {next : α → RegistrationPc} (past : ∀ a, (next a).Past)
    (keeps : Db.Keeps (fun t => t.participants = tables.participants ∧ t.events = tables.events) x) :
    Moves py env request tables pc (Registration.attempt x next tables) := by
  have kept := keeps tables ⟨rfl, rfl⟩
  simp only [Registration.attempt]
  cases ran : x.runOn tables with
  | mk result after =>
    rw [ran] at kept
    cases result with
    | ok a => exact .later (past a) kept.1 kept.2
    | error cause => exact .later trivial kept.1 kept.2

theorem receive_moves : Moves py env request tables .findEvent (receive py env request tables, tables) := by
  simp only [receive]
  split
  · exact .later trivial rfl rfl
  next posted =>
    split
    · exact .later trivial rfl rfl
    · split
      · exact .later trivial rfl rfl
      next looked =>
        split
        · exact .later trivial rfl rfl
        next payload valid =>
          split
          · exact .later trivial rfl rfl
          next event found =>
            rw [found] at valid
            have given : request.eventId.isSome = true := by
              cases eventId : request.eventId with
              | none => simp [findEvent, eventId] at found
              | some _ => rfl
            exact .received (by simpa using posted) (by simpa [given] using looked) found valid

theorem execute_moves (py : PyValues) (env : RegistrationEnv) (request : RegistrationRequest) (tables : RegistrationTables)
    (pc : RegistrationPc) : Moves py env request tables pc (pc.execute py env request tables) := by
  cases pc with
  | findEvent => exact receive_moves
  -- the check passes, and the row is inserted by a later statement
  | findDuplicate eventPk payload =>
    simp only [RegistrationPc.execute]
    split
    · exact .later trivial rfl rfl
    next searched =>
      split
      · exact .later trivial rfl rfl
      next unregistered => exact .passed (by simpa using searched) (by simpa using unregistered)
  | createParticipant eventPk payload =>
    simp only [RegistrationPc.execute, attempt]
    cases runOn_createParticipant py env eventPk payload tables with
    | inl created =>
      rw [created.1]
      exact .created created.2
    | inr refused =>
      obtain ⟨cause, ran, -⟩ := refused
      rw [ran]
      exact .later trivial rfl rfl
  | assignTags payload participant => exact .attempt (fun _ => trivial) (keeps_assignTags fun _ _ kept => kept)
  | createToken payload participant => exact .attempt (fun _ => trivial) (keeps_createToken fun _ _ kept => kept)
  | sendEmail payload participant token =>
    exact .attempt (fun _ => trivial) (keeps_sendVerificationEmail fun _ _ kept => kept)
  | answered response => exact .later trivial rfl rfl

/-! ## The invariant -/

/-- Two processes are rivals, and each has found its e-mail new. -/
def Clash (py : PyValues) (eventPk : Nat) (tables : RegistrationTables) (process other : RegistrationProcess) : Prop :=
  ∃ payload payload', process.pc = .createParticipant eventPk payload ∧ other.pc = .createParticipant eventPk payload' ∧
    Rivals py tables eventPk process.env other.env payload payload'

theorem Clash.symm {process other : RegistrationProcess} (clash : Clash py eventPk tables process other) :
    Clash py eventPk tables other process := by
  obtain ⟨payload, payload', here, there, rivals⟩ := clash
  exact ⟨payload', payload, there, here, rivals.symm⟩

/-- The process can create its participant only while the e-mail is new. -/
def CreatesNew (py : PyValues) (eventPk : Nat) (tables : RegistrationTables) (process : RegistrationProcess) : Prop :=
  ∀ payload, process.pc = .createParticipant eventPk payload → Creatable py process.env tables eventPk payload →
    payload.email ∉ emailsOf eventPk tables

structure EmailInv (py : PyValues) (eventPk : Nat) (s : RegistrationSystem) : Prop where
  distinct : DistinctEmails eventPk s.tables
  new : ∀ (j : Nat) process, s.processes[j]? = some process → CreatesNew py eventPk s.tables process
  apart : MutualExclusion (Clash py eventPk s.tables) s.processes

variable {s : RegistrationSystem} {i : Nat} {process : RegistrationProcess}

theorem EmailInv.start (requests : List (RegistrationEnv × RegistrationRequest))
    (before : DistinctEmails eventPk tables) : EmailInv py eventPk (.start tables requests) := by
  have waiting : ∀ (j : Nat) process, (RegistrationSystem.start tables requests).processes[j]? = some process →
      process.pc = .findEvent := by
    intro j process found
    simp only [RegistrationSystem.start, List.getElem?_map, Option.map_eq_some_iff] at found
    obtain ⟨call, -, rfl⟩ := found
    rfl
  refine ⟨before, fun j process found payload here => ?_, fun i j process other found _ clash => ?_⟩
  · rw [waiting j process found] at here
    cases here
  · obtain ⟨payload, _, here, _⟩ := clash
    rw [waiting i process found] at here
    cases here

/-- Who could create a participant later could do so before: the rivals were rivals before. -/
theorem MutualExclusion.earlier (exclusive : MutualExclusion (Clash py eventPk tables) s.processes)
    (earlier : ∀ {env payload}, Creatable py env after eventPk payload → Creatable py env tables eventPk payload)
    (idle : ∀ payload, next ≠ .createParticipant eventPk payload) :
    MutualExclusion (Clash py eventPk after) (s.processes.set i { process with pc := next }) := by
  have weaker : MutualExclusion (Clash py eventPk after) s.processes := by
    apply exclusive.mono
    intro a b clash
    obtain ⟨payload, payload', here, there, rivals⟩ := clash
    exact ⟨payload, payload', here, there, rivals.email, rivals.names, rivals.keys, earlier rivals.first,
      earlier rivals.second⟩
  apply weaker.set fun _ _ => Clash.symm
  intro j other _ _ clash
  obtain ⟨payload, _, here, _⟩ := clash
  exact idle payload here

/-- A statement that creates nothing for the event, and does not lead to the creation. -/
theorem EmailInv.quiet (inv : EmailInv py eventPk s) (emails : emailsOf eventPk after = emailsOf eventPk s.tables)
    (earlier : ∀ {env payload}, Creatable py env after eventPk payload → Creatable py env s.tables eventPk payload)
    (idle : ∀ payload, next ≠ .createParticipant eventPk payload) :
    EmailInv py eventPk ⟨after, s.processes.set i { process with pc := next }⟩ where
  distinct := by
    rw [DistinctEmails, emails]
    exact inv.distinct
  new := by
    intro j other found payload here creatable
    rw [emails]
    cases getElem?_of_set found with
    | inl mine =>
      obtain ⟨-, rfl⟩ := mine
      exact absurd here (idle payload)
    | inr theirs => exact inv.new j other theirs.2 payload here (earlier creatable)
  apart := MutualExclusion.earlier inv.apart earlier idle

/-- A request finds its e-mail new, and no rival has done so. -/
theorem EmailInv.pass (inv : EmailInv py eventPk s) (found : s.processes[i]? = some process)
    (here : process.pc = .findDuplicate eventPk payload) (searched : process.env.fails .findDuplicate = false)
    (unregistered : isRegistered s.tables eventPk payload.email = false) (good : ¬ PassesBeside py eventPk s i) :
    EmailInv py eventPk ⟨s.tables, s.processes.set i { process with pc := .createParticipant eventPk payload }⟩ where
  distinct := inv.distinct
  new := by
    intro j other found' payload' there creatable
    cases getElem?_of_set found' with
    | inl mine =>
      obtain ⟨-, rfl⟩ := mine
      cases there
      rw [← isRegistered_iff, unregistered]
      exact Bool.false_ne_true
    | inr theirs => exact inv.new j other theirs.2 payload' there creatable
  apart := by
    apply inv.apart.set fun _ _ => Clash.symm
    intro j other found' _ clash
    obtain ⟨_, payload', mine, there, rivals⟩ := clash
    cases mine
    exact good ⟨process, payload, found, here, searched, unregistered, other, List.mem_of_getElem? found', payload',
      there, rivals⟩

/-- The participant is created: its e-mail was new, and every rival would have clashed. -/
theorem EmailInv.create (inv : EmailInv py eventPk s) (found : s.processes[i]? = some process)
    (here : process.pc = .createParticipant eventPk payload)
    (creatable : Creatable py process.env s.tables eventPk payload) (past : next.Past) :
    EmailInv py eventPk
      ⟨s.tables.insert (participantRow process.env eventPk payload),
        s.processes.set i { process with pc := next }⟩ := by
  have emails : emailsOf eventPk (s.tables.insert (participantRow process.env eventPk payload)) =
      emailsOf eventPk s.tables ++ [payload.email] := by
    simp [emailsOf_insert, participantRow]
  have new := inv.new i process found payload here creatable
  have idle : ∀ payload, next ≠ .createParticipant eventPk payload := by
    rintro payload rfl
    exact past
  refine ⟨?_, ?_, MutualExclusion.earlier inv.apart Creatable.before idle⟩
  · rw [DistinctEmails, emails]
    apply List.Nodup.append inv.distinct (List.nodup_singleton _)
    simpa using new
  · intro j other found' payload' there creatable'
    cases getElem?_of_set found' with
    | inl mine =>
      obtain ⟨-, rfl⟩ := mine
      exact absurd there (idle payload')
    | inr theirs =>
      obtain ⟨different, found'⟩ := theirs
      rw [emails, List.mem_append, List.mem_singleton, not_or]
      refine ⟨inv.new j other found' payload' there creatable'.before, fun same => ?_⟩
      -- with the same e-mail it would be a rival, which the invariant excludes
      have keys := creatable'.apart.1
      have names := creatable'.apart.2 rfl
      exact different (inv.apart i j process other found found' ⟨payload, payload', here, there, same.symm, names, keys,
        creatable, creatable'.before⟩).symm

theorem EmailInv.step (inv : EmailInv py eventPk s) (good : ¬ PassesBeside py eventPk s i) :
    EmailInv py eventPk (s.step py i) := by
  simp only [RegistrationSystem.step]
  split
  · exact inv
  next process found =>
    have moves := execute_moves py process.env process.request s.tables process.pc
    generalize here : process.pc = pc at moves ⊢
    generalize pc.execute py process.env process.request s.tables = result at moves
    cases moves with
    | received posted looked event valid =>
      exact inv.quiet rfl id fun _ same => nomatch same
    | @passed passedPk payload searched unregistered =>
      by_cases same : passedPk = eventPk
      · subst same
        exact inv.pass found here searched unregistered good
      -- the check was for another event
      · apply inv.quiet rfl id
        rintro payload same'
        cases same'
        exact same rfl
    | @created createdPk payload creatable =>
      by_cases same : createdPk = eventPk
      · subst same
        exact inv.create found here creatable trivial
      · apply inv.quiet
        -- a participant of another event has no e-mail here
        · rw [emailsOf_insert, if_neg (by simpa [participantRow] using same), List.append_nil]
        · exact Creatable.before
        · exact fun _ other => nomatch other
    | later past participants events =>
      apply inv.quiet
      · simp [emailsOf, participants]
      · intro env payload creatable
        exact ⟨creatable.creates, creatable.fits, participants ▸ creatable.unique⟩
      · rintro payload rfl
        exact past

theorem emailInv_run (requests : List (RegistrationEnv × RegistrationRequest)) (schedule : List Nat)
    (before : DistinctEmails eventPk tables)
    (good : ∀ v ∈ visited (RegistrationSystem.step py) (.start tables requests) schedule, ¬ PassesBeside py eventPk v.1 v.2) :
    EmailInv py eventPk (schedule.foldl (RegistrationSystem.step py) (.start tables requests)) := by
  have keeps : ∀ (s : RegistrationSystem) (i : Nat), EmailInv py eventPk s → ¬ PassesBeside py eventPk s i →
      EmailInv py eventPk (s.step py i) := fun s i inv good => inv.step good
  exact foldl_invariant keeps (EmailInv.start requests before) good

/-- In every run in which no request finds its e-mail new beside a rival, the e-mails stay distinct.
    A request that runs alone is `register_view`. -/
theorem distinctEmails_run (py : PyValues) (requests : List (RegistrationEnv × RegistrationRequest)) (schedule : List Nat)
    (before : DistinctEmails eventPk tables)
    (good : ∀ v ∈ visited (RegistrationSystem.step py) (.start tables requests) schedule, ¬ PassesBeside py eventPk v.1 v.2) :
    (∀ n, DistinctEmails eventPk (stateAt (RegistrationSystem.step py) (.start tables requests) schedule n).tables) ∧
      ∀ call ∈ requests, ∀ tables, (executeAlone py call.1 call.2)^[6] (.findEvent, tables) =
        (.answered (registerView py call.1 call.2 tables).1, (registerView py call.1 call.2 tables).2) := by
  refine ⟨fun n => ?_, fun call _ => executeAlone_registerView py call.1 call.2⟩
  exact (emailInv_run requests (schedule.take n) before fun v member => good v (mem_visited_of_take member)).distinct

/-- A request as the form of the event posts it. -/
def personRequest (displayName : String) : RegistrationRequest where
  method := "POST"
  eventId := some 7
  body := .json (.dict [("display_name", .str displayName), ("email", .str "ann@example.org")])

def otherEnv : RegistrationEnv := ⟨2, "other token", 0, fun _ => false⟩

/-- Both requests find the e-mail new; the second one fails at the constraint on the names. -/
theorem distinctEmails_doubleClick : DistinctEmails 7 (stateAt (RegistrationSystem.step plainValues)
    (.start openEvent [(calmEnv, personRequest "Ann"), (otherEnv, personRequest "Ann")]) [0, 0, 1, 1, 0, 1] 6).tables :=
  (distinctEmails_run plainValues _ _ (by decide) (by decide +kernel)).1 6

/-- Under two names, both participants are created. -/
theorem duplicateEmails_twoNames : DistinctEmails 7 openEvent ∧ ¬ DistinctEmails 7
    ([0, 0, 1, 1, 0, 1].foldl (RegistrationSystem.step plainValues)
      (.start openEvent [(calmEnv, personRequest "Ann"), (otherEnv, personRequest "Anna")])).tables := by
  decide +kernel

/-! ## Rivals break the rule -/

theorem step_eq {after : RegistrationTables} (found : s.processes[i]? = some process)
    (executed : process.pc.execute py process.env process.request s.tables = (next, after)) :
    s.step py i = ⟨after, s.processes.set i { process with pc := next }⟩ := by
  simp [RegistrationSystem.step, found, executed]

theorem execute_createParticipant (creatable : Creatable py env tables eventPk payload) :
    (RegistrationPc.createParticipant eventPk payload).execute py env request tables =
      (.assignTags payload (participantRow env eventPk payload),
        tables.insert (participantRow env eventPk payload)) := by
  simp only [RegistrationPc.execute, attempt]
  cases runOn_createParticipant py env eventPk payload tables with
  | inl created => rw [created.1]; rfl
  | inr refused =>
    obtain ⟨_, -, blocked⟩ := refused
    exact absurd creatable blocked

theorem step_findDuplicate (py : PyValues) (found : s.processes[i]? = some process)
    (here : process.pc = .findDuplicate eventPk payload) (searched : process.env.fails .findDuplicate = false)
    (unregistered : isRegistered s.tables eventPk payload.email = false) :
    s.step py i = ⟨s.tables, s.processes.set i { process with pc := .createParticipant eventPk payload }⟩ :=
  step_eq found (by simp [here, RegistrationPc.execute, searched, unregistered])

theorem step_createParticipant (found : s.processes[i]? = some process)
    (here : process.pc = .createParticipant eventPk payload)
    (creatable : Creatable py process.env s.tables eventPk payload) :
    s.step py i = ⟨s.tables.insert (participantRow process.env eventPk payload), s.processes.set i
      { process with pc := .assignTags payload (participantRow process.env eventPk payload) }⟩ :=
  step_eq found (by rw [here, execute_createParticipant creatable])

/-- A rival can still create its participant after the other one has. -/
theorem Rivals.creatable {env' : RegistrationEnv} {payload' : RegistrationPayload}
    (rivals : Rivals py tables eventPk env env' payload payload') :
    Creatable py env' (tables.insert (participantRow env eventPk payload)) eventPk payload' where
  creates := rivals.second.creates
  fits := rivals.second.fits
  unique := by
    have unique := rivals.second.unique
    have keys := rivals.keys
    have names := rivals.names
    simp only [uniqueParticipant, RegistrationTables.insert, List.all_append, Bool.and_eq_true] at unique ⊢
    exact ⟨unique, by simp [participantRow, keys, names]⟩

/-- What the condition excludes does break the rule, when the two requests go on. -/
theorem PassesBeside.breaks (passes : PassesBeside py eventPk s i) :
    ∃ j, ¬ DistinctEmails eventPk ([i, i, j].foldl (RegistrationSystem.step py) s).tables := by
  obtain ⟨process, payload, found, here, searched, unregistered, other, member, payload', there, rivals⟩ := passes
  obtain ⟨j, found'⟩ := List.mem_iff_getElem?.mp member
  have different : i ≠ j := by
    rintro rfl
    rw [found] at found'
    cases found'
    rw [here] at there
    cases there
  refine ⟨j, ?_⟩
  -- after its check, request `i` inserts, and then the rival does
  have passed := step_findDuplicate py found here searched unregistered
  have found₁ : (s.step py i).processes[i]? = some { process with pc := .createParticipant eventPk payload } := by
    rw [passed]
    exact List.getElem?_set_self (List.getElem?_eq_some_iff.mp found).choose
  have creatable : Creatable py process.env (s.step py i).tables eventPk payload := by
    rw [passed]
    exact rivals.first
  have created := step_createParticipant found₁ rfl creatable
  have found₂ : ((s.step py i).step py i).processes[j]? = some other := by
    rw [created, List.getElem?_set_ne different, passed, List.getElem?_set_ne different]
    exact found'
  have creatable' : Creatable py other.env ((s.step py i).step py i).tables eventPk payload' := by
    rw [created, passed]
    exact rivals.creatable
  have doubled := step_createParticipant found₂ there creatable'
  have rows : ([i, i, j].foldl (RegistrationSystem.step py) s).tables =
      (s.tables.insert (participantRow process.env eventPk payload)).insert
        (participantRow other.env eventPk payload') := by
    simp only [List.foldl_cons, List.foldl_nil]
    rw [doubled, created, passed]
  rw [DistinctEmails, rows, emailsOf_insert, emailsOf_insert]
  simp [participantRow, rivals.email, List.nodup_append]

/-! ## Which requests can be rivals -/

/-- Both requests are valid and new, and they are rivals. -/
def AdmittedRivals (py : PyValues) (tables : RegistrationTables) (eventPk : Nat)
    (call call' : RegistrationEnv × RegistrationRequest) : Prop :=
  ∃ event event' payload payload', event.pk = eventPk ∧ event'.pk = eventPk ∧
    Admitted py call.1 call.2 tables event payload ∧ Admitted py call'.1 call'.2 tables event' payload' ∧
    Rivals py tables eventPk call.1 call'.1 payload payload'

/-- The request has been read as these data. -/
def Validated (py : PyValues) (tables : RegistrationTables) (process : RegistrationProcess) (eventPk : Nat)
    (payload : RegistrationPayload) : Prop :=
  ∃ event, event.pk = eventPk ∧ process.request.method = "POST" ∧ process.env.fails .findEvent = false ∧
    findEvent tables process.request = some event ∧ readPayload py (some event) process.request.body = .ok payload

/-- What is known of a process from where it stands. -/
def Underway (py : PyValues) (tables : RegistrationTables) (process : RegistrationProcess) : Prop :=
  match process.pc with
  | .findDuplicate eventPk payload => Validated py tables process eventPk payload
  | .createParticipant eventPk payload => Validated py tables process eventPk payload ∧
      process.env.fails .findDuplicate = false ∧ isRegistered tables eventPk payload.email = false
  | _ => True

/-- The rows at the start are there still, and each process is one of the requests. -/
structure RunInv (py : PyValues) (tables : RegistrationTables) (requests : List (RegistrationEnv × RegistrationRequest))
    (s : RegistrationSystem) : Prop where
  events : s.tables.events = tables.events
  participants : tables.participants ⊆ s.tables.participants
  calls : ∀ process ∈ s.processes, (process.env, process.request) ∈ requests ∧ Underway py tables process

variable {requests : List (RegistrationEnv × RegistrationRequest)}

theorem RunInv.unregistered {email : String} (inv : RunInv py tables requests s)
    (unregistered : isRegistered s.tables eventPk email = false) : isRegistered tables eventPk email = false := by
  simp only [isRegistered, List.any_eq_false] at unregistered ⊢
  exact fun participant member => unregistered participant (inv.participants member)

theorem RunInv.creatable (inv : RunInv py tables requests s) (creatable : Creatable py env s.tables eventPk payload) :
    Creatable py env tables eventPk payload where
  creates := creatable.creates
  fits := creatable.fits
  unique := by
    have unique := creatable.unique
    simp only [uniqueParticipant, List.all_eq_true] at unique ⊢
    exact fun participant member => unique participant (inv.participants member)

theorem RunInv.admitted (inv : RunInv py tables requests s) (valid : Validated py tables process eventPk payload)
    (searched : process.env.fails .findDuplicate = false) (unregistered : isRegistered tables eventPk payload.email = false)
    (creatable : Creatable py process.env s.tables eventPk payload) :
    ∃ event, event.pk = eventPk ∧ Admitted py process.env process.request tables event payload := by
  obtain ⟨event, rfl, posted, looked, found, valid⟩ := valid
  exact ⟨event, rfl, posted, ⟨looked, searched⟩, found, valid, unregistered, inv.creatable creatable⟩

theorem RunInv.rivals (inv : RunInv py tables requests s) (passes : PassesBeside py eventPk s i) :
    ∃ call ∈ requests, ∃ call' ∈ requests, AdmittedRivals py tables eventPk call call' := by
  obtain ⟨process, payload, found, here, searched, unregistered, other, member, payload', there, rivals⟩ := passes
  obtain ⟨called, underway⟩ := inv.calls process (List.mem_of_getElem? found)
  obtain ⟨called', underway'⟩ := inv.calls other member
  simp only [Underway, here] at underway
  simp only [Underway, there] at underway'
  obtain ⟨event, pk, admitted⟩ := inv.admitted underway searched (inv.unregistered unregistered) rivals.first
  obtain ⟨valid', searched', unregistered'⟩ := underway'
  obtain ⟨event', pk', admitted'⟩ := inv.admitted valid' searched' unregistered' rivals.second
  exact ⟨_, called, _, called', event, event', payload, payload', pk, pk', admitted, admitted', rivals.email, rivals.names,
    rivals.keys, inv.creatable rivals.first, inv.creatable rivals.second⟩

theorem RunInv.start : RunInv py tables requests (.start tables requests) where
  events := rfl
  participants := List.Subset.refl _
  calls := by
    intro process member
    simp only [RegistrationSystem.start, List.mem_map] at member
    obtain ⟨call, called, rfl⟩ := member
    exact ⟨called, trivial⟩

/-- A process goes on, while the rows of the start stay. -/
theorem RunInv.set (inv : RunInv py tables requests s) (found : s.processes[i]? = some process)
    (events : after.events = s.tables.events) (participants : s.tables.participants ⊆ after.participants)
    (underway : Underway py tables { process with pc := next }) :
    RunInv py tables requests ⟨after, s.processes.set i { process with pc := next }⟩ where
  events := events.trans inv.events
  participants := List.Subset.trans inv.participants participants
  calls := by
    intro other member
    cases List.mem_or_eq_of_mem_set member with
    | inl earlier => exact inv.calls other earlier
    | inr mine =>
      subst mine
      exact ⟨(inv.calls process (List.mem_of_getElem? found)).1, underway⟩

theorem RunInv.step (inv : RunInv py tables requests s) : RunInv py tables requests (s.step py i) := by
  simp only [RegistrationSystem.step]
  split
  · exact inv
  next process found =>
    have moves := execute_moves py process.env process.request s.tables process.pc
    have known := (inv.calls process (List.mem_of_getElem? found)).2
    simp only [Underway] at known
    generalize process.pc = pc at moves known ⊢
    generalize pc.execute py process.env process.request s.tables = result at moves
    cases moves with
    | @received event payload posted looked event_ valid =>
      have here : findEvent tables process.request = some event := by
        rwa [findEvent, ← inv.events]
      exact inv.set found rfl (List.Subset.refl _) ⟨event, rfl, posted, looked, here, valid⟩
    | passed searched unregistered =>
      exact inv.set found rfl (List.Subset.refl _) ⟨known, searched, inv.unregistered unregistered⟩
    | created creatable => exact inv.set found rfl (List.subset_append_left _ _) trivial
    | @later _ next after past participants events =>
      apply inv.set found events (by rw [participants]; exact List.Subset.refl _)
      cases next <;> trivial

theorem step_findEvent {s : RegistrationSystem} (found : s.processes[i]? = some process) (here : process.pc = .findEvent)
    (admitted : Admitted py process.env process.request s.tables event payload) :
    s.step py i = ⟨s.tables, s.processes.set i { process with pc := .findDuplicate event.pk payload }⟩ := by
  apply step_eq found
  simp [here, RegistrationPc.execute, receive, admitted.posted, isRateLimited, admitted.reads.1, admitted.found,
    admitted.valid]

/-- Two rivals can pass their checks one beside the other. -/
theorem AdmittedRivals.passBeside {call call' : RegistrationEnv × RegistrationRequest} (called : call ∈ requests)
    (called' : call' ∈ requests) (rivals : AdmittedRivals py tables eventPk call call') :
    ∃ i j, PassesBeside py eventPk ([j, j, i].foldl (RegistrationSystem.step py) (.start tables requests)) i := by
  obtain ⟨event, event', payload, payload', here, there, admitted, admitted', rivals⟩ := rivals
  obtain ⟨i, here'⟩ := List.mem_iff_getElem?.mp called
  obtain ⟨j, there'⟩ := List.mem_iff_getElem?.mp called'
  have different : j ≠ i := by
    rintro rfl
    rw [here'] at there'
    cases there'
    exact rivals.keys rfl
  let s := RegistrationSystem.start tables requests
  have found : s.processes[i]? = some (.begin call.1 call.2) := by
    simp [s, RegistrationSystem.start, here']
  have found' : s.processes[j]? = some (.begin call'.1 call'.2) := by
    simp [s, RegistrationSystem.start, there']
  have bound : j < s.processes.length := (List.getElem?_eq_some_iff.mp found').choose
  -- the rival is read and checked, then the request is read
  have read := step_findEvent found' rfl admitted'
  have found₁ : (s.step py j).processes[j]? =
      some { RegistrationProcess.begin call'.1 call'.2 with pc := .findDuplicate event'.pk payload' } := by
    rw [read]
    exact List.getElem?_set_self bound
  have passed := step_findDuplicate py found₁ rfl admitted'.reads.2 (by rw [read]; exact admitted'.unregistered)
  have found₂ : ((s.step py j).step py j).processes[i]? = some (.begin call.1 call.2) := by
    rw [passed, List.getElem?_set_ne different, read, List.getElem?_set_ne different]
    exact found
  have same : ((s.step py j).step py j).tables = tables := by
    rw [passed, read]
    rfl
  have read' := step_findEvent found₂ rfl (same.symm ▸ admitted)
  have found₃ : (((s.step py j).step py j).step py i).processes[i]? =
      some { RegistrationProcess.begin call.1 call.2 with pc := .findDuplicate event.pk payload } := by
    rw [read']
    exact List.getElem?_set_self (List.getElem?_eq_some_iff.mp found₂).choose
  have found₃' : (((s.step py j).step py j).step py i).processes[j]? =
      some { RegistrationProcess.begin call'.1 call'.2 with pc := .createParticipant event'.pk payload' } := by
    rw [read', List.getElem?_set_ne different.symm, passed]
    exact List.getElem?_set_self (List.getElem?_eq_some_iff.mp found₁).choose
  have same' : (((s.step py j).step py j).step py i).tables = tables := by
    rw [read']
    exact same
  refine ⟨i, j, _, payload, found₃, by simp [here], admitted.reads.2, ?_, _, List.mem_of_getElem? found₃', payload',
    by simp [there], ?_⟩
  · rw [List.foldl_cons, List.foldl_cons, List.foldl_cons, List.foldl_nil, same', ← here]
    exact admitted.unregistered
  · rw [List.foldl_cons, List.foldl_cons, List.foldl_cons, List.foldl_nil, same']
    exact rivals

/-- The e-mails stay distinct in every order exactly when no two of the requests are rivals. -/
theorem interleavings_iff (py : PyValues) (before : DistinctEmails eventPk tables) :
    (∀ schedule : List Nat, DistinctEmails eventPk
      (schedule.foldl (RegistrationSystem.step py) (.start tables requests)).tables) ↔
      ∀ call ∈ requests, ∀ call' ∈ requests, ¬ AdmittedRivals py tables eventPk call call' := by
  constructor
  · intro distinct call called call' called' rivals
    obtain ⟨i, j, passes⟩ := rivals.passBeside called called'
    obtain ⟨k, breaks⟩ := passes.breaks
    rw [← List.foldl_append] at breaks
    exact breaks (distinct _)
  · intro apart schedule
    apply (emailInv_run requests schedule before _).distinct
    intro v member passes
    obtain ⟨past, _, _, reached⟩ := mem_visited.mp member
    have keeps : ∀ (s : RegistrationSystem) (i : Nat), RunInv py tables requests s → True →
      RunInv py tables requests (s.step py i) := fun s i inv _ => inv.step
    have inv : RunInv py tables requests v.1 := by
      rw [reached]
      exact foldl_preserves keeps RunInv.start fun _ _ => trivial
    obtain ⟨call, called, call', called', rivals⟩ := inv.rivals passes
    exact apart call called call' called' rivals

end EventPlatform.Registration
