import EventPlatform.Registration.Register

/-! # When a registration is atomic

A request that is refused leaves nothing behind.  A request that fails after its participant
has been created leaves the participant, and the next try is told that the e-mail is
registered already. -/

namespace EventPlatform.Registration

open EventPlatform.Lib EventPlatform.Protocol

/-! ## The property and its condition -/

structure SameRegistrations (tables after : RegistrationTables) : Prop where
  participants : after.participants = tables.participants
  participantTags : after.participantTags = tables.participantTags
  tokens : after.tokens = tables.tokens

/-- The e-mail of the request is registered for its event. -/
def Registered (py : PyValues) (request : RegistrationRequest) (tables : RegistrationTables) : Prop :=
  ∃ event payload, findEvent tables request = some event ∧
    readPayload py (some event) request.body = .ok payload ∧ isRegistered tables event.pk payload.email = true

/-- A response other than 201 leaves the rows as they were, and no retry is rejected as a
    duplicate of this request. -/
def RegistrationAtomic (py : PyValues) (env : RegistrationEnv) (request : RegistrationRequest)
    (tables : RegistrationTables) : Prop :=
  let (response, after) := registerView py env request tables
  response.status ≠ 201 → SameRegistrations tables after ∧
    (¬ Registered py request tables →
      ∀ retry, (registerView py retry request after).1.code ≠ some "duplicate_email")

/-- The columns fit, and no constraint is in the way. -/
structure Creatable (py : PyValues) (env : RegistrationEnv) (tables : RegistrationTables) (eventPk : Nat)
    (payload : RegistrationPayload) : Prop where
  creates : env.fails .createParticipant = false
  fits : fitsColumns py (participantRow env eventPk payload) = true
  unique : uniqueParticipant tables.participants (participantRow env eventPk payload) = true

/-- The request is valid and new, and its participant can be created. -/
structure Admitted (py : PyValues) (env : RegistrationEnv) (request : RegistrationRequest)
    (tables : RegistrationTables) (event : EventRow) (payload : RegistrationPayload) : Prop where
  posted : request.method = "POST"
  reads : env.fails .findEvent = false ∧ env.fails .findDuplicate = false
  found : findEvent tables request = some event
  valid : readPayload py (some event) request.body = .ok payload
  unregistered : isRegistered tables event.pk payload.email = false
  creatable : Creatable py env tables event.pk payload

/-- The tags can be looked up and assigned. -/
def TagsSucceed (py : PyValues) (env : RegistrationEnv) (payload : RegistrationPayload) : Prop :=
  truthy py.toPyNumbers payload.tagIds = true →
    (tagValues payload.tagIds).isSome = true ∧ env.fails .findTags = false ∧ env.fails .setTags = false

/-- No step after the creation of the participant fails. -/
structure StepsSucceed (py : PyValues) (env : RegistrationEnv) (tables : RegistrationTables)
    (payload : RegistrationPayload) : Prop where
  tags : TagsSucceed py env payload
  token : env.fails .createToken = false
  fresh : ∀ token ∈ tables.tokens, token.token ≠ env.rawToken
  email : env.fails .sendEmail = false

/-! ## Steps -/

variable {py : PyValues} {env : RegistrationEnv} {request : RegistrationRequest} {tables t t' : RegistrationTables}
  {event : EventRow} {payload : RegistrationPayload} {participant : ParticipantRow} {eventPk : Nat} {α : Type}

/-- The later steps create no participant and remove none. -/
def KeepsParticipants (x : RegistrationDb α) : Prop := ∀ t, (x.runOn t).2.participants = t.participants

theorem runStep_readOnly (env : RegistrationEnv) (step : RegistrationStep) : Db.ReadOnly (runStep env step) :=
  Db.ReadOnly.require _ _

theorem requireTagIds_readOnly (tagIds : Json) : Db.ReadOnly (requireTagIds tagIds) := by
  simp only [requireTagIds]
  split
  · exact Db.ReadOnly.throw _
  · exact Db.ReadOnly.pure _

theorem keeps_runStep {P : RegistrationTables → Prop} (step : RegistrationStep) : Db.Keeps P (runStep env step) :=
  (runStep_readOnly env step).keeps

theorem keeps_assignTags {P : RegistrationTables → Prop} (keeps : ∀ (t : RegistrationTables) (tags : List Nat), P t →
      P { t with participantTags := t.participantTags ++ tags.map fun tag => (participant.pk, tag) }) :
    Db.Keeps P (assignTags py env payload participant) := by
  simp only [assignTags]
  split
  · refine (requireTagIds_readOnly _).keeps.bind fun values => ?_
    refine (keeps_runStep .findTags).bind fun _ => ?_
    refine Db.ReadOnly.get.keeps.bind fun tables => ?_
    exact (keeps_runStep .setTags).bind fun _ t kept => keeps t _ kept
  · exact Db.Keeps.pure _

theorem keeps_createToken {P : RegistrationTables → Prop}
    (keeps : ∀ t token, P t → P { t with tokens := t.tokens ++ [token] }) : Db.Keeps P (createToken env participant) := by
  refine (keeps_runStep .createToken).bind fun _ => ?_
  refine Db.ReadOnly.get.keeps.bind fun tables => ?_
  refine (Db.ReadOnly.require _ _).keeps.bind fun _ => ?_
  exact Db.Keeps.bind (fun t kept => keeps t _ kept) fun _ => Db.Keeps.pure _

theorem keeps_sendVerificationEmail {P : RegistrationTables → Prop} {recipientEmail name token : String}
    (keeps : ∀ t email, P t → P { t with outbox := t.outbox ++ [email] }) :
    Db.Keeps P (sendVerificationEmail env recipientEmail name token) :=
  (keeps_runStep .sendEmail).bind fun _ t kept => keeps t _ kept

/-- Unless the participant is created, nothing is. -/
theorem runOn_createParticipant (py : PyValues) (env : RegistrationEnv) (eventPk : Nat) (payload : RegistrationPayload)
    (t : RegistrationTables) :
    ((createParticipant py env eventPk payload).runOn t = (.ok (participantRow env eventPk payload),
        { t with participants := t.participants ++ [participantRow env eventPk payload] }) ∧
      Creatable py env t eventPk payload) ∨
    ∃ cause, (createParticipant py env eventPk payload).runOn t = (.error cause, t) ∧
      ¬ Creatable py env t eventPk payload := by
  by_cases creates : env.fails .createParticipant = true
  · have blocked : ¬ Creatable py env t eventPk payload := fun creatable => by simp [creatable.creates] at creates
    simp [createParticipant, runStep, Db.runOn_bind, creates, blocked]
  · by_cases fits : fitsColumns py (participantRow env eventPk payload) = true
    · by_cases unique : uniqueParticipant t.participants (participantRow env eventPk payload) = true
      · left
        refine ⟨?_, by simpa using creates, fits, unique⟩
        simp [createParticipant, runStep, Db.runOn_bind, Db.runOn_map, creates, fits, unique]
      · have blocked : ¬ Creatable py env t eventPk payload := fun creatable => unique creatable.unique
        simp [createParticipant, runStep, Db.runOn_bind, creates, fits, unique, blocked]
    · have blocked : ¬ Creatable py env t eventPk payload := fun creatable => fits creatable.fits
      simp [createParticipant, runStep, Db.runOn_bind, creates, fits, blocked]

/-! ## The steps after the participant -/

theorem runOn_assignTags (py : PyValues) (env : RegistrationEnv) (payload : RegistrationPayload)
    (participant : ParticipantRow) (t : RegistrationTables) :
    (∃ t', (assignTags py env payload participant).runOn t = (.ok (), t') ∧ t'.tokens = t.tokens ∧
      TagsSucceed py env payload) ∨
    ∃ cause t', (assignTags py env payload participant).runOn t = (.error cause, t') ∧ ¬ TagsSucceed py env payload := by
  simp only [assignTags, TagsSucceed]
  by_cases chosen : truthy py.toPyNumbers payload.tagIds = true
  · simp only [chosen, if_true, forall_const]
    cases values : tagValues payload.tagIds with
    | none => simp [requireTagIds, values]
    | some values' =>
      cases lookup : env.fails .findTags <;> cases assign : env.fails .setTags <;>
        simp [requireTagIds, values, runStep, Db.runOn_bind, lookup, assign]
  · simp [chosen]

theorem runOn_createToken (env : RegistrationEnv) (participant : ParticipantRow) (t : RegistrationTables) :
    (∃ token t', (createToken env participant).runOn t = (.ok token, t') ∧ env.fails .createToken = false ∧
      ∀ token ∈ t.tokens, token.token ≠ env.rawToken) ∨
    ∃ cause t', (createToken env participant).runOn t = (.error cause, t') ∧
      ¬ (env.fails .createToken = false ∧ ∀ token ∈ t.tokens, token.token ≠ env.rawToken) := by
  cases fails : env.fails .createToken with
  | true => simp [createToken, runStep, Db.runOn_bind, fails]
  | false =>
    by_cases fresh : ∀ token ∈ t.tokens, token.token ≠ env.rawToken
    · have unused : (t.tokens.all fun token => decide (token.token ≠ env.rawToken)) = true := by simpa using fresh
      left
      simp only [createToken, runStep, Db.runOn_bind, Db.runOn_require, fails, Bool.not_false, if_true,
        Db.runOn_get, unused]
      exact ⟨_, _, rfl, trivial, fresh⟩
    · have used : (t.tokens.all fun token => decide (token.token ≠ env.rawToken)) = false := by
        simpa using fresh
      right
      simp only [createToken, runStep, Db.runOn_bind, Db.runOn_require, fails, Bool.not_false, if_true,
        Db.runOn_get, used]
      exact ⟨_, _, rfl, fun all => fresh all.2⟩

theorem runOn_sendVerificationEmail (env : RegistrationEnv) (t : RegistrationTables)
    (recipientEmail name token : String) :
    (∃ t', (sendVerificationEmail env recipientEmail name token).runOn t = (.ok (), t') ∧
      env.fails .sendEmail = false) ∨
    ∃ cause t', (sendVerificationEmail env recipientEmail name token).runOn t = (.error cause, t') ∧
      env.fails .sendEmail = true := by
  cases fails : env.fails .sendEmail <;> simp [sendVerificationEmail, runStep, Db.runOn_bind, fails]

/-- The participant is kept whether or not the rest succeeds. -/
theorem runOn_completeRegistration (py : PyValues) (env : RegistrationEnv) (payload : RegistrationPayload)
    (participant : ParticipantRow) (t : RegistrationTables) :
    (∃ t', (completeRegistration py env payload participant).runOn t = (.ok participant, t') ∧
      StepsSucceed py env t payload) ∨
    ∃ cause t', (completeRegistration py env payload participant).runOn t = (.error cause, t') ∧
      t'.participants = t.participants ∧ ¬ StepsSucceed py env t payload := by
  -- none of the three steps writes to the participants, whichever of them fails
  have kept : KeepsParticipants (completeRegistration py env payload participant) := by
    intro t
    let Same : RegistrationTables → Prop := fun t' => t'.participants = t.participants
    have keeps : Db.Keeps Same (completeRegistration py env payload participant) :=
      (keeps_assignTags fun _ _ same => same).bind fun _ => (keeps_createToken fun _ _ same => same).bind fun _ =>
        (keeps_sendVerificationEmail fun _ _ same => same).bind fun _ => Db.Keeps.pure _
    exact keeps t rfl
  have raises : ∀ cause t', (completeRegistration py env payload participant).runOn t = (.error cause, t') →
      t'.participants = t.participants := by
    intro cause t' raised
    have same := kept t
    rw [raised] at same
    exact same
  cases runOn_assignTags py env payload participant t with
  | inr failed =>
    obtain ⟨cause, t', ran, fails⟩ := failed
    have raised : (completeRegistration py env payload participant).runOn t = (.error cause, t') :=
      Db.runOn_bind_error ran
    exact .inr ⟨cause, t', raised, raises _ _ raised, fun succeed => fails succeed.tags⟩
  | inl assigned =>
    obtain ⟨t₁, ran, tokens, tags⟩ := assigned
    have first := Db.runOn_bind_ok (f := fun _ => do
      let token ← createToken env participant
      sendVerificationEmail env payload.email participant.displayName token.token
      return participant) ran
    cases runOn_createToken env participant t₁ with
    | inr failed =>
      obtain ⟨cause, t', ran', fails⟩ := failed
      have raised : (completeRegistration py env payload participant).runOn t = (.error cause, t') :=
        first.trans (Db.runOn_bind_error ran')
      refine .inr ⟨cause, t', raised, raises _ _ raised, fun succeed => fails ⟨succeed.token, ?_⟩⟩
      rw [tokens]
      exact succeed.fresh
    | inl created =>
      obtain ⟨token, t₂, ran', creates, fresh⟩ := created
      rw [tokens] at fresh
      -- the tags do not touch the tokens, so that `fresh` speaks of the tables at the start
      have second := first.trans (Db.runOn_bind_ok ran')
      cases runOn_sendVerificationEmail env t₂ payload.email participant.displayName token.token with
      | inr failed =>
        obtain ⟨cause, t', ran'', fails⟩ := failed
        have raised : (completeRegistration py env payload participant).runOn t = (.error cause, t') :=
          second.trans (Db.runOn_bind_error ran'')
        refine .inr ⟨cause, t', raised, raises _ _ raised, fun succeed => ?_⟩
        rw [succeed.email] at fails
        cases fails
      | inl sent =>
        obtain ⟨t', ran'', email⟩ := sent
        exact .inl ⟨t', second.trans (Db.runOn_bind_ok ran''), tags, creates, fresh, email⟩

/-! ## The view -/

theorem readPayload_refused {response : RegistrationResponse} {body : RequestBody} {event : Option EventRow}
    (refused : readPayload py event body = .error response) :
    response.status ≠ 201 ∧ response.code ≠ some "duplicate_email" := by
  cases body with
  | invalidJson => cases refused; decide
  | unreadable => cases refused; decide
  | json data =>
    cases event with
    | none => cases refused; decide
    | some event =>
      simp only [readPayload] at refused
      split at refused
      · cases refused
      next error raised =>
        cases refused
        refine ⟨by simp [RegistrationResponse.status], fun same => ?_⟩
        have known := knownCodes_validateRegistrationData data error raised
        rw [Option.some.inj same] at known
        simp [formErrorCodes] at known
      · cases refused
        decide

/-- The checks of the view have found the request valid and new. -/
structure ChecksPassed (py : PyValues) (env : RegistrationEnv) (request : RegistrationRequest)
    (tables : RegistrationTables) (event : EventRow) (payload : RegistrationPayload) : Prop where
  posted : request.method = "POST"
  reads : env.fails .findEvent = false ∧ env.fails .findDuplicate = false
  found : findEvent tables request = some event
  valid : readPayload py (some event) request.body = .ok payload
  unregistered : isRegistered tables event.pk payload.email = false

theorem Admitted.checks (admitted : Admitted py env request tables event payload) :
    ChecksPassed py env request tables event payload :=
  ⟨admitted.posted, admitted.reads, admitted.found, admitted.valid, admitted.unregistered⟩

theorem ChecksPassed.admitted (checks : ChecksPassed py env request tables event payload)
    (creatable : Creatable py env tables event.pk payload) : Admitted py env request tables event payload :=
  ⟨checks.posted, checks.reads, checks.found, checks.valid, checks.unregistered, creatable⟩

theorem ChecksPassed.unique {event' : EventRow} {payload' : RegistrationPayload}
    (checks : ChecksPassed py env request tables event payload)
    (checks' : ChecksPassed py env request tables event' payload') : event' = event ∧ payload' = payload := by
  have same : event' = event := Option.some.inj (checks'.found.symm.trans checks.found)
  subst same
  exact ⟨rfl, Except.ok.inj (checks'.valid.symm.trans checks.valid)⟩

/-- The answer to what the second `try` has come to. -/
def answer : Except RegistrationFailure ParticipantRow × RegistrationTables → RegistrationResponse × RegistrationTables
  | (.ok participant, after) => (.received participant.pk, after)
  | (.error cause, after) => (.failed cause, after)

/-- The view refuses a request at its checks and writes nothing, or goes on to the second `try`. -/
inductive Viewed (py : PyValues) (env : RegistrationEnv) (request : RegistrationRequest)
    (tables : RegistrationTables) : RegistrationResponse × RegistrationTables → Prop
  | refused {response : RegistrationResponse} (status : response.status ≠ 201)
      (duplicate : response.code = some "duplicate_email" → Registered py request tables)
      (early : ∀ event payload, ¬ ChecksPassed py env request tables event payload) :
      Viewed py env request tables (response, tables)
  | passed {event : EventRow} {payload : RegistrationPayload}
      (checks : ChecksPassed py env request tables event payload) :
      Viewed py env request tables (answer ((createRegistration py env event.pk payload).runOn tables))

theorem registerView_viewed (py : PyValues) (env : RegistrationEnv) (request : RegistrationRequest)
    (tables : RegistrationTables) : Viewed py env request tables (registerView py env request tables) := by
  simp only [registerView]
  split
  next unposted => exact .refused (by decide) (fun same => nomatch same) fun _ _ checks => unposted checks.posted
  next posted =>
    split
    next limited => cases limited
    · split
      next lost =>
        exact .refused (by decide) (fun same => nomatch same) fun _ _ checks => by simp [checks.reads.1] at lost
      next looked =>
        split
        next response refused =>
          obtain ⟨status, code⟩ := readPayload_refused refused
          refine .refused status (fun same => absurd same code) fun event payload checks => ?_
          rw [checks.found, checks.valid] at refused
          cases refused
        next payload valid =>
          split
          next missing =>
            exact .refused (by decide) (fun same => nomatch same) fun _ _ checks => by simp [checks.found] at missing
          next event found =>
            rw [found] at valid
            split
            next lost =>
              exact .refused (by decide) (fun same => nomatch same) fun _ _ checks => by simp [checks.reads.2] at lost
            next searched =>
              split
              next registered =>
                refine .refused (by decide) (fun _ => ⟨event, payload, found, valid, registered⟩) ?_
                intro event' payload' checks
                have event_ := Option.some.inj (checks.found.symm.trans found)
                subst event_
                have payload_ := Except.ok.inj (checks.valid.symm.trans valid)
                subst payload_
                rw [checks.unregistered] at registered
                cases registered
              next unregistered =>
                -- an event was found, so the request has named one and the lookup was made
                have eventId : request.eventId.isSome = true := by
                  cases given : request.eventId with
                  | none => simp [findEvent, given] at found
                  | some eventId => rfl
                exact .passed ⟨by simpa using posted, ⟨by simpa [eventId] using looked, by simpa using searched⟩, found,
                  valid, by simpa using unregistered⟩

/-- Only an e-mail that is registered is rejected as a duplicate. -/
theorem registered_of_duplicate (rejected : (registerView py env request tables).1.code = some "duplicate_email") :
    Registered py request tables := by
  have viewed := registerView_viewed py env request tables
  generalize registerView py env request tables = result at viewed rejected
  cases viewed with
  | refused _ duplicate => exact duplicate rejected
  | @passed event payload checks =>
    cases ran : (createRegistration py env event.pk payload).runOn tables with
    | mk result after =>
      rw [ran] at rejected
      cases result <;> simp [answer, RegistrationResponse.code] at rejected

/-- What a request comes to. -/
inductive Outcome (py : PyValues) (env : RegistrationEnv) (request : RegistrationRequest)
    (tables : RegistrationTables) : RegistrationResponse × RegistrationTables → Prop
  | refused {response : RegistrationResponse} (status : response.status ≠ 201)
      (early : ∀ event payload, ¬ Admitted py env request tables event payload) :
      Outcome py env request tables (response, tables)
  | received {event : EventRow} {payload : RegistrationPayload} {after : RegistrationTables}
      (admitted : Admitted py env request tables event payload) (succeed : StepsSucceed py env tables payload) :
      Outcome py env request tables (.received env.participantPk, after)
  | failed {event : EventRow} {payload : RegistrationPayload} {cause : RegistrationFailure} {after : RegistrationTables}
      (admitted : Admitted py env request tables event payload) (fail : ¬ StepsSucceed py env tables payload)
      (left : after.participants = tables.participants ++ [participantRow env event.pk payload]) :
      Outcome py env request tables (.failed cause, after)

/-- The steps behind the checks of the view. -/
theorem outcome_createRegistration (checks : ChecksPassed py env request tables event payload) :
    Outcome py env request tables (answer ((createRegistration py env event.pk payload).runOn tables)) := by
  cases runOn_createParticipant py env event.pk payload tables with
  | inl created =>
    obtain ⟨ran, creatable⟩ := created
    rw [createRegistration, Db.runOn_bind_ok ran]
    cases runOn_completeRegistration py env payload (participantRow env event.pk payload)
        { tables with participants := tables.participants ++ [participantRow env event.pk payload] } with
    | inl completed =>
      obtain ⟨after, ran, succeed⟩ := completed
      rw [ran]
      exact .received (checks.admitted creatable) ⟨succeed.tags, succeed.token, succeed.fresh, succeed.email⟩
    | inr stopped =>
      obtain ⟨cause, after, ran, left, fail⟩ := stopped
      rw [ran]
      exact .failed (checks.admitted creatable)
        (fun succeed => fail ⟨succeed.tags, succeed.token, succeed.fresh, succeed.email⟩) left
  | inr refused =>
    obtain ⟨cause, ran, blocked⟩ := refused
    rw [createRegistration, Db.runOn_bind_error ran]
    refine .refused (by simp [RegistrationResponse.status]) fun event' payload' admitted => ?_
    obtain ⟨rfl, rfl⟩ := checks.unique admitted.checks
    exact blocked admitted.creatable

theorem registerView_outcome (py : PyValues) (env : RegistrationEnv) (request : RegistrationRequest)
    (tables : RegistrationTables) : Outcome py env request tables (registerView py env request tables) := by
  have viewed := registerView_viewed py env request tables
  generalize registerView py env request tables = result at viewed
  cases viewed with
  | refused status _ early => exact .refused status fun event payload admitted => early event payload admitted.checks
  | passed checks => exact outcome_createRegistration checks

/-- Exactly the requests whose steps succeed once their participant is created. -/
theorem registrationAtomic_iff (py : PyValues) (env : RegistrationEnv) (request : RegistrationRequest)
    (tables : RegistrationTables) : RegistrationAtomic py env request tables ↔
      ∀ event payload, Admitted py env request tables event payload → StepsSucceed py env tables payload := by
  have outcome := registerView_outcome py env request tables
  simp only [RegistrationAtomic]
  generalize registerView py env request tables = result at outcome
  cases outcome with
  | refused status early =>
    refine iff_of_true (fun _ => ⟨⟨rfl, rfl, rfl⟩, fun new retry rejected => ?_⟩)
      fun event payload admitted => absurd admitted (early event payload)
    exact new (registered_of_duplicate rejected)
  | received admitted succeed =>
    refine iff_of_true (fun other => absurd rfl other) fun event payload admitted' => ?_
    obtain ⟨rfl, rfl⟩ := admitted.checks.unique admitted'.checks
    exact succeed
  | failed admitted fail left =>
    refine iff_of_false (fun atomic => ?_) fun succeed => fail (succeed _ _ admitted)
    have same := (atomic (by simp [RegistrationResponse.status])).1.participants
    rw [left] at same
    simp at same

theorem RegistrationAtomic.kept (atomic : RegistrationAtomic py env request tables)
    (failed : (registerView py env request tables).1.status ≠ 201) :
    (registerView py env request tables).2.participants = tables.participants :=
  (atomic failed).1.participants

/-- A client whose tag is a name and no id, while nothing else goes wrong. -/
def plainValues : PyValues where
  floatIsZero := fun _ => false
  int := fun value =>
    match value with
    | .int years => .ok years
    | _ => .error .typeError
  text := fun value =>
    match value with
    | .str text => text
    | _ => ""

def calmEnv : RegistrationEnv := ⟨1, "token", 0, fun _ => false⟩

def namedTagRequest : RegistrationRequest where
  method := "POST"
  eventId := some 7
  body := .json (.dict [("display_name", .str "Ann"), ("email", .str "ann@example.org"),
    ("tag_ids", .list [.str "tech"])])

def openEvent : RegistrationTables := ⟨[⟨7, false⟩], [3], [], [], [], []⟩

/-- The response says that the registration has failed, the retry that it exists. -/
theorem failed_registration_stays :
    ¬ RegistrationAtomic plainValues calmEnv namedTagRequest openEvent ∧
      let (response, after) := registerView plainValues calmEnv namedTagRequest openEvent
      response.status = 500 ∧
        (registerView plainValues calmEnv namedTagRequest after).1.code = some "duplicate_email" := by
  have failed : (registerView plainValues calmEnv namedTagRequest openEvent).1.status = 500 := by decide +kernel
  have left : (registerView plainValues calmEnv namedTagRequest openEvent).2.participants.length = 1 := by
    decide +kernel
  refine ⟨fun atomic => ?_, failed, by decide +kernel⟩
  have same := atomic.kept (by rw [failed]; decide)
  rw [same] at left
  cases left

end EventPlatform.Registration
