import EventPlatform.Registration.Atomic

/-! # Events with one tag each

The form counts what it is given as tags, the view looks up what has been counted.  One item
that is no existing tag passes the count, and its participant is left without a tag. -/

namespace EventPlatform.Registration

open EventPlatform.Lib EventPlatform.Protocol EventPlatform.Matching

/-! ## The property and its condition -/

/-- The primary key of the tags, and the foreign key from a tag row to its participant. -/
structure TableKeys (tables : RegistrationTables) : Prop where
  tags : tables.tags.Nodup
  owners : ∀ row ∈ tables.participantTags, ∃ participant ∈ tables.participants, participant.pk = row.1

def tagRows (tables : RegistrationTables) (participantPk : Nat) : List (Nat × Nat) :=
  tables.participantTags.filter (·.1 = participantPk)

/-- The UUID of the only item of a list, or of the only key of an object. -/
def singleTag : Json → Option Nat
  | .list [item] => (tagValue item).join
  | .dict [(key, _)] => uuidValue key
  | _ => none

/-- What the client has chosen is one tag that exists. -/
def NamesOneTag (py : PyValues) (tables : RegistrationTables) : RequestBody → Prop
  | .json (.dict data) => ∃ tag ∈ tables.tags, singleTag (chosenTags py.toPyNumbers data) = some tag
  | _ => False

variable {py : PyValues} {env : RegistrationEnv} {request : RegistrationRequest} {tables t t' after : RegistrationTables}
  {event : EventRow} {payload : RegistrationPayload} {participant : ParticipantRow} {eventPk pk : Nat}

/-! ## The form -/

theorem validatePayload_tagIds {data : Payload} {uniqueTags : Bool}
    (valid : validatePayload py.toPyNumbers uniqueTags data = .ok payload) :
    checkTags py.toPyNumbers uniqueTags data = .ok payload.tagIds := by
  simp only [validatePayload, bind_ok] at valid
  obtain ⟨displayName, -, email, -, acceptedTerms, -, tagIds, checked, age, -, made⟩ := valid
  cases made
  exact checked

theorem checkTags_unique {data : Payload} {tagIds : Json} (checked : checkTags py.toPyNumbers true data = .ok tagIds) :
    tagIds = chosenTags py.toPyNumbers data ∧ pyLen tagIds = some 1 := by
  simp only [checkTags] at checked
  split at checked
  · cases checked
  next count counted =>
    split at checked
    · cases checked
    · split at checked
      · cases checked
      next one =>
        cases checked
        simp only [true_and, not_not] at one
        exact ⟨rfl, one ▸ counted⟩

theorem readPayload_unique (unique : event.uniqueTags = true)
    (valid : readPayload py (some event) request.body = .ok payload) :
    ∃ data, request.body = .json (.dict data) ∧ payload.tagIds = chosenTags py.toPyNumbers data ∧
      pyLen payload.tagIds = some 1 := by
  cases body : request.body with
  | invalidJson => simp [readPayload, body] at valid
  | unreadable => simp [readPayload, body] at valid
  | json value =>
    cases value with
    | dict data =>
      refine ⟨data, rfl, ?_⟩
      simp only [readPayload, body, validateRegistrationData, unique] at valid
      split at valid
      next checked =>
        cases valid
        exact checkTags_unique (validatePayload_tagIds checked)
      · cases valid
      · cases valid
    | _ => simp [readPayload, body, validateRegistrationData, refuse] at valid

/-! ## The lookup -/

theorem truthy_of_pyLen {py : PyNumbers} {value : Json} (one : pyLen value = some 1) : truthy py value = true := by
  cases value with
  | str text =>
    simp only [pyLen, Option.some.injEq] at one
    have other : text ≠ "" := by
      rintro rfl
      simp at one
    simpa [truthy] using other
  | list items => cases items <;> simp_all [pyLen, truthy]
  | dict fields => cases fields <;> simp_all [pyLen, truthy]
  | _ => simp [pyLen] at one

/-- One item is at most one id; a single character is none. -/
theorem tagValues_of_pyLen {value : Json} {values : List Nat} (one : pyLen value = some 1)
    (found : tagValues value = some values) : values = (singleTag value).toList := by
  cases value with
  | list items =>
    simp only [pyLen, Option.some.injEq, List.length_eq_one_iff] at one
    obtain ⟨item, rfl⟩ := one
    cases read : tagValue item with
    | none => simp [tagValues, read] at found
    | some id =>
      simp only [tagValues, List.mapM_cons, List.mapM_nil, read] at found
      cases id <;> simp_all [singleTag]
  | dict fields =>
    simp only [pyLen, Option.some.injEq, List.length_eq_one_iff] at one
    obtain ⟨⟨key, item⟩, rfl⟩ := one
    cases read : uuidValue key with
    | none => simp [tagValues, tagValue, read] at found
    | some id => simp_all [tagValues, tagValue, singleTag]
  | str text =>
    simp only [pyLen, Option.some.injEq, ← String.length_toList, List.length_eq_one_iff] at one
    obtain ⟨c, single⟩ := one
    cases read : uuidValue (String.singleton c) with
    | none => simp [tagValues, tagValue, single, read] at found
    | some id =>
      -- `id__in` takes a string character by character
      have long := length_of_uuidValue read
      simp at long
  | _ => simp [pyLen] at one

theorem length_filter_toList {tags : List Nat} (keys : tags.Nodup) (choice : Option Nat) :
    (tags.filter (· ∈ choice.toList)).length = 1 ↔ ∃ tag ∈ tags, choice = some tag := by
  cases choice with
  | none => simp
  | some chosen =>
    have counted : (tags.filter (· ∈ (some chosen).toList)).length = tags.count chosen := by
      simp [List.count, List.countP_eq_length_filter, beq_eq_decide]
    rw [counted, keys.count]
    simp [eq_comm]

/-! ## The rows -/

theorem runOn_assignTags_ok (chosen : truthy py.toPyNumbers payload.tagIds = true)
    (ran : (assignTags py env payload participant).runOn t = (.ok (), t')) :
    ∃ values, tagValues payload.tagIds = some values ∧ t'.participantTags =
      t.participantTags ++ (t.tags.filter (· ∈ values)).map fun tag => (participant.pk, tag) := by
  simp only [assignTags, chosen, if_true] at ran
  cases read : tagValues payload.tagIds with
  | none => simp [requireTagIds, read] at ran
  | some values =>
    simp only [requireTagIds, read, runStep, pure_bind, Db.runOn_require_bind_eq_ok] at ran
    obtain ⟨-, ran⟩ := ran
    rw [Db.runOn_bind_ok (Db.runOn_get t), Db.runOn_require_bind_eq_ok, Db.runOn_modify] at ran
    obtain ⟨-, assigned⟩ := ran
    cases assigned
    exact ⟨values, rfl, rfl⟩

/-- What a received registration has written: the row of the participant, and the tags that exist among
    the chosen ones. -/
theorem createRegistration_ok (chosen : truthy py.toPyNumbers payload.tagIds = true)
    (ran : (createRegistration py env eventPk payload).runOn tables = (.ok participant, after)) :
    participant = participantRow env eventPk payload ∧ Creatable py env tables eventPk payload ∧
      ∃ values, tagValues payload.tagIds = some values ∧ after.participantTags =
        tables.participantTags ++ (tables.tags.filter (· ∈ values)).map fun tag => (participant.pk, tag) := by
  obtain ⟨row, t₁, inserted, completed⟩ := Db.runOn_bind_eq_ok.mp ran
  cases runOn_createParticipant py env eventPk payload tables with
  | inr refused =>
    obtain ⟨cause, ran', -⟩ := refused
    rw [ran'] at inserted
    cases inserted
  | inl created =>
    obtain ⟨ran', creatable⟩ := created
    rw [ran'] at inserted
    cases inserted
    obtain ⟨_, t₂, assigned, later⟩ := Db.runOn_bind_eq_ok.mp completed
    obtain ⟨token, t₃, tokened, later⟩ := Db.runOn_bind_eq_ok.mp later
    obtain ⟨_, t₄, sent, returned⟩ := Db.runOn_bind_eq_ok.mp later
    cases returned
    obtain ⟨values, read, rows⟩ := runOn_assignTags_ok chosen assigned
    -- neither the token nor the e-mail touches the tags
    let Same : RegistrationTables → Prop := fun t => t.participantTags = t₂.participantTags
    have first : Same t₃ := (keeps_createToken (P := Same) fun _ _ kept => kept).of_runOn rfl tokened
    have second : Same after := (keeps_sendVerificationEmail (P := Same) fun _ _ kept => kept).of_runOn first sent
    exact ⟨rfl, creatable, values, read, second.trans rows⟩

theorem tagRows_of_fresh {tags : List Nat} (keys : TableKeys tables)
    (fresh : ∀ participant ∈ tables.participants, participant.pk ≠ pk)
    (written : after.participantTags = tables.participantTags ++ tags.map fun tag => (pk, tag)) :
    (tagRows after pk).length = tags.length := by
  -- every earlier row has an owner, and the key is nobody's yet
  have earlier : tables.participantTags.filter (·.1 = pk) = [] := by
    simp only [List.filter_eq_nil_iff, decide_eq_true_eq]
    intro row member same
    obtain ⟨participant, registered, owner⟩ := keys.owners row member
    exact fresh participant registered (owner.trans same)
  have later : (tags.map fun tag => (pk, tag)).filter (·.1 = pk) = tags.map fun tag => (pk, tag) := by
    simp
  rw [tagRows, written, List.filter_append, earlier, later]
  simp

theorem TableKeys.create (keys : TableKeys t) (participant : ParticipantRow) :
    TableKeys { t with participants := t.participants ++ [participant] } where
  tags := keys.tags
  owners := by
    intro row member
    obtain ⟨owner, registered, same⟩ := keys.owners row member
    exact ⟨owner, List.mem_append_left _ registered, same⟩

theorem TableKeys.setTags (keys : TableKeys t) (registered : participant ∈ t.participants) (tags : List Nat) :
    TableKeys { t with participantTags := t.participantTags ++ tags.map fun tag => (participant.pk, tag) } where
  tags := keys.tags
  owners := by
    intro row member
    cases List.mem_append.mp member with
    | inl earlier => exact keys.owners row earlier
    | inr assigned =>
      obtain ⟨tag, -, rfl⟩ := List.mem_map.mp assigned
      exact ⟨participant, registered, rfl⟩

theorem keeps_completeRegistration : Db.Keeps (fun t => TableKeys t ∧ participant ∈ t.participants)
    (completeRegistration py env payload participant) := by
  refine (keeps_assignTags fun t tags kept => ⟨kept.1.setTags kept.2 tags, kept.2⟩).bind fun _ => ?_
  refine (keeps_createToken fun t token kept => ⟨⟨kept.1.tags, kept.1.owners⟩, kept.2⟩).bind fun token => ?_
  exact (keeps_sendVerificationEmail fun t email kept => ⟨⟨kept.1.tags, kept.1.owners⟩, kept.2⟩).bind
    fun _ => Db.Keeps.pure _

/-! ## The view -/

/-- Whatever comes of a request, the keys stay in order. -/
theorem tableKeys_registerView (py : PyValues) (env : RegistrationEnv) (request : RegistrationRequest)
    (keys : TableKeys tables) : TableKeys (registerView py env request tables).2 := by
  have created (eventPk : Nat) (payload : RegistrationPayload) :
      TableKeys ((createRegistration py env eventPk payload).runOn tables).2 := by
    cases runOn_createParticipant py env eventPk payload tables with
    | inl inserted =>
      rw [createRegistration, Db.runOn_bind_ok inserted.1]
      exact (keeps_completeRegistration _ ⟨keys.create _, List.mem_append_right _ List.mem_cons_self⟩).1
    | inr refused =>
      obtain ⟨cause, ran, -⟩ := refused
      rw [createRegistration, Db.runOn_bind_error ran]
      exact keys
  have viewed := registerView_viewed py env request tables
  generalize registerView py env request tables = result at viewed
  cases viewed with
  | refused => exact keys
  | @passed event payload checks =>
    have kept := created event.pk payload
    cases ran : (createRegistration py env event.pk payload).runOn tables with
    | mk result after =>
      rw [ran] at kept
      cases result <;> exact kept

theorem registerView_received (received : registerView py env request tables = (.received pk, after)) :
    ∃ event payload participant, ChecksPassed py env request tables event payload ∧
      (createRegistration py env event.pk payload).runOn tables = (.ok participant, after) ∧ participant.pk = pk := by
  have viewed := registerView_viewed py env request tables
  rw [received] at viewed
  generalize answered : ((.received pk, after) : RegistrationResponse × RegistrationTables) = result at viewed
  cases viewed with
  | refused status =>
    cases answered
    exact absurd rfl status
  | @passed event payload checks =>
    cases ran : (createRegistration py env event.pk payload).runOn tables with
    | mk result after =>
      rw [ran] at answered
      cases result with
      | ok participant =>
        cases answered
        exact ⟨event, payload, participant, checks, ran, rfl⟩
      | error cause => cases answered

/-- The participant of an event with unique tags has one tag exactly when the client has chosen one that
    exists, and the keys are as they have to be. -/
theorem oneTagRow_iff (keys : TableKeys tables) (found : findEvent tables request = some event)
    (unique : event.uniqueTags = true) (received : registerView py env request tables = (.received pk, after)) :
    ((tagRows after pk).length = 1 ↔ NamesOneTag py tables request.body) ∧ TableKeys after := by
  have kept := tableKeys_registerView py env request keys
  rw [received] at kept
  refine ⟨?_, kept⟩
  obtain ⟨event', payload, participant, checks, ran, rfl⟩ := registerView_received received
  have same : event' = event := Option.some.inj (checks.found.symm.trans found)
  subst same
  obtain ⟨data, body, chosen, one⟩ := readPayload_unique unique checks.valid
  obtain ⟨rfl, creatable, values, read, written⟩ := createRegistration_ok (truthy_of_pyLen one) ran
  have fresh : ∀ other ∈ tables.participants, other.pk ≠ (participantRow env event'.pk payload).pk := by
    intro other member
    have apart := List.all_eq_true.mp creatable.unique other member
    simp only [decide_eq_true_eq] at apart
    exact apart.1
  rw [tagRows_of_fresh keys fresh written, tagValues_of_pyLen one read, length_filter_toList keys.tags,
    body, chosen, NamesOneTag]

def oneTagRequest (tagId : String) : RegistrationRequest where
  method := "POST"
  eventId := some 7
  body := .json (.dict [("display_name", .str "Ann"), ("email", .str "ann@example.org"),
    ("tag_ids", .list [.str tagId])])

def uniqueEvent : RegistrationTables := ⟨[⟨7, true⟩], [3], [], [], [], []⟩

theorem uniqueEvent_keys : TableKeys uniqueEvent := ⟨by decide, by simp [uniqueEvent]⟩

theorem existingTag_oneTagRow : ∃ after,
    registerView plainValues calmEnv (oneTagRequest "00000000-0000-0000-0000-000000000003") uniqueEvent =
      (.received 1, after) ∧ (tagRows after 1).length = 1 := by
  have found : findEvent uniqueEvent (oneTagRequest "00000000-0000-0000-0000-000000000003") = some ⟨7, true⟩ := rfl
  obtain ⟨after, received⟩ : ∃ after, registerView plainValues calmEnv
      (oneTagRequest "00000000-0000-0000-0000-000000000003") uniqueEvent = (.received 1, after) := ⟨_, rfl⟩
  refine ⟨after, received, (oneTagRow_iff uniqueEvent_keys found rfl received).1.mpr ?_⟩
  exact ⟨3, by decide, by decide +kernel⟩

/-- A tag that has been deleted, say, is counted and not found. -/
theorem unknownTag_noTagRow : TableKeys uniqueEvent ∧
    findEvent uniqueEvent (oneTagRequest "00000000-0000-0000-0000-000000000004") = some ⟨7, true⟩ ∧
    ∃ after, registerView plainValues calmEnv (oneTagRequest "00000000-0000-0000-0000-000000000004") uniqueEvent =
      (.received 1, after) ∧ tagRows after 1 = [] :=
  ⟨uniqueEvent_keys, rfl, _, rfl, by decide +kernel⟩

end EventPlatform.Registration
