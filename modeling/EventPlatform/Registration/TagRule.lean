import EventPlatform.Registration.OnePerEmail
import EventPlatform.Registration.UniqueTags

/-! # Switching an event to one tag each

The form of an event refuses to switch on `unique_tags` while somebody has several tags, and a
registration for an event with `unique_tags` may choose one only.  Either looks first and writes
later, so each can miss the other. -/

namespace EventPlatform.Registration

open EventPlatform.Lib EventPlatform.Protocol

/-- Those of the event who have more than one tag. -/
def multiTagParticipants (tables : RegistrationTables) (eventPk : Nat) : List Nat :=
  ((tables.participants.filter (·.eventPk = eventPk)).map (·.pk)).filter fun pk => 1 < (tagRows tables pk).length

/-- Nobody in an event with `unique_tags` has more than one tag. -/
def OneTagEach (tables : RegistrationTables) : Prop :=
  ∀ event ∈ tables.events, event.uniqueTags = true → multiTagParticipants tables event.pk = []

/-! ## The form of an event -/

/-- The next statement of `EventAdminForm` and of the save that follows it. -/
inductive EventFormPc where
  | readFlag
  | findMultiTag
  | countMultiTag
  | save
  | saved
  | rejected (error : String)
deriving DecidableEq

/-- `uniqueTags` is the submitted value.  `seen`, which the code does not keep, are those who had
    several tags when the form looked last. -/
structure EventForm where
  eventPk : Nat
  uniqueTags : Bool
  pc : EventFormPc
  seen : List Nat
deriving DecidableEq

def EventForm.submit (eventPk : Nat) (uniqueTags : Bool) : EventForm := ⟨eventPk, uniqueTags, .readFlag, []⟩

def multiTagError (count : Nat) : String :=
  "Cannot enable 'Unique tag selection': " ++ toString count ++ " participant(s) in " ++
    "this event already have more than one tag selected. " ++
    "Remove the extra tags from those participants first, " ++ "then enable this setting."

def wasUnique (tables : RegistrationTables) (eventPk : Nat) : Bool :=
  (tables.events.find? (·.pk = eventPk)).any (·.uniqueTags)

def setUniqueTags (tables : RegistrationTables) (eventPk : Nat) (uniqueTags : Bool) : RegistrationTables :=
  { tables with events := tables.events.map fun event =>
      if event.pk = eventPk then { event with uniqueTags := uniqueTags } else event }

def EventForm.execute (form : EventForm) (tables : RegistrationTables) : EventForm × RegistrationTables :=
  let several := multiTagParticipants tables form.eventPk
  match form.pc with
  | .readFlag =>
    let pc := if form.uniqueTags && !wasUnique tables form.eventPk then .findMultiTag else .save
    ({ form with pc := pc, seen := several }, tables)
  | .findMultiTag =>
    ({ form with pc := if several.isEmpty then .save else .countMultiTag, seen := several }, tables)
  | .countMultiTag => ({ form with pc := .rejected (multiTagError several.length) }, tables)
  | .save => ({ form with pc := .saved }, setUniqueTags tables form.eventPk form.uniqueTags)
  | .saved | .rejected _ => (form, tables)

/-! ## Forms and registrations -/

/-- `event` is the event as the request has read it. -/
structure TagRequest extends RegistrationProcess where
  event : Option EventRow

def TagRequest.begin (env : RegistrationEnv) (request : RegistrationRequest) : TagRequest :=
  ⟨.begin env request, none⟩

/-- The statement that finds the event keeps it. -/
def TagRequest.execute (py : PyValues) (process : TagRequest) (tables : RegistrationTables) :
    TagRequest × RegistrationTables :=
  let (pc, after) := process.pc.execute py process.env process.request tables
  match process.pc with
  | .findEvent => ({ process with pc := pc, event := findEvent tables process.request }, after)
  | _ => ({ process with pc := pc }, after)

structure TagDesk where
  tables : RegistrationTables
  requests : List TagRequest
  forms : List EventForm

inductive TagAction where
  | request (i : Nat)
  | form (i : Nat)

namespace TagDesk

def start (tables : RegistrationTables) (requests : List (RegistrationEnv × RegistrationRequest))
    (forms : List (Nat × Bool)) : TagDesk :=
  ⟨tables, requests.map fun call => .begin call.1 call.2, forms.map fun form => .submit form.1 form.2⟩

/-- A request or a form executes its next statement. -/
def step (py : PyValues) (s : TagDesk) : TagAction → TagDesk
  | .request i =>
    match s.requests[i]? with
    | none => s
    | some process =>
      let (process, tables) := process.execute py s.tables
      { s with tables := tables, requests := s.requests.set i process }
  | .form i =>
    match s.forms[i]? with
    | none => s
    | some form =>
      let (form, tables) := form.execute s.tables
      { s with tables := tables, forms := s.forms.set i form }

end TagDesk

/-! ## The steps that come too late -/

/-- The tags that `participant.tags.set(tags)` writes. -/
def tagsToSet (py : PyValues) (env : RegistrationEnv) (payload : RegistrationPayload) (tables : RegistrationTables) :
    List Nat :=
  if truthy py.toPyNumbers payload.tagIds ∧ env.fails .findTags = false ∧ env.fails .setTags = false then
    tables.tags.filter (· ∈ (tagValues payload.tagIds).getD [])
  else []

def RegistrationTables.addTags (tables : RegistrationTables) (participantPk : Nat) (tags : List Nat) : RegistrationTables :=
  { tables with participantTags := tables.participantTags ++ tags.map fun tag => (participantPk, tag) }

/-- A request that has found the event without `unique_tags` sets several tags when they are on; a
    form switches them on when somebody has got several tags since it looked. -/
def ComesLate (py : PyValues) (s : TagDesk) : TagAction → Prop
  | .request i => ∃ process payload participant, s.requests[i]? = some process ∧
      process.pc = .assignTags payload participant ∧ (∃ event ∈ process.event, event.uniqueTags = false) ∧
      (∃ event ∈ s.tables.events, event.pk = participant.eventPk ∧ event.uniqueTags = true) ∧
      1 < (tagsToSet py process.env payload s.tables).length
  | .form i => ∃ form, s.forms[i]? = some form ∧ form.pc = .save ∧ form.uniqueTags = true ∧
      ∃ pk ∈ multiTagParticipants s.tables form.eventPk, pk ∉ form.seen

variable {py : PyValues} {env : RegistrationEnv} {request : RegistrationRequest} {tables after : RegistrationTables}
  {event : EventRow} {payload : RegistrationPayload} {participant : ParticipantRow} {eventPk pk : Nat}
  {s : TagDesk} {i : Nat} {process : TagRequest}

/-! ## Who has several tags -/

theorem mem_multiTagParticipants : pk ∈ multiTagParticipants tables eventPk ↔
    (∃ participant ∈ tables.participants, participant.eventPk = eventPk ∧ participant.pk = pk) ∧
      1 < (tagRows tables pk).length := by
  simp only [multiTagParticipants, List.mem_filter, List.mem_map, decide_eq_true_eq]
  grind

theorem oneTagEach_iff : OneTagEach tables ↔ ∀ event ∈ tables.events, event.uniqueTags = true →
    ∀ participant ∈ tables.participants, participant.eventPk = event.pk →
      (tagRows tables participant.pk).length ≤ 1 := by
  simp only [OneTagEach, List.eq_nil_iff_forall_not_mem, mem_multiTagParticipants]
  constructor
  · intro each event member unique participant registered home
    have few := each event member unique participant.pk
    exact not_lt.mp fun many => few ⟨⟨participant, registered, home, rfl⟩, many⟩
  · intro each event member unique pk several
    obtain ⟨⟨participant, registered, home, rfl⟩, many⟩ := several
    exact absurd (each event member unique participant registered home) (not_le.mpr many)

/-- Only the events, the participants and the rows of the tags matter. -/
theorem OneTagEach.of_same (each : OneTagEach tables) (events : after.events = tables.events)
    (participants : after.participants = tables.participants) (rows : after.participantTags = tables.participantTags) :
    OneTagEach after := by
  simp only [OneTagEach, multiTagParticipants, tagRows, events, participants, rows]
  exact each

/-! ## One statement of a request -/

theorem receive_cases (py : PyValues) (env : RegistrationEnv) (request : RegistrationRequest)
    (tables : RegistrationTables) :
    (∃ event payload, receive py env request tables = .findDuplicate event.pk payload ∧
      findEvent tables request = some event ∧ readPayload py (some event) request.body = .ok payload) ∨
    ∃ response, receive py env request tables = .answered response := by
  simp only [receive]
  split
  · exact .inr ⟨_, rfl⟩
  · split
    · exact .inr ⟨_, rfl⟩
    · split
      · exact .inr ⟨_, rfl⟩
      · split
        · exact .inr ⟨_, rfl⟩
        next payload valid =>
          split
          · exact .inr ⟨_, rfl⟩
          next event found =>
            rw [found] at valid
            exact .inl ⟨event, payload, rfl, found, valid⟩

/-- Setting the tags writes the tags to set, and nothing when it fails. -/
theorem assignTags_writes (py : PyValues) (env : RegistrationEnv) (payload : RegistrationPayload)
    (participant : ParticipantRow) (t : RegistrationTables) :
    ((assignTags py env payload participant).runOn t).2 =
      t.addTags participant.pk (tagsToSet py env payload t) := by
  simp only [assignTags, tagsToSet, RegistrationTables.addTags]
  by_cases chosen : truthy py.toPyNumbers payload.tagIds = true
  · cases values : tagValues payload.tagIds with
    | none => simp [chosen, requireTagIds, values]
    | some values' =>
      cases finds : env.fails .findTags <;> cases sets : env.fails .setTags <;>
        simp [chosen, requireTagIds, values, runStep, Db.runOn_bind, finds, sets]
  · simp [chosen]

theorem attempt_tables {α : Type} (x : RegistrationDb α) (next : α → RegistrationPc) (tables : RegistrationTables) :
    (attempt x next tables).2 = (x.runOn tables).2 := by
  simp only [attempt]
  cases x.runOn tables with
  | mk result after => cases result <;> rfl

/-- A payload that an event with `unique_tags` has accepted names at most one tag that exists. -/
theorem tagsToSet_unique (keys : tables.tags.Nodup) (one : pyLen payload.tagIds = some 1) :
    (tagsToSet py env payload tables).length ≤ 1 := by
  simp only [tagsToSet]
  split
  · cases values : tagValues payload.tagIds with
    | none => simp
    | some values' =>
      rw [tagValues_of_pyLen one values, Option.getD_some]
      cases singleTag payload.tagIds with
      | none => simp
      | some tag =>
        have counted : (tables.tags.filter (· ∈ (some tag).toList)).length = tables.tags.count tag := by
          simp [List.count, List.countP_eq_length_filter, beq_eq_decide]
        rw [counted]
        exact List.nodup_iff_count_le_one.mp keys tag
  · simp

/-- Nothing on tags is to come. -/
def RegistrationPc.Settled : RegistrationPc → Prop
  | .createToken _ _ | .sendEmail _ _ _ | .answered _ => True
  | .findEvent | .findDuplicate _ _ | .createParticipant _ _ | .assignTags _ _ => False

/-- What a statement comes to. -/
inductive TagMoves (py : PyValues) (process : TagRequest) (tables : RegistrationTables) :
    TagRequest × RegistrationTables → Prop
  | received {event : EventRow} {payload : RegistrationPayload}
      (found : findEvent tables process.request = some event)
      (valid : readPayload py (some event) process.request.body = .ok payload) :
      TagMoves py process tables
        ({ process with pc := .findDuplicate event.pk payload, event := some event }, tables)
  | passed {eventPk : Nat} {payload : RegistrationPayload} (here : process.pc = .findDuplicate eventPk payload) :
      TagMoves py process tables ({ process with pc := .createParticipant eventPk payload }, tables)
  | created {eventPk : Nat} {payload : RegistrationPayload} (here : process.pc = .createParticipant eventPk payload)
      (creatable : Creatable py process.env tables eventPk payload) :
      TagMoves py process tables
        ({ process with pc := .assignTags payload (participantRow process.env eventPk payload) },
          tables.insert (participantRow process.env eventPk payload))
  | assigned {payload : RegistrationPayload} {participant : ParticipantRow} {next : TagRequest}
      (here : process.pc = .assignTags payload participant) (settled : next.pc.Settled) :
      TagMoves py process tables (next, tables.addTags participant.pk (tagsToSet py process.env payload tables))
  | settled {next : TagRequest} {after : RegistrationTables} (settled : next.pc.Settled)
      (events : after.events = tables.events) (participants : after.participants = tables.participants)
      (rows : after.participantTags = tables.participantTags) (tags : after.tags = tables.tags) :
      TagMoves py process tables (next, after)

/-- The statements after the one on the tags. -/
theorem TagMoves.attempt {α : Type} {x : RegistrationDb α} {next : α → RegistrationPc}
    (settled : ∀ a, (next a).Settled)
    (keeps : Db.Keeps (fun t => t.events = tables.events ∧ t.participants = tables.participants ∧
      t.participantTags = tables.participantTags ∧ t.tags = tables.tags) x) :
    TagMoves py process tables ({ process with pc := (Registration.attempt x next tables).1 },
      (Registration.attempt x next tables).2) := by
  have kept := keeps tables ⟨rfl, rfl, rfl, rfl⟩
  simp only [Registration.attempt]
  cases ran : x.runOn tables with
  | mk result after =>
    rw [ran] at kept
    cases result with
    | ok a => exact .settled (settled a) kept.1 kept.2.1 kept.2.2.1 kept.2.2.2
    | error cause => exact .settled trivial kept.1 kept.2.1 kept.2.2.1 kept.2.2.2

theorem execute_tagMoves (py : PyValues) (process : TagRequest) (tables : RegistrationTables) :
    TagMoves py process tables (process.execute py tables) := by
  simp only [TagRequest.execute]
  cases here : process.pc with
  | findEvent =>
    simp only [RegistrationPc.execute]
    cases receive_cases py process.env process.request tables with
    | inl received =>
      obtain ⟨event, payload, read, found, valid⟩ := received
      rw [read, found]
      exact .received found valid
    | inr answered =>
      obtain ⟨response, read⟩ := answered
      rw [read]
      exact .settled trivial rfl rfl rfl rfl
  | findDuplicate eventPk payload =>
    simp only [RegistrationPc.execute]
    split_ifs
    · exact .settled trivial rfl rfl rfl rfl
    · exact .settled trivial rfl rfl rfl rfl
    · exact .passed here
  | createParticipant eventPk payload =>
    simp only [RegistrationPc.execute, attempt]
    cases runOn_createParticipant py process.env eventPk payload tables with
    | inl created =>
      rw [created.1]
      exact .created here created.2
    | inr refused =>
      obtain ⟨cause, ran, -⟩ := refused
      rw [ran]
      exact .settled trivial rfl rfl rfl rfl
  | assignTags payload participant =>
    have written := assignTags_writes py process.env payload participant tables
    simp only [RegistrationPc.execute, attempt]
    cases ran : (assignTags py process.env payload participant).runOn tables with
    | mk result after =>
      rw [ran] at written
      cases written
      cases result <;> exact .assigned here trivial
  | createToken payload participant => exact .attempt (fun _ => trivial) (keeps_createToken fun _ _ kept => kept)
  | sendEmail payload participant token =>
    exact .attempt (fun _ => trivial) (keeps_sendVerificationEmail fun _ _ kept => kept)
  | answered response => exact .settled trivial rfl rfl rfl rfl

/-! ## The invariant -/

/-- The request has found the event, and its payload has passed the check of that event. -/
def TagRequest.Checked (process : TagRequest) (eventPk : Nat) (payload : RegistrationPayload) : Prop :=
  ∃ event, process.event = some event ∧ event.pk = eventPk ∧
    (event.uniqueTags = true → pyLen payload.tagIds = some 1)

/-- A participant that is still to get tags has none. -/
def TagRequest.Sound (tables : RegistrationTables) (process : TagRequest) : Prop :=
  match process.pc with
  | .findDuplicate eventPk payload | .createParticipant eventPk payload => process.Checked eventPk payload
  | .assignTags payload participant => process.Checked participant.eventPk payload ∧
      participant ∈ tables.participants ∧ tagRows tables participant.pk = []
  | .findEvent | .createToken _ _ | .sendEmail _ _ _ | .answered _ => True

/-- Two requests are to set the tags of one participant. -/
def SameOwner (process other : TagRequest) : Prop :=
  ∃ payload participant payload' participant', process.pc = .assignTags payload participant ∧
    other.pc = .assignTags payload' participant' ∧ participant.pk = participant'.pk

theorem SameOwner.symm {process other : TagRequest} (same : SameOwner process other) : SameOwner other process := by
  obtain ⟨payload, participant, payload', participant', here, there, owner⟩ := same
  exact ⟨payload', participant', payload, participant, there, here, owner.symm⟩

structure TagRule (s : TagDesk) : Prop where
  each : OneTagEach s.tables
  keys : TableKeys s.tables
  distinct : (s.tables.participants.map (·.pk)).Nodup
  requests : ∀ (j : Nat) (process : TagRequest), s.requests[j]? = some process → process.Sound s.tables
  apart : MutualExclusion SameOwner s.requests
  known : ∀ form ∈ s.forms, ∃ event ∈ s.tables.events, event.pk = form.eventPk
  /-- A form that is about to switch `unique_tags` on has seen nobody with several tags. -/
  seen : ∀ form ∈ s.forms, form.pc = .save → form.uniqueTags = true → form.seen = []

theorem sound_of_settled (settled : process.pc.Settled) : process.Sound tables := by
  simp only [TagRequest.Sound]
  cases here : process.pc with
  | createToken | sendEmail | answered => trivial
  | findEvent | findDuplicate | createParticipant | assignTags =>
    rw [here] at settled
    exact settled.elim

theorem ne_assignTags_of_settled (settled : process.pc.Settled) (payload : RegistrationPayload)
    (participant : ParticipantRow) : process.pc ≠ .assignTags payload participant := by
  intro here
  rw [here] at settled
  exact settled

theorem TagRequest.Sound.grown (sound : process.Sound tables)
    (participants : ∀ participant ∈ tables.participants, participant ∈ after.participants)
    (rows : ∀ payload participant, process.pc = .assignTags payload participant →
      tagRows after participant.pk = tagRows tables participant.pk) : process.Sound after := by
  simp only [TagRequest.Sound] at sound ⊢
  cases here : process.pc with
  | assignTags payload participant =>
    rw [here] at sound
    obtain ⟨checked, registered, none_⟩ := sound
    exact ⟨checked, participants participant registered, (rows payload participant here).trans none_⟩
  | findDuplicate | createParticipant =>
    rw [here] at sound
    exact sound
  | findEvent | createToken | sendEmail | answered => trivial

namespace TagRule

/-- A request goes on to a statement that is not the one on the tags. -/
theorem proceed {next : TagRequest} (rule : TagRule s)
    (other : ∀ payload participant, next.pc ≠ .assignTags payload participant) (sound : next.Sound s.tables) :
    TagRule { s with requests := s.requests.set i next } where
  each := rule.each
  keys := rule.keys
  distinct := rule.distinct
  requests := by
    intro j process found
    cases getElem?_of_set found with
    | inl mine => exact mine.2 ▸ sound
    | inr theirs => exact rule.requests j process theirs.2
  apart := by
    apply rule.apart.set fun _ _ => SameOwner.symm
    intro j process _ _ same
    obtain ⟨payload, participant, _, _, here, _, _⟩ := same
    exact other payload participant here
  known := rule.known
  seen := rule.seen

/-- The participant of a request is created: it is nobody yet, and has no tags. -/
theorem create (rule : TagRule s) (found : s.requests[i]? = some process)
    (here : process.pc = .createParticipant eventPk payload)
    (creatable : Creatable py process.env s.tables eventPk payload) :
    TagRule { s with
      tables := s.tables.insert (participantRow process.env eventPk payload)
      requests := s.requests.set i
        { process with pc := .assignTags payload (participantRow process.env eventPk payload) } } := by
  have fresh : ∀ other ∈ s.tables.participants, other.pk ≠ process.env.participantPk := by
    intro other member
    exact (of_decide_eq_true (List.all_eq_true.mp creatable.unique other member)).1
  have noRows : tagRows s.tables process.env.participantPk = [] := by
    simp only [tagRows, List.filter_eq_nil_iff, decide_eq_true_eq]
    intro row member same
    obtain ⟨owner, registered, owns⟩ := rule.keys.owners row member
    exact fresh owner registered (owns.trans same)
  have checked : process.Checked eventPk payload := by
    have sound := rule.requests i process found
    rwa [TagRequest.Sound, here] at sound
  refine ⟨?_, rule.keys.create _, ?_, ?_, ?_, rule.known, rule.seen⟩
  · rw [oneTagEach_iff]
    intro event member unique participant registered home
    cases List.mem_append.mp registered with
    | inl old => exact oneTagEach_iff.mp rule.each event member unique participant old home
    | inr new =>
      obtain rfl := List.mem_singleton.mp new
      exact (congrArg List.length noRows).trans_le (Nat.zero_le _)
  · simp only [RegistrationTables.insert, List.map_append, List.map_cons, List.map_nil]
    refine List.Nodup.append rule.distinct (List.nodup_singleton _) ?_
    intro pk old new
    obtain ⟨other, member, rfl⟩ := List.mem_map.mp old
    exact fresh other member (List.mem_singleton.mp new)
  · intro j other found'
    cases getElem?_of_set found' with
    | inl mine =>
      obtain ⟨-, rfl⟩ := mine
      exact ⟨checked, List.mem_append_right _ List.mem_cons_self, noRows⟩
    | inr theirs =>
      exact (rule.requests j other theirs.2).grown (fun _ member => List.mem_append_left _ member) fun _ _ _ => rfl
  · apply rule.apart.set fun _ _ => SameOwner.symm
    intro j other found' _ same
    obtain ⟨_, _, payload', participant', mine, there, owner⟩ := same
    cases mine
    -- the participant of the other request exists already
    have sound := rule.requests j other found'
    rw [TagRequest.Sound, there] at sound
    exact fresh participant' sound.2.1 owner.symm

theorem tagRows_addTags (tags : List Nat) (other : Nat) : tagRows (tables.addTags pk tags) other =
    tagRows tables other ++ if other = pk then tags.map fun tag => (pk, tag) else [] := by
  simp only [tagRows, RegistrationTables.addTags, List.filter_append]
  congr 1
  split
  next same => simp [same]
  next different => simpa using fun _ _ => Ne.symm different

/-- The tags of a participant are set: several ones only in an event without `unique_tags`. -/
theorem setTags {next : TagRequest} (rule : TagRule s) (found : s.requests[i]? = some process)
    (here : process.pc = .assignTags payload participant) (settled : next.pc.Settled)
    (good : ¬ ComesLate py s (.request i)) :
    TagRule { s with
      tables := s.tables.addTags participant.pk (tagsToSet py process.env payload s.tables)
      requests := s.requests.set i next } := by
  have sound := rule.requests i process found
  rw [TagRequest.Sound, here] at sound
  obtain ⟨⟨read, event, home, checked⟩, registered, noRows⟩ := sound
  have few : ∀ now ∈ s.tables.events, now.uniqueTags = true → participant.eventPk = now.pk →
      (tagsToSet py process.env payload s.tables).length ≤ 1 := by
    intro now member unique same
    cases flag : read.uniqueTags with
    | true => exact tagsToSet_unique rule.keys.tags (checked flag)
    | false =>
      by_contra several
      exact good ⟨process, payload, participant, found, here, ⟨read, event, flag⟩, ⟨now, member, same.symm, unique⟩,
        not_le.mp several⟩
  refine ⟨?_, rule.keys.setTags registered _, rule.distinct, ?_, ?_, rule.known, rule.seen⟩
  · rw [oneTagEach_iff]
    intro now member unique other registered' home'
    rw [tagRows_addTags]
    split
    next same =>
      have owner : other = participant := List.inj_on_of_nodup_map rule.distinct registered' registered same
      subst owner
      rw [noRows, List.nil_append, List.length_map]
      exact few now member unique home'
    next =>
      rw [List.append_nil]
      exact oneTagEach_iff.mp rule.each now member unique other registered' home'
  · intro j other found'
    cases getElem?_of_set found' with
    | inl mine =>
      obtain ⟨-, rfl⟩ := mine
      exact sound_of_settled settled
    | inr theirs =>
      refine (rule.requests j other theirs.2).grown (fun _ member => member) fun payload' participant' there => ?_
      have different : participant'.pk ≠ participant.pk := by
        intro owner
        exact theirs.1 (rule.apart j i other process theirs.2 found ⟨_, _, _, _, there, here, owner⟩)
      rw [tagRows_addTags, if_neg different, List.append_nil]
  · apply rule.apart.set fun _ _ => SameOwner.symm
    intro j other _ _ same
    obtain ⟨payload', participant', _, _, mine, _, _⟩ := same
    exact ne_assignTags_of_settled settled payload' participant' mine

/-- A statement of a request that does not come late. -/
theorem step_request (rule : TagRule s) (good : ¬ ComesLate py s (.request i)) : TagRule (s.step py (.request i)) := by
  simp only [TagDesk.step]
  split
  · exact rule
  next process found =>
    have moves := execute_tagMoves py process s.tables
    have sound := rule.requests i process found
    generalize process.execute py s.tables = result at moves ⊢
    cases moves with
    | @received event payload located valid =>
      refine rule.proceed (fun _ _ => by simp) ⟨event, rfl, rfl, fun unique => ?_⟩
      obtain ⟨_, _, _, one⟩ := readPayload_unique unique valid
      exact one
    | passed here =>
      rw [TagRequest.Sound, here] at sound
      exact rule.proceed (fun _ _ => by simp) sound
    | created here creatable => exact rule.create found here creatable
    | assigned here settled => exact rule.setTags found here settled good
    | @settled next after settled events participants rows tags =>
      have on : TagRule { s with requests := s.requests.set i next } :=
        rule.proceed (ne_assignTags_of_settled settled) (sound_of_settled settled)
      refine ⟨on.each.of_same events participants rows, ?_, ?_, ?_, on.apart, ?_, on.seen⟩
      · refine ⟨tags.symm ▸ rule.keys.tags, ?_⟩
        rw [rows, participants]
        exact rule.keys.owners
      · rw [participants]
        exact rule.distinct
      · intro j other found'
        refine (on.requests j other found').grown (fun _ member => participants.symm ▸ member) fun _ _ _ => ?_
        simp only [tagRows, rows]
      · rw [events]
        exact rule.known

/-! ## One statement of a form -/

theorem mem_setUniqueTags {uniqueTags : Bool} (member : event ∈ (setUniqueTags tables eventPk uniqueTags).events) :
    (event.pk = eventPk ∧ event.uniqueTags = uniqueTags) ∨ event ∈ tables.events := by
  obtain ⟨old, listed, rfl⟩ := List.mem_map.mp member
  split
  next same => exact .inl ⟨same, rfl⟩
  next => exact .inr listed

/-- A form goes on to another statement. -/
theorem goOn {form next : EventForm} (rule : TagRule s) (found : s.forms[i]? = some form)
    (same : next.eventPk = form.eventPk) (seen : next.pc = .save → next.uniqueTags = true → next.seen = []) :
    TagRule { s with forms := s.forms.set i next } where
  each := rule.each
  keys := rule.keys
  distinct := rule.distinct
  requests := rule.requests
  apart := rule.apart
  known := by
    intro other member
    cases List.mem_or_eq_of_mem_set member with
    | inl old => exact rule.known other old
    | inr new =>
      rw [new, same]
      exact rule.known form (List.mem_of_getElem? found)
  seen := by
    intro other member
    cases List.mem_or_eq_of_mem_set member with
    | inl old => exact rule.seen other old
    | inr new => exact new ▸ seen

/-- The form writes the flag, and nobody has got several tags since it looked. -/
theorem save {form next : EventForm} (rule : TagRule s) (found : s.forms[i]? = some form) (here : form.pc = .save)
    (same : next.eventPk = form.eventPk) (saved : next.pc = .saved) (good : ¬ ComesLate py s (.form i)) :
    TagRule { s with
      tables := setUniqueTags s.tables form.eventPk form.uniqueTags
      forms := s.forms.set i next } := by
  have on : TagRule { s with forms := s.forms.set i next } :=
    rule.goOn found same fun saves => absurd (saved.symm.trans saves) (by simp)
  refine ⟨?_, ⟨rule.keys.tags, rule.keys.owners⟩, rule.distinct, ?_, rule.apart, ?_, on.seen⟩
  · intro event member unique
    cases mem_setUniqueTags member with
    | inr old => exact rule.each event old unique
    | inl switched =>
      obtain ⟨pk, flag⟩ := switched
      have on_ : form.uniqueTags = true := flag.symm.trans unique
      have nobody := rule.seen form (List.mem_of_getElem? found) here on_
      rw [pk, List.eq_nil_iff_forall_not_mem]
      intro participant several
      exact good ⟨form, found, here, on_, participant, several, by simp [nobody]⟩
  · intro j process found'
    exact (rule.requests j process found').grown (fun _ member => member) fun _ _ _ => rfl
  · intro other member
    obtain ⟨event, known, home⟩ := on.known other member
    refine ⟨_, List.mem_map_of_mem known, ?_⟩
    split
    next => exact home
    next => exact home

theorem step_form (rule : TagRule s) (good : ¬ ComesLate py s (.form i)) : TagRule (s.step py (.form i)) := by
  simp only [TagDesk.step]
  split
  · exact rule
  next form found =>
    simp only [EventForm.execute]
    cases here : form.pc with
    | readFlag =>
      refine rule.goOn found rfl fun saves on => ?_
      -- the flag was on already, and so nobody has several tags
      have was : wasUnique s.tables form.eventPk = true := by
        by_contra off
        simp_all
      obtain ⟨event, located, unique⟩ := (Option.any_eq_true _ _).mp was
      have pk : event.pk = form.eventPk := by simpa using List.find?_some located
      exact pk ▸ rule.each event (List.mem_of_find?_eq_some located) unique
    | findMultiTag =>
      refine rule.goOn found rfl fun saves _ => ?_
      by_contra several
      simp_all
    | countMultiTag => exact rule.goOn found rfl fun saves => by simp at saves
    | save => exact rule.save found here rfl rfl good
    | saved => exact rule.goOn found rfl fun saves => by simp [here] at saves
    | rejected error => exact rule.goOn found rfl fun saves => by simp [here] at saves

theorem step {action : TagAction} (rule : TagRule s) (good : ¬ ComesLate py s action) : TagRule (s.step py action) := by
  cases action with
  | request i => exact rule.step_request good
  | form i => exact rule.step_form good

/-- A step that comes late shows at once. -/
theorem broken_of_late {action : TagAction} (rule : TagRule s) (late : ComesLate py s action) :
    ¬ OneTagEach (s.step py action).tables := by
  intro each
  cases action with
  | request i =>
    obtain ⟨process, payload, participant, found, here, -, ⟨event, member, home, unique⟩, several⟩ := late
    have sound := rule.requests i process found
    rw [TagRequest.Sound, here] at sound
    obtain ⟨-, registered, noRows⟩ := sound
    have written : (s.step py (.request i)).tables =
        s.tables.addTags participant.pk (tagsToSet py process.env payload s.tables) := by
      simp only [TagDesk.step, found, TagRequest.execute, here, RegistrationPc.execute, attempt_tables, assignTags_writes]
    rw [written, oneTagEach_iff] at each
    have few := each event member unique participant registered home.symm
    rw [tagRows_addTags, if_pos rfl, noRows, List.nil_append, List.length_map] at few
    exact absurd several (not_lt.mpr few)
  | form i =>
    obtain ⟨form, found, here, on, pk, several, -⟩ := late
    obtain ⟨event, member, home⟩ := rule.known form (List.mem_of_getElem? found)
    have written : (s.step py (.form i)).tables = setUniqueTags s.tables form.eventPk form.uniqueTags := by
      simp only [TagDesk.step, found, EventForm.execute, here]
    rw [written] at each
    have switched : { event with uniqueTags := form.uniqueTags } ∈
        (setUniqueTags s.tables form.eventPk form.uniqueTags).events :=
      List.mem_map.mpr ⟨event, member, by rw [if_pos home]⟩
    have nobody := each _ switched on
    rw [home] at nobody
    exact List.eq_nil_iff_forall_not_mem.mp nobody pk several

theorem start (keys : TableKeys tables) (distinct : (tables.participants.map (·.pk)).Nodup)
    (each : OneTagEach tables) (requests : List (RegistrationEnv × RegistrationRequest)) (forms : List (Nat × Bool))
    (known : ∀ form ∈ forms, ∃ event ∈ tables.events, event.pk = form.1) : TagRule (.start tables requests forms) := by
  have waiting : ∀ (j : Nat) (process : TagRequest), (TagDesk.start tables requests forms).requests[j]? = some process →
      process.pc = .findEvent := by
    intro j process found
    simp only [TagDesk.start, List.getElem?_map, Option.map_eq_some_iff] at found
    obtain ⟨call, -, rfl⟩ := found
    rfl
  refine ⟨each, keys, distinct, fun j process found => ?_, fun i j process other found _ same => ?_, ?_, ?_⟩
  · rw [TagRequest.Sound, waiting j process found]
    trivial
  · obtain ⟨_, _, _, _, here, _⟩ := same
    rw [waiting i process found] at here
    cases here
  · intro form member
    obtain ⟨submitted, listed, rfl⟩ := List.mem_map.mp member
    exact known submitted listed
  · intro form member saves
    obtain ⟨submitted, _, rfl⟩ := List.mem_map.mp member
    simp [EventForm.submit] at saves

end TagRule

/-- All along a run nobody in an event with `unique_tags` has several tags, exactly when no registration
    that found the event without them sets several tags after they are switched on, and no form switches
    them on when somebody has got several tags since it looked. -/
theorem one_tag_each_iff (py : PyValues) (tables : RegistrationTables) (keys : TableKeys tables)
    (distinct : (tables.participants.map (·.pk)).Nodup) (each : OneTagEach tables)
    (requests : List (RegistrationEnv × RegistrationRequest)) (forms : List (Nat × Bool))
    (known : ∀ form ∈ forms, ∃ event ∈ tables.events, event.pk = form.1) (actions : List TagAction) :
    (∀ n, OneTagEach (stateAt (TagDesk.step py) (.start tables requests forms) actions n).tables) ↔
      ∀ v ∈ visited (TagDesk.step py) (.start tables requests forms) actions, ¬ ComesLate py v.1 v.2 := by
  have harmful : ∀ s action, TagRule s → True → OneTagEach (s.step py action).tables → ¬ ComesLate py s action :=
    fun _ _ rule _ each late => rule.broken_of_late late each
  have harmless : ∀ s action, TagRule s → True → ¬ ComesLate py s action → TagRule (s.step py action) :=
    fun _ _ rule _ good => rule.step good
  exact stateAt_iff harmful harmless (fun _ rule => rule.each) (.start keys distinct each requests forms known)
    fun _ _ => trivial

def twoTagRequest : RegistrationRequest where
  method := "POST"
  eventId := some 7
  body := .json (.dict [("display_name", .str "Ann"), ("email", .str "ann@example.org"),
    ("tag_ids", .list [.str "00000000-0000-0000-0000-000000000003", .str "00000000-0000-0000-0000-000000000004"])])

def twoTags : RegistrationTables := ⟨[⟨7, false⟩], [3, 4], [], [], [], []⟩

/-- The form is saved between the check of the registration and its tags. -/
def switchedMeanwhile : List TagAction :=
  [.request 0, .request 0, .request 0, .form 0, .form 0, .form 0, .request 0]

theorem one_tag_each_iff_switchedMeanwhile :
    (∀ n, OneTagEach (stateAt (TagDesk.step plainValues)
      (.start twoTags [(calmEnv, twoTagRequest)] [(7, true)]) switchedMeanwhile n).tables) ↔
      ∀ v ∈ visited (TagDesk.step plainValues) (.start twoTags [(calmEnv, twoTagRequest)] [(7, true)])
        switchedMeanwhile, ¬ ComesLate plainValues v.1 v.2 :=
  one_tag_each_iff plainValues twoTags ⟨by decide, by simp [twoTags]⟩ List.nodup_nil (by simp [OneTagEach, twoTags])
    [(calmEnv, twoTagRequest)] [(7, true)] (by simp [twoTags]) switchedMeanwhile

example : ¬ OneTagEach (switchedMeanwhile.foldl (TagDesk.step plainValues)
    (.start twoTags [(calmEnv, twoTagRequest)] [(7, true)])).tables := by
  simp only [OneTagEach]
  decide +kernel

end EventPlatform.Registration
