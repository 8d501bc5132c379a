import EventPlatform.Lib.Double
import EventPlatform.Protocol.Schemas
import EventPlatform.Scheduling.Phase

/-! # Broadcasting the lifecycle of an event

`dispatch` is one tick of the orchestrator: it asks the scheduler for the phase
and sends what belongs to it, each lifecycle message at most once per mark in
the shared cache.  An exception of a message builder ends the tick; what was
published and marked before stays. -/

namespace EventPlatform.Orchestrator

open EventPlatform.Lib EventPlatform.Scheduling EventPlatform.Protocol

/-! ## Recipients -/

def participantChannelGroup (participantId : String) : String := s!"participant_{participantId}"

def eventChannelGroup (eventId : String) : String := s!"event_{eventId}"

/-- `int(dt.timestamp() * 1000)`; the quotient and the product are doubles. -/
def datetimeToUnixMs (t : Int) : Int :=
  let timestamp := toDouble ((t : ℚ) / 1000000)
  truncate (toDouble (timestamp * 1000))

structure PairingRecipient where
  participantId : String
  partnerId : String
  roomId : String
  isOfferer : Bool
  partnerDisplayName : String
  partnerTags : List String
  group : String
deriving DecidableEq

def pairRecipients (pair : Pair) : List PairingRecipient :=
  let recipient (self partner : Participant) (isOfferer : Bool) : PairingRecipient :=
    { participantId := self.pk
      partnerId := partner.pk
      roomId := pair.roomId
      isOfferer := isOfferer
      partnerDisplayName := partner.displayName
      partnerTags := partner.tags.map (·.name)
      group := participantChannelGroup self.pk }
  [recipient pair.participantA pair.participantB true,
    recipient pair.participantB pair.participantA false]

def selectPairingRecipients (store : EventStore) (roundObj : Round) : List PairingRecipient :=
  (store.pairs.filter (·.roundNumber = roundObj.number)).flatMap pairRecipients

/-! ## The channel layer and the cache -/

/-- Whether `group_send` of a message to a group succeeds. -/
abbrev ChannelLayer := String → Envelope → Bool

/-- A channel layer that accepts everything. -/
def reliable : ChannelLayer := fun _ _ => true

/-- The keys of `_send_once`. -/
inductive MarkKey where
  | pairing (roundNumber : Nat)
  | roundStart (roundNumber : Nat)
  | warning (roundNumber : Nat)
  | roundEnd (roundNumber : Nat)
  | eventEnd
deriving DecidableEq

structure Publication where
  group : String
  message : Envelope

/-- The marks in the cache and what the channel layer has accepted so far. -/
structure Realtime where
  marks : Finset MarkKey
  published : List Publication

def Realtime.fresh : Realtime := ⟨∅, []⟩

def publish (layer : ChannelLayer) (group : String) (message : Envelope) (rt : Realtime) :
    Bool × Realtime :=
  if layer group message then (true, { rt with published := rt.published ++ [⟨group, message⟩] })
  else (false, rt)

/-- Build and publish one message after another, counting the deliveries. -/
def publishJobs (layer : ChannelLayer) :
    List (String × Checked Envelope) → Realtime → Checked Nat × Realtime
  | [], rt => (.ok 0, rt)
  | (_, .error e) :: _, rt => (.error e, rt)
  | (group, .ok message) :: rest, rt =>
    let (delivered, rt) := publish layer group message rt
    let (count, rt) := publishJobs layer rest rt
    (count.map (· + delivered.toNat), rt)

/-! ## The lifecycle messages -/

def pairingMessage (recipient : PairingRecipient) (roundObj : Round) : Checked Envelope :=
  buildServerPairing roundObj.number recipient.roomId recipient.partnerId
    (datetimeToUnixMs roundObj.startsAt) (datetimeToUnixMs roundObj.endsAt) recipient.isOfferer
    (some recipient.partnerDisplayName) (some recipient.partnerTags)

def pairingJobs (store : EventStore) (roundObj : Round) : List (String × Checked Envelope) :=
  (selectPairingRecipients store roundObj).map fun recipient =>
    (recipient.group, pairingMessage recipient roundObj)

def roundStartJobs (store : EventStore) (roundObj : Round) (now : Int) :
    List (String × Checked Envelope) :=
  (selectPairingRecipients store roundObj).map fun recipient =>
    (recipient.group,
      buildServerRoundStart roundObj.number recipient.roomId (datetimeToUnixMs now))

/-- `max(0, int((round_obj.ends_at - current).total_seconds()))`. -/
def remainingSeconds (roundObj : Round) (now : Int) : Int :=
  max 0 ((roundObj.endsAt - now).tdiv (seconds 1))

def finalSecondsWarningJobs (store : EventStore) (roundObj : Round) (now : Int) :
    List (String × Checked Envelope) :=
  [(eventChannelGroup store.event.pk,
    buildServerRoundWarning roundObj.number (datetimeToUnixMs now) (remainingSeconds roundObj now)
      (datetimeToUnixMs roundObj.endsAt))]

def roundEndJobs (store : EventStore) (roundObj : Round) (now : Int) :
    List (String × Checked Envelope) :=
  [(eventChannelGroup store.event.pk,
    buildServerRoundEnd roundObj.number (datetimeToUnixMs now))]

def eventEndJobs (store : EventStore) (now : Int) : List (String × Checked Envelope) :=
  [(eventChannelGroup store.event.pk,
    buildServerEventEnd "completed" (datetimeToUnixMs now) none)]

/-- One guarded broadcast of `dispatch`. -/
inductive Lifecycle where
  | pairing (roundObj : Round)
  | roundStart (roundObj : Round)
  | warning (roundObj : Round)
  | roundEnd (roundObj : Round)
  | eventEnd

def Lifecycle.key : Lifecycle → MarkKey
  | pairing roundObj => .pairing roundObj.number
  | roundStart roundObj => .roundStart roundObj.number
  | warning roundObj => .warning roundObj.number
  | roundEnd roundObj => .roundEnd roundObj.number
  | eventEnd => .eventEnd

def Lifecycle.type : Lifecycle → MessageType
  | pairing _ => .serverPairing
  | roundStart _ => .serverRoundStart
  | warning _ => .serverRoundWarning
  | roundEnd _ => .serverRoundEnd
  | eventEnd => .serverEventEnd

/-- `broadcast_pairing`, `broadcast_round_start`, and so on. -/
def Lifecycle.jobs (store : EventStore) (now : Int) : Lifecycle → List (String × Checked Envelope)
  | pairing roundObj => pairingJobs store roundObj
  | roundStart roundObj => roundStartJobs store roundObj now
  | warning roundObj => finalSecondsWarningJobs store roundObj now
  | roundEnd roundObj => roundEndJobs store roundObj now
  | eventEnd => eventEndJobs store now

def Lifecycle.roundNumber : Lifecycle → Option Int
  | pairing roundObj => some roundObj.number
  | roundStart roundObj => some roundObj.number
  | warning roundObj => some roundObj.number
  | roundEnd roundObj => some roundObj.number
  | eventEnd => none

/-! ## One tick -/

def Realtime.markSent (key : MarkKey) (rt : Realtime) : Realtime :=
  { rt with marks := insert key rt.marks }

/-- The mark is set after the broadcast, whatever the channel layer did with it. -/
def sendOnce (layer : ChannelLayer) (store : EventStore) (now : Int) (item : Lifecycle)
    (rt : Realtime) : Checked Bool × Realtime :=
  if item.key ∈ rt.marks then (.ok false, rt)
  else
    match publishJobs layer (item.jobs store now) rt with
    | (.error e, rt) => (.error e, rt)
    | (.ok _, rt) => (.ok true, rt.markSent item.key)

/-- The guarded broadcasts of a tick in order; `sent` collects the types sent. -/
def sendAll (layer : ChannelLayer) (store : EventStore) (now : Int) :
    List Lifecycle → Realtime → Checked (List MessageType) × Realtime
  | [], rt => (.ok [], rt)
  | item :: rest, rt =>
    match sendOnce layer store now item rt with
    | (.error e, rt) => (.error e, rt)
    | (.ok now_, rt) =>
      let (sent, rt) := sendAll layer store now rest rt
      (sent.map ((if now_ then [item.type] else []) ++ ·), rt)

structure OrchestratorRealtime where
  isLeader : Bool
  finalSeconds : Int

/-- What the phase calls for, in the order of the branches of `dispatch`. -/
def OrchestratorRealtime.due (o : OrchestratorRealtime) : PhaseResult → List Lifecycle
  | ⟨.preconnect, some activeRound, _⟩ => [.pairing activeRound]
  | ⟨.inRound, some activeRound, remaining⟩ =>
    [.pairing activeRound, .roundStart activeRound]
      ++ if remaining.getD 0 ≤ seconds o.finalSeconds then [.warning activeRound] else []
  | ⟨.break_, some activeRound, _⟩ => [.roundEnd activeRound]
  | ⟨.completed, activeRound, _⟩ => (activeRound.map .roundEnd).toList ++ [.eventEnd]
  | _ => []

inductive DispatchResult where
  | notLeader
  | executed (phase : EventPhase) (roundNumber : Option Nat) (sent : List MessageType)
      (serverTime : Int)

def OrchestratorRealtime.dispatch (o : OrchestratorRealtime) (layer : ChannelLayer)
    (store : EventStore) (current : Int) (rt : Realtime) : Checked DispatchResult × Realtime :=
  if o.isLeader then
    let result := getCurrentPhase preconnectDefault store.rounds current
    let (sent, rt) := sendAll layer store current (o.due result) rt
    (sent.map fun sent =>
      .executed result.phase (result.activeRound.map (·.number)) sent current, rt)
  else (.ok .notLeader, rt)

/-- `reconnect_snapshot_messages` for the participant with primary key `pid`. -/
def reconnectSnapshotMessages (store : EventStore) (pid : String) (current : Int) :
    Checked (List Envelope) := do
  match getCurrentPhase preconnectDefault store.rounds current with
  | ⟨.completed, _, _⟩ =>
    let message ← buildServerEventEnd "completed" (datetimeToUnixMs current) none
    return [message]
  | ⟨phase, some activeRound, _⟩ =>
    if phase = .preconnect ∨ phase = .inRound then
      match (selectPairingRecipients store activeRound).filter (·.participantId = pid) with
      | [] => return []
      | recipient :: _ =>
        let pairing ← pairingMessage recipient activeRound
        if phase = .inRound then
          let roundStart ← buildServerRoundStart activeRound.number recipient.roomId
            (datetimeToUnixMs current)
          return [pairing, roundStart]
        else return [pairing]
    else return []
  | _ => return []

/-! ## What a broadcast does to the cache and the channel -/

/-- Only publications that satisfy `P` were added. -/
def Adds (P : Publication → Prop) (rt rt' : Realtime) : Prop :=
  ∃ added, rt'.published = rt.published ++ added ∧ ∀ p ∈ added, P p

theorem Adds.refl (P : Publication → Prop) (rt : Realtime) : Adds P rt rt :=
  ⟨[], by simp, by simp⟩

theorem Adds.trans {P : Publication → Prop} {first second third : Realtime}
    (h : Adds P first second) (h' : Adds P second third) : Adds P first third := by
  obtain ⟨added, appended, all⟩ := h
  obtain ⟨added', appended', all'⟩ := h'
  refine ⟨added ++ added', by rw [appended', appended, List.append_assoc], fun p member => ?_⟩
  cases List.mem_append.mp member with
  | inl old => exact all p old
  | inr new => exact all' p new

theorem Adds.imp {P Q : Publication → Prop} {rt rt' : Realtime} (h : Adds P rt rt')
    (weaker : ∀ p, P p → Q p) : Adds Q rt rt' := by
  obtain ⟨added, appended, all⟩ := h
  exact ⟨added, appended, fun p member => weaker p (all p member)⟩

/-- The publication is one of the jobs. -/
def OneOf (jobs : List (String × Checked Envelope)) (p : Publication) : Prop :=
  (p.group, .ok p.message) ∈ jobs

theorem publish_marks (layer : ChannelLayer) (group : String) (message : Envelope)
    (rt : Realtime) : (publish layer group message rt).2.marks = rt.marks := by
  simp only [publish]
  split <;> rfl

theorem publish_adds (layer : ChannelLayer) (group : String) (message : Envelope)
    (rt : Realtime) : Adds (· = ⟨group, message⟩) rt (publish layer group message rt).2 := by
  simp only [publish]
  split
  · exact ⟨[⟨group, message⟩], rfl, fun p member => List.mem_singleton.mp member⟩
  · exact Adds.refl _ rt

theorem publishJobs_marks (layer : ChannelLayer) (jobs : List (String × Checked Envelope))
    (rt : Realtime) : (publishJobs layer jobs rt).2.marks = rt.marks := by
  induction jobs generalizing rt with
  | nil => rfl
  | cons job rest ih =>
    obtain ⟨group, built⟩ := job
    cases built with
    | error e => rfl
    | ok message =>
      simp only [publishJobs]
      rw [ih, publish_marks]

theorem publishJobs_adds (layer : ChannelLayer) (jobs : List (String × Checked Envelope))
    (rt : Realtime) : Adds (OneOf jobs) rt (publishJobs layer jobs rt).2 := by
  induction jobs generalizing rt with
  | nil => exact Adds.refl _ rt
  | cons job rest ih =>
    obtain ⟨group, built⟩ := job
    cases built with
    | error e => exact Adds.refl _ rt
    | ok message =>
      simp only [publishJobs]
      have first := (publish_adds layer group message rt).imp (Q := OneOf ((group, .ok message) :: rest))
        fun p same => by subst same; exact List.mem_cons_self
      exact first.trans ((ih _).imp fun p member => List.mem_cons_of_mem _ member)

/-- A broadcast returns normally exactly when all its messages can be built. -/
theorem publishJobs_ok {layer : ChannelLayer} {jobs : List (String × Checked Envelope)}
    {rt : Realtime} : (∃ count, (publishJobs layer jobs rt).1 = .ok count) ↔
      ∀ job ∈ jobs, ∃ message, job.2 = .ok message := by
  induction jobs generalizing rt with
  | nil => simp [publishJobs]
  | cons job rest ih =>
    obtain ⟨group, built⟩ := job
    cases built with
    | error e => simp [publishJobs]
    | ok message =>
      simp only [publishJobs, List.forall_mem_cons, Except.ok.injEq, exists_eq', true_and]
      rw [← @ih (publish layer group message rt).2]
      cases (publishJobs layer rest (publish layer group message rt).2).1 <;> simp [Except.map]

/-- A normal return has published every message that the layer accepts. -/
theorem publishJobs_published {layer : ChannelLayer} {jobs : List (String × Checked Envelope)}
    {rt : Realtime} {group : String} {message : Envelope} (accepts : layer group message = true)
    (member : (group, .ok message) ∈ jobs)
    (built : ∀ job ∈ jobs, ∃ message, job.2 = .ok message) :
    ⟨group, message⟩ ∈ (publishJobs layer jobs rt).2.published := by
  induction jobs generalizing rt with
  | nil => cases member
  | cons job rest ih =>
    obtain ⟨group', built'⟩ := job
    obtain ⟨message', rfl⟩ := built _ List.mem_cons_self
    simp only [publishJobs]
    cases List.mem_cons.mp member with
    | inl here =>
      cases here
      obtain ⟨added, appended, _⟩ := publishJobs_adds layer rest (publish layer group message rt).2
      rw [appended]
      exact List.mem_append_left _ (by simp [publish, accepts])
    | inr later => exact ih later fun job inRest => built job (List.mem_cons_of_mem _ inRest)

/-! ## Guarded broadcasts -/

theorem sendOnce_adds (layer : ChannelLayer) (store : EventStore) (now : Int) (item : Lifecycle)
    (rt : Realtime) :
    Adds (OneOf (item.jobs store now)) rt (sendOnce layer store now item rt).2 := by
  have added := publishJobs_adds layer (item.jobs store now) rt
  simp only [sendOnce]
  split
  · exact Adds.refl _ rt
  · cases result : publishJobs layer (item.jobs store now) rt with
    | mk outcome rt' =>
      rw [result] at added
      cases outcome <;> exact added

/-- A mark appears only when its own broadcast returned normally. -/
theorem sendOnce_marks {layer : ChannelLayer} {store : EventStore} {now : Int} {item : Lifecycle}
    {rt : Realtime} {key : MarkKey} (marked : key ∈ (sendOnce layer store now item rt).2.marks) :
    key ∈ rt.marks ∨ (key = item.key ∧ item.key ∉ rt.marks ∧
      ∀ job ∈ item.jobs store now, ∃ message, job.2 = .ok message) := by
  have kept := publishJobs_marks layer (item.jobs store now) rt
  simp only [sendOnce] at marked
  split at marked
  next => exact .inl marked
  next fresh =>
    cases result : publishJobs layer (item.jobs store now) rt with
    | mk outcome rt' =>
      rw [result] at marked kept
      cases outcome with
      | error e => exact .inl (kept ▸ marked)
      | ok count =>
        cases Finset.mem_insert.mp marked with
        | inl same => exact .inr ⟨same, fresh, publishJobs_ok.mp ⟨count, by rw [result]⟩⟩
        | inr old => exact .inl (kept ▸ old)

theorem sendOnce_keeps {layer : ChannelLayer} {store : EventStore} {now : Int} {item : Lifecycle}
    {rt : Realtime} {key : MarkKey} (marked : key ∈ rt.marks) :
    key ∈ (sendOnce layer store now item rt).2.marks := by
  have kept := publishJobs_marks layer (item.jobs store now) rt
  simp only [sendOnce]
  split
  · exact marked
  · cases result : publishJobs layer (item.jobs store now) rt with
    | mk outcome rt' =>
      rw [result] at kept
      rw [← kept] at marked
      cases outcome with
      | error e => exact marked
      | ok count => exact Finset.mem_insert_of_mem marked

theorem sendOnce_ok {layer : ChannelLayer} {store : EventStore} {now : Int} {item : Lifecycle}
    {rt : Realtime} : (∃ sent, (sendOnce layer store now item rt).1 = .ok sent) ↔
      item.key ∈ rt.marks ∨ ∀ job ∈ item.jobs store now, ∃ message, job.2 = .ok message := by
  simp only [sendOnce]
  by_cases marked : item.key ∈ rt.marks
  · simp [marked]
  · rw [if_neg marked, ← @publishJobs_ok layer _ rt]
    cases result : publishJobs layer (item.jobs store now) rt with
    | mk outcome rt' => cases outcome <;> simp [marked]

theorem sendOnce_published {layer : ChannelLayer} {store : EventStore} {now : Int}
    {item : Lifecycle} {rt : Realtime} {group : String} {message : Envelope}
    (accepts : layer group message = true) (fresh : item.key ∉ rt.marks)
    (member : (group, .ok message) ∈ item.jobs store now)
    (built : ∀ job ∈ item.jobs store now, ∃ message, job.2 = .ok message) :
    ⟨group, message⟩ ∈ (sendOnce layer store now item rt).2.published := by
  have published := @publishJobs_published layer _ rt _ _ accepts member built
  simp only [sendOnce]
  rw [if_neg fresh]
  cases result : publishJobs layer (item.jobs store now) rt with
  | mk outcome rt' =>
    rw [result] at published
    cases outcome <;> exact published

theorem sendOnce_marked {layer : ChannelLayer} {store : EventStore} {now : Int} {item : Lifecycle}
    {rt : Realtime} {sent : Bool} (ok : (sendOnce layer store now item rt).1 = .ok sent) :
    item.key ∈ (sendOnce layer store now item rt).2.marks := by
  simp only [sendOnce] at ok ⊢
  split at ok
  next marked => rwa [if_pos marked]
  next fresh =>
    rw [if_neg fresh]
    cases result : publishJobs layer (item.jobs store now) rt with
    | mk outcome rt' =>
      rw [result] at ok
      cases outcome with
      | error e => cases ok
      | ok count => exact Finset.mem_insert_self _ _

/-- What every broadcast of a list keeps is kept by the tick.  A broadcast is
    reached only when those before it are marked. -/
theorem sendAll_invariant {layer : ChannelLayer} {store : EventStore} {now : Int}
    {Inv : Realtime → Prop} (done items : List Lifecycle)
    (preserved : ∀ before item after, done ++ items = before ++ item :: after → ∀ rt, Inv rt →
      (∀ b ∈ before, b.key ∈ rt.marks) → Inv (sendOnce layer store now item rt).2)
    {rt : Realtime} (start : Inv rt) (marked : ∀ b ∈ done, b.key ∈ rt.marks) :
    Inv (sendAll layer store now items rt).2 := by
  induction items generalizing done rt with
  | nil => exact start
  | cons item rest ih =>
    have next := preserved done item rest rfl rt start marked
    simp only [sendAll]
    cases result : sendOnce layer store now item rt with
    | mk outcome rt' =>
      rw [result] at next
      cases outcome with
      | error e => exact next
      | ok sent =>
        -- a broadcast that returns has marked its key, so the next one is reached with it marked
        have here : item.key ∈ rt'.marks := by
          have := @sendOnce_marked layer store now item rt sent (by rw [result])
          rwa [result] at this
        have kept : ∀ b ∈ done, b.key ∈ rt'.marks := by
          intro b member
          have := @sendOnce_keeps layer store now item _ _ (marked b member)
          rwa [result] at this
        refine ih (done ++ [item]) (by simpa using preserved) next fun b member => ?_
        cases List.mem_append.mp member with
        | inl old => exact kept b old
        | inr new => rw [List.mem_singleton.mp new]; exact here

/-- The tick returns normally when every broadcast it may make can be built. -/
theorem sendAll_ok {layer : ChannelLayer} {store : EventStore} {now : Int} {items : List Lifecycle}
    (built : ∀ item ∈ items, ∀ job ∈ item.jobs store now, ∃ message, job.2 = .ok message)
    (rt : Realtime) : ∃ sent, (sendAll layer store now items rt).1 = .ok sent := by
  induction items generalizing rt with
  | nil => exact ⟨[], rfl⟩
  | cons item rest ih =>
    obtain ⟨sent, first⟩ := (@sendOnce_ok layer store now item rt).mpr
      (.inr (built item List.mem_cons_self))
    obtain ⟨later, others⟩ := ih (fun item member => built item (List.mem_cons_of_mem _ member))
      (sendOnce layer store now item rt).2
    simp only [sendAll]
    cases result : sendOnce layer store now item rt with
    | mk outcome rt' =>
      rw [result] at first others
      cases first
      exact ⟨(if sent then [item.type] else []) ++ later, by simp only [others]; rfl⟩

theorem sendAll_keeps {layer : ChannelLayer} {store : EventStore} {now : Int} {items : List Lifecycle}
    {rt : Realtime} {key : MarkKey} (marked : key ∈ rt.marks) :
    key ∈ (sendAll layer store now items rt).2.marks := by
  let Inv (rt : Realtime) : Prop := key ∈ rt.marks
  have start : Inv rt := marked
  exact @sendAll_invariant layer store now Inv [] items
    (fun _ _ _ _ _ marked _ => sendOnce_keeps marked) _ start
    (fun _ member => by cases member)

/-- A tick that returns normally leaves everything marked that was due. -/
theorem sendAll_marks {layer : ChannelLayer} {store : EventStore} {now : Int} {items : List Lifecycle}
    {rt : Realtime} (ok : ∃ sent, (sendAll layer store now items rt).1 = .ok sent) :
    ∀ item ∈ items, item.key ∈ (sendAll layer store now items rt).2.marks := by
  induction items generalizing rt with
  | nil => simp
  | cons item rest ih =>
    obtain ⟨sent, ok⟩ := ok
    simp only [sendAll] at ok ⊢
    cases result : sendOnce layer store now item rt with
    | mk outcome rt' =>
      rw [result] at ok
      cases outcome with
      | error e => cases ok
      | ok now_ =>
        have here : item.key ∈ rt'.marks := by
          have := @sendOnce_marked layer store now item rt now_ (by rw [result])
          rwa [result] at this
        -- the tick returns, so the rest of the list has returned too
        have later : ∃ sent, (sendAll layer store now rest rt').1 = .ok sent := by
          cases outcome : (sendAll layer store now rest rt').1 with
          | error e => simp [outcome, Except.map] at ok
          | ok sent => exact ⟨sent, rfl⟩
        intro b member
        cases List.mem_cons.mp member with
        | inl same => rw [same]; exact sendAll_keeps here
        | inr inRest => exact ih later b inRest

/-- An exception of the first broadcast ends the tick. -/
theorem sendAll_error {layer : ChannelLayer} {store : EventStore} {now : Int} {item : Lifecycle}
    {rest : List Lifecycle} {rt : Realtime}
    (failed : ¬ ∃ sent, (sendOnce layer store now item rt).1 = .ok sent) :
    ¬ ∃ sent, (sendAll layer store now (item :: rest) rt).1 = .ok sent := by
  simp only [sendAll]
  cases result : sendOnce layer store now item rt with
  | mk outcome rt' =>
    rw [result] at failed
    cases outcome with
    | error e => exact fun ⟨_, same⟩ => by cases same
    | ok sent => exact absurd ⟨sent, rfl⟩ failed

theorem sendAll_adds {layer : ChannelLayer} {store : EventStore} {now : Int}
    {items : List Lifecycle} {P : Publication → Prop}
    (all : ∀ item ∈ items, ∀ p, OneOf (item.jobs store now) p → P p) (rt : Realtime) :
    Adds P rt (sendAll layer store now items rt).2 := by
  refine sendAll_invariant [] items (fun before item after split rt' added _ => ?_) (Adds.refl P rt)
    (fun _ member => by cases member)
  have member : item ∈ items := by
    rw [← List.nil_append items, split]
    simp
  exact added.trans ((sendOnce_adds layer store now item rt').imp (all item member))

/-- A tick whose broadcasts have all been made changes nothing. -/
theorem sendAll_sent {layer : ChannelLayer} {store : EventStore} {now : Int}
    {items : List Lifecycle} {rt : Realtime} (sent : ∀ item ∈ items, item.key ∈ rt.marks) :
    (sendAll layer store now items rt).2 = rt := by
  refine @sendAll_invariant layer store now (· = rt) [] items
    (fun before item after split rt' same _ => ?_) rt rfl (fun _ member => by cases member)
  have member : item ∈ items := by
    rw [← List.nil_append items, split]
    simp
  subst same
  rw [sendOnce, if_pos (sent item member)]

theorem dispatch_ok {o : OrchestratorRealtime} (leader : o.isLeader = true) {layer : ChannelLayer}
    {store : EventStore} {t : Int} {rt : Realtime} :
    (∃ result, (o.dispatch layer store t rt).1 = .ok result) ↔
      ∃ sent, (sendAll layer store t
        (o.due (getCurrentPhase preconnectDefault store.rounds t)) rt).1 = .ok sent := by
  simp only [OrchestratorRealtime.dispatch, leader, if_true]
  cases (sendAll layer store t (o.due (getCurrentPhase preconnectDefault store.rounds t)) rt).1 <;>
    simp [Except.map]

theorem dispatch_leader {o : OrchestratorRealtime} (leader : o.isLeader = true)
    (layer : ChannelLayer) (store : EventStore) (t : Int) (rt : Realtime) :
    (o.dispatch layer store t rt).2 =
      (sendAll layer store t (o.due (getCurrentPhase preconnectDefault store.rounds t)) rt).2 := by
  simp only [OrchestratorRealtime.dispatch, leader, if_true]

theorem dispatch_follower {o : OrchestratorRealtime} (follower : o.isLeader = false)
    (layer : ChannelLayer) (store : EventStore) (t : Int) (rt : Realtime) :
    (o.dispatch layer store t rt).2 = rt := by
  simp only [OrchestratorRealtime.dispatch, follower, Bool.false_eq_true, if_false]

theorem dispatch_keeps {o : OrchestratorRealtime} {layer : ChannelLayer} {store : EventStore} {t : Int}
    {rt : Realtime} {key : MarkKey} (marked : key ∈ rt.marks) :
    key ∈ (o.dispatch layer store t rt).2.marks := by
  cases isLeader : o.isLeader with
  | false => rwa [dispatch_follower isLeader]
  | true =>
    rw [dispatch_leader isLeader]
    exact sendAll_keeps marked

/-- A mark that a tick adds was due. -/
theorem dispatch_marks {o : OrchestratorRealtime} {layer : ChannelLayer} {store : EventStore} {t : Int}
    {rt : Realtime} {key : MarkKey} (marked : key ∈ (o.dispatch layer store t rt).2.marks) :
    key ∈ rt.marks ∨
      ∃ item ∈ o.due (getCurrentPhase preconnectDefault store.rounds t), key = item.key := by
  cases isLeader : o.isLeader with
  | false =>
    rw [dispatch_follower isLeader] at marked
    exact .inl marked
  | true =>
    rw [dispatch_leader isLeader] at marked
    let due := o.due (getCurrentPhase preconnectDefault store.rounds t)
    let Inv (rt' : Realtime) : Prop :=
      key ∈ rt'.marks → key ∈ rt.marks ∨ ∃ item ∈ due, key = item.key
    refine @sendAll_invariant layer store t Inv [] due (fun before item after split rt' inv _ now_ => ?_)
      rt .inl (fun _ member => by cases member) marked
    cases sendOnce_marks now_ with
    | inl old => exact inv old
    | inr new =>
      have member : item ∈ due := by
        rw [← List.nil_append due, split]
        simp
      exact .inr ⟨item, member, new.1⟩

/-! ## What a message says -/

theorem jobs_message {item : Lifecycle} {store : EventStore} {now : Int} {p : Publication}
    (member : OneOf (item.jobs store now) p) :
    p.message.type = item.type ∧ p.message.roundNumber = item.roundNumber := by
  -- every message of a round has its number in front
  have read : ∀ {n : Int} {fields : Payload}, (Dict.get? (("round_number", .int n) :: fields)
      "round_number").bind Json.readInt = some n := by
    intro n fields
    simp [Dict.get?_cons, Json.readInt]
  cases item with
  | pairing roundObj =>
    obtain ⟨recipient, _, same⟩ := List.mem_map.mp member
    obtain ⟨_, message⟩ := buildMessage_ok.mp (Prod.mk.inj same).2
    rw [message]
    exact ⟨rfl, read⟩
  | roundStart roundObj =>
    obtain ⟨recipient, _, same⟩ := List.mem_map.mp member
    obtain ⟨_, message⟩ := buildMessage_ok.mp (Prod.mk.inj same).2
    rw [message]
    exact ⟨rfl, read⟩
  | warning roundObj =>
    obtain ⟨_, message⟩ := buildMessage_ok.mp (Prod.mk.inj (List.mem_singleton.mp member)).2.symm
    rw [message]
    exact ⟨rfl, read⟩
  | roundEnd roundObj =>
    obtain ⟨_, message⟩ := buildMessage_ok.mp (Prod.mk.inj (List.mem_singleton.mp member)).2.symm
    rw [message]
    exact ⟨rfl, read⟩
  | eventEnd =>
    obtain ⟨_, message⟩ := buildMessage_ok.mp (Prod.mk.inj (List.mem_singleton.mp member)).2.symm
    rw [message]
    exact ⟨rfl, by simp [Envelope.roundNumber, Lifecycle.roundNumber, Dict.get?_cons]⟩

/-- No validator lets a round after the sixth through. -/
theorem jobs_roundNumber_le {item : Lifecycle} {store : EventStore} {now : Int} {p : Publication}
    (member : OneOf (item.jobs store now) p) : ∀ n, item.roundNumber = some n → n ≤ 6 := by
  intro n number
  cases item with
  | pairing roundObj =>
    cases number
    obtain ⟨recipient, _, same⟩ := List.mem_map.mp member
    exact (buildServerPairing_ok.mp ⟨_, (Prod.mk.inj same).2⟩).1.2
  | roundStart roundObj =>
    cases number
    obtain ⟨recipient, _, same⟩ := List.mem_map.mp member
    exact (buildServerRoundStart_ok.mp ⟨_, (Prod.mk.inj same).2⟩).1.2
  | warning roundObj =>
    cases number
    exact (buildServerRoundWarning_ok.mp ⟨_, (Prod.mk.inj (List.mem_singleton.mp member)).2.symm⟩).1.2
  | roundEnd roundObj =>
    cases number
    exact (buildServerRoundEnd_ok.mp ⟨_, (Prod.mk.inj (List.mem_singleton.mp member)).2.symm⟩).1.2
  | eventEnd => cases number

/-- No rounding moves an instant over the first millisecond. -/
theorem datetimeToUnixMs_pos {t : Int} : 0 < datetimeToUnixMs t ↔ 1000 ≤ t := by
  rw [datetimeToUnixMs, truncate_pos]
  constructor
  · intro whole
    by_contra early
    have early : (t : ℚ) ≤ 999 := by exact_mod_cast Int.le_of_lt_add_one (not_le.mp early)
    cases le_or_gt (t : ℚ) 0 with
    | inl before =>
      have timestamp : toDouble ((t : ℚ) / 1000000) ≤ 0 := toDouble_nonpos (by linarith)
      have product := toDouble_nonpos (show toDouble ((t : ℚ) / 1000000) * 1000 ≤ 0 by linarith)
      linarith
    | inr after =>
      have nonneg : 0 ≤ (t : ℚ) / 1000000 := by linarith
      have timestamp := toDouble_bounds nonneg
      have product := (toDouble_bounds (mul_nonneg (toDouble_nonneg nonneg) (by norm_num : (0 : ℚ) ≤ 1000))).2
      linarith
  · intro late
    cases late.eq_or_lt with
    | inl first =>
      -- a thousandth is rounded up, and its product to one
      rw [← first]
      decide +kernel
    | inr later =>
      have later : (1001 : ℚ) ≤ t := by exact_mod_cast later
      have nonneg : 0 ≤ (t : ℚ) / 1000000 := by linarith
      have timestamp := (toDouble_bounds nonneg).1
      have product := (toDouble_bounds (mul_nonneg (toDouble_nonneg nonneg) (by norm_num : (0 : ℚ) ≤ 1000))).1
      linarith

/-- A tick has no two broadcasts of one key. -/
theorem due_nodup (o : OrchestratorRealtime) (result : PhaseResult) :
    ((o.due result).map Lifecycle.key).Nodup := by
  simp only [OrchestratorRealtime.due]
  split
  next => simp
  next r remaining => split <;> simp [Lifecycle.key]
  next => simp
  next activeRound remaining => cases activeRound <;> simp [Lifecycle.key]
  next => simp

theorem due_eq_of_key {o : OrchestratorRealtime} {result : PhaseResult} {item item' : Lifecycle}
    (due : item ∈ o.due result) (due' : item' ∈ o.due result) (same : item.key = item'.key) :
    item = item' :=
  List.inj_on_of_nodup_map (due_nodup o result) due due' same

/-! ## The phase of a tick -/

/-- The tick at `t` finds the event in this phase of round `r`. -/
def Finds (rounds : List Round) (phase : EventPhase) (r : Round) (t : Int) : Prop :=
  (getCurrentPhase preconnectDefault rounds t).phase = phase ∧
    (getCurrentPhase preconnectDefault rounds t).activeRound = some r

instance (rounds : List Round) (phase : EventPhase) (r : Round) (t : Int) :
    Decidable (Finds rounds phase r t) := inferInstanceAs (Decidable (_ ∧ _))

/-- What is due, by the phase that calls for it. -/
inductive Due (rounds : List Round) (t : Int) : Lifecycle → Prop where
  | pairing (r : Round) : Finds rounds .preconnect r t ∨ Finds rounds .inRound r t →
      Due rounds t (.pairing r)
  | roundStart (r : Round) : Finds rounds .inRound r t → Due rounds t (.roundStart r)
  | warning (r : Round) : Finds rounds .inRound r t → Due rounds t (.warning r)
  | roundEnd (r : Round) : Finds rounds .break_ r t ∨ Finds rounds .completed r t →
      Due rounds t (.roundEnd r)
  | eventEnd (last : Round) : Finds rounds .completed last t → Due rounds t .eventEnd

variable {rounds : List Round} {t : Int} {r : Round}

theorem finds_iff {phase : EventPhase} : Finds rounds phase r t ↔
    ∃ remaining, getCurrentPhase preconnectDefault rounds t = ⟨phase, some r, remaining⟩ := by
  constructor
  · rintro ⟨rfl, active⟩
    exact ⟨(getCurrentPhase preconnectDefault rounds t).remaining, by rw [← active]⟩
  · rintro ⟨remaining, result⟩
    exact ⟨congrArg PhaseResult.phase result, congrArg PhaseResult.activeRound result⟩

theorem Finds.cell {phase : EventPhase} (wf : WellFormed rounds) (finds : Finds rounds phase r t) :
    ∃ remaining, Cell preconnectDefault rounds t ⟨phase, some r, remaining⟩ := by
  obtain ⟨remaining, result⟩ := finds_iff.mp finds
  have nonempty : rounds ≠ [] := by
    intro empty
    rw [empty] at result
    cases result
  have cell := getCurrentPhase_cell preconnectDefault t wf nonempty
  rw [result] at cell
  exact ⟨remaining, cell⟩

theorem Finds.mem {phase : EventPhase} (wf : WellFormed rounds) (finds : Finds rounds phase r t) :
    r ∈ rounds := by
  obtain ⟨_, cell⟩ := finds.cell wf
  cases cell <;> assumption

theorem Finds.unique {phase phase' : EventPhase} {s : Round} (finds : Finds rounds phase r t)
    (finds' : Finds rounds phase' s t) : phase = phase' ∧ r = s := by
  obtain ⟨rfl, active⟩ := finds
  obtain ⟨rfl, active'⟩ := finds'
  rw [active] at active'
  exact ⟨rfl, Option.some.inj active'⟩

theorem Finds.preconnect (wf : WellFormed rounds) (finds : Finds rounds .preconnect r t) :
    r.startsAt - preconnectDefault ≤ t ∧ t < r.startsAt ∧
      ∀ s ∈ rounds, s.number < r.number → s.endsAt ≤ t := by
  obtain ⟨_, cell⟩ := finds.cell wf
  cases cell with
  | preconnect _ _ begun waiting passed => exact ⟨begun, waiting, passed⟩

theorem Finds.inRound (wf : WellFormed rounds) (finds : Finds rounds .inRound r t) :
    r.startsAt ≤ t ∧ t < r.endsAt := by
  obtain ⟨_, cell⟩ := finds.cell wf
  cases cell with
  | inRound _ _ begun running => exact ⟨begun, running⟩

theorem Finds.break_ (wf : WellFormed rounds) (finds : Finds rounds .break_ r t) :
    ∃ next ∈ rounds, next.number = r.number + 1 ∧ r.endsAt ≤ t ∧
      t < next.startsAt - preconnectDefault := by
  obtain ⟨_, cell⟩ := finds.cell wf
  cases cell with
  | break_ _ next _ member number ended resting => exact ⟨next, member, number, ended, resting⟩

theorem Finds.completed (wf : WellFormed rounds) (finds : Finds rounds .completed r t) :
    r.number = rounds.length ∧ r.endsAt ≤ t := by
  obtain ⟨_, cell⟩ := finds.cell wf
  cases cell with
  | completed _ _ number ended => exact ⟨number, ended⟩

theorem finds_running (wf : WellFormed rounds) (member : r ∈ rounds) (begun : r.startsAt ≤ t)
    (running : t < r.endsAt) : Finds rounds .inRound r t :=
  finds_iff.mpr ⟨_, getCurrentPhase_running wf (by decide) member begun running⟩

/-- Once the event is completed the last round is reported with it. -/
theorem finds_of_completed (wf : WellFormed rounds)
    (phase : (getCurrentPhase preconnectDefault rounds t).phase = .completed) :
    ∃ last, Finds rounds .completed last t := by
  have nonempty : rounds ≠ [] := by
    intro empty
    rw [empty] at phase
    cases phase
  have cell := getCurrentPhase_cell preconnectDefault t wf nonempty
  generalize result : getCurrentPhase preconnectDefault rounds t = found at phase cell
  cases cell with
  | completed last => exact ⟨last, finds_iff.mpr ⟨_, result⟩⟩
  | _ => cases phase

theorem due_break {o : OrchestratorRealtime} (finds : Finds rounds .break_ r t) :
    o.due (getCurrentPhase preconnectDefault rounds t) = [.roundEnd r] := by
  obtain ⟨_, result⟩ := finds_iff.mp finds
  rw [result]
  rfl

theorem due_completed {o : OrchestratorRealtime} (finds : Finds rounds .completed r t) :
    o.due (getCurrentPhase preconnectDefault rounds t) = [.roundEnd r, .eventEnd] := by
  obtain ⟨_, result⟩ := finds_iff.mp finds
  rw [result]
  rfl

theorem mem_due {o : OrchestratorRealtime} {item : Lifecycle} (wf : WellFormed rounds)
    (due : item ∈ o.due (getCurrentPhase preconnectDefault rounds t)) : Due rounds t item := by
  generalize result : getCurrentPhase preconnectDefault rounds t = found at due
  have finds : ∀ {phase r remaining}, found = ⟨phase, some r, remaining⟩ →
      Finds rounds phase r t := fun same => finds_iff.mpr ⟨_, result.trans same⟩
  simp only [OrchestratorRealtime.due] at due
  split at due
  next r remaining =>
    rw [List.mem_singleton.mp due]
    exact .pairing r (.inl (finds rfl))
  next r remaining =>
    cases List.mem_append.mp due with
    | inl first =>
      cases List.mem_cons.mp first with
      | inl here => rw [here]; exact .pairing r (.inr (finds rfl))
      | inr later => rw [List.mem_singleton.mp later]; exact .roundStart r (finds rfl)
    | inr last =>
      split at last
      · rw [List.mem_singleton.mp last]
        exact .warning r (finds rfl)
      · cases last
  next r remaining =>
    rw [List.mem_singleton.mp due]
    exact .roundEnd r (.inl (finds rfl))
  next activeRound remaining =>
    -- `due` asks for no round here, but a completed event reports its last one
    obtain ⟨last, completed⟩ := finds_of_completed wf (by rw [result])
    have active := completed.2
    rw [result] at active
    subst active
    cases List.mem_append.mp due with
    | inl first =>
      rw [List.mem_singleton.mp first]
      exact .roundEnd last (.inr completed)
    | inr later =>
      rw [List.mem_singleton.mp later]
      exact .eventEnd last completed
  next => cases due

/-- Inside a round only messages of that round are due. -/
theorem due_inRound {o : OrchestratorRealtime} {item : Lifecycle} (wf : WellFormed rounds)
    (finds : Finds rounds .inRound r t)
    (due : item ∈ o.due (getCurrentPhase preconnectDefault rounds t)) :
    item = .pairing r ∨ item = .roundStart r ∨ item = .warning r := by
  have other : ∀ {phase s}, Finds rounds phase s t → phase = .inRound ∧ s = r :=
    fun finds' => finds'.unique finds
  cases mem_due wf due with
  | pairing s finds' =>
    cases finds' with
    | inl finds' => cases (other finds').1
    | inr finds' => exact .inl (by rw [(other finds').2])
  | roundStart s finds' => exact .inr (.inl (by rw [(other finds').2]))
  | warning s finds' => exact .inr (.inr (by rw [(other finds').2]))
  | roundEnd s finds' =>
    cases finds' with
    | inl finds' => cases (other finds').1
    | inr finds' => cases (other finds').1
  | eventEnd last finds' => cases (other finds').1

/-! ## The snapshot -/

variable {store : EventStore} {pid : String} {recipient : PairingRecipient}
  {rest : List PairingRecipient}

theorem snapshot_preconnect (finds : Finds store.rounds .preconnect r t)
    (found : (selectPairingRecipients store r).filter (·.participantId = pid) = recipient :: rest) :
    reconnectSnapshotMessages store pid t = (do
      let pairing ← pairingMessage recipient r
      return [pairing]) := by
  obtain ⟨_, result⟩ := finds_iff.mp finds
  simp only [reconnectSnapshotMessages, result]
  simp [found]

theorem snapshot_inRound (finds : Finds store.rounds .inRound r t)
    (found : (selectPairingRecipients store r).filter (·.participantId = pid) = recipient :: rest) :
    reconnectSnapshotMessages store pid t = (do
      let pairing ← pairingMessage recipient r
      let roundStart ← buildServerRoundStart r.number recipient.roomId (datetimeToUnixMs t)
      return [pairing, roundStart]) := by
  obtain ⟨_, result⟩ := finds_iff.mp finds
  simp only [reconnectSnapshotMessages, result]
  simp [found]

end EventPlatform.Orchestrator
