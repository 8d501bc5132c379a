import EventPlatform.Orchestrator.Dispatch
import EventPlatform.Lib.Runs

/-! # Does a mark mean that the message went out?

A tick skips the keys that are marked.  `_send_once` writes the mark when the
broadcast returns, and a broadcast returns normally however many of its
publications have failed; a message that was lost then is never tried again. -/

namespace EventPlatform.Orchestrator

open EventPlatform.Lib EventPlatform.Scheduling EventPlatform.Protocol

/-! ## What a key stands for -/

def MarkKey.type : MarkKey → MessageType
  | pairing _ => .serverPairing
  | roundStart _ => .serverRoundStart
  | warning _ => .serverRoundWarning
  | roundEnd _ => .serverRoundEnd
  | eventEnd => .serverEventEnd

def MarkKey.roundNumber : MarkKey → Option Int
  | pairing n => some n
  | roundStart n => some n
  | warning n => some n
  | roundEnd n => some n
  | eventEnd => none

/-- The groups that the messages of the key are addressed to. -/
def MarkKey.groups (store : EventStore) : MarkKey → List String
  | pairing n | roundStart n =>
    ((store.pairs.filter (·.roundNumber = n)).flatMap pairRecipients).map (·.group)
  | warning _ | roundEnd _ | eventEnd => [eventChannelGroup store.event.pk]

theorem groups_key (store : EventStore) (now : Int) (item : Lifecycle) :
    item.key.groups store = (item.jobs store now).map (·.1) := by
  cases item with
  | pairing r | roundStart r =>
    simp [Lifecycle.key, Lifecycle.jobs, MarkKey.groups, pairingJobs, roundStartJobs,
      selectPairingRecipients, Function.comp_def]
  | warning r | roundEnd r | eventEnd => rfl

/-- The message was published to the group. -/
def Reached (published : List Publication) (key : MarkKey) (group : String) : Prop :=
  ∃ p ∈ published, p.group = group ∧ p.message.type = key.type ∧
    p.message.roundNumber = key.roundNumber

instance (published : List Publication) (key : MarkKey) (group : String) :
    Decidable (Reached published key group) :=
  inferInstanceAs (Decidable (∃ p ∈ published, _))

/-- A key is marked only if all its groups were published to.  An unmarked key is
    sent by the next tick that finds it due. -/
def MarksDelivered (store : EventStore) (rt : Realtime) : Prop :=
  ∀ key ∈ rt.marks, ∀ group ∈ key.groups store, Reached rt.published key group

/-! ## Ticks over a failing channel layer -/

/-- A layer that is absent accepts nothing. -/
structure Tick where
  now : Int
  layer : ChannelLayer

def OrchestratorRealtime.tick (o : OrchestratorRealtime) (store : EventStore) (rt : Realtime)
    (tick : Tick) : Realtime :=
  (o.dispatch tick.layer store tick.now rt).2

/-- The tick comes to the broadcast and completes it, as nothing up to it is refused by
    a builder, and for one of its groups neither this tick nor an earlier one gets
    a message through. -/
def LosesAt (store : EventStore) (rt : Realtime) (tick : Tick)
    (before : List Lifecycle) (item : Lifecycle) : Prop :=
  item.key ∉ rt.marks ∧
    (∀ b ∈ before ++ [item], b.key ∈ rt.marks ∨ ∀ job ∈ b.jobs store tick.now, job.2.isOk = true) ∧
    ∃ group ∈ item.key.groups store, ¬ Reached rt.published item.key group ∧
      ∀ job ∈ item.jobs store tick.now, job.1 = group →
        ∀ message ∈ job.2.toOption, tick.layer group message = false

/-- The tick marks a key without having reached all its groups. -/
def Loses (o : OrchestratorRealtime) (store : EventStore) (rt : Realtime) (tick : Tick) : Prop :=
  let due := o.due (getCurrentPhase preconnectDefault store.rounds tick.now)
  ∃ n < due.length, ∃ item ∈ due[n]?, LosesAt store rt tick (due.take n) item

instance (store : EventStore) (rt : Realtime) (tick : Tick) (before : List Lifecycle)
    (item : Lifecycle) : Decidable (LosesAt store rt tick before item) :=
  inferInstanceAs (Decidable (_ ∧ (∀ _ ∈ _, _) ∧ ∃ _ ∈ _, _))

instance (o : OrchestratorRealtime) (store : EventStore) (rt : Realtime) (tick : Tick) :
    Decidable (Loses o store rt tick) :=
  inferInstanceAs (Decidable (∃ n < _, ∃ _ ∈ _, _))

variable {o : OrchestratorRealtime} {store : EventStore} {rt rt' : Realtime} {tick : Tick}

theorem Reached.mono {published published' : List Publication} {key : MarkKey} {group : String}
    (reached : Reached published key group) (kept : ∀ p ∈ published, p ∈ published') :
    Reached published' key group := by
  obtain ⟨p, member, carries⟩ := reached
  exact ⟨p, kept p member, carries⟩

theorem key_type (item : Lifecycle) : item.key.type = item.type := by
  cases item <;> rfl

theorem key_roundNumber (item : Lifecycle) : item.key.roundNumber = item.roundNumber := by
  cases item <;> rfl

/-- The tick has added to what there was before it. -/
structure Grows (rt rt' : Realtime) : Prop where
  published : ∀ p ∈ rt.published, p ∈ rt'.published
  marks : rt.marks ⊆ rt'.marks

theorem grows_sendOnce (layer : ChannelLayer) (store : EventStore) (now : Int) (item : Lifecycle)
    (rt : Realtime) : Grows rt (sendOnce layer store now item rt).2 := by
  obtain ⟨added, appended, _⟩ := sendOnce_adds layer store now item rt
  refine ⟨fun p member => ?_, fun key marked => sendOnce_keeps marked⟩
  rw [appended]
  exact List.mem_append_left _ member

/-- What the tick has marked so far it has built. -/
def Built (due : List Lifecycle) (store : EventStore) (now : Int) (rt rt' : Realtime) : Prop :=
  ∀ b ∈ due, b.key ∈ rt'.marks → b.key ∈ rt.marks ∨ ∀ job ∈ b.jobs store now, job.2.isOk = true

theorem isOk_iff {α : Type} {built : Checked α} :
    built.isOk = true ↔ ∃ message, built = .ok message := by
  cases built <;> simp [Except.isOk, Except.toBool]

theorem Built.sendOnce {due : List Lifecycle} {item : Lifecycle} {layer : ChannelLayer} {now : Int}
    (built : Built due store now rt rt')
    (distinct : ∀ b ∈ due, b.key = item.key → b = item) :
    Built due store now rt (sendOnce layer store now item rt').2 := by
  intro b member marked
  cases sendOnce_marks marked with
  | inl old => exact built b member old
  | inr new =>
    obtain ⟨same, _, ok⟩ := new
    rw [distinct b member same]
    exact .inr fun job inJobs => isOk_iff.mpr (ok job inJobs)

/-- One guarded broadcast of a tick that loses nothing. -/
theorem MarksDelivered.sendOnce (delivered : MarksDelivered store rt') (grows : Grows rt rt')
    {before : List Lifecycle} {item : Lifecycle}
    (reached : ∀ b ∈ before, b.key ∈ rt.marks ∨ ∀ job ∈ b.jobs store tick.now, job.2.isOk = true)
    (kept : ¬ LosesAt store rt tick before item) :
    MarksDelivered store (sendOnce tick.layer store tick.now item rt').2 := by
  have more := grows_sendOnce tick.layer store tick.now item rt'
  intro key marked group addressed
  cases sendOnce_marks marked with
  | inl old => exact (delivered key old group addressed).mono more.published
  | inr new =>
    obtain ⟨rfl, fresh, built⟩ := new
    by_contra missed
    have notBefore : ¬ Reached rt.published item.key group := fun early =>
      missed (early.mono fun p member => more.published p (grows.published p member))
    -- so the layer refused every message of this broadcast to the group
    refine kept ⟨fun old => fresh (grows.marks old), fun b member => ?_, group, addressed, notBefore,
      fun job inJobs toGroup message ok => ?_⟩
    · cases List.mem_append.mp member with
      | inl earlier => exact reached b earlier
      | inr here =>
        rw [List.mem_singleton.mp here]
        exact .inr fun job inJobs => isOk_iff.mpr (built job inJobs)
    · by_contra accepted
      have accepts : tick.layer group message = true := by simpa using accepted
      have member : (group, .ok message) ∈ item.jobs store tick.now := by
        obtain ⟨message', same⟩ := built job inJobs
        rw [same] at ok
        cases ok
        rw [← toGroup, ← same]
        exact inJobs
      obtain ⟨type, number⟩ := jobs_message (p := ⟨group, message⟩) member
      exact missed ⟨_, sendOnce_published accepts fresh member built, rfl, by rw [key_type, ← type],
        by rw [key_roundNumber, ← number]⟩

theorem MarksDelivered.dispatch (delivered : MarksDelivered store rt)
    (kept : ¬ Loses o store rt tick) : MarksDelivered store (o.tick store rt tick) := by
  simp only [OrchestratorRealtime.tick, OrchestratorRealtime.dispatch]
  split
  next =>
    let due := o.due (getCurrentPhase preconnectDefault store.rounds tick.now)
    -- what the broadcasts before this one have added only helps
    let Inv (rt' : Realtime) : Prop :=
      Grows rt rt' ∧ Built due store tick.now rt rt' ∧ MarksDelivered store rt'
    have start : Inv rt := ⟨⟨fun _ member => member, fun _ marked => marked⟩,
      fun _ _ marked => .inl marked, delivered⟩
    have all : Inv (sendAll tick.layer store tick.now due rt).2 := by
      refine sendAll_invariant [] due (fun before item after split rt' inv marked => ?_) start
        (fun _ member => by cases member)
      obtain ⟨grows, built, delivered⟩ := inv
      rw [List.nil_append] at split
      have inDue : ∀ b ∈ before ++ [item], b ∈ due := by
        intro b member
        rw [split]
        simp only [List.mem_append, List.mem_cons, List.not_mem_nil, or_false] at member ⊢
        tauto
      -- the broadcast adds to what the tick has published and marked so far
      have more := grows_sendOnce tick.layer store tick.now item rt'
      refine ⟨⟨fun p member => more.published p (grows.published p member),
        grows.marks.trans more.marks⟩,
        built.sendOnce fun b member same => due_eq_of_key member (inDue item (by simp)) same,
        @MarksDelivered.sendOnce store rt rt' tick delivered grows before item
          (fun b member => built b (inDue b (by simp [member])) (marked b member))
          fun loses => kept ⟨before.length, ?_, item, ?_, ?_⟩⟩
      · show before.length < due.length
        simp [split]
      · show item ∈ due[before.length]?
        simp [split]
      · show LosesAt store rt tick (due.take before.length) item
        simpa [split] using loses
    exact all.2.2
  next => exact delivered

/-! ## Whole runs -/

/-- A tick that finds every group reachable and can build what is due gets it through,
    whatever the ticks before it have failed to publish. -/
def Recovers (o : OrchestratorRealtime) (store : EventStore) (rt : Realtime) : Prop :=
  ∀ now, o.isLeader = true →
    (∀ item ∈ o.due (getCurrentPhase preconnectDefault store.rounds now),
      ∀ job ∈ item.jobs store now, ∃ message, job.2 = .ok message) →
    ∀ item ∈ o.due (getCurrentPhase preconnectDefault store.rounds now),
      ∀ group ∈ item.key.groups store,
        Reached (o.tick store rt ⟨now, reliable⟩).published item.key group

theorem MarksDelivered.recovers (delivered : MarksDelivered store rt) : Recovers o store rt := by
  intro now leader built item due
  -- a reliable layer refuses nothing, so the tick loses nothing
  have kept : ¬ Loses o store rt ⟨now, reliable⟩ := by
    rintro ⟨n, _, item, at_, _, builds, group, addressed, _, refused⟩
    -- the group is that of some job, and this job is not refused
    rw [groups_key store now] at addressed
    obtain ⟨job, inJobs, toGroup⟩ := List.mem_map.mp addressed
    obtain ⟨message, ok⟩ := built item (List.mem_of_getElem? at_) job inJobs
    have := refused job inJobs toGroup message (by rw [ok]; rfl)
    cases this
  -- the tick marks all that is due, and each mark stands for a delivery
  have after := delivered.dispatch kept
  have marked : item.key ∈ (o.tick store rt ⟨now, reliable⟩).marks := by
    show item.key ∈ (o.dispatch reliable store now rt).2.marks
    rw [dispatch_leader leader]
    exact sendAll_marks (sendAll_ok built rt) item due
  exact after item.key marked

/-- As long as no tick marks what it loses, every mark stands for a delivery, and a
    message that has failed is sent again. -/
theorem marks_delivered (o : OrchestratorRealtime) (store : EventStore) (ticks : List Tick)
    (kept : ∀ v ∈ visited (o.tick store) .fresh ticks, ¬ Loses o store v.1 v.2) :
    MarksDelivered store (ticks.foldl (o.tick store) .fresh) ∧
      Recovers o store (ticks.foldl (o.tick store) .fresh) := by
  have start : MarksDelivered store .fresh := by
    intro key marked
    simp [Realtime.fresh] at marked
  have delivered : MarksDelivered store (ticks.foldl (o.tick store) .fresh) :=
    foldl_invariant (fun _ _ delivered kept => delivered.dispatch kept) start kept
  exact ⟨delivered, delivered.recovers⟩

/-! ## A meeting whose announcement gets through, and one whose does not -/

def eva : Participant := ⟨"55555555-5555-4555-8555-555555555555", "Eva", []⟩

def max_ : Participant := ⟨"66666666-6666-4666-8666-666666666666", "Max", []⟩

/-- The one round of the event is about to begin. -/
def evaMeetsMax : EventStore :=
  ⟨{ twoRoundEvent with numRounds := 1, roundsPositive := by decide },
    [⟨1, twoRoundEvent.startTime, twoRoundEvent.startTime + twoRoundEvent.roundDuration⟩],
    [⟨1, eva, max_, "room"⟩]⟩

def soleLeader : OrchestratorRealtime := ⟨true, 30⟩

/-- The layer is down at the tick before the event and back ten seconds into it. -/
def outage (layer : ChannelLayer) : List Tick :=
  [⟨twoRoundEvent.startTime - seconds 5, layer⟩, ⟨twoRoundEvent.startTime + seconds 10, reliable⟩]

theorem eva_and_max_reached :
    MarksDelivered evaMeetsMax ((outage reliable).foldl (soleLeader.tick evaMeetsMax) .fresh) ∧
      Recovers soleLeader evaMeetsMax
        ((outage reliable).foldl (soleLeader.tick evaMeetsMax) .fresh) :=
  marks_delivered soleLeader evaMeetsMax (outage reliable) (by decide +kernel)

/-- The pairing was lost to the outage, and the tick after it sends it no more. -/
theorem pairing_lost_for_good :
    ¬ MarksDelivered evaMeetsMax
      ((outage fun _ _ => false).foldl (soleLeader.tick evaMeetsMax) .fresh) := by
  intro delivered
  have reached := delivered (.pairing 1) (by decide +kernel)
    (participantChannelGroup eva.pk) (by decide +kernel)
  revert reached
  decide +kernel

end EventPlatform.Orchestrator
