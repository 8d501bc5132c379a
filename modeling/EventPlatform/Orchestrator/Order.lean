import EventPlatform.Orchestrator.Delivery

/-! # The order of the lifecycle

One leader that ticks forward in time goes through the lifecycle from front to
back.  It may skip keys, as ticks skip phases, but it never goes back: the active
round and its phase only move on with time, and what is due again is marked.  So
what the channel has is one block of messages a key, in the order of the keys. -/

namespace EventPlatform.Orchestrator

open EventPlatform.Lib EventPlatform.Scheduling EventPlatform.Protocol

/-! ## The keys in order -/

/-- pairing(1), start(1), warning(1), end(1), pairing(2), ..., end(R), event_end. -/
def lifecycleKeys (totalRounds : Nat) : List MarkKey :=
  (List.range totalRounds).flatMap (fun i =>
    [.pairing (i + 1), .roundStart (i + 1), .warning (i + 1), .roundEnd (i + 1)]) ++ [.eventEnd]

/-- The place of a key in the lifecycle. -/
def MarkKey.rank (totalRounds : Nat) : MarkKey → Nat
  | pairing n => 4 * n
  | roundStart n => 4 * n + 1
  | warning n => 4 * n + 2
  | roundEnd n => 4 * n + 3
  | eventEnd => 4 * totalRounds + 4

theorem mem_lifecycleKeys {totalRounds : Nat} {item : Lifecycle}
    (inside : ∀ n : Nat, item.roundNumber = some (n : Int) → 1 ≤ n ∧ n ≤ totalRounds) :
    item.key ∈ lifecycleKeys totalRounds := by
  have block : ∀ r : Round, 1 ≤ r.number ∧ r.number ≤ totalRounds →
      ∃ i < totalRounds, r.number = i + 1 := fun r bounds =>
    ⟨r.number - 1, by omega, by omega⟩
  simp only [lifecycleKeys, List.mem_append, List.mem_flatMap, List.mem_range]
  cases item with
  | pairing r | roundStart r | warning r | roundEnd r =>
    obtain ⟨i, low, number⟩ := block r (inside _ rfl)
    exact .inl ⟨i, low, by simp [Lifecycle.key, number]⟩
  | eventEnd => exact .inr (by simp [Lifecycle.key])

theorem lifecycleKeys_increasing (totalRounds : Nat) :
    (lifecycleKeys totalRounds).Pairwise fun a b => a.rank totalRounds < b.rank totalRounds := by
  simp only [lifecycleKeys]
  rw [List.pairwise_append, List.pairwise_flatMap]
  refine ⟨⟨fun i _ => ?_, ?_⟩, by simp, fun a inBlocks b last => ?_⟩
  · simp [MarkKey.rank]
  · -- the keys of an earlier round come before those of a later one
    refine List.pairwise_lt_range.imp fun {i j} before a inFirst b inSecond => ?_
    simp only [List.mem_cons, List.not_mem_nil, or_false] at inFirst inSecond
    rcases inFirst with rfl | rfl | rfl | rfl <;> rcases inSecond with rfl | rfl | rfl | rfl <;>
      simp only [MarkKey.rank] <;> omega
  · obtain ⟨i, low, inBlock⟩ := List.mem_flatMap.mp inBlocks
    have low := List.mem_range.mp low
    rw [List.mem_singleton.mp last]
    simp only [List.mem_cons, List.not_mem_nil, or_false] at inBlock
    rcases inBlock with rfl | rfl | rfl | rfl <;> simp only [MarkKey.rank] <;> omega

/-- A list whose keys rise in rank is a part of the lifecycle in its order. -/
theorem sublist_lifecycleKeys {totalRounds : Nat} {keys : List MarkKey}
    (increasing : keys.Pairwise fun a b => a.rank totalRounds < b.rank totalRounds)
    (members : ∀ key ∈ keys, key ∈ lifecycleKeys totalRounds) :
    keys.Sublist (lifecycleKeys totalRounds) := by
  let before (a b : MarkKey) : Prop := a.rank totalRounds < b.rank totalRounds
  -- a rise in rank leaves no two keys in both orders, so the sublist is unique
  have antisymm : Std.Antisymm before := ⟨fun a b first second => absurd second (lt_asymm first)⟩
  have distinct : keys.Nodup := increasing.imp fun {a b} less same => by
    rw [same] at less
    exact lt_irrefl _ less
  exact @List.sublist_of_subperm_of_pairwise _ before antisymm _ _
    (List.subperm_of_subset distinct members) increasing (lifecycleKeys_increasing totalRounds)

/-! ## The active round and its phase move on with time -/

variable {preconnectDuration : Int} {rounds : List Round} {t t' : Int} {r s : Round}
  {result result' : PhaseResult}

/-- Before a round is active all rounds before it have ended. -/
theorem cell_passed (wf : WellFormed rounds) (cell : Cell preconnectDuration rounds t result)
    (active : result.activeRound = some r) (member : s ∈ rounds) (lower : s.number < r.number) :
    s.endsAt ≤ t := by
  cases cell with
  | notStarted => cases active
  | preconnect r _ _ _ passed =>
    cases active
    exact passed s member lower
  | inRound r inRounds begun _ =>
    cases active
    have := wf.before member inRounds lower
    omega
  | break_ r next inRounds _ _ ended _ =>
    cases active
    have := wf.before member inRounds lower
    have := wf.positive r inRounds
    omega
  | completed r inRounds _ ended =>
    cases active
    have := wf.before member inRounds lower
    have := wf.positive r inRounds
    omega

theorem cell_active_mono (wf : WellFormed rounds) (cell : Cell preconnectDuration rounds t result)
    (cell' : Cell preconnectDuration rounds t' result') (active : result.activeRound = some r)
    (active' : result'.activeRound = some s) (inRounds : r ∈ rounds)
    (begun : r.startsAt - preconnectDuration ≤ t) (later : t ≤ t') : r.number ≤ s.number := by
  by_contra lower
  -- a lower round that is active later would have ended before `r` became active
  have passed : ∀ s ∈ rounds, s.number < r.number → s.endsAt ≤ t :=
    fun s member lower => cell_passed wf cell active member lower
  cases cell' with
  | notStarted => cases active'
  | preconnect s member _ waiting _ =>
    cases active'
    have := passed s member (by omega)
    have := wf.positive s member
    omega
  | inRound s member _ running =>
    cases active'
    have := passed s member (by omega)
    omega
  | break_ s next member nextMember number _ resting =>
    cases active'
    -- the break lasts until the window of the next round, which is `r` or before it
    cases Nat.lt_or_ge next.number r.number with
    | inl before =>
      have := passed next nextMember before
      have := wf.before nextMember inRounds before
      have := wf.positive next nextMember
      omega
    | inr same =>
      rw [wf.eq_of_number nextMember inRounds (by omega)] at resting
      omega
  | completed s member number ended =>
    cases active'
    have := wf.number_le inRounds
    omega

/-- What the tick at `t` may send while `r` is the active round. -/
inductive Timely (rounds : List Round) (t : Int) (r : Round) : Lifecycle → Prop where
  | pairing : t < r.endsAt → Timely rounds t r (.pairing r)
  | roundStart : t < r.endsAt → Timely rounds t r (.roundStart r)
  | warning : t < r.endsAt → Timely rounds t r (.warning r)
  | roundEnd : r.endsAt ≤ t → Timely rounds t r (.roundEnd r)
  | eventEnd : r.endsAt ≤ t → r.number = rounds.length → Timely rounds t r .eventEnd

variable {o : OrchestratorRealtime} {item item' : Lifecycle}

theorem due_timely (wf : WellFormed rounds) (cell : Cell preconnectDuration rounds t result)
    (due : item ∈ o.due result) :
    ∃ r ∈ rounds, result.activeRound = some r ∧ Timely rounds t r item := by
  -- the phase decides what is due, and the cell at what times that is
  cases cell with
  | notStarted => cases due
  | preconnect r member _ waiting _ =>
    have := wf.positive r member
    rw [List.mem_singleton.mp due]
    exact ⟨r, member, rfl, .pairing (by omega)⟩
  | inRound r member _ running =>
    refine ⟨r, member, rfl, ?_⟩
    cases List.mem_append.mp due with
    | inl first =>
      cases List.mem_cons.mp first with
      | inl here => rw [here]; exact .pairing running
      | inr later => rw [List.mem_singleton.mp later]; exact .roundStart running
    | inr last =>
      split at last
      · rw [List.mem_singleton.mp last]
        exact .warning running
      · cases last
  | break_ r _ member _ _ ended _ =>
    rw [List.mem_singleton.mp due]
    exact ⟨r, member, rfl, .roundEnd ended⟩
  | completed r member number ended =>
    refine ⟨r, member, rfl, ?_⟩
    cases List.mem_cons.mp due with
    | inl here => rw [here]; exact .roundEnd ended
    | inr later => rw [List.mem_singleton.mp later]; exact .eventEnd ended number

/-- A phase that calls for a broadcast also calls for those before it that
    a later tick could still make. -/
theorem due_downward (due : item ∈ o.due result) (active : result.activeRound = some r)
    (timely : Timely rounds t r item) (timely' : Timely rounds t' r item') (later : t ≤ t')
    (notAfter : item'.key.rank rounds.length ≤ item.key.rank rounds.length) :
    item' ∈ o.due result := by
  obtain ⟨phase, _, remaining⟩ := result
  cases active
  cases timely with
  | pairing =>
    cases timely' with
    | pairing => exact due
    | _ => simp only [Lifecycle.key, MarkKey.rank] at notAfter; omega
  | roundStart =>
    cases timely' with
    -- a start is due only behind its pairing
    | pairing => cases phase <;> simp [OrchestratorRealtime.due] at due ⊢
    | roundStart => exact due
    | _ => simp only [Lifecycle.key, MarkKey.rank] at notAfter; omega
  | warning =>
    cases timely' with
    | pairing | roundStart => cases phase <;> simp [OrchestratorRealtime.due] at due ⊢
    | warning => exact due
    | _ => simp only [Lifecycle.key, MarkKey.rank] at notAfter; omega
  | roundEnd ended =>
    cases timely' with
    | pairing running | roundStart running | warning running => omega
    | roundEnd => exact due
    | eventEnd => simp only [Lifecycle.key, MarkKey.rank] at notAfter; omega
  | eventEnd ended =>
    cases timely' with
    | pairing running | roundStart running | warning running => omega
    -- `event_end` is due only with the end of the last round
    | roundEnd => cases phase <;> simp [OrchestratorRealtime.due] at due ⊢
    | eventEnd => exact due

theorem Timely.rank_lt (timely : Timely rounds t r item) (timely' : Timely rounds t' s item')
    (lower : r.number < s.number) (bounded : s.number ≤ rounds.length) :
    item.key.rank rounds.length < item'.key.rank rounds.length := by
  cases timely <;> cases timely' <;> simp only [Lifecycle.key, MarkKey.rank] <;> omega

/-- What a later tick has to send was due before, or it comes later in the lifecycle. -/
theorem due_order (wf : WellFormed rounds) (later : t ≤ t')
    (due : item ∈ o.due (getCurrentPhase preconnectDuration rounds t))
    (due' : item' ∈ o.due (getCurrentPhase preconnectDuration rounds t')) :
    item' ∈ o.due (getCurrentPhase preconnectDuration rounds t) ∨
      item.key.rank rounds.length < item'.key.rank rounds.length := by
  have nonempty : rounds ≠ [] := by
    intro empty
    rw [empty] at due
    cases due
  have cell := getCurrentPhase_cell preconnectDuration t wf nonempty
  have cell' := getCurrentPhase_cell preconnectDuration t' wf nonempty
  obtain ⟨r, member, active, timely⟩ := due_timely wf cell due
  obtain ⟨s, member', active', timely'⟩ := due_timely wf cell' due'
  have order := cell_active_mono wf cell cell' active active' member
    (getCurrentPhase_begun wf active) later
  have bounded := wf.number_le member'
  cases Nat.lt_or_ge r.number s.number with
  -- every key of a later round comes after every key of an earlier one
  | inl lower => exact .inr (timely.rank_lt timely' lower bounded)
  | inr same =>
    have same : s = r := wf.eq_of_number member' member (by omega)
    subst same
    cases Nat.lt_or_ge (item.key.rank rounds.length) (item'.key.rank rounds.length) with
    | inl less => exact .inr less
    | inr notAfter => exact .inl (due_downward due active timely timely' later notAfter)

/-- One tick sends in the order of the lifecycle. -/
theorem due_increasing (wf : WellFormed rounds) (o : OrchestratorRealtime) :
    ((o.due (getCurrentPhase preconnectDuration rounds t)).map Lifecycle.key).Pairwise
      fun a b => a.rank rounds.length < b.rank rounds.length := by
  by_cases nonempty : rounds = []
  · subst nonempty
    exact .nil
  · have cell := getCurrentPhase_cell preconnectDuration t wf nonempty
    generalize getCurrentPhase preconnectDuration rounds t = result at cell
    cases cell with
    | notStarted => exact .nil
    | preconnect => exact List.pairwise_singleton _ _
    | inRound r =>
      simp only [OrchestratorRealtime.due]
      split <;> simp [Lifecycle.key, MarkKey.rank]
    | break_ => exact List.pairwise_singleton _ _
    | completed r member number =>
      simp [OrchestratorRealtime.due, Lifecycle.key, MarkKey.rank, number]

/-! ## What a tick reports -/

/-- `dispatch` of a scheduler with its own preconnect window. -/
def OrchestratorRealtime.dispatchWith (preconnectDuration : Int) (o : OrchestratorRealtime)
    (layer : ChannelLayer) (store : EventStore) (current : Int) (rt : Realtime) :
    Checked DispatchResult × Realtime :=
  if o.isLeader then
    let result := getCurrentPhase preconnectDuration store.rounds current
    let (sent, rt) := sendAll layer store current (o.due result) rt
    (sent.map fun sent =>
      .executed result.phase (result.activeRound.map (·.number)) sent current, rt)
  else (.ok .notLeader, rt)

theorem dispatchWith_default : @OrchestratorRealtime.dispatchWith preconnectDefault =
    @OrchestratorRealtime.dispatch := rfl

/-- The key behind a message type that a tick reports as sent. -/
def sentKey (roundNumber : Option Nat) : MessageType → Option MarkKey
  | .serverPairing => roundNumber.map .pairing
  | .serverRoundStart => roundNumber.map .roundStart
  | .serverRoundWarning => roundNumber.map .warning
  | .serverRoundEnd => roundNumber.map .roundEnd
  | .serverEventEnd => some .eventEnd
  | _ => none

/-- The keys a tick has broadcast, from what it returns. -/
def sentKeys : Checked DispatchResult → List MarkKey
  | .ok (.executed _ roundNumber sent _) => sent.filterMap (sentKey roundNumber)
  | .ok .notLeader => []
  | .error _ => []

theorem sentKey_due {o : OrchestratorRealtime} {result : PhaseResult} {item : Lifecycle}
    (due : item ∈ o.due result) :
    sentKey (result.activeRound.map (·.number)) item.type = some item.key := by
  obtain ⟨phase, activeRound, remaining⟩ := result
  cases activeRound with
  | none =>
    cases phase <;> simp [OrchestratorRealtime.due] at due
    rw [due]
    rfl
  | some r =>
    cases phase <;> simp [OrchestratorRealtime.due] at due
    · rw [due]; rfl
    · rcases due with rfl | rfl | ⟨_, rfl⟩ <;> rfl
    · rw [due]; rfl
    · rcases due with rfl | rfl <;> rfl

variable {layer : ChannelLayer} {store : EventStore} {now : Int} {rt : Realtime}

theorem sendOnce_sent {sent : Bool} (ok : (sendOnce layer store now item rt).1 = .ok sent) :
    sent = decide (item.key ∉ rt.marks) := by
  by_cases marked : item.key ∈ rt.marks
  · simp [sendOnce, marked] at ok
    simp [marked, ok]
  · simp only [sendOnce, if_neg marked] at ok
    cases result : publishJobs layer (item.jobs store now) rt with
    | mk outcome rt' =>
      rw [result] at ok
      cases outcome with
      | error e => cases ok
      | ok count =>
        cases ok
        simp [marked]

/-- A broadcast marks no key of the others. -/
theorem filter_unmarked {rest : List Lifecycle} (fresh : item.key ∉ rest.map Lifecycle.key) :
    rest.filter (·.key ∉ (sendOnce layer store now item rt).2.marks) =
      rest.filter (·.key ∉ rt.marks) := by
  have others : ∀ b ∈ rest, b.key ∈ (sendOnce layer store now item rt).2.marks ↔
      b.key ∈ rt.marks := by
    intro b member
    constructor
    · intro marked
      cases sendOnce_marks marked with
      | inl old => exact old
      | inr new => exact absurd (List.mem_map.mpr ⟨b, member, new.1⟩) fresh
    · exact sendOnce_keeps
  exact List.filter_congr fun b member => by simp [others b member]

/-- When everything can be built, a tick sends what is not marked. -/
theorem sendAll_unmarked {items : List Lifecycle} (distinct : (items.map Lifecycle.key).Nodup)
    (built : ∀ item ∈ items, ∀ job ∈ item.jobs store now, ∃ message, job.2 = .ok message) :
    (sendAll layer store now items rt).1 =
      .ok ((items.filter (·.key ∉ rt.marks)).map Lifecycle.type) := by
  induction items generalizing rt with
  | nil => rfl
  | cons item rest ih =>
    obtain ⟨fresh, distinct⟩ := List.nodup_cons.mp distinct
    obtain ⟨sent, ok⟩ := (@sendOnce_ok layer store now item rt).mpr
      (.inr (built item List.mem_cons_self))
    have later := @ih (sendOnce layer store now item rt).2 distinct
      fun b member => built b (List.mem_cons_of_mem _ member)
    rw [filter_unmarked fresh] at later
    have flag := sendOnce_sent ok
    simp only [sendAll]
    cases result : sendOnce layer store now item rt with
    | mk outcome rt' =>
      rw [result] at ok later
      cases ok
      simp only [later, Except.map, flag]
      by_cases marked : item.key ∈ rt.marks <;> simp [marked]

/-! ## What a tick publishes -/

/-- What the layer accepts of one message after another. -/
def delivered (layer : ChannelLayer) (jobs : List (String × Checked Envelope)) : List Publication :=
  jobs.filterMap fun job => (job.2.toOption.filter (layer job.1 ·)).map fun message => ⟨job.1, message⟩

theorem mem_delivered {jobs : List (String × Checked Envelope)} {p : Publication}
    (member : p ∈ delivered layer jobs) : OneOf jobs p := by
  obtain ⟨⟨group, built⟩, inJobs, here⟩ := List.mem_filterMap.mp member
  cases built with
  | error e => cases here
  | ok message =>
    obtain ⟨_, accepted, rfl⟩ := Option.map_eq_some_iff.mp here
    obtain ⟨same, _⟩ := Option.filter_eq_some_iff.mp accepted
    cases same
    exact inJobs

theorem publishJobs_delivered {jobs : List (String × Checked Envelope)}
    (built : ∀ job ∈ jobs, ∃ message, job.2 = .ok message) :
    (publishJobs layer jobs rt).2.published = rt.published ++ delivered layer jobs := by
  induction jobs generalizing rt with
  | nil => simp [publishJobs, delivered]
  | cons job rest ih =>
    obtain ⟨group, built'⟩ := job
    obtain ⟨message, rfl⟩ := built _ List.mem_cons_self
    have later := fun rt => @ih rt fun job member => built job (List.mem_cons_of_mem _ member)
    simp only [publishJobs, later]
    by_cases accepted : layer group message = true
    · simp [publish, delivered, accepted, Except.toOption, Option.filter]
    · simp [publish, delivered, accepted, Except.toOption, Option.filter]

theorem sendOnce_delivered (built : ∀ job ∈ item.jobs store now, ∃ message, job.2 = .ok message) :
    (sendOnce layer store now item rt).2.published =
      rt.published ++ if item.key ∈ rt.marks then [] else delivered layer (item.jobs store now) := by
  by_cases marked : item.key ∈ rt.marks
  · simp [sendOnce, marked]
  · obtain ⟨count, ok⟩ := (@publishJobs_ok layer _ rt).mpr built
    have published := @publishJobs_delivered layer rt _ built
    simp only [sendOnce, if_neg marked]
    cases result : publishJobs layer (item.jobs store now) rt with
    | mk outcome rt' =>
      rw [result] at ok published
      cases ok
      exact published

/-- When everything can be built, a tick publishes what is not marked and nothing else. -/
theorem sendAll_delivered {items : List Lifecycle} (distinct : (items.map Lifecycle.key).Nodup)
    (built : ∀ item ∈ items, ∀ job ∈ item.jobs store now, ∃ message, job.2 = .ok message) :
    (sendAll layer store now items rt).2.published =
      rt.published ++ (items.filter (·.key ∉ rt.marks)).flatMap fun item =>
        delivered layer (item.jobs store now) := by
  induction items generalizing rt with
  | nil => simp [sendAll]
  | cons item rest ih =>
    obtain ⟨fresh, distinct⟩ := List.nodup_cons.mp distinct
    have builds := built item List.mem_cons_self
    obtain ⟨sent, ok⟩ := (@sendOnce_ok layer store now item rt).mpr (.inr builds)
    have first := @sendOnce_delivered item layer store now rt builds
    have later := @ih (sendOnce layer store now item rt).2 distinct
      fun b member => built b (List.mem_cons_of_mem _ member)
    rw [filter_unmarked fresh] at later
    simp only [sendAll]
    cases result : sendOnce layer store now item rt with
    | mk outcome rt' =>
      rw [result] at ok first later
      cases ok
      simp only at first
      simp only [later, first]
      by_cases marked : item.key ∈ rt.marks <;> simp [marked]

/-- The keys that a tick reports are those that were due and not marked. -/
theorem sentKeys_dispatchWith (leader : o.isLeader = true)
    (built : ∀ item ∈ o.due (getCurrentPhase preconnectDuration store.rounds now),
      ∀ job ∈ item.jobs store now, ∃ message, job.2 = .ok message) :
    sentKeys (o.dispatchWith preconnectDuration layer store now rt).1 =
      ((o.due (getCurrentPhase preconnectDuration store.rounds now)).map Lifecycle.key).filter
        (· ∉ rt.marks) := by
  have sent := @sendAll_unmarked layer store now rt _
    (due_nodup o (getCurrentPhase preconnectDuration store.rounds now)) built
  simp only [OrchestratorRealtime.dispatchWith, leader, if_true, sent, Except.map, sentKeys,
    List.filterMap_map]
  rw [List.filter_map, ← List.filterMap_eq_map]
  refine List.filterMap_congr fun item member => ?_
  exact sentKey_due (List.mem_of_mem_filter member)

/-! ## Whole runs -/

/-- The cache and the channel with all keys that were reported as broadcast. -/
structure Journal where
  rt : Realtime
  sent : List MarkKey

def Journal.empty : Journal := ⟨.fresh, []⟩

def OrchestratorRealtime.record (preconnectDuration : Int) (o : OrchestratorRealtime)
    (store : EventStore) (journal : Journal) (tick : Tick) : Journal :=
  let (outcome, rt) := o.dispatchWith preconnectDuration tick.layer store tick.now journal.rt
  ⟨rt, journal.sent ++ sentKeys outcome⟩

/-- Every message that the tick may have to send can be built. -/
def Accepts (preconnectDuration : Int) (o : OrchestratorRealtime) (store : EventStore)
    (tick : Tick) : Prop :=
  ∀ item ∈ o.due (getCurrentPhase preconnectDuration store.rounds tick.now),
    ∀ job ∈ item.jobs store tick.now, job.2.isOk = true

instance (preconnectDuration : Int) (o : OrchestratorRealtime) (store : EventStore) (tick : Tick) :
    Decidable (Accepts preconnectDuration o store tick) :=
  inferInstanceAs (Decidable (∀ _ ∈ _, ∀ _ ∈ _, _))

/-- A tick goes through with one of its guarded broadcasts. -/
structure Broadcast where
  tick : Tick
  item : Lifecycle

def Broadcast.key (b : Broadcast) : MarkKey := b.item.key

/-- The messages of the broadcast that the layer of its tick has accepted. -/
def Broadcast.published (store : EventStore) (b : Broadcast) : List Publication :=
  delivered b.tick.layer (b.item.jobs store b.tick.now)

/-- The key that a published message belongs to. -/
def Publication.key (p : Publication) : Option MarkKey :=
  sentKey (p.message.roundNumber.map Int.toNat) p.message.type

theorem sentKey_item (item : Lifecycle) :
    sentKey (item.roundNumber.map Int.toNat) item.type = some item.key := by
  cases item <;> rfl

/-- Every message of a broadcast bears its key. -/
theorem published_key {b : Broadcast} {p : Publication} (member : p ∈ b.published store) :
    p.key = some b.key := by
  obtain ⟨type, roundNumber⟩ := jobs_message (mem_delivered member)
  rw [Publication.key, type, roundNumber]
  exact sentKey_item b.item

variable {past : List Tick} {tick : Tick} {journal : Journal} {broadcasts : List Broadcast}

/-- What the ticks so far have left behind, by the broadcasts they have made. -/
structure Ordered (preconnectDuration : Int) (o : OrchestratorRealtime) (store : EventStore)
    (past : List Tick) (journal : Journal) (broadcasts : List Broadcast) : Prop where
  published : journal.rt.published = broadcasts.flatMap (·.published store)
  sent : journal.sent = broadcasts.map (·.key)
  increasing : broadcasts.Pairwise fun a b =>
    a.key.rank store.rounds.length < b.key.rank store.rounds.length
  origin : ∀ b ∈ broadcasts, b.tick ∈ past ∧
    b.item ∈ o.due (getCurrentPhase preconnectDuration store.rounds b.tick.now)
  /-- What was due is marked. -/
  marked : ∀ tick ∈ past,
    ∀ item ∈ o.due (getCurrentPhase preconnectDuration store.rounds tick.now),
      item.key ∈ journal.rt.marks

theorem Accepts.built (accepts : Accepts preconnectDuration o store tick) :
    ∀ item ∈ o.due (getCurrentPhase preconnectDuration store.rounds tick.now),
      ∀ job ∈ item.jobs store tick.now, ∃ message, job.2 = .ok message :=
  fun item due job member => isOk_iff.mp (accepts item due job member)

/-- A tick adds the broadcasts that were due and not marked. -/
theorem Ordered.record (leader : o.isLeader = true) (wf : WellFormed store.rounds)
    (ordered : Ordered preconnectDuration o store past journal broadcasts)
    (later : ∀ before ∈ past, before.now ≤ tick.now)
    (accepts : Accepts preconnectDuration o store tick) :
    ∃ added, Ordered preconnectDuration o store (past ++ [tick])
      (o.record preconnectDuration store journal tick) (broadcasts ++ added) := by
  let due := o.due (getCurrentPhase preconnectDuration store.rounds tick.now)
  let fresh := due.filter (·.key ∉ journal.rt.marks)
  have rt : (o.record preconnectDuration store journal tick).rt =
      (sendAll tick.layer store tick.now due journal.rt).2 := by
    simp only [OrchestratorRealtime.record, OrchestratorRealtime.dispatchWith, leader, if_true, due]
  have sent : (o.record preconnectDuration store journal tick).sent =
      journal.sent ++ fresh.map Lifecycle.key := by
    have reported := @sentKeys_dispatchWith _ o tick.layer store tick.now journal.rt leader accepts.built
    rw [List.filter_map] at reported
    exact congrArg (journal.sent ++ ·) reported
  have published := @sendAll_delivered tick.layer store tick.now journal.rt due (due_nodup o _) accepts.built
  have marks := sendAll_marks (@sendAll_ok tick.layer _ _ _ accepts.built journal.rt)
  refine ⟨fresh.map (⟨tick, ·⟩), ?_, ?_, ?_, fun b member => ?_, fun before member item called => ?_⟩
  · rw [rt, published, ordered.published, List.flatMap_append, List.flatMap_map]
    rfl
  · rw [sent, ordered.sent, List.map_append, List.map_map]
    rfl
  · rw [List.pairwise_append]
    refine ⟨ordered.increasing, ?_, fun a old b new => ?_⟩
    · have ranks := List.pairwise_map.mp (@due_increasing preconnectDuration store.rounds tick.now wf o)
      exact List.pairwise_map.mpr (ranks.filter _)
    · obtain ⟨inPast, called⟩ := ordered.origin a old
      obtain ⟨item, unmarked, rfl⟩ := List.mem_map.mp new
      obtain ⟨called', fresh⟩ := List.mem_filter.mp unmarked
      -- an item that was due at an earlier tick too has its mark, and any other one comes later
      cases due_order wf (later a.tick inPast) called called' with
      | inl earlier => simp [ordered.marked a.tick inPast item earlier] at fresh
      | inr less => exact less
  · cases List.mem_append.mp member with
    | inl old =>
      obtain ⟨inPast, called⟩ := ordered.origin b old
      exact ⟨List.mem_append_left _ inPast, called⟩
    | inr new =>
      obtain ⟨item, unmarked, rfl⟩ := List.mem_map.mp new
      exact ⟨by simp, List.mem_of_mem_filter unmarked⟩
  · rw [rt]
    cases List.mem_append.mp member with
    | inl old => exact sendAll_keeps (ordered.marked before old item called)
    | inr new =>
      rw [List.mem_singleton.mp new] at called
      exact marks item called

/-- Every key that was broadcast belongs to the lifecycle. -/
theorem Ordered.members (wf : WellFormed store.rounds)
    (ordered : Ordered preconnectDuration o store past journal broadcasts) :
    ∀ key ∈ broadcasts.map (·.key), key ∈ lifecycleKeys store.rounds.length := by
  intro key member
  obtain ⟨b, made, rfl⟩ := List.mem_map.mp member
  obtain ⟨_, due⟩ := ordered.origin b made
  have nonempty : store.rounds ≠ [] := by
    intro empty
    rw [empty] at due
    cases due
  obtain ⟨r, inRounds, _, timely⟩ :=
    due_timely wf (getCurrentPhase_cell preconnectDuration b.tick.now wf nonempty) due
  have positive := wf.number_pos inRounds
  have bounded := wf.number_le inRounds
  obtain ⟨tick, item⟩ := b
  refine mem_lifecycleKeys fun n number => ?_
  cases timely with
  | eventEnd => cases number
  | _ =>
    have same := Option.some.inj number
    omega

/-- No message comes after one of a later key. -/
theorem Ordered.messages (ordered : Ordered preconnectDuration o store past journal broadcasts) :
    journal.rt.published.Pairwise fun p q =>
      ∃ a ∈ p.key, ∃ b ∈ q.key, a.rank store.rounds.length ≤ b.rank store.rounds.length := by
  rw [ordered.published, List.pairwise_flatMap]
  constructor
  · intro b _
    exact List.pairwise_of_forall_mem_list fun p inBlock q inBlock' =>
      ⟨b.key, published_key inBlock, b.key, published_key inBlock', le_rfl⟩
  · exact ordered.increasing.imp fun {a b} less p inFirst q inSecond =>
      ⟨a.key, published_key inFirst, b.key, published_key inSecond, less.le⟩

/-- What is published in a run are the messages of broadcasts of ever later keys, each made
    by one tick; and these are the keys that the ticks report. -/
theorem lifecycle_in_order (preconnectDuration : Int) (o : OrchestratorRealtime)
    (leader : o.isLeader = true) (store : EventStore) (wf : WellFormed store.rounds)
    (ticks : List Tick) (nondecreasing : (ticks.map (·.now)).Pairwise (· ≤ ·))
    (accepts : ∀ tick ∈ ticks, Accepts preconnectDuration o store tick) :
    ∃ broadcasts : List Broadcast,
      (ticks.foldl (o.record preconnectDuration store) .empty).rt.published =
          broadcasts.flatMap (·.published store) ∧
        (∀ b ∈ broadcasts, b.tick ∈ ticks) ∧
        (broadcasts.map (·.key)).Sublist (lifecycleKeys store.rounds.length) ∧
        (broadcasts.map (·.key)).Nodup ∧
        (ticks.foldl (o.record preconnectDuration store) .empty).sent = broadcasts.map (·.key) ∧
        (ticks.foldl (o.record preconnectDuration store) .empty).rt.published.Pairwise fun p q =>
          ∃ a ∈ p.key, ∃ b ∈ q.key, a.rank store.rounds.length ≤ b.rank store.rounds.length := by
  let Inv (past : List Tick) (journal : Journal) : Prop :=
    ∃ broadcasts, Ordered preconnectDuration o store past journal broadcasts
  have start : Inv [] .empty :=
    ⟨[], rfl, rfl, .nil, fun b member => (by cases member), fun tick member => (by cases member)⟩
  have ordered : Inv ticks (ticks.foldl (o.record preconnectDuration store) .empty) := by
    refine @foldl_history _ _ _ Inv _ _ start fun past tick rest split journal inv => ?_
    obtain ⟨broadcasts, ordered⟩ := inv
    have inTicks : tick ∈ ticks := by simp [split]
    have later : ∀ before ∈ past, before.now ≤ tick.now := by
      rw [split, List.pairwise_map, List.pairwise_append] at nondecreasing
      exact fun before member => nondecreasing.2.2 before member tick List.mem_cons_self
    obtain ⟨added, recorded⟩ := ordered.record leader wf later (accepts tick inTicks)
    exact ⟨broadcasts ++ added, recorded⟩
  obtain ⟨broadcasts, ordered⟩ := ordered
  have increasing : (broadcasts.map (·.key)).Pairwise fun a b =>
      a.rank store.rounds.length < b.rank store.rounds.length := List.pairwise_map.mpr ordered.increasing
  refine ⟨broadcasts, ordered.published, fun b made => (ordered.origin b made).1,
    sublist_lifecycleKeys increasing (ordered.members wf), ?_, ordered.sent, ordered.messages⟩
  exact increasing.imp fun {a b} less same => by
    rw [same] at less
    exact lt_irrefl _ less

/-- The one round of the event, with two ticks before its end and two after. -/
def evaMeetsMaxTicks : List Tick :=
  [twoRoundEvent.startTime - seconds 5, twoRoundEvent.startTime + seconds 10,
    twoRoundEvent.startTime + seconds 10,
    twoRoundEvent.startTime + twoRoundEvent.roundDuration - seconds 20,
    twoRoundEvent.startTime + twoRoundEvent.roundDuration,
    twoRoundEvent.startTime + twoRoundEvent.roundDuration + seconds 1].map (⟨·, reliable⟩)

/-- With a preconnect window of a minute and a half, all seven messages get through. -/
theorem eva_meets_max_in_order :
    (evaMeetsMaxTicks.foldl (soleLeader.record (seconds 90) evaMeetsMax) .empty).rt.published.length = 7 ∧
      ∃ broadcasts : List Broadcast,
        (evaMeetsMaxTicks.foldl (soleLeader.record (seconds 90) evaMeetsMax) .empty).rt.published =
            broadcasts.flatMap (·.published evaMeetsMax) ∧
          (∀ b ∈ broadcasts, b.tick ∈ evaMeetsMaxTicks) ∧
          (broadcasts.map (·.key)).Sublist (lifecycleKeys 1) ∧
          (broadcasts.map (·.key)).Nodup ∧
          (evaMeetsMaxTicks.foldl (soleLeader.record (seconds 90) evaMeetsMax) .empty).sent =
            broadcasts.map (·.key) ∧
          (evaMeetsMaxTicks.foldl (soleLeader.record (seconds 90) evaMeetsMax)
              .empty).rt.published.Pairwise fun p q =>
            ∃ a ∈ p.key, ∃ b ∈ q.key, a.rank 1 ≤ b.rank 1 :=
  ⟨by decide +kernel, lifecycle_in_order (seconds 90) soleLeader rfl evaMeetsMax
    ⟨by decide +kernel, by decide +kernel, by decide +kernel⟩ evaMeetsMaxTicks
    (by decide +kernel) (by decide +kernel)⟩

end EventPlatform.Orchestrator
