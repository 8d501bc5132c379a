import EventPlatform.CallRoom.State
import EventPlatform.Orchestrator.Freeze
import EventPlatform.Orchestrator.Order

/-! # Does a snapshot restore what a page has missed?

A page that stays connected has folded every broadcast since the pairing into its
state.  The snapshot is rebuilt from the round rows alone: it knows of no pause and
no warning, and it carries the times of the round as they are now. -/

namespace EventPlatform.Orchestrator

open EventPlatform.Lib EventPlatform.Scheduling EventPlatform.Protocol EventPlatform.Operator
open EventPlatform.CallRoom

/-! ## A page that stays connected -/

structure Connected where
  live : Live
  room : CallRoomState

/-- A tick gets all its messages through. -/
inductive OnlineAction where
  | tick (o : OrchestratorRealtime) (time : Int)
  | call (c : TimedCall)

def OnlineAction.live : OnlineAction → LiveAction
  | tick o time => .tick o reliable time
  | call c => .call c

def OnlineAction.time : OnlineAction → Int
  | tick _ time => time
  | call c => c.time

/-- The messages to the participant's own group and to the group of the event. -/
def heard (event : Event) (pid : String) (published : List Publication) : List RoomMessage :=
  (published.filter fun p =>
    p.group = participantChannelGroup pid ∨ p.group = eventChannelGroup event.pk).map
      fun p => .envelope p.message

/-- What the page is sent while the event takes a step. -/
def Connected.messages (event : Event) (pairs : List Pair) (pid : String) (c : Connected) :
    OnlineAction → List RoomMessage
  | .tick o time =>
    heard event pid ((c.live.step event pairs (.tick o reliable time)).realtime.published.drop
      c.live.realtime.published.length)
  -- a refused action sends nothing
  | .call call =>
    match perform c.live.operator call with
    | .error _ => []
    | .ok (payload, _) => [.operator payload]

def Connected.step (event : Event) (pairs : List Pair) (pid : String) (c : Connected)
    (action : OnlineAction) : Connected :=
  ⟨c.live.step event pairs action.live,
    (c.messages event pairs pid action).foldl CallRoomState.receive c.room⟩

/-- No page has opened and nothing has been sent. -/
def Connected.start (operator : OperatorState) : Connected := ⟨⟨operator, .fresh⟩, {}⟩

/-- Whatever a page has kept, after the snapshot it shows what the connected one shows. -/
def Converges (event : Event) (pairs : List Pair) (pid : String) (c : Connected) (t : Int) : Prop :=
  ∃ messages, reconnectSnapshotMessages ⟨event, c.live.operator.rounds, pairs⟩ pid t = .ok messages ∧
    ∀ kept : CallRoomState,
      ((messages.map RoomMessage.envelope).foldl CallRoomState.receive kept).shown = c.room.shown

/-! ## Runs that the snapshot can rebuild -/

def ActionPayload.isPause : ActionPayload → Bool
  | .pause .. => true
  | .resume .. => false
  | .extend .. => false

/-- An accepted action is a pause, and `round_start` of the round is still to come. -/
def KeepsRound (r : Round) (c : Connected) : OnlineAction → Prop
  | .tick _ _ => True
  | .call call => ∀ accepted ∈ (perform c.live.operator call).toOption,
    ActionPayload.isPause accepted.1 = true ∧ .roundStart r.number ∉ c.live.realtime.marks

instance (r : Round) (c : Connected) : (action : OnlineAction) → Decidable (KeepsRound r c action)
  | .tick _ _ => isTrue trivial
  | .call _ => inferInstanceAs (Decidable (∀ _ ∈ _, _ ∧ _))

/-- The tick has sent the pairing of the round; since then nothing has changed what it
    said, and by `t` the round has been started on time and not been warned of. -/
structure Announced (event : Event) (pairs : List Pair) (pid : String) (r : Round) (c : Connected)
    (o : OrchestratorRealtime) (t₀ : Int) (after : List OnlineAction) (t : Int) : Prop where
  unannounced : .pairing r.number ∉ c.live.realtime.marks
  announced : .pairing r.number ∈ (c.step event pairs pid (.tick o t₀)).live.realtime.marks
  kept : ∀ v ∈ visited (Connected.step event pairs pid) (c.step event pairs pid (.tick o t₀)) after,
    KeepsRound r v.1 v.2
  unwarned : .warning r.number ∉
    (after.foldl (Connected.step event pairs pid) (c.step event pairs pid (.tick o t₀))).live.realtime.marks
  started : r.startsAt ≤ t → .roundStart r.number ∈
    (after.foldl (Connected.step event pairs pid) (c.step event pairs pid (.tick o t₀))).live.realtime.marks

/-! ## The window of a round -/

variable {rounds : List Round} {r : Round} {t t₀ t' : Int}

/-- The round is about to begin, or runs. -/
def InWindow (rounds : List Round) (r : Round) (t : Int) : Prop :=
  Finds rounds .preconnect r t ∨ Finds rounds .inRound r t

structure WindowBounds (rounds : List Round) (r : Round) (t : Int) : Prop where
  member : r ∈ rounds
  begun : r.startsAt - preconnectDefault ≤ t
  running : t < r.endsAt
  passed : ∀ s ∈ rounds, s.number < r.number → s.endsAt ≤ t

theorem InWindow.bounds (wf : WellFormed rounds) (inWindow : InWindow rounds r t) :
    WindowBounds rounds r t := by
  cases inWindow with
  | inl finds =>
    obtain ⟨begun, waiting, passed⟩ := finds.preconnect wf
    have positive := wf.positive r (finds.mem wf)
    exact ⟨finds.mem wf, begun, by omega, passed⟩
  | inr finds =>
    obtain ⟨begun, running⟩ := finds.inRound wf
    -- the window includes the round itself
    have nonneg : 0 ≤ preconnectDefault := by decide
    obtain ⟨_, cell⟩ := finds.cell wf
    exact ⟨finds.mem wf, by omega, running, fun s member lower => cell_passed wf cell rfl member lower⟩

theorem WindowBounds.inWindow (wf : WellFormed rounds) (bounds : WindowBounds rounds r t) :
    InWindow rounds r t := by
  obtain ⟨member, begun, running, passed⟩ := bounds
  have nonneg : 0 ≤ preconnectDefault := by decide
  cases Int.lt_or_le t r.startsAt with
  | inr started => exact .inr (finds_running wf member started running)
  | inl waiting =>
    have cell := getCurrentPhase_cell preconnectDefault t wf (List.ne_nil_of_mem member)
    -- no other cell holds a time between the window's begin and the start of the round
    generalize found : getCurrentPhase preconnectDefault rounds t = result at cell
    cases cell with
    | notStarted first inRounds number before =>
      have order := wf.number_pos member
      have positive := wf.positive first inRounds
      cases Nat.lt_or_ge first.number r.number with
      | inl lower =>
        have := passed first inRounds lower
        omega
      | inr same =>
        rw [wf.eq_of_number inRounds member (by omega)] at before
        omega
    | preconnect s inRounds _ early earlier =>
      have positive := wf.positive s inRounds
      rcases Nat.lt_trichotomy s.number r.number with lower | same | higher
      · have := passed s inRounds lower
        omega
      · rw [wf.eq_of_number inRounds member same] at found
        exact .inl (finds_iff.mpr ⟨_, found⟩)
      · have := earlier r member higher
        omega
    | inRound s inRounds started ends =>
      rcases Nat.lt_trichotomy s.number r.number with lower | same | higher
      · have := passed s inRounds lower
        omega
      · rw [wf.eq_of_number inRounds member same] at started
        omega
      · have := wf.before member inRounds higher
        omega
    | break_ s next inRounds nextIn number ended resting =>
      have positive := wf.positive next nextIn
      rcases Nat.lt_trichotomy next.number r.number with lower | same | higher
      · have := passed next nextIn lower
        omega
      · rw [wf.eq_of_number nextIn member same] at resting
        omega
      · have long := wf.positive s inRounds
        cases Nat.lt_or_ge r.number s.number with
        | inl later =>
          have := wf.before member inRounds later
          omega
        | inr same =>
          rw [wf.eq_of_number inRounds member (by omega)] at ended
          omega
    | completed last inRounds number ended =>
      have order := wf.number_le member
      have long := wf.positive last inRounds
      cases Nat.lt_or_ge r.number last.number with
      | inl later =>
        have := wf.before member inRounds later
        omega
      | inr same =>
        rw [wf.eq_of_number inRounds member (by omega)] at ended
        omega

theorem InWindow.between (wf : WellFormed rounds) (first : InWindow rounds r t₀)
    (last : InWindow rounds r t) (later : t₀ ≤ t') (sooner : t' ≤ t) : InWindow rounds r t' := by
  have opened := first.bounds wf
  have shut := (last.bounds wf).running
  have begun := opened.begun
  refine WindowBounds.inWindow wf ⟨opened.member, by omega, by omega, fun s member lower => ?_⟩
  exact le_trans (opened.passed s member lower) later

/-! ## What a broadcast brings to the page -/

variable {event : Event} {pairs : List Pair} {pid : String} {store : EventStore} {now : Int}
  {recipient : PairingRecipient}

/-- The messages of jobs that can all be built. -/
def broadcasts (jobs : List (String × Checked Envelope)) : List Publication :=
  jobs.filterMap fun job => job.2.toOption.map (⟨job.1, ·⟩)

theorem broadcasts_ok (group : String) (message : Envelope) (rest : List (String × Checked Envelope)) :
    broadcasts ((group, .ok message) :: rest) = ⟨group, message⟩ :: broadcasts rest := rfl

theorem publishJobs_reliable {jobs : List (String × Checked Envelope)} {rt : Realtime}
    (built : ∀ job ∈ jobs, ∃ message, job.2 = .ok message) :
    (publishJobs reliable jobs rt).2 = { rt with published := rt.published ++ broadcasts jobs } := by
  induction jobs generalizing rt with
  | nil => simp [publishJobs, broadcasts]
  | cons job rest ih =>
    obtain ⟨group, outcome⟩ := job
    obtain ⟨⟨message, rfl⟩, later⟩ := List.forall_mem_cons.mp built
    simp only [publishJobs]
    rw [ih later]
    simp [publish, reliable, broadcasts_ok]

theorem sendOnce_reliable {item : Lifecycle} {rt : Realtime} (fresh : item.key ∉ rt.marks)
    (built : ∀ job ∈ item.jobs store now, ∃ message, job.2 = .ok message) :
    (sendOnce reliable store now item rt).2 =
      ⟨insert item.key rt.marks, rt.published ++ broadcasts (item.jobs store now)⟩ := by
  have published := @publishJobs_reliable _ rt built
  obtain ⟨count, ok⟩ := (@publishJobs_ok reliable _ rt).mpr built
  simp only [sendOnce]
  rw [if_neg fresh]
  cases result : publishJobs reliable (item.jobs store now) rt with
  | mk outcome rt' =>
    rw [result] at published ok
    cases ok
    simp only at published
    simp [published, Realtime.markSent]

theorem heard_append (event : Event) (pid : String) (first second : List Publication) :
    heard event pid (first ++ second) = heard event pid first ++ heard event pid second := by
  simp [heard]

theorem heard_own (event : Event) (message : Envelope) (rest : List Publication) :
    heard event pid (⟨participantChannelGroup pid, message⟩ :: rest) =
      .envelope message :: heard event pid rest := by
  simp [heard]

theorem heard_other {group : String} {message : Envelope} {rest : List Publication}
    (other : ¬ (group = participantChannelGroup pid ∨ group = eventChannelGroup event.pk)) :
    heard event pid (⟨group, message⟩ :: rest) = heard event pid rest := by
  simp only [heard]
  rw [List.filter_cons_of_neg (by simpa using other)]

theorem participantChannelGroup_inj {a b : String} :
    participantChannelGroup a = participantChannelGroup b ↔ a = b := by
  simp [participantChannelGroup, toString]

theorem participantChannelGroup_ne (pid eventId : String) :
    participantChannelGroup pid ≠ eventChannelGroup eventId := by
  intro same
  -- the names begin with different letters
  have heads := congrArg (fun s => s.toList.head?) same
  simp [participantChannelGroup, eventChannelGroup, toString] at heads

theorem recipient_group (selected : recipient ∈ selectPairingRecipients store r) :
    recipient.group = participantChannelGroup recipient.participantId := by
  obtain ⟨pair, _, ends⟩ := List.mem_flatMap.mp selected
  rcases List.mem_cons.mp ends with rfl | ends
  · rfl
  · rw [List.mem_singleton.mp ends]

/-- Of the jobs for the recipients a page hears those for its own participant. -/
theorem heard_recipients {recipients : List PairingRecipient}
    (build : PairingRecipient → Checked Envelope)
    (groups : ∀ recipient ∈ recipients,
      recipient.group = participantChannelGroup recipient.participantId)
    (built : ∀ recipient ∈ recipients, ∃ message, build recipient = .ok message) :
    heard event pid (broadcasts (recipients.map fun recipient => (recipient.group, build recipient))) =
      (recipients.filter (·.participantId = pid)).filterMap fun recipient =>
        (build recipient).toOption.map .envelope := by
  induction recipients with
  | nil => rfl
  | cons recipient rest ih =>
    obtain ⟨group, groups⟩ := List.forall_mem_cons.mp groups
    obtain ⟨⟨message, ok⟩, built⟩ := List.forall_mem_cons.mp built
    -- the message goes to the recipient's own group, which is no event's group
    rw [List.map_cons, ok, broadcasts_ok, group]
    by_cases own : recipient.participantId = pid
    · rw [own, heard_own, ih groups built, List.filter_cons_of_pos (by simpa using own)]
      simp [ok, Except.toOption]
    · rw [heard_other ?_, ih groups built, List.filter_cons_of_neg (by simpa using own)]
      rw [participantChannelGroup_inj]
      exact not_or.mpr ⟨own, participantChannelGroup_ne _ _⟩

theorem heard_one (event : Event) (build : PairingRecipient → Checked Envelope) {message : Envelope}
    (found : (selectPairingRecipients store r).filter (·.participantId = pid) = [recipient])
    (built : ∀ recipient ∈ selectPairingRecipients store r, ∃ message, build recipient = .ok message)
    (ok : build recipient = .ok message) :
    heard event pid (broadcasts ((selectPairingRecipients store r).map fun recipient =>
      (recipient.group, build recipient))) = [.envelope message] := by
  rw [heard_recipients build (fun _ selected => recipient_group selected) built, found]
  simp [ok, Except.toOption]

theorem heard_event (event : Event) (pid : String) (message : Envelope) :
    heard event pid [⟨eventChannelGroup event.pk, message⟩] = [.envelope message] := by
  simp [heard]

/-! ## A round that has been announced -/

/-- The pairing has been sent, and the page shows the round as far as it has got.  It
    is paused only while the start that ends the pause is still to come. -/
structure Settled (store : EventStore) (recipient : PairingRecipient) (r : Round) (t : Int)
    (marks : Finset MarkKey) (room : CallRoomState) : Prop where
  built : ∀ recipient ∈ selectPairingRecipients store r,
    ∃ message, pairingMessage recipient r = .ok message
  partner : room.partner = some (partnerOf recipient r)
  roundNumber : room.roundNumber = some (r.number : Int)
  roundEndTs : room.roundEndTs = some (datetimeToUnixMs r.endsAt)
  started : .roundStart r.number ∈ marks →
    room.phase = .inRound ∧ room.isPaused = false ∧ r.startsAt ≤ t
  waiting : .roundStart r.number ∉ marks → room.phase = .preconnecting
  paused : room.isPaused = true → r.startsAt ≤ t
  warned : room.serverWarningActive = true → .warning r.number ∈ marks

/-- What the page shows after it has heard all but the first `n` publications. -/
def hears (event : Event) (pid : String) (n : Nat) (room : CallRoomState) (rt : Realtime) :
    CallRoomState :=
  (heard event pid (rt.published.drop n)).foldl CallRoomState.receive room

variable {n : Nat} {room : CallRoomState} {rt rt' : Realtime} {marks : Finset MarkKey}
  {added : List Publication}

theorem hears_append (inside : n ≤ rt.published.length)
    (appended : rt'.published = rt.published ++ added) :
    hears event pid n room rt' =
      (heard event pid added).foldl CallRoomState.receive (hears event pid n room rt) := by
  simp only [hears]
  rw [appended, List.drop_append_of_le_length inside, heard_append, List.foldl_append]

/-- Once the pairing could be built, so can the other messages of the round. -/
theorem roundStart_built
    (built : ∀ recipient ∈ selectPairingRecipients store r,
      ∃ message, pairingMessage recipient r = .ok message) (begun : r.startsAt ≤ now) :
    ∀ recipient ∈ selectPairingRecipients store r,
      ∃ message, buildServerRoundStart r.number recipient.roomId (datetimeToUnixMs now) =
        .ok message := by
  intro recipient selected
  obtain ⟨number, room, _, start, _⟩ := buildServerPairing_ok.mp (built recipient selected)
  -- a round whose start is a positive timestamp begins after 1970
  have late := datetimeToUnixMs_pos.mp start
  exact buildServerRoundStart_ok.mpr ⟨number, room, datetimeToUnixMs_pos.mpr (by omega)⟩

theorem warning_built (ok : ∃ message, pairingMessage recipient r = .ok message)
    (begun : r.startsAt ≤ now) :
    ∃ message, buildServerRoundWarning r.number (datetimeToUnixMs now) (remainingSeconds r now)
      (datetimeToUnixMs r.endsAt) = .ok message := by
  obtain ⟨number, _, _, start, end_⟩ := buildServerPairing_ok.mp ok
  have late := datetimeToUnixMs_pos.mp start
  refine buildServerRoundWarning_ok.mpr ⟨number, datetimeToUnixMs_pos.mpr (by omega), ?_, end_⟩
  exact le_max_left 0 _

theorem mem_of_filter (found : (selectPairingRecipients store r).filter (·.participantId = pid) =
    [recipient]) : recipient ∈ selectPairingRecipients store r :=
  List.mem_of_mem_filter (found ▸ List.mem_singleton.mpr rfl)

/-- The pairing overwrites whatever the page has shown. -/
theorem settled_pairing
    (found : (selectPairingRecipients store r).filter (·.participantId = pid) = [recipient])
    (fresh : .pairing r.number ∉ rt.marks) (unstarted : .roundStart r.number ∉ rt.marks)
    (built : ∀ job ∈ pairingJobs store r, ∃ message, job.2 = .ok message)
    (inside : n ≤ rt.published.length) :
    Settled store recipient r t (sendOnce reliable store now (.pairing r) rt).2.marks
      (hears store.event pid n room (sendOnce reliable store now (.pairing r) rt).2) := by
  -- one message of the broadcast is the participant's own
  have builds : ∀ recipient ∈ selectPairingRecipients store r,
      ∃ message, pairingMessage recipient r = .ok message :=
    fun recipient selected => built _ (List.mem_map_of_mem selected)
  obtain ⟨message, ok⟩ := builds recipient (mem_of_filter found)
  have heard_ := heard_one store.event (pairingMessage · r) found builds ok
  rw [@sendOnce_reliable _ _ (.pairing r) _ fresh built, hears_append inside rfl]
  simp only [Lifecycle.jobs, pairingJobs] at heard_ ⊢
  rw [heard_, List.foldl_cons, List.foldl_nil, receive_pairing ok]
  exact ⟨builds, rfl, rfl, rfl, fun started => absurd started (by simpa [Lifecycle.key] using unstarted),
    fun _ => rfl, fun paused => (by cases paused), fun warned => (by cases warned)⟩

theorem Settled.roundStart
    (settled : Settled store recipient r t rt.marks (hears store.event pid n room rt))
    (found : (selectPairingRecipients store r).filter (·.participantId = pid) = [recipient])
    (fresh : .roundStart r.number ∉ rt.marks) (inside : n ≤ rt.published.length)
    (begun : r.startsAt ≤ now) (sooner : now ≤ t) :
    Settled store recipient r t (sendOnce reliable store now (.roundStart r) rt).2.marks
      (hears store.event pid n room (sendOnce reliable store now (.roundStart r) rt).2) := by
  have builds := roundStart_built settled.built begun
  obtain ⟨message, ok⟩ := builds recipient (mem_of_filter found)
  have heard_ := heard_one store.event
    (fun recipient => buildServerRoundStart r.number recipient.roomId (datetimeToUnixMs now)) found
    builds ok
  have jobs : ∀ job ∈ roundStartJobs store r now, ∃ message, job.2 = .ok message := by
    intro job member
    obtain ⟨recipient, selected, rfl⟩ := List.mem_map.mp member
    exact builds recipient selected
  rw [@sendOnce_reliable _ _ (.roundStart r) _ fresh jobs, hears_append inside rfl]
  simp only [Lifecycle.jobs, roundStartJobs] at heard_ ⊢
  rw [heard_, List.foldl_cons, List.foldl_nil, receive_roundStart ok]
  exact ⟨settled.built, settled.partner, rfl, settled.roundEndTs, fun _ => ⟨rfl, rfl, by omega⟩,
    fun unstarted => absurd (Finset.mem_insert_self _ _) unstarted, fun paused => (by cases paused),
    fun warned => (by cases warned)⟩

theorem Settled.warning
    (settled : Settled store recipient r t rt.marks (hears store.event pid n room rt))
    (found : (selectPairingRecipients store r).filter (·.participantId = pid) = [recipient])
    (fresh : .warning r.number ∉ rt.marks) (inside : n ≤ rt.published.length)
    (begun : r.startsAt ≤ now) :
    Settled store recipient r t (sendOnce reliable store now (.warning r) rt).2.marks
      (hears store.event pid n room (sendOnce reliable store now (.warning r) rt).2) := by
  obtain ⟨message, ok⟩ := warning_built (settled.built recipient (mem_of_filter found)) begun
  have jobs : ∀ job ∈ finalSecondsWarningJobs store r now, ∃ message, job.2 = .ok message := by
    intro job member
    rw [List.mem_singleton.mp member]
    exact ⟨message, ok⟩
  rw [@sendOnce_reliable _ _ (.warning r) _ fresh jobs, hears_append inside rfl]
  simp only [Lifecycle.jobs, finalSecondsWarningJobs, ok, broadcasts_ok]
  rw [show broadcasts [] = [] from rfl, heard_event, List.foldl_cons, List.foldl_nil,
    receive_warning ok]
  refine ⟨settled.built, settled.partner, rfl, rfl, fun started => settled.started ?_,
    fun unstarted => settled.waiting fun started => unstarted ?_, settled.paused,
    fun _ => Finset.mem_insert_self _ _⟩
  · simpa [Lifecycle.key] using started
  · exact Finset.mem_insert_of_mem started

/-! ## A tick in the window -/

variable {o : OrchestratorRealtime} {item : Lifecycle}

/-- In the window of a round its pairing comes first, and only its messages follow. -/
theorem due_inWindow (o : OrchestratorRealtime) (wf : WellFormed rounds) (inWindow : InWindow rounds r t) :
    ∃ rest, o.due (getCurrentPhase preconnectDefault rounds t) = .pairing r :: rest ∧
      ∀ item ∈ rest, r.startsAt ≤ t ∧ (item = .roundStart r ∨ item = .warning r) := by
  cases inWindow with
  | inl finds =>
    obtain ⟨_, result⟩ := finds_iff.mp finds
    rw [result]
    exact ⟨[], rfl, fun item member => (by cases member)⟩
  | inr finds =>
    have begun := (finds.inRound wf).1
    obtain ⟨_, result⟩ := finds_iff.mp finds
    rw [result]
    refine ⟨_, rfl, fun item member => ⟨begun, ?_⟩⟩
    cases List.mem_cons.mp member with
    | inl here => exact .inl here
    | inr later =>
      split at later
      · exact .inr (List.mem_singleton.mp later)
      · cases later

/-- As far as a tick has got, the page shows the round if its pairing is marked. -/
structure Tracks (store : EventStore) (pid : String) (recipient : PairingRecipient) (r : Round)
    (t : Int) (n : Nat) (room : CallRoomState) (rt : Realtime) : Prop where
  inside : n ≤ rt.published.length
  settled : .pairing r.number ∈ rt.marks →
    Settled store recipient r t rt.marks (hears store.event pid n room rt)
  unstarted : .pairing r.number ∉ rt.marks → .roundStart r.number ∉ rt.marks

theorem Tracks.sendOnce (tracks : Tracks store pid recipient r t n room rt)
    (found : (selectPairingRecipients store r).filter (·.participantId = pid) = [recipient])
    (sooner : now ≤ t)
    (item_ : item = .pairing r ∨ .pairing r.number ∈ rt.marks ∧ r.startsAt ≤ now ∧
      (item = .roundStart r ∨ item = .warning r)) :
    Tracks store pid recipient r t n room (sendOnce reliable store now item rt).2 := by
  by_cases marked : item.key ∈ rt.marks
  · simp only [Orchestrator.sendOnce]
    rwa [if_pos marked]
  have inside : n ≤ (Orchestrator.sendOnce reliable store now item rt).2.published.length := by
    obtain ⟨added, appended, _⟩ := sendOnce_adds reliable store now item rt
    rw [appended, List.length_append]
    exact le_trans tracks.inside (Nat.le_add_right _ _)
  rcases item_ with rfl | ⟨announced, begun, rfl | rfl⟩
  · refine ⟨inside, fun announced => ?_, fun _ started => ?_⟩
    · -- the tick has got past the pairing, so all its messages could be built
      cases sendOnce_marks announced with
      | inl old => exact absurd old marked
      | inr new =>
        exact settled_pairing found marked (tracks.unstarted marked) new.2.2 tracks.inside
    · cases sendOnce_marks started with
      | inl old => exact tracks.unstarted marked old
      | inr new => cases new.1
  · exact ⟨inside, fun _ => (tracks.settled announced).roundStart found marked tracks.inside begun sooner,
      fun lost => absurd (sendOnce_keeps announced) lost⟩
  · exact ⟨inside, fun _ => (tracks.settled announced).warning found marked tracks.inside begun,
      fun lost => absurd (sendOnce_keeps announced) lost⟩

theorem Tracks.tick (o : OrchestratorRealtime) (wf : WellFormed store.rounds) (inWindow : InWindow store.rounds r now)
    (found : (selectPairingRecipients store r).filter (·.participantId = pid) = [recipient])
    (sooner : now ≤ t) (tracks : Tracks store pid recipient r t n room rt) :
    Tracks store pid recipient r t n room (o.dispatch reliable store now rt).2 := by
  cases isLeader : o.isLeader with
  | false => rwa [dispatch_follower isLeader]
  | true =>
    rw [dispatch_leader isLeader]
    obtain ⟨rest, due, follow⟩ := due_inWindow o wf inWindow
    rw [due]
    refine sendAll_invariant [] _ (fun before item after split rt' tracks marked => ?_) tracks
      (fun _ member => by cases member)
    refine tracks.sendOnce found sooner ?_
    rw [List.nil_append] at split
    -- the pairing is the first, and whatever follows it finds it marked
    cases before with
    | nil =>
      cases split
      exact .inl rfl
    | cons first before =>
      obtain ⟨rfl, others⟩ := List.cons.inj split
      have inRest : item ∈ rest := by
        rw [others]
        exact List.mem_append_right _ List.mem_cons_self
      exact .inr ⟨marked _ List.mem_cons_self, follow item inRest⟩

/-- A round is never marked as started before it has been paired. -/
theorem tick_starts_paired {layer : ChannelLayer} {k : Nat} (wf : WellFormed store.rounds)
    (paired : .roundStart k ∈ rt.marks → .pairing k ∈ rt.marks) :
    .roundStart k ∈ (o.dispatch layer store now rt).2.marks →
      .pairing k ∈ (o.dispatch layer store now rt).2.marks := by
  cases isLeader : o.isLeader with
  | false => rwa [dispatch_follower isLeader]
  | true =>
    rw [dispatch_leader isLeader]
    let Inv (rt : Realtime) : Prop := .roundStart k ∈ rt.marks → .pairing k ∈ rt.marks
    refine @sendAll_invariant layer store now Inv [] _
      (fun before item after split rt' inv marked started => ?_) rt paired
      (fun _ member => by cases member)
    cases sendOnce_marks started with
    | inl old => exact sendOnce_keeps (inv old)
    | inr new =>
      obtain ⟨key, _, _⟩ := new
      rw [List.nil_append] at split
      have inDue : item ∈ o.due (getCurrentPhase preconnectDefault store.rounds now) := by
        rw [split]
        simp
      -- the start of a round is due only in the round, behind its pairing
      cases mem_due wf inDue with
      | roundStart s finds =>
        cases key
        obtain ⟨rest, due, _⟩ := due_inWindow o wf (.inr finds)
        rw [due] at split
        cases before with
        | nil => cases split
        | cons first before =>
          obtain ⟨rfl, _⟩ := List.cons.inj split
          exact sendOnce_keeps (marked _ List.mem_cons_self)
      | _ => cases key

/-! ## From the pairing on -/

variable {c : Connected} {action : OnlineAction} {after : List OnlineAction}

theorem step_tick (event : Event) (pairs : List Pair) (pid : String) (c : Connected)
    (o : OrchestratorRealtime) (t : Int) :
    c.step event pairs pid (.tick o t) =
      let rt := (o.dispatch reliable ⟨event, c.live.operator.rounds, pairs⟩ t c.live.realtime).2
      ⟨⟨c.live.operator, rt⟩, hears event pid c.live.realtime.published.length c.room rt⟩ := rfl

theorem step_refused {call : TimedCall} {error : OperatorError}
    (refused : perform c.live.operator call = .error error) :
    c.step event pairs pid (.call call) = c := by
  simp [Connected.step, Connected.messages, Live.step, OnlineAction.live, refused]

theorem step_accepted {call : TimedCall} {payload : ActionPayload} {operator : OperatorState}
    (accepted : perform c.live.operator call = .ok (payload, operator)) :
    c.step event pairs pid (.call call) =
      ⟨⟨operator, c.live.realtime⟩, c.room.receive (.operator payload)⟩ := by
  simp [Connected.step, Connected.messages, Live.step, OnlineAction.live, accepted]

/-- Only a pause goes through, and it leaves the rounds alone. -/
theorem KeepsRound.pause {call : TimedCall} {payload : ActionPayload} {operator : OperatorState}
    (keeps : KeepsRound r c (.call call)) (wf : WellFormed c.live.operator.rounds)
    (accepted : perform c.live.operator call = .ok (payload, operator)) :
    .roundStart r.number ∉ c.live.realtime.marks ∧ ∃ time, call = ⟨time, .pause⟩ := by
  obtain ⟨isPause, unstarted⟩ := keeps (payload, operator) (by rw [accepted]; rfl)
  refine ⟨unstarted, call.time, ?_⟩
  obtain ⟨time, kind⟩ := call
  cases kind with
  | pause => rfl
  | resume =>
    obtain ⟨_, _, _, _, _, _, _, _, _, _, _, rfl⟩ := resume_ok accepted
    cases isPause
  | extend extraSeconds =>
    obtain ⟨_, _, _, _, _, _, _, rfl⟩ := extend_ok wf accepted
    cases isPause

/-- Everybody has been sent the pairing before the start, and the rounds are in order. -/
structure Sound (c : Connected) : Prop where
  wellFormed : WellFormed c.live.operator.rounds
  paired : ∀ k, .roundStart k ∈ c.live.realtime.marks → .pairing k ∈ c.live.realtime.marks

theorem Sound.step (sound : Sound c) (action : OnlineAction) :
    Sound (c.step event pairs pid action) := by
  cases action with
  | tick o time =>
    rw [step_tick]
    have wf : WellFormed (EventStore.mk event c.live.operator.rounds pairs).rounds := sound.wellFormed
    exact ⟨wf, fun k => tick_starts_paired wf (sound.paired k)⟩
  | call call =>
    cases result : perform c.live.operator call with
    | error error => rwa [step_refused result]
    | ok accepted =>
      obtain ⟨payload, operator⟩ := accepted
      rw [step_accepted result]
      exact ⟨perform_wellFormed sound.wellFormed result, sound.paired⟩

/-- The rounds are those of the store, and the page shows `r` as it is. -/
structure Stays (store : EventStore) (recipient : PairingRecipient) (r : Round) (t : Int)
    (c : Connected) : Prop where
  rounds : c.live.operator.rounds = store.rounds
  announced : .pairing r.number ∈ c.live.realtime.marks
  settled : Settled store recipient r t c.live.realtime.marks c.room

/-- The tick that announces the round, or a later one in its window. -/
theorem stays_tick (o : OrchestratorRealtime) (wf : WellFormed store.rounds) (inWindow : InWindow store.rounds r now)
    (found : (selectPairingRecipients store r).filter (·.participantId = pid) = [recipient])
    (sooner : now ≤ t) (rounds : c.live.operator.rounds = store.rounds)
    (before : .pairing r.number ∈ c.live.realtime.marks → Stays store recipient r t c)
    (unstarted : .pairing r.number ∉ c.live.realtime.marks →
      .roundStart r.number ∉ c.live.realtime.marks)
    (announced : .pairing r.number ∈
      (c.step store.event store.pairs pid (.tick o now)).live.realtime.marks) :
    Stays store recipient r t (c.step store.event store.pairs pid (.tick o now)) := by
  have tracks : Tracks store pid recipient r t c.live.realtime.published.length c.room
      c.live.realtime := by
    refine ⟨le_refl _, fun marked => ?_, unstarted⟩
    rw [hears, List.drop_length]
    exact (before marked).settled
  have after := tracks.tick o wf inWindow found sooner
  rw [step_tick] at announced ⊢
  rw [rounds] at announced ⊢
  exact ⟨rounds, announced, after.settled announced⟩

theorem Stays.step (stays : Stays store recipient r t c) (wf : WellFormed store.rounds)
    (found : (selectPairingRecipients store r).filter (·.participantId = pid) = [recipient])
    (inWindow : InWindow store.rounds r action.time) (sooner : action.time ≤ t)
    (keeps : KeepsRound r c action) :
    Stays store recipient r t (c.step store.event store.pairs pid action) := by
  cases action with
  | tick o time =>
    -- a later tick only adds what is not marked yet
    refine stays_tick o wf inWindow found sooner stays.rounds (fun _ => stays)
      (fun lost => absurd stays.announced lost) ?_
    rw [step_tick]
    exact dispatch_keeps stays.announced
  | call call =>
    cases result : perform c.live.operator call with
    | error error => rwa [step_refused result]
    | ok accepted =>
      obtain ⟨payload, operator⟩ := accepted
      have wf' : WellFormed c.live.operator.rounds := stays.rounds ▸ wf
      obtain ⟨unstarted, time, rfl⟩ := keeps.pause wf' result
      obtain ⟨s, member, begun, running, _, rfl, rfl⟩ := pause_ok wf' result
      -- the round that is paused is the one whose window is open
      rw [stays.rounds] at member
      have finds : Finds store.rounds .inRound s time := finds_running wf member begun running
      have same : r = s := by
        cases inWindow with
        | inl other => exact (other.unique finds).2
        | inr other => exact (other.unique finds).2
      subst same
      rw [step_accepted result]
      have settled := stays.settled
      exact ⟨stays.rounds, stays.announced, settled.built, settled.partner, rfl, settled.roundEndTs,
        fun started => absurd started unstarted, settled.waiting, fun _ => le_trans begun sooner,
        settled.warned⟩

/-- A page that shows the round as it is shows what the snapshot restores. -/
theorem Stays.converges (stays : Stays store recipient r t c) (wf : WellFormed store.rounds)
    (found : (selectPairingRecipients store r).filter (·.participantId = pid) = [recipient])
    (inWindow : InWindow store.rounds r t) (unwarned : .warning r.number ∉ c.live.realtime.marks)
    (started : r.startsAt ≤ t → .roundStart r.number ∈ c.live.realtime.marks) :
    Converges store.event store.pairs pid c t := by
  have settled := stays.settled
  have calm : c.room.serverWarningActive = false := by
    by_contra warned
    exact unwarned (settled.warned (by simpa using warned))
  obtain ⟨pairing, pairingOk⟩ := settled.built recipient (mem_of_filter found)
  simp only [Converges]
  rw [stays.rounds]
  cases inWindow with
  | inl finds =>
    have waiting := (finds.preconnect wf).2.1
    -- a round that waits has not been started, and so cannot have been paused
    have unstarted : .roundStart r.number ∉ c.live.realtime.marks := by
      intro early
      have begun := (settled.started early).2.2
      omega
    have running : c.room.isPaused = false := by
      by_contra paused
      have begun := settled.paused (by simpa using paused)
      omega
    -- before the start the snapshot is the pairing alone
    refine ⟨[pairing], ?_, fun kept => ?_⟩
    · rw [@snapshot_preconnect _ _ store _ _ _ finds found, pairingOk]
      rfl
    · simp [receive_pairing pairingOk, CallRoomState.shown, settled.partner, settled.roundNumber,
        settled.roundEndTs, settled.waiting unstarted, running, calm]
  | inr finds =>
    have begun := (finds.inRound wf).1
    obtain ⟨start, startOk⟩ := roundStart_built settled.built begun recipient (mem_of_filter found)
    obtain ⟨inRound, running, _⟩ := settled.started (started begun)
    -- both handlers reset the pause and the warning
    refine ⟨[pairing, start], ?_, fun kept => ?_⟩
    · rw [@snapshot_inRound _ _ store _ _ _ finds found, pairingOk]
      simp only [startOk]
      rfl
    · simp [receive_pairing pairingOk, receive_roundStart startOk, CallRoomState.shown,
        settled.partner, settled.roundNumber, settled.roundEndTs, inRound, running, calm]

/-! ## Whole runs -/

/-- Since the pairing no accepted action has touched the rounds. -/
theorem rounds_kept (sound : Sound c)
    (kept : ∀ v ∈ visited (Connected.step event pairs pid) c after, KeepsRound r v.1 v.2) :
    (after.foldl (Connected.step event pairs pid) c).live.operator.rounds = c.live.operator.rounds := by
  let Inv (c' : Connected) : Prop :=
    Sound c' ∧ c'.live.operator.rounds = c.live.operator.rounds
  have preserved : ∀ c' action, Inv c' → KeepsRound r c' action →
      Inv (c'.step event pairs pid action) := by
    intro c' action ⟨sound, same⟩ keeps
    refine ⟨sound.step action, ?_⟩
    cases action with
    | tick o time => exact same
    | call call =>
      cases result : perform c'.live.operator call with
      | error error => rwa [step_refused result]
      | ok accepted =>
        obtain ⟨payload, operator⟩ := accepted
        obtain ⟨_, time, rfl⟩ := keeps.pause sound.wellFormed result
        obtain ⟨_, _, _, _, _, _, rfl⟩ := pause_ok sound.wellFormed result
        rw [step_accepted result]
        exact same
  exact (foldl_invariant preserved ⟨sound, rfl⟩ kept).2

/-- A tick announces a round only in its window. -/
theorem announced_inWindow (sound : Sound c) (member : r ∈ c.live.operator.rounds)
    (unannounced : .pairing r.number ∉ c.live.realtime.marks)
    (announced : .pairing r.number ∈ (c.step event pairs pid (.tick o t₀)).live.realtime.marks) :
    InWindow c.live.operator.rounds r t₀ := by
  rw [step_tick] at announced
  cases dispatch_marks announced with
  | inl old => exact absurd old unannounced
  | inr new =>
    obtain ⟨item, due, key⟩ := new
    cases mem_due sound.wellFormed due with
    | pairing s finds =>
      have number : r.number = s.number := by simpa [Lifecycle.key] using key
      have inRounds : s ∈ c.live.operator.rounds := by
        cases finds with
        | inl finds => exact finds.mem sound.wellFormed
        | inr finds => exact finds.mem sound.wellFormed
      rw [sound.wellFormed.eq_of_number member inRounds number]
      exact finds
    | _ => cases key

/-- In the window of a round that has been announced, and that nothing but a pause before
    its start has touched since, the snapshot brings every page up to date. -/
theorem snapshot_converges (event : Event) (pairs : List Pair) (pid : String)
    (operator : OperatorState) (wf : WellFormed operator.rounds) (r : Round)
    (paired : ∃ recipient, (selectPairingRecipients ⟨event, operator.rounds, pairs⟩ r).filter
      (·.participantId = pid) = [recipient])
    (before : List OnlineAction) (o : OrchestratorRealtime) (t₀ : Int) (after : List OnlineAction)
    (t : Int) (nondecreasing : (t₀ :: (after.map OnlineAction.time ++ [t])).Pairwise (· ≤ ·))
    (announced : Announced event pairs pid r
      (before.foldl (Connected.step event pairs pid) (.start operator)) o t₀ after t)
    (inWindow : InWindow ((before ++ .tick o t₀ :: after).foldl (Connected.step event pairs pid)
      (.start operator)).live.operator.rounds r t) :
    Converges event pairs pid
      ((before ++ .tick o t₀ :: after).foldl (Connected.step event pairs pid) (.start operator)) t := by
  obtain ⟨recipient, found⟩ := paired
  rw [List.foldl_append, List.foldl_cons] at inWindow ⊢
  have sound : Sound (before.foldl (Connected.step event pairs pid) (.start operator)) := by
    have start : Sound (.start operator) :=
      ⟨wf, fun k marked => (by simp [Connected.start, Realtime.fresh] at marked)⟩
    exact @foldl_preserves _ _ _ Sound (fun _ => True) (fun _ action sound _ => sound.step action) _ before
      start fun _ _ => trivial
  generalize before.foldl (Connected.step event pairs pid) (.start operator) = c
    at announced inWindow sound ⊢
  let store : EventStore := ⟨event, c.live.operator.rounds, pairs⟩
  have wf : WellFormed store.rounds := sound.wellFormed
  -- the rows at `t` are those of the pairing, so both ends of the run lie in one window
  have same := rounds_kept (sound.step (.tick o t₀)) announced.kept
  rw [same] at inWindow
  have last : InWindow store.rounds r t := inWindow
  have first : InWindow store.rounds r t₀ :=
    announced_inWindow sound (last.bounds wf).member announced.unannounced announced.announced
  -- every later action comes between the pairing and `t`
  obtain ⟨order, ordered⟩ := List.pairwise_cons.mp nondecreasing
  obtain ⟨_, _, upTo⟩ := List.pairwise_append.mp ordered
  have stays := stays_tick o wf first found (order t (by simp)) rfl
    (fun early => absurd early announced.unannounced)
    (fun unannounced early => unannounced (sound.paired _ early)) announced.announced
  have preserved : ∀ c action, Stays store recipient r t c →
      KeepsRound r c action ∧ t₀ ≤ action.time ∧ action.time ≤ t →
      Stays store recipient r t (c.step store.event store.pairs pid action) := by
    intro c action stays allowed
    obtain ⟨keeps, later, sooner⟩ := allowed
    exact stays.step wf found (first.between wf last later sooner) sooner keeps
  refine (foldl_invariant preserved stays fun v member => ?_).converges wf found last announced.unwarned
    announced.started
  obtain ⟨earlier, rest, split, _⟩ := mem_visited.mp member
  have inAfter : v.2 ∈ after := by
    rw [split]
    simp
  exact ⟨announced.kept v member, order _ (List.mem_append_left _ (List.mem_map_of_mem inAfter)),
    upTo _ (List.mem_map_of_mem inAfter) t (by simp)⟩

/-! ## A pause before the start, and one after it -/

def adaPk : String := "11111111-1111-4111-8111-111111111111"

def openingRound : Round :=
  ⟨1, twoRoundEvent.startTime, twoRoundEvent.startTime + twoRoundEvent.roundDuration⟩

def tickOnline (s : Int) : OnlineAction := .tick ⟨true, 60⟩ (twoRoundEvent.startTime + seconds s)

def pauseOnline (s : Int) : OnlineAction := .call ⟨twoRoundEvent.startTime + seconds s, .pause⟩

/-- Ada's page after some steps of the event of two rounds. -/
def adaAfter (actions : List OnlineAction) : Connected :=
  actions.foldl (Connected.step twoRoundEvent meetings adaPk) (.start freshTwoRounds)

/-- The start of the round ends the pause that comes before it. -/
theorem early_pause_converges : Converges twoRoundEvent meetings adaPk
    (adaAfter ([] ++ tickOnline (-10) :: [pauseOnline 2, tickOnline 5]))
    (twoRoundEvent.startTime + seconds 8) :=
  snapshot_converges twoRoundEvent meetings adaPk freshTwoRounds (wellFormed_plannedRounds _ _)
    openingRound ⟨_, rfl⟩ [] ⟨true, 60⟩ (twoRoundEvent.startTime + seconds (-10))
    [pauseOnline 2, tickOnline 5] _ (by decide +kernel)
    ⟨by decide +kernel, by decide +kernel, by decide +kernel, by decide +kernel,
      fun _ => by decide +kernel⟩ (.inr (by decide +kernel))

/-- A pause after the start is lost to a page that reconnects. -/
theorem late_pause_diverges : ¬ Converges twoRoundEvent meetings adaPk
    (adaAfter [tickOnline (-10), tickOnline 5, pauseOnline 60])
    (twoRoundEvent.startTime + seconds 70) := by
  rintro ⟨messages, built, same⟩
  let c := adaAfter [tickOnline (-10), tickOnline 5, pauseOnline 60]
  have paused : c.room.isPaused = true := by decide +kernel
  -- a fresh page that applies the snapshot runs its timer
  have running : (reconnectSnapshotMessages ⟨twoRoundEvent, c.live.operator.rounds, meetings⟩ adaPk
      (twoRoundEvent.startTime + seconds 70)).toOption.map (fun messages =>
        ((messages.map RoomMessage.envelope).foldl CallRoomState.receive {}).isPaused) =
      some false := by
    decide +kernel
  have restored : ((messages.map RoomMessage.envelope).foldl CallRoomState.receive {}).isPaused =
      c.room.isPaused := congrArg (fun shown => shown.2.2.2.2.1) (same {})
  rw [paused] at restored
  rw [built] at running
  simp [Except.toOption, restored] at running

end EventPlatform.Orchestrator
