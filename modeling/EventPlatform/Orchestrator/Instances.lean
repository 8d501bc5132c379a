import EventPlatform.Orchestrator.Delivery

/-! # Several instances at once

Every instance that takes itself for the leader runs `dispatch` against the same
cache.  `_send_once` is three steps: it reads the mark, it publishes, it writes
the mark.  Nothing keeps another instance out between the first and the last. -/

namespace EventPlatform.Orchestrator

open EventPlatform.Lib EventPlatform.Scheduling EventPlatform.Protocol

/-! ## Interleaved calls -/

/-- `_SENT_CACHE_TTL_SECONDS` -/
def sentCacheTtl : Int := seconds (24 * 60 * 60)

/-- Where a call of `dispatch` stands: before a read of the first item's mark,
    before its broadcast, or before the write of its mark. -/
inductive DispatchCall where
  | returned
  | checking (store : EventStore) (current : Int) (items : List Lifecycle)
  | broadcasting (store : EventStore) (current : Int) (item : Lifecycle) (rest : List Lifecycle)
  | marking (store : EventStore) (current : Int) (item : Lifecycle) (rest : List Lifecycle)

/-- The shared cache, with the time each mark expires, and the channel.  `broadcasts`
    records the key of each broadcast that has published something. -/
structure Shared (ι : Type*) where
  calls : ι → DispatchCall
  marks : MarkKey → Option Int
  published : List Publication
  broadcasts : List MarkKey

def Shared.idle {ι : Type*} : Shared ι := ⟨fun _ => .returned, fun _ => none, [], []⟩

inductive DispatchStep where
  | call (o : OrchestratorRealtime) (store : EventStore) (current : Int)
  | alreadySent (wall : Int)
  | broadcast (layer : ChannelLayer)
  | markSent (wall : Int)

variable {ι : Type*} [DecidableEq ι]

/-- `bool(cache.get(...))` at the given time. -/
def Shared.alreadySent (s : Shared ι) (key : MarkKey) (wall : Int) : Bool :=
  (s.marks key).any fun expiresAt => wall < expiresAt

def Shared.markSent (s : Shared ι) (key : MarkKey) (wall : Int) : Shared ι :=
  { s with marks := Function.update s.marks key (some (wall + sentCacheTtl)) }

def Shared.goto (s : Shared ι) (i : ι) (call : DispatchCall) : Shared ι :=
  { s with calls := Function.update s.calls i call }

def Shared.publish (s : Shared ι) (key : MarkKey) (published : List Publication) : Shared ι :=
  { s with
    published
    broadcasts := if s.published.length < published.length then s.broadcasts ++ [key]
      else s.broadcasts }

def Shared.stepAt (s : Shared ι) (i : ι) : DispatchStep → DispatchCall → Shared ι
  | .call o store current, .returned =>
    if o.isLeader then
      s.goto i (.checking store current (o.due (getCurrentPhase preconnectDefault store.rounds current)))
    else s
  | .alreadySent _, .checking _ _ [] => s.goto i .returned
  | .alreadySent wall, .checking store current (item :: rest) =>
    -- an entry that has run out, or that the cache has lost, reads as unset
    if s.alreadySent item.key wall then s.goto i (.checking store current rest)
    else s.goto i (.broadcasting store current item rest)
  | .broadcast layer, .broadcasting store current item rest =>
    match publishJobs layer (item.jobs store current) ⟨∅, s.published⟩ with
    -- the exception ends the call; what was published stays, and no mark is written
    | (.error _, rt) => (s.publish item.key rt.published).goto i .returned
    | (.ok _, rt) => (s.publish item.key rt.published).goto i (.marking store current item rest)
  | .markSent wall, .marking store current item rest =>
    (s.markSent item.key wall).goto i (.checking store current rest)
  | _, _ => s

def Shared.step (s : Shared ι) (action : ι × DispatchStep) : Shared ι :=
  s.stepAt action.1 action.2 (s.calls action.1)

/-! ## Careful steps -/

/-- The call is about to broadcast the key. -/
def DispatchCall.Broadcasts (key : MarkKey) : DispatchCall → Prop
  | broadcasting _ _ item _ => item.key = key
  | _ => False

/-- The call has broadcast the key and is about to mark it. -/
def DispatchCall.Marks (key : MarkKey) : DispatchCall → Prop
  | marking _ _ item _ => item.key = key
  | _ => False

/-- The call has found the mark of the key unset and has not written it yet. -/
def DispatchCall.Holds (key : MarkKey) (call : DispatchCall) : Prop :=
  call.Broadcasts key ∨ call.Marks key

instance (key : MarkKey) : (call : DispatchCall) → Decidable (call.Broadcasts key)
  | .returned => isFalse id
  | .checking .. => isFalse id
  | .broadcasting _ _ item _ => inferInstanceAs (Decidable (item.key = key))
  | .marking .. => isFalse id

instance (key : MarkKey) : (call : DispatchCall) → Decidable (call.Marks key)
  | .returned => isFalse id
  | .checking .. => isFalse id
  | .broadcasting .. => isFalse id
  | .marking _ _ item _ => inferInstanceAs (Decidable (item.key = key))

instance (key : MarkKey) (call : DispatchCall) : Decidable (call.Holds key) :=
  inferInstanceAs (Decidable (_ ∨ _))

/-- An exception of a builder, if there is one, comes before anything has been published. -/
def Clean (layer : ChannelLayer) (jobs : List (String × Checked Envelope)) : Prop :=
  (∀ job ∈ jobs, job.2.isOk = true) ∨ ∀ job ∈ jobs.takeWhile (·.2.isOk),
    ∀ message ∈ job.2.toOption, layer job.1 message = false

instance (layer : ChannelLayer) (jobs : List (String × Checked Envelope)) :
    Decidable (Clean layer jobs) :=
  inferInstanceAs (Decidable ((∀ _ ∈ _, _) ∨ ∀ _ ∈ _, ∀ _ ∈ _, _))

/-- A mark that reads as unset was never written, and no other call is on its way to
    write it. -/
def CarefulAt (s : Shared ι) (i : ι) : DispatchStep → DispatchCall → Prop
  | .alreadySent wall, .checking _ _ (item :: _) => s.alreadySent item.key wall = false →
    s.marks item.key = none ∧ ∀ j, j ≠ i → ¬ (s.calls j).Holds item.key
  | .broadcast layer, .broadcasting store current item _ => Clean layer (item.jobs store current)
  | _, _ => True

def Careful (s : Shared ι) (action : ι × DispatchStep) : Prop :=
  CarefulAt s action.1 action.2 (s.calls action.1)

instance [Fintype ι] (s : Shared ι) (i : ι) : (step : DispatchStep) → (call : DispatchCall) →
    Decidable (CarefulAt s i step call)
  | .alreadySent wall, .checking _ _ (item :: _) =>
    inferInstanceAs (Decidable (s.alreadySent item.key wall = false →
      s.marks item.key = none ∧ ∀ j, j ≠ i → ¬ (s.calls j).Holds item.key))
  | .broadcast layer, .broadcasting store current item _ =>
    inferInstanceAs (Decidable (Clean layer (item.jobs store current)))
  | .alreadySent _, .checking _ _ [] => isTrue trivial
  | .alreadySent _, .returned => isTrue trivial
  | .alreadySent _, .broadcasting .. => isTrue trivial
  | .alreadySent _, .marking .. => isTrue trivial
  | .broadcast _, .returned => isTrue trivial
  | .broadcast _, .checking .. => isTrue trivial
  | .broadcast _, .marking .. => isTrue trivial
  | .call .., _ => isTrue trivial
  | .markSent _, _ => isTrue trivial

instance [Fintype ι] (s : Shared ι) (action : ι × DispatchStep) : Decidable (Careful s action) :=
  inferInstanceAs (Decidable (CarefulAt ..))

/-! ## One step -/

theorem publishJobs_refused {layer : ChannelLayer} {jobs : List (String × Checked Envelope)}
    {rt : Realtime} {e : ProtocolError} (failed : (publishJobs layer jobs rt).1 = .error e)
    (refused : ∀ job ∈ jobs.takeWhile (·.2.isOk), ∀ message ∈ job.2.toOption,
      layer job.1 message = false) : (publishJobs layer jobs rt).2.published = rt.published := by
  induction jobs generalizing rt with
  | nil => rfl
  | cons job rest ih =>
    obtain ⟨group, built⟩ := job
    cases built with
    | error e => rfl
    | ok message =>
      rw [List.takeWhile_cons_of_pos rfl, List.forall_mem_cons] at refused
      obtain ⟨first, others⟩ := refused
      have first : layer group message = false := first message rfl
      simp only [publishJobs, publish, first, Bool.false_eq_true, if_false] at failed ⊢
      refine ih ?_ others
      cases outcome : (publishJobs layer rest rt).1 with
      | error e' => simpa [outcome, Except.map] using failed
      | ok count => simp [outcome, Except.map] at failed

/-- A broadcast that fails cleanly has published nothing. -/
theorem publishJobs_clean {layer : ChannelLayer} {jobs : List (String × Checked Envelope)}
    {rt : Realtime} {e : ProtocolError} (clean : Clean layer jobs)
    (failed : (publishJobs layer jobs rt).1 = .error e) :
    (publishJobs layer jobs rt).2.published = rt.published := by
  cases clean with
  | inl built =>
    obtain ⟨count, ok⟩ := (@publishJobs_ok layer jobs rt).mpr
      fun job member => isOk_iff.mp (built job member)
    rw [failed] at ok
    cases ok
  | inr refused => exact publishJobs_refused failed refused

@[simp] theorem holds_returned (key : MarkKey) : ¬ DispatchCall.returned.Holds key := by
  simp [DispatchCall.Holds, DispatchCall.Broadcasts, DispatchCall.Marks]

@[simp] theorem holds_checking (store : EventStore) (current : Int) (items : List Lifecycle)
    (key : MarkKey) : ¬ (DispatchCall.checking store current items).Holds key := by
  simp [DispatchCall.Holds, DispatchCall.Broadcasts, DispatchCall.Marks]

@[simp] theorem holds_broadcasting (store : EventStore) (current : Int) (item : Lifecycle)
    (rest : List Lifecycle) (key : MarkKey) :
    (DispatchCall.broadcasting store current item rest).Holds key ↔ item.key = key := by
  simp [DispatchCall.Holds, DispatchCall.Broadcasts, DispatchCall.Marks]

@[simp] theorem holds_marking (store : EventStore) (current : Int) (item : Lifecycle)
    (rest : List Lifecycle) (key : MarkKey) :
    (DispatchCall.marking store current item rest).Holds key ↔ item.key = key := by
  simp [DispatchCall.Holds, DispatchCall.Broadcasts, DispatchCall.Marks]

/-- What a careful step can do.  A call holds one key at most, from the step that
    finds it unmarked to the step that marks it. -/
inductive Effect (s : Shared ι) (i : ι) : Shared ι → Prop where
  | stay : Effect s i s
  | move (call : DispatchCall) : (∀ key, ¬ (s.calls i).Holds key) → (∀ key, ¬ call.Holds key) →
      Effect s i (s.goto i call)
  | take (key : MarkKey) (call : DispatchCall) : (∀ key, ¬ (s.calls i).Holds key) →
      s.marks key = none → (∀ j, j ≠ i → ¬ (s.calls j).Holds key) →
      (∀ key', call.Holds key' → key' = key) → Effect s i (s.goto i call)
  | abort (key : MarkKey) : (s.calls i).Broadcasts key →
      Effect s i ((s.publish key s.published).goto i .returned)
  | broadcast (key : MarkKey) (published : List Publication) (call : DispatchCall) :
      (s.calls i).Broadcasts key → call.Marks key → (∀ key', call.Holds key' → key' = key) →
      Effect s i ((s.publish key published).goto i call)
  | mark (key : MarkKey) (wall : Int) (call : DispatchCall) :
      (∀ key', (s.calls i).Holds key' → key' = key) → (∀ key, ¬ call.Holds key) →
      Effect s i ((s.markSent key wall).goto i call)

theorem step_effect {s : Shared ι} {action : ι × DispatchStep} (careful : Careful s action) :
    Effect s action.1 (s.step action) := by
  obtain ⟨i, step⟩ := action
  have careful : CarefulAt s i step (s.calls i) := careful
  show Effect s i (s.stepAt i step (s.calls i))
  cases here : s.calls i with
  | returned =>
    have free : ∀ key, ¬ (s.calls i).Holds key := by rw [here]; simp
    cases step with
    | call o store current =>
      show Effect s i (if o.isLeader then _ else s)
      split
      · exact .move _ free (by simp)
      · exact .stay
    | _ => exact .stay
  | checking store current items =>
    have free : ∀ key, ¬ (s.calls i).Holds key := by rw [here]; simp
    cases step with
    | alreadySent wall =>
      cases items with
      | nil => exact .move _ free (by simp)
      | cons item rest =>
        show Effect s i (if s.alreadySent item.key wall then _ else _)
        rw [here] at careful
        split
        · exact .move _ free (by simp)
        next unset =>
          -- the key is not marked, and by care nobody else holds it: this call takes it
          obtain ⟨unmarked, alone⟩ := careful (by simpa using unset)
          exact .take item.key _ free unmarked alone (by simp)
    | _ => exact .stay
  | broadcasting store current item rest =>
    have sends : (s.calls i).Broadcasts item.key := by rw [here]; rfl
    cases step with
    | broadcast layer =>
      rw [here] at careful
      simp only [Shared.stepAt]
      cases result : publishJobs layer (item.jobs store current) ⟨∅, s.published⟩ with
      | mk outcome rt =>
        cases outcome with
        | error e =>
          -- a failed broadcast has published nothing, so the key is given back
          have kept := @publishJobs_clean _ _ ⟨∅, s.published⟩ _ careful (by rw [result])
          rw [result] at kept
          show Effect s i ((s.publish item.key rt.published).goto i .returned)
          rw [show rt.published = s.published from kept]
          exact .abort item.key sends
        | ok count => exact .broadcast item.key _ _ sends rfl (by simp)
    | _ => exact .stay
  | marking store current item rest =>
    cases step with
    | markSent wall => exact .mark item.key wall _ (by simp [here]) (by simp)
    | _ => exact .stay

/-! ## A call that is not interrupted

Alone, the steps of a call amount to `dispatch`. -/

/-- The cache and the channel as `dispatch` sees them at the given time. -/
def Agrees (s : Shared ι) (wall : Int) (rt : Realtime) : Prop :=
  rt.published = s.published ∧ ∀ key, key ∈ rt.marks ↔ s.alreadySent key wall = true

/-- The three steps of `_send_once`. -/
def sendOnceSteps (i : ι) (layer : ChannelLayer) (wall : Int) : List (ι × DispatchStep) :=
  [(i, .alreadySent wall), (i, .broadcast layer), (i, .markSent wall)]

def dispatchSteps (i : ι) (o : OrchestratorRealtime) (layer : ChannelLayer) (store : EventStore)
    (current wall : Int) : List (ι × DispatchStep) :=
  (i, .call o store current) ::
    (o.due (getCurrentPhase preconnectDefault store.rounds current)).flatMap fun _ =>
      sendOnceSteps i layer wall

/-- Publishing does not look at the marks. -/
theorem publishJobs_forgets (layer : ChannelLayer) (jobs : List (String × Checked Envelope))
    {rt rt' : Realtime} (same : rt.published = rt'.published) :
    (publishJobs layer jobs rt).1 = (publishJobs layer jobs rt').1 ∧
      (publishJobs layer jobs rt).2.published = (publishJobs layer jobs rt').2.published := by
  induction jobs generalizing rt rt' with
  | nil => exact ⟨rfl, same⟩
  | cons job rest ih =>
    obtain ⟨group, built⟩ := job
    cases built with
    | error e => exact ⟨rfl, same⟩
    | ok message =>
      have first : (publish layer group message rt).1 = (publish layer group message rt').1 := by
        simp only [publish]
        split <;> rfl
      have added : (publish layer group message rt).2.published =
          (publish layer group message rt').2.published := by
        simp only [publish]
        split <;> simp [same]
      obtain ⟨count, published⟩ := ih added
      simp only [publishJobs]
      exact ⟨by rw [first, count], published⟩

variable {s : Shared ι} {i : ι} {wall : Int} {rt : Realtime} {layer : ChannelLayer}
  {store : EventStore} {current : Int} {item : Lifecycle} {rest : List Lifecycle}

theorem Shared.goto_self (s : Shared ι) (i : ι) (call : DispatchCall) :
    (s.goto i call).calls i = call := Function.update_self ..

theorem Shared.goto_ne (s : Shared ι) {i j : ι} (other : j ≠ i) (call : DispatchCall) :
    (s.goto i call).calls j = s.calls j := Function.update_of_ne other ..

theorem Shared.step_at (s : Shared ι) {call : DispatchCall} (here : s.calls i = call)
    (step : DispatchStep) : s.step (i, step) = s.stepAt i step call := by
  rw [← here]
  rfl

/-- A step after the call has returned. -/
theorem step_returned (here : s.calls i = .returned) {step : DispatchStep}
    (noCall : ∀ o store current, step ≠ .call o store current) : s.step (i, step) = s := by
  rw [s.step_at here]
  cases step with
  | call o store current => exact absurd rfl (noCall o store current)
  | _ => rfl

theorem sendOnceSteps_returned (here : s.calls i = .returned) (items : List Lifecycle) :
    (items.flatMap fun _ => sendOnceSteps i layer wall).foldl Shared.step s = s := by
  induction items with
  | nil => rfl
  | cons item items ih =>
    rw [List.flatMap_cons, List.foldl_append]
    simp only [sendOnceSteps, List.foldl_cons, List.foldl_nil]
    rw [step_returned here (by simp), step_returned here (by simp), step_returned here (by simp)]
    exact ih

omit [DecidableEq ι] in
theorem Agrees.markSent (agrees : Agrees s wall rt) (key : MarkKey) :
    Agrees (s.markSent key wall) wall (rt.markSent key) := by
  refine ⟨agrees.1, fun key' => ?_⟩
  have ttl : wall < wall + sentCacheTtl := by
    have : (0 : Int) < sentCacheTtl := by decide
    omega
  have old := agrees.2 key'
  simp only [Realtime.markSent, Finset.mem_insert, Shared.alreadySent, Shared.markSent,
    Function.update_apply] at old ⊢
  split
  next same => simp [same, ttl]
  next other => simp only [other, false_or, old]

theorem solo_sendOnce (layer : ChannelLayer) (agrees : Agrees s wall rt)
    (here : s.calls i = .checking store current (item :: rest)) :
    Agrees ((sendOnceSteps i layer wall).foldl Shared.step s) wall
        (sendOnce layer store current item rt).2 ∧
      ((sendOnceSteps i layer wall).foldl Shared.step s).calls i =
        match (sendOnce layer store current item rt).1 with
        | .ok _ => .checking store current rest
        | .error _ => .returned := by
  simp only [sendOnceSteps, List.foldl_cons, List.foldl_nil, s.step_at here, Shared.stepAt]
  by_cases marked : item.key ∈ rt.marks
  · -- the broadcast and the write of the mark are skipped
    rw [if_pos ((agrees.2 item.key).mp marked)]
    have next := s.goto_self i (.checking store current rest)
    have skip : ∀ step, step = .broadcast layer ∨ step = .markSent wall →
        (s.goto i (.checking store current rest)).step (i, step) =
          s.goto i (.checking store current rest) := by
      rintro step (rfl | rfl) <;> rw [Shared.step_at _ next] <;> rfl
    rw [skip _ (.inl rfl), skip _ (.inr rfl), sendOnce, if_pos marked]
    exact ⟨agrees, next⟩
  · have unset : ¬ s.alreadySent item.key wall = true := fun set => marked ((agrees.2 item.key).mpr set)
    rw [if_neg unset]
    have next := s.goto_self i (.broadcasting store current item rest)
    obtain ⟨outcome, published⟩ := @publishJobs_forgets layer (item.jobs store current)
      ⟨∅, s.published⟩ rt agrees.1.symm
    have kept := publishJobs_marks layer (item.jobs store current) rt
    rw [Shared.step_at _ next, sendOnce, if_neg marked]
    simp only [Shared.stepAt]
    have nobody : (s.goto i (.broadcasting store current item rest)).published = s.published := rfl
    rw [nobody]
    cases mine : publishJobs layer (item.jobs store current) ⟨∅, s.published⟩ with
    | mk outcome' rt'' =>
      cases theirs : publishJobs layer (item.jobs store current) rt with
      | mk outcome'' rt' =>
        rw [mine, theirs] at outcome published
        rw [theirs] at kept
        simp only at outcome published kept
        subst outcome
        -- the marks are those from before the broadcast
        have agrees' : ∀ call, Agrees (((s.goto i (.broadcasting store current item rest)).publish
            item.key rt''.published).goto i call) wall rt' := fun call =>
          ⟨published.symm, fun key => by rw [kept]; exact agrees.2 key⟩
        cases outcome' with
        | error e =>
          simp only
          rw [step_returned (Shared.goto_self ..) (by simp)]
          exact ⟨agrees' _, Shared.goto_self ..⟩
        | ok count =>
          simp only
          rw [Shared.step_at _ (Shared.goto_self ..)]
          exact ⟨(agrees' _).markSent item.key, Shared.goto_self ..⟩

theorem solo_sendAll {items : List Lifecycle} (agrees : Agrees s wall rt)
    (here : s.calls i = .checking store current items) :
    Agrees ((items.flatMap fun _ => sendOnceSteps i layer wall).foldl Shared.step s) wall
      (sendAll layer store current items rt).2 := by
  induction items generalizing s rt with
  | nil => exact agrees
  | cons item rest ih =>
    obtain ⟨agrees', next⟩ := solo_sendOnce layer agrees here
    rw [List.flatMap_cons, List.foldl_append]
    simp only [sendAll]
    generalize (sendOnceSteps i layer wall).foldl Shared.step s = s' at agrees' next
    cases result : sendOnce layer store current item rt with
    | mk outcome rt' =>
      rw [result] at agrees' next
      cases outcome with
      | error e =>
        -- the exception has ended the call, so the other steps do nothing
        rw [sendOnceSteps_returned next rest]
        exact agrees'
      | ok sent => exact ih agrees' next

theorem solo_dispatch (o : OrchestratorRealtime) (agrees : Agrees s wall rt)
    (idle : s.calls i = .returned) :
    Agrees ((dispatchSteps i o layer store current wall).foldl Shared.step s) wall
      (o.dispatch layer store current rt).2 := by
  simp only [dispatchSteps, List.foldl_cons, s.step_at idle, Shared.stepAt,
    OrchestratorRealtime.dispatch]
  cases leader : o.isLeader with
  | true => exact solo_sendAll agrees (Shared.goto_self ..)
  | false =>
    simp only [Bool.false_eq_true, if_false]
    rw [sendOnceSteps_returned idle]
    exact agrees

/-! ## No key is broadcast twice -/

structure Guarded (s : Shared ι) : Prop where
  single : ∀ key i j, (s.calls i).Holds key → (s.calls j).Holds key → i = j
  fresh : ∀ key i, (s.calls i).Broadcasts key → key ∉ s.broadcasts
  covered : ∀ key ∈ s.broadcasts, s.marks key ≠ none ∨ ∃ i, (s.calls i).Marks key
  distinct : s.broadcasts.Nodup

variable {call : DispatchCall}

/-- A call that holds a key after the step held it before, or it is the acting one. -/
theorem Guarded.single_goto (guarded : Guarded s) (i : ι) (call : DispatchCall)
    (alone : ∀ key, call.Holds key → ∀ j, j ≠ i → ¬ (s.calls j).Holds key) :
    ∀ key j k, ((s.goto i call).calls j).Holds key → ((s.goto i call).calls k).Holds key → j = k := by
  intro key j k first second
  by_cases atJ : j = i
  -- of two holders at most one is the acting call
  · by_cases atK : k = i
    · rw [atJ, atK]
    · rw [atJ, Shared.goto_self] at first
      rw [Shared.goto_ne s atK] at second
      exact absurd second (alone key first k atK)
  · rw [Shared.goto_ne s atJ] at first
    by_cases atK : k = i
    · rw [atK, Shared.goto_self] at second
      exact absurd first (alone key second j atJ)
    · rw [Shared.goto_ne s atK] at second
      exact guarded.single key j k first second

theorem DispatchCall.Broadcasts.not_marks {key key' : MarkKey} (sends : call.Broadcasts key) :
    ¬ call.Marks key' := by
  cases call <;> simp [DispatchCall.Broadcasts, DispatchCall.Marks] at sends ⊢

/-- The other calls are where they were, so only the acting one needs a look. -/
theorem Guarded.fresh_goto (guarded : Guarded s)
    (fresh : ∀ key, call.Broadcasts key → key ∉ s.broadcasts) :
    ∀ key j, ((s.goto i call).calls j).Broadcasts key → key ∉ s.broadcasts := by
  intro key j sends
  by_cases atJ : j = i
  · rw [atJ, Shared.goto_self] at sends
    exact fresh key sends
  · rw [Shared.goto_ne s atJ] at sends
    exact guarded.fresh key j sends

theorem Guarded.covered_goto (guarded : Guarded s) (i : ι) (call : DispatchCall)
    (released : ∀ key, (s.calls i).Marks key → s.marks key ≠ none) :
    ∀ key ∈ s.broadcasts, s.marks key ≠ none ∨ ∃ j, ((s.goto i call).calls j).Marks key := by
  intro key member
  cases guarded.covered key member with
  | inl marked => exact .inl marked
  | inr held =>
    obtain ⟨j, marks⟩ := held
    by_cases atJ : j = i
    -- a call that gives the key up has written its mark
    · exact .inl (released key (atJ ▸ marks))
    · exact .inr ⟨j, by rw [Shared.goto_ne s atJ]; exact marks⟩

theorem Guarded.effect {s' : Shared ι} (guarded : Guarded s) (effect : Effect s i s') :
    Guarded s' := by
  cases effect with
  | stay => exact guarded
  | move call free free' =>
    exact ⟨guarded.single_goto _ _ fun key holds => absurd holds (free' key),
      guarded.fresh_goto fun key sends => absurd (.inl sends) (free' key),
      guarded.covered_goto _ _ fun key marks => absurd (.inr marks) (free key), guarded.distinct⟩
  | take key call free unmarked alone only =>
    refine ⟨guarded.single_goto _ _ fun key' holds => ?_, guarded.fresh_goto fun key' sends => ?_,
      guarded.covered_goto _ _ fun key marks => absurd (.inr marks) (free key), guarded.distinct⟩
    · rw [only key' holds]
      exact alone
    · rw [only key' (.inl sends)]
      -- a broadcast key is marked, or somebody is about to mark it
      intro member
      cases guarded.covered key member with
      | inl marked => exact marked unmarked
      | inr held =>
        obtain ⟨j, marks⟩ := held
        by_cases atJ : j = i
        · exact free key (.inr (atJ ▸ marks))
        · exact alone j atJ (.inr marks)
  | abort key sends =>
    have same : (s.publish key s.published) = s := by simp [Shared.publish]
    rw [same]
    exact ⟨guarded.single_goto _ _ fun key holds => absurd holds (holds_returned key),
      guarded.fresh_goto fun key sends => sends.elim,
      guarded.covered_goto _ _ fun key marks => absurd marks sends.not_marks, guarded.distinct⟩
  | broadcast key published call sends marks only =>
    -- the acting call holds the key, so no other call does
    have others : ∀ j, j ≠ i → ¬ (s.calls j).Holds key := fun j other holds =>
      other (guarded.single key j i holds (.inl sends))
    have single := guarded.single_goto i call fun key' holds => by
      rw [only key' holds]
      exact others
    have members : ∀ key', key' ∈ (s.publish key published).broadcasts →
        key' ∈ s.broadcasts ∨ key' = key := by
      intro key' member
      simp only [Shared.publish] at member
      split at member
      · simpa using member
      · exact .inl member
    refine ⟨single, fun key' j sends' member => ?_, fun key' member => ?_, ?_⟩
    -- the acting call has left its broadcast behind
    · have at_ : j ≠ i := by
        intro same
        subst same
        have sends' : call.Broadcasts key' := by rwa [← Shared.goto_self s j call]
        exact sends'.not_marks marks
      have sends' : (s.calls j).Broadcasts key' := by rwa [← Shared.goto_ne s at_ call]
      cases members key' member with
      | inl old => exact guarded.fresh key' j sends' old
      | inr new => exact others j at_ (.inl (new ▸ sends'))
    · cases members key' member with
      | inl old =>
        exact guarded.covered_goto i call (fun key marks => absurd marks sends.not_marks) key' old
      | inr new => exact .inr ⟨i, by rw [Shared.goto_self, new]; exact marks⟩
    · show (s.publish key published).broadcasts.Nodup
      simp only [Shared.publish]
      split
      · exact guarded.distinct.append (List.nodup_singleton key)
          (List.disjoint_singleton.mpr (guarded.fresh key i sends))
      · exact guarded.distinct
  | mark key wall call only free' =>
    -- a write adds a mark and takes none away
    have written : ∀ key', s.marks key' ≠ none → (s.markSent key wall).marks key' ≠ none := by
      intro key' marked
      simp only [Shared.markSent, Function.update_apply]
      split
      · simp
      · exact marked
    have guarded' : Guarded (s.markSent key wall) := ⟨guarded.single, guarded.fresh,
      fun key' member => (guarded.covered key' member).imp_left (written key'), guarded.distinct⟩
    refine ⟨guarded'.single_goto _ _ fun key holds => absurd holds (free' key),
      guarded'.fresh_goto fun key sends => absurd (.inl sends) (free' key),
      guarded'.covered_goto _ _ fun key' marks => ?_, guarded.distinct⟩
    rw [only key' (.inr marks)]
    simp [Shared.markSent]

/-- As long as all steps are careful, no key is broadcast a second time. -/
theorem broadcast_at_most_once (steps : List (ι × DispatchStep))
    (careful : ∀ v ∈ visited Shared.step Shared.idle steps, Careful v.1 v.2) :
    (steps.foldl Shared.step Shared.idle).broadcasts.Nodup := by
  have start : Guarded (Shared.idle : Shared ι) :=
    ⟨fun key i j holds => absurd holds (holds_returned key), fun key i sends => sends.elim,
      fun key member => (by cases member), .nil⟩
  have guarded := foldl_invariant (fun s action guarded careful =>
    Guarded.effect guarded (step_effect careful)) start careful
  exact guarded.distinct

/-! ## Two instances in the preconnect window -/

/-- Each instance makes its call five seconds before the round. -/
def preconnectCall (instance_ : Bool) : Bool × DispatchStep :=
  (instance_, .call soleLeader evaMeetsMax (twoRoundEvent.startTime - seconds 5))

def sendOnceAt (instance_ : Bool) : List (Bool × DispatchStep) :=
  sendOnceSteps instance_ reliable (twoRoundEvent.startTime - seconds 5)

theorem second_instance_skips :
    (([preconnectCall false, preconnectCall true] ++ sendOnceAt false ++
      sendOnceAt true).foldl Shared.step Shared.idle).broadcasts.Nodup :=
  broadcast_at_most_once
    ([preconnectCall false, preconnectCall true] ++ sendOnceAt false ++ sendOnceAt true)
    (by decide +kernel)

/-- Both read the mark before either of them writes it. -/
def interleaved : List (Bool × DispatchStep) :=
  [preconnectCall false, preconnectCall true] ++
    [.alreadySent (twoRoundEvent.startTime - seconds 5), .broadcast reliable,
      .markSent (twoRoundEvent.startTime - seconds 5)].flatMap fun step => [(false, step), (true, step)]

theorem pairing_broadcast_twice :
    ¬ (interleaved.foldl Shared.step Shared.idle).broadcasts.Nodup := by
  decide +kernel

end EventPlatform.Orchestrator
