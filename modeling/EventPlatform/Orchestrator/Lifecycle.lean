import EventPlatform.Orchestrator.Dispatch
import EventPlatform.Lib.Runs

/-! # Is every round ended before the next one begins?

`round_end` is sent only by a tick that falls into the break after the round, or
after the last round.  Such a break is the part of the pause between two rounds
before the next preconnect window, which is empty when the pause is not longer
than that window.  Where no tick falls into it, the next round begins, or the
event ends, without a `round_end`. -/

namespace EventPlatform.Orchestrator

open EventPlatform.Lib EventPlatform.Scheduling EventPlatform.Protocol

/-! ## Complete lifecycles -/

def Publication.StartsRound (k : Nat) (p : Publication) : Prop :=
  p.message.type = .serverRoundStart ∧ p.message.roundNumber = some k

def Publication.EndsRound (k : Nat) (p : Publication) : Prop :=
  p.message.type = .serverRoundEnd ∧ p.message.roundNumber = some k

/-- The message belongs to the round after `k`, or it ends the event. -/
def Publication.Follows (k : Nat) (p : Publication) : Prop :=
  p.message.roundNumber = some (k + 1) ∨ p.message.type = .serverEventEnd

instance (k : Nat) (p : Publication) : Decidable (p.StartsRound k) :=
  inferInstanceAs (Decidable (_ ∧ _))

instance (k : Nat) (p : Publication) : Decidable (p.EndsRound k) :=
  inferInstanceAs (Decidable (_ ∧ _))

instance (k : Nat) (p : Publication) : Decidable (p.Follows k) :=
  inferInstanceAs (Decidable (_ ∨ _))

/-- A round that was started has been ended when the next one is announced. -/
def Complete (published : List Publication) : Prop :=
  ∀ before p after, published = before ++ p :: after → ∀ k, p.Follows k →
    (∃ q ∈ before, q.StartsRound k) → ∃ q ∈ before, q.EndsRound k

/-- Every prefix of a complete lifecycle that is followed by a message of the next
    round has the `round_end` in it. -/
theorem Complete.take {published : List Publication} (complete : Complete published) (n k : Nat)
    (follows : ∃ p ∈ (published.drop n).head?, p.Follows k)
    (started : ∃ q ∈ published.take n, q.StartsRound k) : ∃ q ∈ published.take n, q.EndsRound k := by
  obtain ⟨p, head, follows⟩ := follows
  obtain ⟨after, rest⟩ := List.head?_eq_some_iff.mp head
  exact complete (published.take n) p after (by rw [← rest, List.take_append_drop]) k follows started

theorem Complete.append {published added : List Publication} (complete : Complete published)
    (settled : ∀ p ∈ added, ∀ k, p.Follows k → (∃ q ∈ published ++ added, q.StartsRound k) →
      ∃ q ∈ published, q.EndsRound k) : Complete (published ++ added) := by
  intro before p after split k follows started
  -- the publication is one of the new ones, or it was there before
  cases List.append_eq_append_iff.mp split with
  | inl inAdded =>
    obtain ⟨more, rfl, rest⟩ := inAdded
    have member : p ∈ added := by rw [rest]; simp
    obtain ⟨q, inBefore, starts⟩ := started
    have : q ∈ published ++ added := by
      rw [split]
      exact List.mem_append_left _ inBefore
    obtain ⟨e, inPublished, ends⟩ := settled p member k follows ⟨q, this, starts⟩
    exact ⟨e, List.mem_append_left _ inPublished, ends⟩
  | inr inPublished =>
    obtain ⟨more, rfl, rest⟩ := inPublished
    cases more with
    | nil =>
      have member : p ∈ added := by rw [← List.nil_append added, ← rest]; simp
      obtain ⟨q, inBefore, starts⟩ := started
      have : q ∈ before ++ [] ++ added :=
        List.mem_append_left _ (List.mem_append_left _ inBefore)
      simpa using settled p member k follows ⟨q, this, starts⟩
    | cons head more =>
      obtain ⟨rfl, rfl⟩ := List.cons.inj rest
      exact complete before p more rfl k follows started

/-! ## Runs of ticks -/

/-- The ticks of one leader, from an empty cache. -/
def runTicks (o : OrchestratorRealtime) (layer : ChannelLayer) (store : EventStore)
    (ticks : List Int) : Realtime :=
  ticks.foldl (fun rt t => (o.dispatch layer store t rt).2) Realtime.fresh

/-- The tick at `t` may send something that belongs to `next`, or end the event.
    The messages of a round after the sixth are refused when they are built. -/
def Announces (rounds : List Round) (next : Round) (t : Int) : Prop :=
  ((getCurrentPhase preconnectDefault rounds t).activeRound = some next ∧ next.number ≤ 6) ∨
    ((getCurrentPhase preconnectDefault rounds t).phase = .completed ∧ rounds.length ≤ 6)

instance (rounds : List Round) (next : Round) (t : Int) : Decidable (Announces rounds next t) :=
  inferInstanceAs (Decidable (_ ∨ _))

/-- Between a tick inside a round and a tick that announces the next round or
    the end of the event, some tick falls into the break. -/
def BreaksSeen (rounds : List Round) (ticks : List Int) : Prop :=
  ∀ r ∈ rounds, ∀ next ∈ rounds, next.number = r.number + 1 →
    ∀ a ∈ ticks, Finds rounds .inRound r a → ∀ b ∈ ticks, Announces rounds next b →
      ∃ c ∈ ticks, Finds rounds .break_ r c

instance (rounds : List Round) (ticks : List Int) : Decidable (BreaksSeen rounds ticks) :=
  inferInstanceAs (Decidable (∀ _ ∈ _, ∀ _ ∈ _, _ → ∀ _ ∈ _, _ → ∀ _ ∈ _, _ → ∃ _ ∈ _, _))

variable {rounds : List Round}

theorem Announces.begun {next : Round} {t : Int} (wf : WellFormed rounds) (member : next ∈ rounds)
    (announces : Announces rounds next t) : next.startsAt - preconnectDefault ≤ t := by
  have positive := wf.positive next member
  have nonneg : (0 : Int) ≤ preconnectDefault := by decide
  cases announces with
  | inl active =>
    obtain ⟨_, cell⟩ := Finds.cell wf ⟨rfl, active.1⟩
    generalize (getCurrentPhase preconnectDefault rounds t).phase = phase at cell
    cases cell with
    | preconnect _ _ begun _ _ => exact begun
    | inRound _ _ begun _ => omega
    | break_ _ _ _ _ _ ended _ => omega
    | completed _ _ _ ended => omega
  | inr completed =>
    obtain ⟨last, finds⟩ := finds_of_completed wf completed.1
    obtain ⟨number, ended⟩ := finds.completed wf
    have upper := wf.number_le member
    -- the event is over, and so is every round
    cases Nat.lt_or_ge next.number last.number with
    | inl before =>
      have order := wf.before member (finds.mem wf) before
      have := wf.positive last (finds.mem wf)
      omega
    | inr same =>
      rw [wf.eq_of_number member (finds.mem wf) (by omega)] at positive ⊢
      omega

/-! ## What the ticks so far have left behind -/

structure History (store : EventStore) (seen handled : List Int) (rt : Realtime) : Prop where
  /-- A started round was seen running. -/
  started : ∀ p ∈ rt.published, ∀ k, p.StartsRound k → k ≤ 6 ∧ ∃ r ∈ store.rounds, r.number = k ∧
    ∃ a ∈ seen, Finds store.rounds .inRound r a ∧ 1000 ≤ a
  ended : ∀ k, .roundEnd k ∈ rt.marks → k ≤ 6 ∧ ∃ p ∈ rt.published, p.EndsRound k
  /-- A tick in a break has ended the round before it. -/
  rested : ∀ r, ∀ c ∈ handled, Finds store.rounds .break_ r c → r.number ≤ 6 → 1000 ≤ c →
    ∃ p ∈ rt.published, p.EndsRound r.number
  complete : Complete rt.published

variable {store : EventStore} {seen handled : List Int} {rt : Realtime} {t : Int}
  {item : Lifecycle}

/-- A broadcast that follows round `k` comes after the end of round `k`. -/
theorem History.settled (wf : WellFormed store.rounds) (history : History store seen handled rt)
    (due : Due store.rounds t item) {p : Publication} (job : OneOf (item.jobs store t) p) {r : Round}
    (member : r ∈ store.rounds) (small : r.number ≤ 6) (follows : p.Follows r.number) {a : Int}
    (running : Finds store.rounds .inRound r a) (late : 1000 ≤ a)
    (seenBreak : ∀ next ∈ store.rounds, next.number = r.number + 1 →
      Announces store.rounds next t → ∃ c ∈ handled, Finds store.rounds .break_ r c)
    (lastEnded : item = .eventEnd → ∀ last, Finds store.rounds .completed last t →
      .roundEnd last.number ∈ rt.marks) :
    ∃ q ∈ rt.published, q.EndsRound r.number := by
  have throughBreak : ∀ next ∈ store.rounds, next.number = r.number + 1 →
      Announces store.rounds next t → ∃ q ∈ rt.published, q.EndsRound r.number := by
    intro next inRounds number announces
    obtain ⟨c, inHandled, resting⟩ := seenBreak next inRounds number announces
    obtain ⟨_, _, _, ended, _⟩ := resting.break_ wf
    have := (running.inRound wf).2
    exact history.rested r c inHandled resting small (by omega)
  obtain ⟨type, number⟩ := jobs_message job
  have upper := jobs_roundNumber_le job
  cases follows with
  | inl next =>
    rw [number] at next
    -- the round of the message is the active one of the phase
    have active : ∀ s phase, item.roundNumber = some (s.number : Int) →
        Finds store.rounds phase s t → ∃ q ∈ rt.published, q.EndsRound r.number := by
      intro s phase itemNumber finds
      have bound := upper _ itemNumber
      rw [itemNumber] at next
      have same := Option.some.inj next
      exact throughBreak s (finds.mem wf) (by omega) (.inl ⟨finds.2, by omega⟩)
    cases due with
    | pairing s finds =>
      cases finds with
      | inl finds => exact active s _ rfl finds
      | inr finds => exact active s _ rfl finds
    | roundStart s finds => exact active s _ rfl finds
    | warning s finds => exact active s _ rfl finds
    | roundEnd s finds =>
      cases finds with
      | inl finds => exact active s _ rfl finds
      | inr finds => exact active s _ rfl finds
    | eventEnd last finds => cases next
  | inr final =>
    rw [type] at final
    cases due with
    | eventEnd last completed =>
      obtain ⟨lastSmall, lastPublished⟩ := history.ended _ (lastEnded rfl last completed)
      obtain ⟨lastNumber, _⟩ := completed.completed wf
      cases Nat.lt_or_ge r.number store.rounds.length with
      | inl before =>
        obtain ⟨next, inRounds, nextNumber⟩ := wf.exists_number (k := r.number + 1) (by omega) before
        exact throughBreak next inRounds nextNumber (.inr ⟨completed.1, by omega⟩)
      | inr atLast =>
        have := wf.number_le member
        have same : last.number = r.number := by omega
        rwa [← same]
    | _ => cases final

theorem History.sendOnce (wf : WellFormed store.rounds) (history : History store seen handled rt)
    (due : Due store.rounds t item) (now : t ∈ seen)
    (seenBreak : ∀ r ∈ store.rounds, ∀ next ∈ store.rounds, next.number = r.number + 1 →
      ∀ a ∈ seen, Finds store.rounds .inRound r a → Announces store.rounds next t →
        ∃ c ∈ handled, Finds store.rounds .break_ r c)
    (lastEnded : item = .eventEnd → ∀ last, Finds store.rounds .completed last t →
      .roundEnd last.number ∈ rt.marks) :
    History store seen handled (sendOnce reliable store t item rt).2 := by
  obtain ⟨added, appended, jobs⟩ := sendOnce_adds reliable store t item rt
  have kept : ∀ p ∈ rt.published, p ∈ (Orchestrator.sendOnce reliable store t item rt).2.published :=
    fun p member => by rw [appended]; exact List.mem_append_left _ member
  have started : ∀ p ∈ (Orchestrator.sendOnce reliable store t item rt).2.published, ∀ k,
      p.StartsRound k → k ≤ 6 ∧ ∃ r ∈ store.rounds, r.number = k ∧
        ∃ a ∈ seen, Finds store.rounds .inRound r a ∧ 1000 ≤ a := by
    intro p member k starts
    rw [appended] at member
    cases List.mem_append.mp member with
    | inl old => exact history.started p old k starts
    | inr new =>
      have job := jobs p new
      -- only the start of a round sends a message that starts one
      obtain ⟨type, number⟩ := jobs_message job
      rw [starts.1] at type
      rw [starts.2] at number
      cases due with
      | roundStart r finds =>
        obtain ⟨recipient, _, same⟩ := List.mem_map.mp job
        obtain ⟨range, _, positive⟩ := buildServerRoundStart_ok.mp ⟨_, (Prod.mk.inj same).2⟩
        have same := Option.some.inj number
        exact ⟨by omega, r, finds.mem wf, by omega, t, now, finds,
          datetimeToUnixMs_pos.mp positive⟩
      | _ => cases type
  refine ⟨started, fun k marked => ?_, fun r c inHandled resting small late => ?_, ?_⟩
  · cases sendOnce_marks marked with
    | inl old =>
      obtain ⟨small, p, member, ends⟩ := history.ended k old
      exact ⟨small, p, kept p member, ends⟩
    -- a new mark belongs to the item, and of the items only the end of a round has one
    | inr new =>
      obtain ⟨key, fresh, built⟩ := new
      cases item with
      | roundEnd r =>
        cases key
        obtain ⟨message, ok⟩ := built _ (List.mem_singleton_self _)
        obtain ⟨range, _⟩ := buildServerRoundEnd_ok.mp ⟨message, ok⟩
        have job : (eventChannelGroup store.event.pk, Except.ok message) ∈
            (Lifecycle.roundEnd r).jobs store t := by
          rw [← ok]
          exact List.mem_singleton_self _
        exact ⟨by omega, _, sendOnce_published rfl fresh job built, jobs_message (p := ⟨_, message⟩) job⟩
      | _ => cases key
  · obtain ⟨p, member, ends⟩ := history.rested r c inHandled resting small late
    exact ⟨p, kept p member, ends⟩
  · have complete := history.complete
    rw [appended] at started ⊢
    refine complete.append fun p new k follows ⟨q, member, starts⟩ => ?_
    obtain ⟨small, r, inRounds, rfl, a, inSeen, running, late⟩ := started q member k starts
    exact history.settled wf due (jobs p new) inRounds small follows running late
      (fun next nextMember number announces =>
        seenBreak r inRounds next nextMember number a inSeen running announces) lastEnded

/-- A tick inside the break ends the round before it. -/
theorem dispatch_break {o : OrchestratorRealtime} {r : Round} (leader : o.isLeader = true)
    (small : 1 ≤ r.number ∧ r.number ≤ 6) (late : 1000 ≤ t)
    (resting : Finds store.rounds .break_ r t) :
    .roundEnd r.number ∈ (o.dispatch reliable store t rt).2.marks := by
  obtain ⟨sent, ok⟩ := (@sendOnce_ok reliable store t (.roundEnd r) rt).mpr (.inr fun job member => by
    rw [List.mem_singleton.mp member]
    exact buildServerRoundEnd_ok.mpr ⟨by omega, datetimeToUnixMs_pos.mpr late⟩)
  have marked := sendOnce_marked ok
  rw [dispatch_leader leader, due_break resting]
  simp only [sendAll]
  cases result : sendOnce reliable store t (.roundEnd r) rt with
  | mk outcome rt' =>
    rw [result] at ok marked
    cases ok
    exact marked

theorem History.dispatch {o : OrchestratorRealtime} {ticks rest : List Int}
    (leader : o.isLeader = true) (wf : WellFormed store.rounds)
    (history : History store handled handled rt) (split : ticks = handled ++ t :: rest)
    (nondecreasing : ticks.Pairwise (· ≤ ·)) (breaksSeen : BreaksSeen store.rounds ticks) :
    History store (handled ++ [t]) (handled ++ [t]) (o.dispatch reliable store t rt).2 := by
  -- a break before the announced round lies before this tick
  have seenBreak : ∀ r ∈ store.rounds, ∀ next ∈ store.rounds, next.number = r.number + 1 →
      ∀ a ∈ handled ++ [t], Finds store.rounds .inRound r a → Announces store.rounds next t →
        ∃ c ∈ handled, Finds store.rounds .break_ r c := by
    intro r member next nextMember number a inSeen running announces
    have inTicks : ∀ u ∈ handled ++ [t], u ∈ ticks := by
      intro u member
      rw [split]
      simp only [List.mem_append, List.mem_cons] at member ⊢
      tauto
    obtain ⟨c, cTick, resting⟩ := breaksSeen r member next nextMember number a (inTicks a inSeen)
      running t (inTicks t (by simp)) announces
    refine ⟨c, ?_, resting⟩
    obtain ⟨next', nextMember', number', _, before⟩ := resting.break_ wf
    have begun := announces.begun wf nextMember
    rw [wf.eq_of_number nextMember' nextMember (by omega)] at before
    rw [split] at cTick nondecreasing
    cases List.mem_append.mp cTick with
    | inl old => exact old
    | inr new =>
      have least := (List.pairwise_cons.mp (List.pairwise_append.mp nondecreasing).2.1).1
      cases List.mem_cons.mp new with
      | inl here => omega
      | inr later => have := least c later; omega
  have swept : History store (handled ++ [t]) handled (o.dispatch reliable store t rt).2 := by
    rw [dispatch_leader leader]
    refine sendAll_invariant [] _ (fun before item after split rt' history' marked => ?_) ?_
      (fun _ member => by cases member)
    · rw [List.nil_append] at split
      refine history'.sendOnce wf (mem_due wf (o := o) (by rw [split]; simp)) (by simp) seenBreak
        fun isEnd last completed => ?_
      subst isEnd
      rw [due_completed completed] at split
      cases before with
      | nil => cases split
      | cons first before =>
        cases (List.cons.inj split).1
        exact marked _ List.mem_cons_self
    · refine ⟨fun p member k starts => ?_, history.ended, history.rested, history.complete⟩
      obtain ⟨small, r, inRounds, number, a, inHandled, running⟩ := history.started p member k starts
      exact ⟨small, r, inRounds, number, a, List.mem_append_left _ inHandled, running⟩
  refine ⟨swept.started, swept.ended, fun r c inHandled resting small late => ?_, swept.complete⟩
  cases List.mem_append.mp inHandled with
  | inl old => exact swept.rested r c old resting small late
  | inr new =>
    rw [List.mem_singleton.mp new] at resting late
    have positive := wf.number_pos (resting.mem wf)
    exact (swept.ended _ (dispatch_break leader ⟨positive, small⟩ late resting)).2

theorem history_runTicks {o : OrchestratorRealtime} {ticks : List Int} (leader : o.isLeader = true)
    (wf : WellFormed store.rounds) (nondecreasing : ticks.Pairwise (· ≤ ·))
    (breaksSeen : BreaksSeen store.rounds ticks) :
    History store ticks ticks (runTicks o reliable store ticks) := by
  refine @foldl_history _ _ _ (fun past rt => History store past past rt) ticks _ ?_
    fun past t rest split rt history => history.dispatch leader wf split nondecreasing breaksSeen
  refine ⟨fun p member => (by cases member), fun k marked => ?_, fun r c member => (by cases member),
    fun before p after split => ?_⟩
  · simp [Realtime.fresh] at marked
  · simp [Realtime.fresh] at split

/-- A pause of at most the preconnect window leaves no break to fall into. -/
theorem no_break_found {event : Event} (short : event.breakDuration ≤ preconnectDefault)
    {startTime : Int} {r : Round} : ¬ Finds (plannedRounds event startTime) .break_ r t := by
  intro resting
  have wf := wellFormed_plannedRounds event startTime
  obtain ⟨next, nextMember, number, ended, before⟩ := resting.break_ wf
  obtain ⟨i, _, rfl⟩ := List.mem_map.mp (resting.mem wf)
  obtain ⟨j, _, rfl⟩ := List.mem_map.mp nextMember
  simp only [plannedRound] at number ended before
  have step : (j : Int) = i + 1 := by omega
  rw [step] at before
  have : (i + 1 : Int) * (event.roundDuration + event.breakDuration) =
      i * (event.roundDuration + event.breakDuration) + event.roundDuration + event.breakDuration := by
    ring
  omega

/-! ## Every run of ticks -/

/-- The rows of an event whose timeline has been persisted. -/
def persistedStore (event : Event) (startTime : Option Int) (pairs : List Pair) : EventStore :=
  ⟨event, RoundScheduler.persistSchedule event startTime preconnectDefault [], pairs⟩

theorem wellFormed_persistedStore (event : Event) (startTime : Option Int) (pairs : List Pair) :
    WellFormed (persistedStore event startTime pairs).rounds := by
  simp only [persistedStore, persistSchedule_nil]
  exact wellFormed_plannedRounds event _

theorem rounds_end_before_next (event : Event) (startTime : Option Int) (pairs : List Pair)
    (o : OrchestratorRealtime) (leader : o.isLeader = true) (ticks : List Int)
    (nondecreasing : ticks.Pairwise (· ≤ ·))
    (breaksSeen : BreaksSeen (persistedStore event startTime pairs).rounds ticks) :
    Complete (runTicks o reliable (persistedStore event startTime pairs) ticks).published :=
  (history_runTicks leader (wellFormed_persistedStore event startTime pairs) nondecreasing
    breaksSeen).complete

/-! ## Two rounds with and without a visible break -/

def ada : Participant := ⟨"11111111-1111-4111-8111-111111111111", "Ada",
  [⟨"33333333-3333-4333-8333-333333333333", "chess"⟩]⟩

def ben : Participant := ⟨"22222222-2222-4222-8222-222222222222", "Ben", []⟩

def twoMeetings : List Pair := [⟨1, ada, ben, "room-1"⟩, ⟨2, ada, ben, "room-2"⟩]

def leader : OrchestratorRealtime := ⟨true, 60⟩

/-- A tick in each round, one in the break and one after the last round. -/
def attentiveTicks : List Int :=
  [10, 310, 370, 700].map fun s => twoRoundEvent.startTime + seconds s

theorem attentive_ends_rounds :
    Complete (runTicks leader reliable (persistedStore twoRoundEvent none twoMeetings)
      attentiveTicks).published :=
  rounds_end_before_next twoRoundEvent none twoMeetings leader rfl attentiveTicks
    (by decide +kernel) (by decide +kernel)

/-- The same event with ten seconds between its rounds. -/
def hastyEvent : Event := { twoRoundEvent with breakDuration := seconds 10, breakNonneg := by decide }

/-- A tick every ten seconds from the first preconnect to the end of the event. -/
def denseTicks : List Int :=
  (List.range 65).map fun i => hastyEvent.startTime + seconds (10 * i - 20)

theorem hasty_round_never_ends : denseTicks.Pairwise (· ≤ ·) ∧
    ¬ Complete (runTicks leader reliable (persistedStore hastyEvent none twoMeetings)
      denseTicks).published := by
  refine ⟨by decide +kernel, fun complete => ?_⟩
  -- five messages belong to the first round, the sixth is the second pairing
  have ended := complete.take 5 1 (by decide +kernel) (by decide +kernel)
  revert ended
  decide +kernel

end EventPlatform.Orchestrator
