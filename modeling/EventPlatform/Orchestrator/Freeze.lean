import EventPlatform.Orchestrator.Dispatch
import EventPlatform.Operator.PauseResume

/-! # Does a pause freeze the event?

A pause is a row of the operator log.  Neither the scheduler nor `dispatch`
reads that log: the stored times of the rounds go on running, and a tick after
the stored end of the paused round carries on as if there were no pause. -/

namespace EventPlatform.Orchestrator

open EventPlatform.Lib EventPlatform.Scheduling EventPlatform.Protocol EventPlatform.Operator

/-! ## An event with its operator and its ticks -/

structure Live where
  operator : OperatorState
  realtime : Realtime

inductive LiveAction where
  | tick (o : OrchestratorRealtime) (layer : ChannelLayer) (time : Int)
  | call (c : TimedCall)

def LiveAction.time : LiveAction → Int
  | tick _ _ time => time
  | call c => c.time

/-- A tick reads the rounds that the operator's actions have stored. -/
def Live.step (event : Event) (pairs : List Pair) (live : Live) : LiveAction → Live
  | .tick o layer time =>
    { live with
      realtime := (o.dispatch layer ⟨event, live.operator.rounds, pairs⟩ time live.realtime).2 }
  | .call c =>
    match perform live.operator c with
    | .error _ => live
    | .ok (_, operator) => { live with operator }

/-- The message moves on from round `k`. -/
def Publication.LeavesRound (k : Nat) (p : Publication) : Prop :=
  (p.message.type = .serverRoundEnd ∧ p.message.roundNumber = some k) ∨
  (p.message.type ∈ [.serverPairing, .serverRoundStart, .serverRoundWarning] ∧
    p.message.roundNumber.any ((k : Int) < ·)) ∨
  p.message.type = .serverEventEnd

instance (k : Nat) (p : Publication) : Decidable (p.LeavesRound k) :=
  inferInstanceAs (Decidable (_ ∨ _ ∨ _))

/-- The action is a resume that goes through. -/
def Resumes (live : Live) : LiveAction → Prop
  | .tick .. => False
  | .call c => c.call = .resume ∧ (perform live.operator c).isOk

instance (live : Live) : (action : LiveAction) → Decidable (Resumes live action)
  | .tick .. => inferInstanceAs (Decidable False)
  | .call _ => inferInstanceAs (Decidable (_ ∧ _))

/-- A tick of the leader comes before the stored end of round `k`, or it finds the
    break after a later round, or everything due at it has been sent. -/
def Harmless (k : Nat) (live : Live) : LiveAction → Prop
  | .tick o _ time =>
    o.isLeader →
      (∃ r ∈ live.operator.rounds, r.number = k ∧ time < r.endsAt) ∨
      (∃ r ∈ live.operator.rounds, k < r.number ∧ Finds live.operator.rounds .break_ r time) ∨
      (∀ item ∈ o.due (getCurrentPhase preconnectDefault live.operator.rounds time),
        item.key ∈ live.realtime.marks)
  | .call _ => True

instance (k : Nat) (live : Live) : (action : LiveAction) → Decidable (Harmless k live action)
  | .tick .. => inferInstanceAs (Decidable (_ → _ ∨ _ ∨ _))
  | .call _ => inferInstanceAs (Decidable True)

/-! ## Harmless ticks -/

variable {event : Event} {pairs : List Pair} {live : Live} {p : Int} {k : Nat}

/-- Round `k` had begun by the time `p` of the pause. -/
structure Begun (p : Int) (k : Nat) (live : Live) : Prop where
  wellFormed : WellFormed live.operator.rounds
  begun : ∃ r ∈ live.operator.rounds, r.number = k ∧ r.startsAt ≤ p

theorem Begun.tick {o : OrchestratorRealtime} {layer : ChannelLayer} {t : Int}
    (begun : Begun p k live) (later : p ≤ t) (harmless : Harmless k live (.tick o layer t)) :
    Adds (fun q => ¬ q.LeavesRound k) live.realtime
      (live.step event pairs (.tick o layer t)).realtime := by
  have wf := begun.wellFormed
  let store : EventStore := ⟨event, live.operator.rounds, pairs⟩
  cases isLeader : o.isLeader with
  | false =>
    simp only [Live.step, OrchestratorRealtime.dispatch, isLeader, Bool.false_eq_true, if_false]
    exact Adds.refl _ _
  | true =>
    show Adds _ _ (o.dispatch layer store t live.realtime).2
    rw [dispatch_leader isLeader]
    rcases harmless isLeader with ⟨r, member, number, running⟩ | ⟨r, member, after, resting⟩ | sent
    · -- inside round `k` only the messages of round `k` are due
      obtain ⟨s, member', number', begun⟩ := begun.begun
      have same := wf.eq_of_number member' member (by omega)
      subst same
      have finds : Finds store.rounds .inRound s t := finds_running wf member (le_trans begun later) running
      refine sendAll_adds (fun item due q job leaves => ?_) live.realtime
      obtain ⟨type, round⟩ := jobs_message job
      simp only [Publication.LeavesRound] at leaves
      rw [type, round] at leaves
      rcases due_inRound wf finds due with rfl | rfl | rfl <;>
        simp [Lifecycle.type, Lifecycle.roundNumber, number] at leaves
    · rw [due_break resting]
      refine sendAll_adds (fun item due q job leaves => ?_) live.realtime
      obtain ⟨type, round⟩ := jobs_message job
      simp only [Publication.LeavesRound] at leaves
      rw [type, round, List.mem_singleton.mp due] at leaves
      simp [Lifecycle.type, Lifecycle.roundNumber] at leaves
      omega
    -- what is due has its mark already, and nothing is sent
    · rw [sendAll_sent sent]
      exact Adds.refl _ _

/-- No action but a resume moves the start of the round that was running. -/
theorem Begun.step (begun : Begun p k live) {action : LiveAction} (later : p ≤ action.time)
    (noResume : ¬ Resumes live action) : Begun p k (live.step event pairs action) := by
  have wf := begun.wellFormed
  cases action with
  | tick o layer t => exact ⟨wf, begun.begun⟩
  | call c =>
    obtain ⟨t, call⟩ := c
    simp only [Live.step]
    cases result : perform live.operator ⟨t, call⟩ with
    | error e => exact begun
    | ok accepted =>
      obtain ⟨payload, operator⟩ := accepted
      cases call with
      | pause =>
        obtain ⟨_, _, _, _, _, _, rfl⟩ := pause_ok wf result
        exact ⟨wf, begun.begun⟩
      | resume =>
        refine absurd ⟨rfl, ?_⟩ noResume
        rw [result]
        rfl
      | extend extraSeconds =>
        obtain ⟨_, r, member, begun', running, rounds, _⟩ := extend_ok wf result
        refine ⟨perform_wellFormed wf result, ?_⟩
        obtain ⟨s, inRounds, number, started⟩ := begun.begun
        refine ⟨shiftRound r.number (seconds extraSeconds) s,
          by rw [rounds]; exact List.mem_map_of_mem inRounds, by rw [shiftRound_number, number], ?_⟩
        -- an extended round before `s` would have ended before `s` began
        have notBefore : ¬ r.number < s.number := by
          intro before
          have order := wf.before member inRounds before
          change p ≤ t at later
          change t < r.endsAt at running
          omega
        simp only [shiftRound]
        rw [if_neg notBefore]
        split
        · exact started
        · exact started

/-! ## Whole runs -/

/-- From a pause accepted during round `k` until it is resumed, no tick that is
    harmless leaves round `k`. -/
theorem pause_freezes (event : Event) (pairs : List Pair) {st st' : OperatorState} (rt : Realtime)
    {p remaining pausedAt : Int} {k : Nat} (wf : WellFormed st.rounds)
    (accepted : perform st ⟨p, .pause⟩ = .ok (.pause k remaining pausedAt, st'))
    (actions : List LiveAction)
    (nondecreasing : (p :: actions.map LiveAction.time).Pairwise (· ≤ ·))
    (noResume : ∀ v ∈ visited (Live.step event pairs) ⟨st', rt⟩ actions, ¬ Resumes v.1 v.2)
    (harmless : ∀ v ∈ visited (Live.step event pairs) ⟨st', rt⟩ actions, Harmless k v.1 v.2) :
    Adds (fun q => ¬ q.LeavesRound k) rt
      (actions.foldl (Live.step event pairs) ⟨st', rt⟩).realtime := by
  have begun : Begun p k ⟨st', rt⟩ := by
    obtain ⟨r, member, begun, _, _, same, rfl⟩ := pause_ok wf accepted
    cases same
    exact ⟨wf, r, member, rfl, begun⟩
  have later : ∀ v ∈ visited (Live.step event pairs) ⟨st', rt⟩ actions, p ≤ v.2.time := by
    intro v member
    obtain ⟨before, after, split, _⟩ := mem_visited.mp member
    refine (List.pairwise_cons.mp nondecreasing).1 _ (List.mem_map_of_mem ?_)
    rw [split]
    simp
  have preserved : ∀ (live : Live) (action : LiveAction),
      Begun p k live ∧ Adds (fun q => ¬ q.LeavesRound k) rt live.realtime →
      p ≤ action.time ∧ ¬ Resumes live action ∧ Harmless k live action →
      Begun p k (live.step event pairs action) ∧
        Adds (fun q => ¬ q.LeavesRound k) rt (live.step event pairs action).realtime := by
    intro live action ⟨begun, added⟩ ⟨later, noResume, harmless⟩
    refine ⟨begun.step later noResume, added.trans ?_⟩
    cases action with
    | tick o layer t => exact begun.tick later harmless
    | call c =>
      -- an operator call publishes no lifecycle message
      simp only [Live.step]
      cases perform live.operator c <;> exact Adds.refl _ _
  exact (foldl_invariant preserved ⟨begun, Adds.refl _ rt⟩ fun v member =>
    ⟨later v member, noResume v member, harmless v member⟩).2

/-! ## A pause of two rounds of five minutes -/

/-- The first round was paused after one minute. -/
def pausedTwoRounds : OperatorState :=
  freshTwoRounds.record ⟨some 1, .pause,
    .pause 240 (twoRoundEvent.startTime + seconds 60), twoRoundEvent.startTime + seconds 60⟩

theorem pause_freshTwoRounds : perform freshTwoRounds (minute 1 .pause) =
    .ok (.pause 1 240 (twoRoundEvent.startTime + seconds 60), pausedTwoRounds) := by
  rfl

def tickAt (s : Int) : LiveAction := .tick ⟨true, 60⟩ reliable (twoRoundEvent.startTime + seconds s)

def meetings : List Pair :=
  [⟨1, ⟨"11111111-1111-4111-8111-111111111111", "Ada",
  [⟨"33333333-3333-4333-8333-333333333333", "chess"⟩]⟩,
    ⟨"22222222-2222-4222-8222-222222222222", "Ben", []⟩, "room-1"⟩]

def extendedInTime : List LiveAction :=
  [tickAt 120, .call (minute 3 (.extend 60)), tickAt 300, tickAt 359]

theorem extendedInTime_stays_frozen : Adds (fun q => ¬ q.LeavesRound 1) Realtime.fresh
    (extendedInTime.foldl (Live.step twoRoundEvent meetings)
      ⟨pausedTwoRounds, Realtime.fresh⟩).realtime :=
  pause_freezes twoRoundEvent meetings Realtime.fresh (wellFormed_plannedRounds _ _)
    pause_freshTwoRounds extendedInTime (by decide +kernel) (by decide +kernel) (by decide +kernel)

/-- The round is over at its stored end, pause or not. -/
theorem pause_does_not_freeze :
    perform freshTwoRounds (minute 1 .pause) =
      .ok (.pause 1 240 (twoRoundEvent.startTime + seconds 60), pausedTwoRounds) ∧
    ¬ Adds (fun q => ¬ q.LeavesRound 1) Realtime.fresh
      ([tickAt 300].foldl (Live.step twoRoundEvent meetings)
        ⟨pausedTwoRounds, Realtime.fresh⟩).realtime := by
  refine ⟨rfl, fun adds => ?_⟩
  obtain ⟨added, appended, stays⟩ := adds
  have leaves : ∃ q ∈ ([tickAt 300].foldl (Live.step twoRoundEvent meetings)
      ⟨pausedTwoRounds, Realtime.fresh⟩).realtime.published, q.LeavesRound 1 := by decide +kernel
  obtain ⟨q, member, leaves⟩ := leaves
  rw [appended] at member
  exact stays q member leaves

end EventPlatform.Orchestrator
