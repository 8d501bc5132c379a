import EventPlatform.Operator.PauseResume

/-! # A pause costs no time

The shift made by a resume is pushed back through the phase function: at the
instant of the resume the paused round is in progress with the time it had left
when it was paused, however long the pause was and whatever windows it has
overrun. -/

namespace EventPlatform.Operator

open EventPlatform.Lib EventPlatform.Scheduling

/-! ## Refused calls -/

theorem Watched.step_refused {w : Watched} {c : TimedCall}
    (refused : (perform w.state c).isOk = false) : (w.step c).state = w.state := by
  simp only [step]
  cases result : perform w.state c with
  | error _ => rfl
  | ok accepted => rw [result] at refused; cases refused

/-- Calls that are all refused leave the database as it was. -/
theorem foldl_refused {w : Watched} {calls : List TimedCall}
    (refused : ∀ v ∈ visited Watched.step w calls, (perform v.1.state v.2).isOk = false) :
    (calls.foldl Watched.step w).state = w.state := by
  have keeps : ∀ (s : Watched) (c : TimedCall), s.state = w.state →
      (perform s.state c).isOk = false → (s.step c).state = w.state := by
    intro s c same isRefused
    rw [Watched.step_refused isRefused, same]
  exact foldl_invariant keeps rfl refused

/-! ## The log row a resume reads -/

/-- A pause that is taken back by the next accepted action is the newest one. -/
theorem lastLog_of_paused {st : OperatorState} {log newest : OperatorActionLog}
    (unpaused : (st.lastLog.any (·.action = .pause)) = false)
    (last : (st.record log).lastLog = some newest) (isPause : newest.action = .pause) :
    newest = log := by
  cases firstLeast_concat_cases
    (fun log other : OperatorActionLog => other.performedAt < log.performedAt) st.logs log with
  | inl new =>
    rw [OperatorState.lastLog, OperatorState.record, new] at last
    cases last
    rfl
  | inr old =>
    -- the newest row would be the one the pause looked at, and that is no pause
    rw [OperatorState.lastLog, OperatorState.record, old] at last
    rw [OperatorState.lastLog, last, Option.any_some, decide_eq_false_iff_not] at unpaused
    exact absurd isPause unpaused

/-! ## The resume -/

theorem shiftRounds_later {rounds : List Round} {number : Nat} {s : Round} (member : s ∈ rounds)
    (later : number < s.number) (shift : Int) :
    ⟨s.number, s.startsAt + shift, s.endsAt + shift⟩ ∈ shiftRounds number shift rounds := by
  refine List.mem_map.mpr ⟨s, member, ?_⟩
  rw [shiftRound, if_neg (by omega), if_pos later]

/-- A round in progress at `p` is in progress after its shift by `d`, with the same time left. -/
theorem getCurrentPhase_shiftRounds {rounds : List Round} (wf : WellFormed rounds) {k : Round} (member : k ∈ rounds)
    {p d : Int} (nonneg : 0 ≤ d) (begun : k.startsAt ≤ p) (running : p < k.endsAt) {preconnectDuration : Int}
    (window : 0 ≤ preconnectDuration) :
    getCurrentPhase preconnectDuration (shiftRounds k.number d rounds) (p + d) =
      ⟨.inRound, some { k with endsAt := k.endsAt + d }, some (k.endsAt - p)⟩ := by
  have wf' := wellFormed_shiftRounds wf k.number nonneg
  have member' := mem_shiftRounds_self member d
  -- the round starts when it did: only its end has moved
  have phase := getCurrentPhase_running wf' window member' (t := p + d)
    (by simp only; omega) (by simp only; omega)
  rw [phase]
  congr 2
  simp only
  omega

/-- A resume reads the row of the pause, and shifts by the time since then. -/
theorem resumed_rounds {st paused resumed : OperatorState} (wf : WellFormed st.rounds) {k : Round}
    (member : k ∈ st.rounds) (unpaused : (st.lastLog.any (·.action = .pause)) = false) {p q : Int}
    {left : Int} (recorded : paused = st.record ⟨some k.number, .pause, .pause left p, p⟩)
    (second : seconds 1 ≤ q - p) {payload : ActionPayload}
    (resumes : resume true q paused = .ok (payload, resumed)) :
    resumed.rounds = shiftRounds k.number (q - p) st.rounds := by
  obtain ⟨log, number, r, last, isPause, target, found, rounds, _⟩ := resume_ok resumes
  rw [recorded] at last
  have isNew := lastLog_of_paused unpaused last isPause
  subst isNew
  cases target
  rw [recorded] at found rounds
  have isRound : r = k := by
    have found' : st.rounds.find? (·.number = k.number) = some r := found
    rw [wf.find?_number member] at found'
    exact (Option.some.inj found').symm
  subst isRound
  have shift : timeShift q (some p) = q - p := max_eq_left second
  rw [rounds]
  show shiftRounds r.number (timeShift q (some p)) st.rounds = _
  rw [shift]

/-- After a pause at `p` and a resume at `q` a second or more later, with only
    refused calls between them, the paused round goes on with the time it had
    left and every later round is late by exactly the length of the pause. -/
theorem resume_exact {st paused : OperatorState} (wf : WellFormed st.rounds) {p : Int}
    {payload : ActionPayload} (accepted : pause true p st = .ok (payload, paused))
    (between : List TimedCall)
    (refused : ∀ v ∈ visited Watched.step ⟨p, paused, payload.outstanding none⟩ between,
      (perform v.1.state v.2).isOk = false)
    {q : Int} (second : seconds 1 ≤ q - p) :
    let atResume := (between.foldl Watched.step ⟨p, paused, payload.outstanding none⟩).state
    ∃ k ∈ st.rounds,
      (∀ preconnectDuration, 0 ≤ preconnectDuration →
        getCurrentPhase preconnectDuration st.rounds p = ⟨.inRound, some k, some (k.endsAt - p)⟩) ∧
      ((∀ log ∈ st.logs, log.performedAt < p) → (resume true q atResume).isOk = true) ∧
      ∀ payload' resumed, resume true q atResume = .ok (payload', resumed) →
        (∀ preconnectDuration, 0 ≤ preconnectDuration →
          getCurrentPhase preconnectDuration resumed.rounds q =
            ⟨.inRound, some { k with endsAt := k.endsAt + (q - p) }, some (k.endsAt - p)⟩) ∧
        ∀ s ∈ st.rounds, k.number < s.number →
          ⟨s.number, s.startsAt + (q - p), s.endsAt + (q - p)⟩ ∈ resumed.rounds := by
  intro atResume
  have same : atResume = paused := foldl_refused refused
  obtain ⟨k, member, begun, running, unpaused, _, recorded⟩ := pause_ok wf accepted
  have length : 0 ≤ q - p := le_trans (seconds_nonneg (by decide)) second
  refine ⟨k, member, ?_, ?_, ?_⟩
  · intro preconnectDuration nonneg
    exact getCurrentPhase_running wf nonneg member begun running
  · intro older
    have newest : paused.lastLog =
        some ⟨some k.number, .pause, .pause (wholeSeconds (k.endsAt - p)) p, p⟩ := by
      rw [recorded]
      exact lastLog_concat rfl older
    have found : paused.rounds.find? (·.number = k.number) = some k := by
      rw [recorded]
      exact wf.find?_number member
    simp [same, resume, ensureLeader, newest, found, Bind.bind, Except.bind, Except.isOk,
      Except.toBool]
  · intro payload' resumed resumes
    rw [same] at resumes
    have moved := resumed_rounds wf member unpaused recorded second resumes
    rw [moved]
    refine ⟨?_, fun s inRounds later => shiftRounds_later inRounds later (q - p)⟩
    intro preconnectDuration nonneg
    have phase := getCurrentPhase_shiftRounds wf member length begun running nonneg
    rwa [add_sub_cancel] at phase

/-- Paused a minute into the first round of five. -/
def pausedTwoRounds : OperatorState :=
  freshTwoRounds.record ⟨some 1, .pause, .pause 240 (minute 1 .pause).time, (minute 1 .pause).time⟩

/-- The pause outlasts both rounds, and a second pause is refused on the way. -/
theorem resume_after_both_rounds :
    ∃ k ∈ freshTwoRounds.rounds, ∃ payload resumed,
      resume true (minute 20 .resume).time pausedTwoRounds = .ok (payload, resumed) ∧
      getCurrentPhase preconnectDefault resumed.rounds (minute 20 .resume).time =
        ⟨.inRound, some { k with endsAt := k.endsAt +
          ((minute 20 .resume).time - (minute 1 .pause).time) },
          some (k.endsAt - (minute 1 .pause).time)⟩ := by
  have accepted : pause true (minute 1 .pause).time freshTwoRounds =
      .ok (.pause 1 240 (minute 1 .pause).time, pausedTwoRounds) := by decide +kernel
  obtain ⟨k, member, _, succeeds, exact_⟩ := resume_exact
    untouched_freshTwoRounds.wellFormed accepted [minute 2 .pause] (by decide +kernel)
    (q := (minute 20 .resume).time) (by decide)
  have isOk := succeeds fun _ inLogs => by cases inLogs
  refine ⟨k, member, ?_⟩
  cases resumes : resume true (minute 20 .resume).time pausedTwoRounds with
  | error _ =>
    have failed : (resume true (minute 20 .resume).time pausedTwoRounds).isOk = true := isOk
    rw [resumes] at failed
    cases failed
  | ok result =>
    exact ⟨result.1, result.2, rfl, (exact_ result.1 result.2 resumes).1 preconnectDefault (by decide)⟩

end EventPlatform.Operator
