import EventPlatform.Operator.Service
import EventPlatform.Lib.Runs

/-! # Do pauses and resumes pair up?

A run of operator calls is watched by a ghost that remembers the outstanding
pause.  The newest log row stands for that pause as long as no extension is
logged on top of it; an extension made during a pause hides it, after which the
resume is refused and a second pause is accepted. -/

namespace EventPlatform.Operator

open EventPlatform.Lib EventPlatform.Scheduling

/-! ## What an accepted action has done -/

theorem shiftRound_number (number : Nat) (shift : Int) (r : Round) :
    (shiftRound number shift r).number = r.number := by
  simp only [shiftRound]
  split
  · rfl
  · split <;> rfl

theorem wellFormed_shiftRounds {rounds : List Round} (wf : WellFormed rounds) (number : Nat)
    {shift : Int} (nonneg : 0 ≤ shift) : WellFormed (shiftRounds number shift rounds) where
  numbers := by
    have same := wf.numbers
    simpa [shiftRounds, Function.comp_def, shiftRound_number] using same
  positive := by
    intro r member
    obtain ⟨s, inRounds, rfl⟩ := List.mem_map.mp member
    have positive := wf.positive s inRounds
    simp only [shiftRound]
    split
    · simp only; omega
    · split
      · simp only; omega
      · exact positive
  ordered := by
    refine List.pairwise_map.mpr ((wf.ordered.and wf.pairwise_number).imp fun {r s} both => ?_)
    obtain ⟨order, number'⟩ := both
    simp only [shiftRound]
    split_ifs <;> (try simp only) <;> omega

theorem mem_shiftRounds_self {rounds : List Round} {r : Round} (member : r ∈ rounds) (shift : Int) :
    { r with endsAt := r.endsAt + shift } ∈ shiftRounds r.number shift rounds := by
  refine List.mem_map.mpr ⟨r, member, ?_⟩
  rw [shiftRound, if_pos rfl]

theorem pause_ok {now : Int} {st st' : OperatorState} {payload : ActionPayload}
    (wf : WellFormed st.rounds) (accepted : pause true now st = .ok (payload, st')) :
    ∃ r ∈ st.rounds, r.startsAt ≤ now ∧ now < r.endsAt ∧
      (st.lastLog.any (·.action = .pause)) = false ∧
      payload = .pause r.number (wholeSeconds (r.endsAt - now)) now ∧
      st' = st.record ⟨some r.number, .pause, .pause (wholeSeconds (r.endsAt - now)) now, now⟩ := by
  simp only [pause, ensureLeader, if_true] at accepted
  simp only [Bind.bind, Except.bind] at accepted
  split at accepted
  next r remaining phase =>
    obtain ⟨member, begun, running, same⟩ := getCurrentPhase_inRound wf phase
    cases same
    rw [if_neg (by omega)] at accepted
    split at accepted
    next => cases accepted
    next unpaused =>
      cases accepted
      exact ⟨r, member, begun, running, by simpa using unpaused, rfl, rfl⟩
  next => cases accepted

theorem resume_ok {now : Int} {st st' : OperatorState} {payload : ActionPayload}
    (accepted : resume true now st = .ok (payload, st')) :
    ∃ log number r, st.lastLog = some log ∧ log.action = .pause ∧ log.round = some number ∧
      st.rounds.find? (·.number = number) = some r ∧
      st'.rounds = shiftRounds r.number (timeShift now log.details.pausedAt) st.rounds ∧
      (∃ details, st'.logs = st.logs ++ [⟨some r.number, .resume, details, now⟩]) ∧
      ∃ endsAt remaining, payload = .resume r.number now endsAt remaining := by
  simp only [resume, ensureLeader, if_true] at accepted
  simp only [Bind.bind, Except.bind] at accepted
  -- each check that passes gives one of the facts; the others raise
  cases newest : st.lastLog with
  | none => rw [newest] at accepted; cases accepted
  | some log =>
    rw [newest] at accepted
    simp only at accepted
    split at accepted
    next => cases accepted
    next paused =>
      rw [not_not] at paused
      cases target : log.round with
      | none => rw [target] at accepted; cases accepted
      | some number =>
        rw [target, Option.bind_some] at accepted
        cases found : st.rounds.find? (·.number = number) with
        | none => rw [found] at accepted; cases accepted
        | some r =>
          rw [found] at accepted
          cases accepted
          exact ⟨log, number, r, rfl, paused, target, found, rfl, ⟨_, rfl⟩, _, _, rfl⟩

theorem extend_ok {now extraSeconds : Int} {st st' : OperatorState} {payload : ActionPayload}
    (wf : WellFormed st.rounds) (accepted : extend true extraSeconds now st = .ok (payload, st')) :
    0 < extraSeconds ∧ ∃ r ∈ st.rounds, r.startsAt ≤ now ∧ now < r.endsAt ∧
      st'.rounds = shiftRounds r.number (seconds extraSeconds) st.rounds ∧
      (∃ details, st'.logs = st.logs ++ [⟨some r.number, .extend, details, now⟩]) ∧
      payload = .extend r.number extraSeconds (r.endsAt + seconds extraSeconds) := by
  simp only [extend, ensureLeader, if_true] at accepted
  simp only [Bind.bind, Except.bind] at accepted
  split at accepted
  next => cases accepted
  next positive =>
    split at accepted
    next r remaining phase =>
      obtain ⟨member, begun, running, _⟩ := getCurrentPhase_inRound wf phase
      cases accepted
      exact ⟨by omega, r, member, begun, running, rfl, ⟨_, rfl⟩, rfl⟩
    next => cases accepted

/-! ## Watched runs -/

inductive OperatorCall where
  | pause
  | resume
  | extend (extraSeconds : Int)
deriving DecidableEq

structure TimedCall where
  time : Int
  call : OperatorCall

/-- The leader carries out a call. -/
def perform (st : OperatorState) (c : TimedCall) : ActionResult :=
  match c.call with
  | .pause => pause true c.time st
  | .resume => resume true c.time st
  | .extend extraSeconds => extend true extraSeconds c.time st

theorem seconds_nonneg {n : Int} (nonneg : 0 ≤ n) : 0 ≤ seconds n := by
  simp only [seconds]
  omega

theorem timeShift_nonneg (now : Int) (pausedAt : Option Int) : 0 ≤ timeShift now pausedAt := by
  have second : 0 ≤ seconds 1 := seconds_nonneg (by decide)
  cases pausedAt with
  | none => exact second
  | some pausedAt => exact le_trans second (le_max_right _ _)

/-- Every accepted action keeps the timeline in order. -/
theorem perform_wellFormed {st st' : OperatorState} {c : TimedCall} {payload : ActionPayload}
    (wf : WellFormed st.rounds) (accepted : perform st c = .ok (payload, st')) :
    WellFormed st'.rounds := by
  obtain ⟨time, call⟩ := c
  cases call with
  | pause =>
    obtain ⟨_, _, _, _, _, _, rfl⟩ := pause_ok wf accepted
    exact wf
  | resume =>
    obtain ⟨log, _, r, _, _, _, _, rounds, _⟩ := resume_ok accepted
    rw [rounds]
    exact wellFormed_shiftRounds wf r.number (timeShift_nonneg time _)
  | extend extraSeconds =>
    obtain ⟨positive, r, _, _, _, rounds, _⟩ := extend_ok wf accepted
    rw [rounds]
    exact wellFormed_shiftRounds wf r.number (seconds_nonneg (le_of_lt positive))

structure PauseMark where
  round : Nat
  pausedAt : Int
deriving DecidableEq

/-- The database after some calls, with the accepted pause not yet resumed. -/
structure Watched where
  now : Int
  state : OperatorState
  outstanding : Option PauseMark
deriving DecidableEq

/-- The outstanding pause after an accepted action. -/
def ActionPayload.outstanding (before : Option PauseMark) : ActionPayload → Option PauseMark
  | .pause roundNumber _ pausedAt => some ⟨roundNumber, pausedAt⟩
  | .resume .. => none
  | .extend .. => before

def Watched.step (w : Watched) (c : TimedCall) : Watched :=
  match perform w.state c with
  | .error _ => { w with now := c.time }
  | .ok (payload, state) => ⟨c.time, state, payload.outstanding w.outstanding⟩

theorem Watched.step_now (w : Watched) (c : TimedCall) : (w.step c).now = c.time := by
  simp only [step]
  split <;> rfl

/-- What pairing up demands of one call. -/
structure PairedUp (w : Watched) (c : TimedCall) : Prop where
  resumed : c.call = .resume → ((perform w.state c).isOk = true ↔ w.outstanding.isSome)
  notPausedTwice : c.call = .pause → w.outstanding.isSome → (perform w.state c).isOk = false
  exact : c.call = .resume → ∀ mark payload state, w.outstanding = some mark →
    perform w.state c = .ok (payload, state) →
    ∃ r ∈ w.state.rounds, r.number = mark.round ∧
      { r with endsAt := r.endsAt + max (c.time - mark.pausedAt) (seconds 1) } ∈ state.rounds

/-- No extension goes through while a pause is outstanding: it is not positive,
    or no round is in progress. -/
def Undisturbed (w : Watched) (c : TimedCall) : Prop :=
  match c.call with
  | .extend extraSeconds => w.outstanding.isSome →
    extraSeconds ≤ 0 ∨ ∀ r ∈ w.state.rounds, ¬ (r.startsAt ≤ c.time ∧ c.time < r.endsAt)
  | _ => True

instance (w : Watched) (c : TimedCall) : Decidable (Undisturbed w c) :=
  match c with
  | ⟨_, .extend _⟩ => inferInstanceAs (Decidable (_ → _))
  | ⟨_, .pause⟩ => inferInstanceAs (Decidable True)
  | ⟨_, .resume⟩ => inferInstanceAs (Decidable True)

/-! ## The newest log row stands for the outstanding pause -/

def ShowsPause (st : OperatorState) (mark : PauseMark) (log : OperatorActionLog) : Prop :=
  log.action = .pause ∧ log.round = some mark.round ∧ log.details.pausedAt = some mark.pausedAt ∧
    ∃ r ∈ st.rounds, r.number = mark.round

structure Consistent (w : Watched) : Prop where
  wellFormed : WellFormed w.state.rounds
  logged : ∀ log ∈ w.state.logs, log.performedAt ≤ w.now
  unpaused : w.outstanding = none → ∀ log, w.state.lastLog = some log → log.action ≠ .pause
  paused : ∀ mark, w.outstanding = some mark →
    ∃ log, w.state.lastLog = some log ∧ ShowsPause w.state mark log

theorem lastLog_concat {st : OperatorState} {log : OperatorActionLog} {logs : List OperatorActionLog}
    (appended : st.logs = logs ++ [log]) (newest : ∀ old ∈ logs, old.performedAt < log.performedAt) :
    st.lastLog = some log := by
  rw [OperatorState.lastLog, appended]
  exact firstLeast_concat _ newest

theorem Consistent.pairedUp {w : Watched} (consistent : Consistent w) (c : TimedCall) :
    PairedUp w c := by
  refine ⟨fun isResume => ?_, fun isPause outstanding => ?_,
    fun isResume mark payload state outstanding accepted => ?_⟩
  · simp only [perform, isResume]
    constructor
    · intro ok
      cases accepted : resume true c.time w.state with
      | error _ => rw [accepted] at ok; cases ok
      | ok result =>
        obtain ⟨log, _, _, newest, isPause, _⟩ := resume_ok accepted
        -- without a pause outstanding the newest log is no pause, and `resume` asks for one
        by_contra none_
        rw [Option.not_isSome_iff_eq_none] at none_
        exact consistent.unpaused none_ log newest isPause
    · intro isSome
      obtain ⟨mark, outstanding⟩ := Option.isSome_iff_exists.mp isSome
      obtain ⟨log, newest, action, round, pausedAt, r, member, number⟩ :=
        consistent.paused mark outstanding
      have found := consistent.wellFormed.find?_number member
      rw [number] at found
      simp [resume, ensureLeader, newest, action, round, found, Bind.bind, Except.bind,
        Except.isOk, Except.toBool]
  · obtain ⟨mark, outstanding⟩ := Option.isSome_iff_exists.mp outstanding
    obtain ⟨log, newest, action, _⟩ := consistent.paused mark outstanding
    simp only [perform, isPause]
    cases accepted : pause true c.time w.state with
    | error _ => rfl
    | ok result =>
      obtain ⟨_, _, _, _, unpaused, _⟩ := pause_ok consistent.wellFormed accepted
      rw [newest, Option.any_some, action] at unpaused
      cases unpaused
  · simp only [perform, isResume] at accepted
    obtain ⟨log, newest, action, round, pausedAt, r, member, number⟩ :=
      consistent.paused mark outstanding
    obtain ⟨log', number', r', newest', _, round', found, rounds, _⟩ := resume_ok accepted
    -- `resume` reads the log that the invariant speaks of
    rw [newest] at newest'
    cases newest'
    rw [round] at round'
    cases round'
    rw [← number, consistent.wellFormed.find?_number member] at found
    cases found
    refine ⟨r, member, number, ?_⟩
    rw [rounds, pausedAt]
    exact mem_shiftRounds_self member _

theorem Consistent.step {w : Watched} {c : TimedCall} (consistent : Consistent w)
    (later : w.now < c.time) (undisturbed : Undisturbed w c) : Consistent (w.step c) := by
  have old : ∀ log ∈ w.state.logs, log.performedAt < c.time := fun log member =>
    lt_of_le_of_lt (consistent.logged log member) later
  simp only [Watched.step]
  cases result : perform w.state c with
  | error _ =>
    -- a refused call leaves the database as it was
    exact ⟨consistent.wellFormed, fun log member => le_of_lt (old log member), consistent.unpaused,
      consistent.paused⟩
  | ok accepted =>
    obtain ⟨payload, state⟩ := accepted
    have wellFormed := perform_wellFormed consistent.wellFormed result
    have logged : ∀ log, state.logs = w.state.logs ++ [log] → log.performedAt = c.time →
        ∀ log' ∈ state.logs, log'.performedAt ≤ c.time := by
      intro log appended now log' member
      rw [appended] at member
      cases List.mem_append.mp member with
      | inl earlier => exact le_of_lt (old log' earlier)
      | inr new => rw [List.mem_singleton.mp new, now]
    have newest : ∀ log, state.logs = w.state.logs ++ [log] → log.performedAt = c.time →
        state.lastLog = some log := fun log appended now =>
      lastLog_concat appended (now ▸ old)
    obtain ⟨time, call⟩ := c
    cases call with
    | pause =>
      obtain ⟨r, member, _, _, _, rfl, rfl⟩ := pause_ok consistent.wellFormed result
      have top := newest _ rfl rfl
      refine ⟨wellFormed, logged _ rfl rfl, fun none_ => (by cases none_), ?_⟩
      intro mark same
      cases same
      exact ⟨_, top, rfl, rfl, rfl, r, member, rfl⟩
    | resume =>
      obtain ⟨log, _, r, _, _, _, _, _, ⟨details, logs⟩, _, _, rfl⟩ := resume_ok result
      have top := newest _ logs rfl
      refine ⟨wellFormed, logged _ logs rfl, fun _ log same => ?_, fun mark same => (by cases same)⟩
      rw [top] at same
      cases same
      exact fun action => by cases action
    | extend extraSeconds =>
      obtain ⟨positive, r, member, begun, running, _, ⟨details, logs⟩, rfl⟩ :=
        extend_ok consistent.wellFormed result
      have top := newest _ logs rfl
      refine ⟨wellFormed, logged _ logs rfl, fun _ log same => ?_, fun mark same => ?_⟩
      · rw [top] at same
        cases same
        exact fun action => by cases action
      · -- a positive extension of a running round is excluded while a pause is outstanding
        cases undisturbed (Option.isSome_iff_exists.mpr ⟨mark, same⟩) with
        | inl notPositive => omega
        | inr idle => exact absurd ⟨begun, running⟩ (idle r member)

/-! ## Whole runs -/

/-- An event before its first operator action: at most recalculations are logged. -/
structure Untouched (start : Int) (st : OperatorState) : Prop where
  wellFormed : WellFormed st.rounds
  recalculated : ∀ log ∈ st.logs, log.action = .recalculate
  logged : ∀ log ∈ st.logs, log.performedAt ≤ start

theorem Untouched.consistent {start : Int} {st : OperatorState} (untouched : Untouched start st) :
    Consistent ⟨start, st, none⟩ := by
  refine ⟨untouched.wellFormed, untouched.logged, fun _ log newest => ?_,
    fun mark same => (by cases same)⟩
  rw [untouched.recalculated log (firstLeast_mem _ newest)]
  exact fun action => by cases action

/-- Without an extension going through during a pause, every call of a run of
    operator actions pairs up. -/
theorem pauses_pair_up (start : Int) (st : OperatorState) (untouched : Untouched start st)
    (calls : List TimedCall) (increasing : (start :: calls.map (·.time)).Pairwise (· < ·))
    (undisturbed : ∀ v ∈ visited Watched.step ⟨start, st, none⟩ calls, Undisturbed v.1 v.2) :
    ∀ v ∈ visited Watched.step ⟨start, st, none⟩ calls, PairedUp v.1 v.2 := by
  have clock := visited_clock Watched.step_now (s := ⟨start, st, none⟩) increasing
  have preserved : ∀ (w : Watched) (c : TimedCall), Consistent w →
      w.now < c.time ∧ Undisturbed w c → Consistent (w.step c) :=
    fun _ _ consistent allowed => consistent.step allowed.1 allowed.2
  have consistent := visited_invariant preserved untouched.consistent
    fun v member => ⟨clock v member, undisturbed v member⟩
  exact fun v member => (consistent v member).pairedUp v.2

def freshTwoRounds : OperatorState := ⟨plannedRounds twoRoundEvent twoRoundEvent.startTime, []⟩

theorem untouched_freshTwoRounds : Untouched twoRoundEvent.startTime freshTwoRounds :=
  ⟨wellFormed_plannedRounds _ _, fun _ member => (by cases member), fun _ member => (by cases member)⟩

/-- `minute m call` is made `m` minutes after the start of the event. -/
def minute (m : Int) (call : OperatorCall) : TimedCall :=
  ⟨twoRoundEvent.startTime + seconds (60 * m), call⟩

def extendedThenPaused : List TimedCall := [minute 1 (.extend 30), minute 2 .pause, minute 4 .resume]

/-- The pause is outstanding until the resume takes it back. -/
theorem extendedThenPaused_pairs_up :
    ((extendedThenPaused.take 2).foldl Watched.step
      ⟨twoRoundEvent.startTime, freshTwoRounds, none⟩).outstanding.isSome = true ∧
    ∀ v ∈ visited Watched.step ⟨twoRoundEvent.startTime, freshTwoRounds, none⟩ extendedThenPaused,
      PairedUp v.1 v.2 :=
  ⟨by decide +kernel, pauses_pair_up twoRoundEvent.startTime freshTwoRounds untouched_freshTwoRounds
    extendedThenPaused (by decide) (by decide +kernel)⟩

def pausedThenExtended : List TimedCall := [minute 1 .pause, minute 2 (.extend 60), minute 3 .resume]

/-- The extension is accepted during the pause, and then the pause cannot be resumed. -/
theorem extension_hides_pause : ¬ ∀ v ∈ visited Watched.step
    ⟨twoRoundEvent.startTime, freshTwoRounds, none⟩ pausedThenExtended, PairedUp v.1 v.2 := by
  intro all
  let w := (pausedThenExtended.take 2).foldl Watched.step
    ⟨twoRoundEvent.startTime, freshTwoRounds, none⟩
  have member : (w, minute 3 .resume) ∈ visited Watched.step
      ⟨twoRoundEvent.startTime, freshTwoRounds, none⟩ pausedThenExtended :=
    mem_visited.mpr ⟨pausedThenExtended.take 2, [], rfl, rfl⟩
  have refused : (perform w.state (minute 3 .resume)).isOk = false := by decide +kernel
  have outstanding : w.outstanding.isSome = true := by decide +kernel
  have accepted := ((all _ member).resumed rfl).mpr outstanding
  rw [refused] at accepted
  cases accepted

end EventPlatform.Operator
