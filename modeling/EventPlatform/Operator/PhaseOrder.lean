import EventPlatform.Operator.PauseResume

/-! # Does an event ever go back?

A pause is only a log row: the clock of the phases runs on, and the event may have left the
paused round when the resume comes.  Only then does a call of the operator take the event back
to an earlier phase; every other call leaves what has begun and what is over alone. -/

namespace EventPlatform.Operator

open EventPlatform.Lib EventPlatform.Scheduling

/-! ## Rewinding calls -/

/-- The round that a resume would lengthen. -/
def OperatorState.pausedRound (st : OperatorState) : Option Round :=
  ((st.lastLog.filter (·.action = .pause)).bind (·.round)).bind fun number =>
    st.rounds.find? (·.number = number)

/-- A resume that comes after the scheduled end of the paused round. -/
def Rewinds (st : OperatorState) (c : TimedCall) : Prop :=
  c.call = .resume ∧ ∃ r ∈ st.pausedRound, r.endsAt ≤ c.time

instance (st : OperatorState) (c : TimedCall) : Decidable (Rewinds st c) :=
  inferInstanceAs (Decidable (c.call = .resume ∧ ∃ r ∈ st.pausedRound, r.endsAt ≤ c.time))

theorem pausedRound_eq {st : OperatorState} {log : OperatorActionLog} {number : Nat} {r : Round}
    (newest : st.lastLog = some log) (isPause : log.action = .pause) (target : log.round = some number)
    (found : st.rounds.find? (·.number = number) = some r) : st.pausedRound = some r := by
  simp [OperatorState.pausedRound, newest, Option.filter, isPause, target, found]

theorem pausedRound_some {st : OperatorState} {r : Round} (paused : st.pausedRound = some r) :
    ∃ log number, st.lastLog = some log ∧ log.action = .pause ∧ log.round = some number ∧
      st.rounds.find? (·.number = number) = some r := by
  obtain ⟨number, target, found⟩ := Option.bind_eq_some_iff.mp paused
  obtain ⟨log, kept, round⟩ := Option.bind_eq_some_iff.mp target
  obtain ⟨newest, isPause⟩ := Option.filter_eq_some_iff.mp kept
  exact ⟨log, number, newest, of_decide_eq_true isPause, round, found⟩

/-- A resume is refused only when there is no paused round. -/
theorem resume_isOk {st : OperatorState} {r : Round} (paused : st.pausedRound = some r) (now : Int) :
    (resume true now st).isOk = true := by
  obtain ⟨log, number, newest, isPause, target, found⟩ := pausedRound_some paused
  simp [resume, ensureLeader, newest, isPause, target, found, Bind.bind, Except.bind, Except.isOk, Except.toBool]

/-! ## The newest pause -/

/-- When the newest log row is a pause, the round was in progress when it was written. -/
structure Resumable (w : Watched) : Prop where
  wellFormed : WellFormed w.state.rounds
  logged : ∀ log ∈ w.state.logs, log.performedAt ≤ w.now
  paused : ∀ log, w.state.lastLog = some log → log.action = .pause →
    ∃ pausedAt, log.details.pausedAt = some pausedAt ∧ pausedAt ≤ w.now ∧
      ∃ r ∈ w.state.rounds, log.round = some r.number ∧ r.startsAt ≤ pausedAt ∧ pausedAt < r.endsAt

theorem Untouched.resumable {start : Int} {st : OperatorState} (untouched : Untouched start st) :
    Resumable ⟨start, st, none⟩ := by
  refine ⟨untouched.wellFormed, untouched.logged, fun log newest isPause => ?_⟩
  rw [untouched.recalculated log (firstLeast_mem _ newest)] at isPause
  cases isPause

/-- An accepted call logs one row, a pause only for a pause. -/
theorem perform_logs {st st' : OperatorState} {c : TimedCall} {payload : ActionPayload}
    (wf : WellFormed st.rounds) (accepted : perform st c = .ok (payload, st')) :
    ∃ log, st'.logs = st.logs ++ [log] ∧ log.performedAt = c.time ∧ (log.action = .pause → c.call = .pause) := by
  obtain ⟨time, call⟩ := c
  cases call with
  | pause =>
    obtain ⟨r, _, _, _, _, _, rfl⟩ := pause_ok wf accepted
    exact ⟨_, rfl, rfl, fun _ => rfl⟩
  | resume =>
    obtain ⟨_, _, _, _, _, _, _, _, ⟨_, logs⟩, _⟩ := resume_ok accepted
    exact ⟨_, logs, rfl, fun isPause => by cases isPause⟩
  | extend extraSeconds =>
    obtain ⟨_, _, _, _, _, _, ⟨_, logs⟩, _⟩ := extend_ok wf accepted
    exact ⟨_, logs, rfl, fun isPause => by cases isPause⟩

theorem Resumable.step {w : Watched} {c : TimedCall} (resumable : Resumable w) (later : w.now < c.time) :
    Resumable (w.step c) := by
  have wf := resumable.wellFormed
  have old : ∀ log ∈ w.state.logs, log.performedAt < c.time := fun log member =>
    lt_of_le_of_lt (resumable.logged log member) later
  simp only [Watched.step]
  cases result : perform w.state c with
  | error _ =>
    refine ⟨wf, fun log member => le_of_lt (old log member), fun log newest isPause => ?_⟩
    obtain ⟨pausedAt, details, before, rest⟩ := resumable.paused log newest isPause
    exact ⟨pausedAt, details, by simp only; omega, rest⟩
  | ok accepted =>
    obtain ⟨payload, state⟩ := accepted
    obtain ⟨log, appended, now, onlyPause⟩ := perform_logs wf result
    have top : state.lastLog = some log := lastLog_concat appended (now ▸ old)
    refine ⟨perform_wellFormed wf result, fun row member => ?_, fun row newest isPause => ?_⟩
    · simp only at member ⊢
      rw [appended] at member
      cases List.mem_append.mp member with
      | inl earlier => exact le_of_lt (old row earlier)
      | inr new => rw [List.mem_singleton.mp new, now]
    · simp only at newest
      rw [top] at newest
      cases newest
      obtain ⟨time, call⟩ := c
      cases onlyPause isPause
      obtain ⟨r, member, begun, running, _, _, rfl⟩ := pause_ok wf result
      obtain ⟨_, same⟩ := List.append_inj' appended rfl
      cases same
      exact ⟨time, rfl, le_refl _, r, member, rfl, begun, running⟩

/-! ## What a call does to the timeline -/

/-- A call that moves anything lengthens a round that has begun so that it is in progress; it
    rewinds exactly when that round was over. -/
theorem Resumable.step_cases {w : Watched} {c : TimedCall} (resumable : Resumable w) (later : w.now < c.time) :
    ((w.step c).state.rounds = w.state.rounds ∧ ¬ Rewinds w.state c) ∨
    ∃ r ∈ w.state.rounds, ∃ shift, 0 ≤ shift ∧ r.startsAt ≤ c.time ∧ c.time < r.endsAt + shift ∧
      (w.step c).state.rounds = shiftRounds r.number shift w.state.rounds ∧
      (Rewinds w.state c ↔ r.endsAt ≤ c.time) := by
  have wf := resumable.wellFormed
  simp only [Watched.step]
  obtain ⟨time, call⟩ := c
  cases result : perform w.state ⟨time, call⟩ with
  | error _ =>
    refine .inl ⟨rfl, fun rewinds => ?_⟩
    obtain ⟨isResume, r, paused, _⟩ := rewinds
    cases isResume
    have accepted := resume_isOk paused time
    simp only [perform] at result
    rw [result] at accepted
    cases accepted
  | ok accepted =>
    obtain ⟨payload, state⟩ := accepted
    simp only
    cases call with
    | pause =>
      obtain ⟨_, _, _, _, _, _, rfl⟩ := pause_ok wf result
      exact .inl ⟨rfl, fun rewinds => by cases rewinds.1⟩
    | extend extraSeconds =>
      obtain ⟨positive, r, member, begun, running, rounds, _⟩ := extend_ok wf result
      have nonneg : 0 ≤ seconds extraSeconds := seconds_nonneg (le_of_lt positive)
      have runs : time < r.endsAt + seconds extraSeconds := by simp only at running; omega
      refine .inr ⟨r, member, seconds extraSeconds, nonneg, begun, runs, rounds, ?_⟩
      exact ⟨fun rewinds => (by cases rewinds.1), fun ended => absurd running (not_lt.mpr ended)⟩
    | resume =>
      obtain ⟨log, number, r, newest, isPause, target, found, rounds, _⟩ := resume_ok result
      obtain ⟨pausedAt, details, before, r', member, round, begun, running⟩ := resumable.paused log newest isPause
      -- the round that the row names is the one the resume finds
      cases target.symm.trans round
      cases (wf.find?_number member).symm.trans found
      rw [details] at rounds
      have atLeast : time - pausedAt ≤ timeShift time (some pausedAt) := le_max_left _ _
      simp only at later
      have runs : time < r.endsAt + timeShift time (some pausedAt) := by omega
      have started : r.startsAt ≤ time := by omega
      refine .inr ⟨r, member, _, timeShift_nonneg _ _, started, runs, rounds, ?_⟩
      have paused := pausedRound_eq newest isPause target found
      simp [Rewinds, paused]

/-! ## Positions -/

/-- How far the event is at a time, as the phase function reports it. -/
def Watched.positionAt (w : Watched) (preconnectDuration t : Int) : Nat :=
  (getCurrentPhase preconnectDuration w.state.rounds t).position

section

variable {preconnectDuration : Int} {w : Watched} {c : TimedCall}

theorem Watched.positionAt_mono (wf : WellFormed w.state.rounds) (nonneg : 0 ≤ preconnectDuration) {t t' : Int}
    (le : t ≤ t') : w.positionAt preconnectDuration t ≤ w.positionAt preconnectDuration t' := by
  by_cases empty : w.state.rounds = []
  · simp [positionAt, empty, getCurrentPhase, PhaseResult.position]
  · exact (getCurrentPhase_cell preconnectDuration t wf empty).position_le
      (getCurrentPhase_cell preconnectDuration t' wf empty) wf nonneg le

theorem Watched.positionAt_running (wf : WellFormed w.state.rounds) (nonneg : 0 ≤ preconnectDuration) {r : Round}
    {t : Int} (member : r ∈ w.state.rounds) (begun : r.startsAt ≤ t) (running : t < r.endsAt) :
    w.positionAt preconnectDuration t = 3 * r.number - 1 := by
  simp [positionAt, getCurrentPhase_running wf nonneg member begun running, PhaseResult.position]

/-- After the end of a round the event is past it. -/
theorem Watched.le_positionAt (wf : WellFormed w.state.rounds) (nonneg : 0 ≤ preconnectDuration) {r : Round}
    {t : Int} (member : r ∈ w.state.rounds) (ended : r.endsAt ≤ t) :
    3 * r.number ≤ w.positionAt preconnectDuration t := by
  have nonempty : w.state.rounds ≠ [] := List.ne_nil_of_mem member
  have cell := getCurrentPhase_cell preconnectDuration t wf nonempty
  by_contra below
  have notOver := cell.lt_endsAt wf nonneg member (by simp only [positionAt] at below; omega)
  omega

/-- A call takes the event back if and only if it rewinds. -/
theorem Resumable.step_position (resumable : Resumable w) (later : w.now < c.time)
    (nonneg : 0 ≤ preconnectDuration) :
    w.positionAt preconnectDuration c.time ≤ (w.step c).positionAt preconnectDuration c.time ↔
      ¬ Rewinds w.state c := by
  have wf := resumable.wellFormed
  have wf' := (resumable.step later).wellFormed
  cases resumable.step_cases later with
  | inl kept =>
    obtain ⟨rounds, forward⟩ := kept
    simp [Watched.positionAt, rounds, forward]
  | inr moved =>
    obtain ⟨r, member, shift, _, begun, running, rounds, rewinds⟩ := moved
    have member' := mem_shiftRounds_self member shift
    rw [← rounds] at member'
    have after := Watched.positionAt_running wf' nonneg member' begun running
    have number := wf.number_pos member
    rw [after, rewinds]
    by_cases ended : r.endsAt ≤ c.time
    · have past := Watched.le_positionAt wf nonneg member ended
      simp only [ended, not_true, iff_false]
      omega
    · have before := Watched.positionAt_running wf nonneg member begun (not_le.mp ended)
      simp [before, ended]

/-! ## Whole runs -/

/-- The positions right before and right after each call, each at the time of the call. -/
def Watched.shown (preconnectDuration : Int) : Watched → List TimedCall → List Nat
  | _, [] => []
  | w, c :: rest =>
    w.positionAt preconnectDuration c.time :: (w.step c).positionAt preconnectDuration c.time ::
      (w.step c).shown preconnectDuration rest

theorem Resumable.shown_iff (resumable : Resumable w) (nonneg : 0 ≤ preconnectDuration) {calls : List TimedCall}
    (increasing : (w.now :: calls.map (·.time)).Pairwise (· < ·)) :
    (w.positionAt preconnectDuration w.now :: w.shown preconnectDuration calls).IsChain (· ≤ ·) ↔
      ∀ v ∈ visited Watched.step w calls, ¬ Rewinds v.1.state v.2 := by
  induction calls generalizing w with
  | nil => simp [Watched.shown, visited]
  | cons c rest ih =>
    obtain ⟨first, ordered⟩ := List.pairwise_cons.mp increasing
    have later : w.now < c.time := first _ List.mem_cons_self
    have clock := Watched.step_now w c
    have next := ih (resumable.step later) (by rw [clock]; exact ordered)
    have waited := Watched.positionAt_mono resumable.wellFormed nonneg (le_of_lt later)
    rw [clock] at next
    rw [Watched.shown, List.isChain_cons_cons, List.isChain_cons_cons, next,
      resumable.step_position later nonneg]
    simp [visited, waited]

end

/-- Over every run of pauses, resumes and extensions the phases that the server shows go
    forward, if and only if no resume comes after the end of the round it resumes. -/
theorem phases_go_forward_iff (preconnectDuration : Int) (nonneg : 0 ≤ preconnectDuration) (start : Int)
    (st : OperatorState) (untouched : Untouched start st) (calls : List TimedCall)
    (increasing : (start :: calls.map (·.time)).Pairwise (· < ·)) :
    (Watched.shown preconnectDuration ⟨start, st, none⟩ calls).Pairwise (· ≤ ·) ↔
      ∀ v ∈ visited Watched.step ⟨start, st, none⟩ calls, ¬ Rewinds v.1.state v.2 := by
  have resumable := untouched.resumable
  have chain := resumable.shown_iff nonneg increasing
  have wf := resumable.wellFormed
  rw [← chain, ← List.isChain_iff_pairwise]
  constructor
  · intro forward
    cases calls with
    | nil => simp [Watched.shown]
    | cons c rest =>
      obtain ⟨first, _⟩ := List.pairwise_cons.mp increasing
      have waited := Watched.positionAt_mono wf nonneg (le_of_lt (first _ List.mem_cons_self))
      rw [Watched.shown] at forward ⊢
      exact List.isChain_cons_cons.mpr ⟨waited, forward⟩
  · exact fun forward => forward.tail

/-- The pause is taken back while the paused round is still in progress. -/
theorem extendedThenPaused_goes_forward :
    (Watched.shown preconnectDefault ⟨twoRoundEvent.startTime, freshTwoRounds, none⟩ extendedThenPaused).Pairwise
      (· ≤ ·) :=
  (phases_go_forward_iff preconnectDefault (by decide) twoRoundEvent.startTime freshTwoRounds
    untouched_freshTwoRounds extendedThenPaused (by decide)).mpr (by decide +kernel)

-- the second round has begun when the first one is resumed
example : ¬ (Watched.shown preconnectDefault ⟨twoRoundEvent.startTime, freshTwoRounds, none⟩
    [minute 1 .pause, minute 7 .resume]).Pairwise (· ≤ ·) := by decide +kernel

/-! ## What is over -/

/-- A later timeline agrees with an earlier one on what had happened at a time. -/
structure KeepsPast (t : Int) (rounds rounds' : List Round) : Prop where
  ended : ∀ r ∈ rounds, r.endsAt ≤ t → r ∈ rounds'
  begun : ∀ r ∈ rounds, r.startsAt ≤ t → ∃ r' ∈ rounds', r'.number = r.number ∧
    r'.startsAt = r.startsAt ∧ r.endsAt ≤ r'.endsAt

theorem KeepsPast.refl (t : Int) (rounds : List Round) : KeepsPast t rounds rounds :=
  ⟨fun _ member _ => member, fun r member _ => ⟨r, member, rfl, rfl, le_refl _⟩⟩

theorem KeepsPast.trans {t t' : Int} {first second third : List Round} (le : t ≤ t')
    (before : KeepsPast t first second) (after : KeepsPast t' second third) : KeepsPast t first third := by
  constructor
  · intro r member ended
    exact after.ended r (before.ended r member ended) (by omega)
  · intro r member begun
    obtain ⟨r', member', number, start, longer⟩ := before.begun r member begun
    obtain ⟨r'', member'', number', start', longer'⟩ := after.begun r' member' (by omega)
    exact ⟨r'', member'', number'.trans number, start'.trans start, le_trans longer longer'⟩

/-- The rounds before one in progress are over, those after it have not begun. -/
theorem keepsPast_shiftRounds {rounds : List Round} (wf : WellFormed rounds) {r : Round} (member : r ∈ rounds)
    {t shift : Int} (nonneg : 0 ≤ shift) (running : t < r.endsAt) :
    KeepsPast t rounds (shiftRounds r.number shift rounds) := by
  constructor
  · intro s inRounds ended
    have before : s.number < r.number := by
      by_contra notBefore
      cases Nat.lt_or_ge r.number s.number with
      | inl after =>
        have order := wf.before member inRounds after
        have positive := wf.positive s inRounds
        omega
      | inr le =>
        rw [wf.eq_of_number inRounds member (by omega)] at ended
        omega
    refine List.mem_map.mpr ⟨s, inRounds, ?_⟩
    rw [shiftRound, if_neg (by omega), if_neg (by omega)]
  · intro s inRounds begun
    have notAfter : ¬ r.number < s.number := by
      intro after
      have order := wf.before member inRounds after
      omega
    refine ⟨shiftRound r.number shift s, List.mem_map_of_mem inRounds, shiftRound_number _ _ _, ?_⟩
    rw [shiftRound]
    split_ifs <;> simp [nonneg]

theorem Resumable.keepsPast {w : Watched} {c : TimedCall} (resumable : Resumable w) (later : w.now < c.time)
    (forward : ¬ Rewinds w.state c) : KeepsPast c.time w.state.rounds (w.step c).state.rounds := by
  cases resumable.step_cases later with
  | inl kept =>
    rw [kept.1]
    exact .refl _ _
  | inr moved =>
    obtain ⟨r, member, shift, nonneg, _, _, rounds, rewinds⟩ := moved
    rw [rounds]
    rw [rewinds] at forward
    exact keepsPast_shiftRounds resumable.wellFormed member nonneg (not_le.mp forward)

theorem Resumable.foldl_keepsPast {w : Watched} (resumable : Resumable w) {calls : List TimedCall}
    (increasing : (w.now :: calls.map (·.time)).Pairwise (· < ·))
    (forward : ∀ v ∈ visited Watched.step w calls, ¬ Rewinds v.1.state v.2) :
    KeepsPast w.now w.state.rounds (calls.foldl Watched.step w).state.rounds := by
  induction calls generalizing w with
  | nil => exact .refl _ _
  | cons c rest ih =>
    obtain ⟨first, ordered⟩ := List.pairwise_cons.mp increasing
    have later : w.now < c.time := first _ List.mem_cons_self
    have step := resumable.keepsPast later (forward _ List.mem_cons_self)
    have clock := Watched.step_now w c
    have later' := ih (resumable.step later) (by rw [clock]; exact ordered)
      fun v member => forward v (List.mem_cons_of_mem _ member)
    rw [clock] at later'
    have kept := step.trans (le_refl _) later'
    exact ⟨fun r member ended => kept.ended r member (by omega), fun r member begun => kept.begun r member (by omega)⟩

/-- In a run without such a resume, what has happened by the time of a call is never rewritten
    by it or by a later one: a round that is over stays as it was, and a round that has begun
    keeps its start. -/
theorem past_is_kept (start : Int) (st : OperatorState) (untouched : Untouched start st) (calls : List TimedCall)
    (increasing : (start :: calls.map (·.time)).Pairwise (· < ·))
    (forward : ∀ v ∈ visited Watched.step ⟨start, st, none⟩ calls, ¬ Rewinds v.1.state v.2) :
    ∀ v ∈ visited Watched.step ⟨start, st, none⟩ calls,
      KeepsPast v.2.time v.1.state.rounds (calls.foldl Watched.step ⟨start, st, none⟩).state.rounds := by
  intro v member
  obtain ⟨w, c⟩ := v
  obtain ⟨before, after, split, here⟩ := mem_visited.mp member
  simp only at here split
  have preserved : ∀ (w : Watched) (c : TimedCall), Resumable w → w.now < c.time → Resumable (w.step c) :=
    fun _ _ resumable later => resumable.step later
  have clock := visited_clock Watched.step_now (s := ⟨start, st, none⟩) increasing
  have resumable : Resumable w := visited_invariant preserved untouched.resumable clock _ member
  have later : w.now < c.time := clock _ member
  have step := resumable.keepsPast later (forward _ member)
  -- the rest of the run starts from the state after the call, at its time
  have now := Watched.step_now w c
  have ordered : ((w.step c).now :: after.map (·.time)).Pairwise (· < ·) := by
    rw [now]
    rw [split, List.map_append, List.map_cons] at increasing
    exact (List.pairwise_append.mp (List.pairwise_cons.mp increasing).2).2.1
  have rest := (resumable.step later).foldl_keepsPast ordered fun u inAfter => by
    refine forward u (mem_visited.mpr ?_)
    obtain ⟨between, after', split', there⟩ := mem_visited.mp inAfter
    refine ⟨before ++ c :: between, after', by simp [split, split'], ?_⟩
    rw [there, List.foldl_append, List.foldl_cons, here]
  rw [now] at rest
  have folded : calls.foldl Watched.step ⟨start, st, none⟩ = after.foldl Watched.step (w.step c) := by
    rw [split, List.foldl_append, List.foldl_cons, here]
  rw [folded]
  exact step.trans (le_refl _) rest

/-- The extension of the first round is kept by the pause and the resume after it. -/
theorem extendedThenPaused_keeps_past : Untouched twoRoundEvent.startTime freshTwoRounds ∧
    ∀ v ∈ visited Watched.step ⟨twoRoundEvent.startTime, freshTwoRounds, none⟩ extendedThenPaused,
      KeepsPast v.2.time v.1.state.rounds
        (extendedThenPaused.foldl Watched.step ⟨twoRoundEvent.startTime, freshTwoRounds, none⟩).state.rounds :=
  ⟨untouched_freshTwoRounds, past_is_kept twoRoundEvent.startTime freshTwoRounds untouched_freshTwoRounds
    extendedThenPaused (by decide) (by decide +kernel)⟩

end EventPlatform.Operator
