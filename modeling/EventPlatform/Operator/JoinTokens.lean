import EventPlatform.Lib.PyText
import EventPlatform.Lib.Sha256
import EventPlatform.Operator.TimelineShape

/-! # How long a join token lasts

A token expires at the end that the event's own durations give it.  The rounds
end later with every extension and every resume, and nothing moves the expiry
with them. -/

namespace EventPlatform.Operator

open EventPlatform.Lib EventPlatform.Scheduling

/-! ## Join tokens -/

/-- The columns of `Participant` that its token and its link are about. -/
structure TokenHolder where
  pk : String
  event : Event
  joinTokenHash : String
  joinTokenDigest : String
  joinTokenExpiresAt : Option Int
  joinedAt : Option Int

/-- `make_password` and `check_password`: a password passes against its own hash. -/
structure PasswordHasher where
  makePassword : String → String
  checkPassword : String → String → Bool
  checks : ∀ raw, checkPassword raw (makePassword raw) = true

inductive JoinTokenError where
  | invalid
  | expired
deriving DecidableEq

def tokenPrefix : String := "p1_"

def tokenDigest (raw : String) : String :=
  String.ofList (Sha256.hexdigest (Sha256.sha256 raw.toUTF8.data.toList))

def eventEnd (event : EventColumns) : Int :=
  event.startTime +
    (event.numRounds * event.roundDuration + max ((event.numRounds : Int) - 1) 0 * event.breakDuration)

/-- `set_join_token`, with a token that is not empty. -/
def TokenHolder.setJoinToken (hasher : PasswordHasher) (participant : TokenHolder) (raw : String) : TokenHolder :=
  { participant with joinTokenHash := hasher.makePassword raw, joinTokenDigest := tokenDigest raw }

/-- The raw token is returned once; `random` is what `token_urlsafe` draws. -/
def issueJoinToken (hasher : PasswordHasher) (participant : TokenHolder) (random : String) :
    String × TokenHolder :=
  let rawToken := tokenPrefix ++ random
  (rawToken,
    { participant.setJoinToken hasher rawToken with joinTokenExpiresAt := some (eventEnd participant.event) })

namespace TokenHolder

def verifyJoinToken (hasher : PasswordHasher) (participant : TokenHolder) (raw : String) : Bool :=
  raw != "" && hasher.checkPassword raw participant.joinTokenHash

def tokenIsExpired (participant : TokenHolder) (now : Int) : Bool :=
  participant.joinTokenExpiresAt.any (· ≤ now)

/-- The first use of the link is remembered. -/
def join (participant : TokenHolder) (now : Int) : TokenHolder :=
  { participant with joinedAt := participant.joinedAt <|> some now }

end TokenHolder

/-- `authenticate_join_token`; the rows are in the order of their keys. -/
def authenticateJoinToken (hasher : PasswordHasher) (rows : List TokenHolder) (now : Int) (rawToken : String) :
    Except JoinTokenError TokenHolder :=
  if rawToken = "" ∨ ¬ tokenPrefix.toList <+: rawToken.toList then .error .invalid
  else
    match rows.find? (·.joinTokenDigest = tokenDigest rawToken) with
    | none => .error .invalid
    | some participant =>
      if ¬ participant.verifyJoinToken hasher rawToken then .error .invalid
      else if participant.tokenIsExpired now then .error .expired
      else .ok (participant.join now)

/-- The link opens exactly as long as the token is not expired. -/
theorem authenticateJoinToken_issued {hasher : PasswordHasher} {participant : TokenHolder} {random raw : String}
    {holder : TokenHolder} {rows : List TokenHolder} {now : Int}
    (issued : issueJoinToken hasher participant random = (raw, holder))
    (found : rows.find? (·.joinTokenDigest = tokenDigest raw) = some holder) :
    authenticateJoinToken hasher rows now raw =
      if holder.tokenIsExpired now then .error .expired else .ok (holder.join now) := by
  have nonempty : tokenPrefix ++ random ≠ "" := by
    intro empty
    have letters := congrArg String.toList empty
    simp [tokenPrefix] at letters
  have wellFormed : ¬ (raw = "" ∨ ¬ tokenPrefix.toList <+: raw.toList) := by
    cases issued
    simp [nonempty]
  have verified : holder.verifyJoinToken hasher raw = true := by
    cases issued
    simp [TokenHolder.verifyJoinToken, TokenHolder.setJoinToken, nonempty, hasher.checks]
  rw [authenticateJoinToken, if_neg wellFormed, found]
  simp only [verified, not_true_eq_false, if_false]

/-! ## Where the timeline ends -/

/-- The last round ends at `t`. -/
def EndsAt (rounds : List Round) (t : Int) : Prop := ∃ r ∈ rounds, r.number = rounds.length ∧ r.endsAt = t

/-- Some round is preconnecting or in progress. -/
def Active (rounds : List Round) (t : Int) : Prop :=
  (getCurrentPhase preconnectDefault rounds t).phase = .preconnect ∨
    (getCurrentPhase preconnectDefault rounds t).phase = .inRound

instance decidableActive (rounds : List Round) (t : Int) : Decidable (Active rounds t) :=
  inferInstanceAs (Decidable (_ ∨ _))

variable {rounds : List Round} {e t : Int}

theorem EndsAt.latest (ends : EndsAt rounds e) (wf : WellFormed rounds) {r : Round} (member : r ∈ rounds) :
    r.endsAt ≤ e := by
  obtain ⟨last, lastMember, number, rfl⟩ := ends
  have le := wf.number_le member
  by_cases same : r.number = last.number
  · rw [wf.eq_of_number member lastMember same]
  · have before := wf.before member lastMember (by omega)
    have positive := wf.positive last lastMember
    omega

theorem EndsAt.active_lt (ends : EndsAt rounds e) (wf : WellFormed rounds) (active : Active rounds t) : t < e := by
  have nonempty : rounds ≠ [] := by
    obtain ⟨r, member, _⟩ := ends
    exact List.ne_nil_of_mem member
  have cell := getCurrentPhase_cell preconnectDefault t wf nonempty
  unfold Active at active
  generalize getCurrentPhase preconnectDefault rounds t = result at active cell
  cases cell with
  | preconnect r member begun waiting passed =>
    have upper := ends.latest wf member
    have positive := wf.positive r member
    omega
  | inRound r member begun running =>
    have upper := ends.latest wf member
    omega
  | notStarted | break_ | completed => simp at active

/-- The last round is in progress until its end. -/
theorem EndsAt.active_last (ends : EndsAt rounds e) (wf : WellFormed rounds) : Active rounds (e - 1) := by
  obtain ⟨last, member, _, rfl⟩ := ends
  have positive := wf.positive last member
  right
  rw [getCurrentPhase_running wf (by decide) member (by omega) (by omega)]

/-- Whatever moves a round or those after it moves the end. -/
theorem EndsAt.shiftRounds (ends : EndsAt rounds e) {number : Nat} (inside : number ≤ rounds.length) (shift : Int) :
    EndsAt (shiftRounds number shift rounds) (e + shift) := by
  obtain ⟨last, member, lastNumber, rfl⟩ := ends
  refine ⟨shiftRound number shift last, List.mem_map_of_mem member, ?_, ?_⟩
  · simp [shiftRound_number, Operator.shiftRounds, lastNumber]
  · simp only [shiftRound]
    split_ifs with same after
    · rfl
    · rfl
    · omega

theorem endsAt_plannedRounds (event : Event) (base : Int) :
    EndsAt (plannedRounds event base) (base + (eventEnd event - event.startTime)) := by
  have positive := event.roundsPositive
  refine ⟨plannedRound event base (event.numRounds - 1), ?_, ?_, ?_⟩
  · exact List.mem_map_of_mem (List.mem_range.mpr (by omega))
  · simp [plannedRounds, plannedRound]
    omega
  · have cast : ((event.numRounds - 1 : Nat) : Int) = event.numRounds - 1 := by omega
    have most : max ((event.numRounds : Int) - 1) 0 = event.numRounds - 1 := by omega
    simp only [plannedRound, eventEnd, cast, most]
    ring

/-! ## How far a call moves the end -/

/-- What a call adds to the end of the event; a refused call and a pause add nothing. -/
def shiftOf (st : OperatorState) (c : TimedCall) : Int :=
  match perform st c with
  | .error _ => 0
  | .ok _ =>
    match c.call with
    | .pause => 0
    | .resume => timeShift c.time (st.lastLog.bind (·.details.pausedAt))
    | .extend extraSeconds => seconds extraSeconds

def runShift (st : OperatorState) (calls : List TimedCall) : Int :=
  ((visited OperatorState.act st calls).map fun v => shiftOf v.1 v.2).sum

/-- The database at a time: the calls made until then have been carried out. -/
def stateDuring (st : OperatorState) (calls : List TimedCall) (t : Int) : OperatorState :=
  (calls.takeWhile (·.time ≤ t)).foldl OperatorState.act st

/-- A pause was made inside its round, which may have been made longer since. -/
def Inside (rounds : List Round) (log : OperatorActionLog) : Prop :=
  ∃ r ∈ rounds, log.round = some r.number ∧ ∃ pausedAt, log.details.pausedAt = some pausedAt ∧ pausedAt < r.endsAt

structure Sound (st : OperatorState) : Prop where
  wellFormed : WellFormed st.rounds
  inside : ∀ log ∈ st.logs, log.action = .pause → Inside st.rounds log

variable {st : OperatorState} {c : TimedCall} {calls : List TimedCall}

theorem Inside.shiftRounds {log : OperatorActionLog} (inside : Inside rounds log) (number : Nat) {shift : Int}
    (nonneg : 0 ≤ shift) : Inside (shiftRounds number shift rounds) log := by
  obtain ⟨r, member, round, pausedAt, paused, before⟩ := inside
  refine ⟨shiftRound number shift r, List.mem_map_of_mem member, ?_, pausedAt, paused, ?_⟩
  · rw [shiftRound_number, round]
  · simp only [shiftRound]
    split_ifs <;> (try simp only) <;> omega

theorem Sound.act (sound : Sound st) (c : TimedCall) : Sound (st.act c) := by
  have wf := sound.wellFormed
  simp only [OperatorState.act]
  cases result : perform st c with
  | error _ => exact sound
  | ok accepted =>
    obtain ⟨payload, st'⟩ := accepted
    refine ⟨perform_wellFormed wf result, fun log member isPause => ?_⟩
    obtain ⟨time, call⟩ := c
    -- a pause logs a round that is running; a shift moves the round of every old pause or keeps it
    cases call with
    | pause =>
      obtain ⟨r, inRounds, _, running, _, _, rfl⟩ := pause_ok wf result
      rcases List.mem_append.mp member with old | new
      · exact sound.inside log old isPause
      · rw [List.mem_singleton.mp new]
        exact ⟨r, inRounds, rfl, time, rfl, running⟩
    | resume =>
      obtain ⟨_, _, r, _, _, _, _, rounds, ⟨details, logs⟩, _⟩ := resume_ok result
      rw [logs] at member
      rcases List.mem_append.mp member with old | new
      · rw [rounds]
        exact (sound.inside log old isPause).shiftRounds r.number (timeShift_nonneg time _)
      · rw [List.mem_singleton.mp new] at isPause
        cases isPause
    | extend extraSeconds =>
      obtain ⟨positive, r, _, _, _, rounds, ⟨details, logs⟩, _⟩ := extend_ok wf result
      rw [logs] at member
      rcases List.mem_append.mp member with old | new
      · rw [rounds]
        exact (sound.inside log old isPause).shiftRounds r.number (seconds_nonneg (le_of_lt positive))
      · rw [List.mem_singleton.mp new] at isPause
        cases isPause

/-- A call never moves the end back. -/
theorem shiftOf_nonneg (wf : WellFormed st.rounds) (c : TimedCall) : 0 ≤ shiftOf st c := by
  obtain ⟨time, call⟩ := c
  simp only [shiftOf]
  cases result : perform st ⟨time, call⟩ with
  | error _ => exact le_refl 0
  | ok accepted =>
    cases call with
    | pause => exact le_refl 0
    | resume => exact timeShift_nonneg _ _
    | extend extraSeconds =>
      obtain ⟨positive, _⟩ := extend_ok wf result
      exact seconds_nonneg (le_of_lt positive)

/-- Every accepted extension and every accepted resume moves the end. -/
theorem shiftOf_eq_zero_iff (wf : WellFormed st.rounds) (c : TimedCall) :
    shiftOf st c = 0 ↔ ((perform st c).isOk = true → c.call = .pause) := by
  obtain ⟨time, call⟩ := c
  simp only [shiftOf]
  cases result : perform st ⟨time, call⟩ with
  | error _ => simp [Except.isOk, Except.toBool]
  | ok accepted =>
    have second : 0 < seconds 1 := by decide
    cases call with
    | pause => simp
    | resume =>
      have shift : seconds 1 ≤ timeShift time (st.lastLog.bind (·.details.pausedAt)) := by
        cases st.lastLog.bind (·.details.pausedAt) with
        | none => exact le_refl _
        | some pausedAt => exact le_max_right _ _
      simp only [Except.isOk, Except.toBool, true_implies, reduceCtorEq, iff_false]
      omega
    | extend extraSeconds =>
      obtain ⟨positive, _⟩ := extend_ok wf result
      simp only [Except.isOk, Except.toBool, true_implies, reduceCtorEq, iff_false, seconds]
      omega

theorem EndsAt.act (ends : EndsAt st.rounds e) (wf : WellFormed st.rounds) (c : TimedCall) :
    EndsAt (st.act c).rounds (e + shiftOf st c) := by
  obtain ⟨time, call⟩ := c
  simp only [OperatorState.act, shiftOf]
  cases result : perform st ⟨time, call⟩ with
  | error _ => simpa using ends
  | ok accepted =>
    obtain ⟨payload, st'⟩ := accepted
    cases call with
    | pause =>
      obtain ⟨_, _, _, _, _, _, rfl⟩ := pause_ok wf result
      simpa [OperatorState.record] using ends
    | resume =>
      obtain ⟨log, _, r, newest, _, _, found, rounds, _⟩ := resume_ok result
      have inside := wf.number_le (List.mem_of_find?_eq_some found)
      simp only [rounds, newest, Option.bind_some]
      exact ends.shiftRounds inside _
    | extend extraSeconds =>
      obtain ⟨_, r, member, _, _, rounds, _⟩ := extend_ok wf result
      simp only [rounds]
      exact ends.shiftRounds (wf.number_le member) _

/-- A call that moves the end is made before the end it makes. -/
theorem Sound.before_end (sound : Sound st) (ends : EndsAt st.rounds e) (moves : 0 < shiftOf st c) :
    c.time < e + shiftOf st c := by
  obtain ⟨time, call⟩ := c
  simp only [shiftOf] at moves ⊢
  cases result : perform st ⟨time, call⟩ with
  | error _ => simp [result] at moves
  | ok accepted =>
    simp only [result] at moves
    cases call with
    | pause => simp at moves
    | resume =>
      obtain ⟨log, number, r, newest, isPause, round, found, _⟩ := resume_ok result
      obtain ⟨s, member, _, pausedAt, paused, inside⟩ := sound.inside log (firstLeast_mem _ newest) isPause
      have upper := ends.latest sound.wellFormed member
      have shift : time - pausedAt ≤ timeShift time (some pausedAt) := le_max_left _ _
      simp only [newest, Option.bind_some, paused]
      omega
    | extend extraSeconds =>
      obtain ⟨_, r, member, _, running, _⟩ := extend_ok sound.wellFormed result
      have upper := ends.latest sound.wellFormed member
      have begun : time < r.endsAt := running
      simp only at moves ⊢
      omega

/-! ## Whole runs -/

@[simp] theorem runShift_nil (st : OperatorState) : runShift st [] = 0 := rfl

theorem runShift_cons (st : OperatorState) (c : TimedCall) (calls : List TimedCall) :
    runShift st (c :: calls) = shiftOf st c + runShift (st.act c) calls := by
  simp [runShift, visited]

theorem wellFormed_act (wf : WellFormed st.rounds) (c : TimedCall) : WellFormed (st.act c).rounds := by
  simp only [OperatorState.act]
  cases result : perform st c with
  | error _ => exact wf
  | ok accepted => exact perform_wellFormed wf result

theorem wellFormed_run (wf : WellFormed st.rounds) (calls : List TimedCall) :
    WellFormed (calls.foldl OperatorState.act st).rounds := by
  have kept : ∀ (st : OperatorState) (c : TimedCall), WellFormed st.rounds → True → WellFormed (st.act c).rounds :=
    fun _ c wf _ => wellFormed_act wf c
  exact foldl_preserves kept wf fun _ _ => trivial

theorem runShift_nonneg (wf : WellFormed st.rounds) (calls : List TimedCall) : 0 ≤ runShift st calls := by
  induction calls generalizing st with
  | nil => simp
  | cons c calls ih =>
    have first := shiftOf_nonneg wf c
    have rest := ih (wellFormed_act wf c)
    rw [runShift_cons]
    omega

/-- Nothing moves the end exactly when no extension and no resume is accepted. -/
theorem runShift_eq_zero_iff (wf : WellFormed st.rounds) (calls : List TimedCall) :
    runShift st calls = 0 ↔
      ∀ v ∈ visited OperatorState.act st calls, (perform v.1 v.2).isOk = true → v.2.call = .pause := by
  induction calls generalizing st with
  | nil => simp [visited]
  | cons c calls ih =>
    have first := shiftOf_nonneg wf c
    have rest := runShift_nonneg (wellFormed_act wf c) calls
    rw [runShift_cons, visited, List.forall_mem_cons, ← ih (wellFormed_act wf c), ← shiftOf_eq_zero_iff wf c]
    omega

/-- The end is where it was, later by all that the calls have added. -/
theorem EndsAt.run (ends : EndsAt st.rounds e) (wf : WellFormed st.rounds) (calls : List TimedCall) :
    EndsAt (calls.foldl OperatorState.act st).rounds (e + runShift st calls) := by
  induction calls generalizing st e with
  | nil => simpa using ends
  | cons c calls ih =>
    rw [runShift_cons, ← add_assoc]
    exact ih (ends.act wf c) (wellFormed_act wf c)

/-- The calls made until some time have added no more than all of them. -/
theorem runShift_takeWhile_le (wf : WellFormed st.rounds) (p : TimedCall → Bool) (calls : List TimedCall) :
    runShift st (calls.takeWhile p) ≤ runShift st calls := by
  induction calls generalizing st with
  | nil => simp
  | cons c calls ih =>
    by_cases taken : p c
    · rw [List.takeWhile_cons_of_pos taken, runShift_cons, runShift_cons]
      have rest := ih (wellFormed_act wf c)
      omega
    · rw [List.takeWhile_cons_of_neg taken]
      exact runShift_nonneg wf (c :: calls)

/-- A moment before the end, all that moves it has been done. -/
theorem Sound.all_moved (sound : Sound st) (ends : EndsAt st.rounds e)
    (ordered : (calls.map (·.time)).Pairwise (· ≤ ·)) :
    runShift st (calls.takeWhile (·.time ≤ e + runShift st calls - 1)) = runShift st calls := by
  induction calls generalizing st e with
  | nil => rfl
  | cons c calls ih =>
    obtain ⟨first, rest⟩ := List.pairwise_cons.mp ordered
    have next := sound.act c
    -- the end as this call leaves it is the one for the rest
    have tail := ih next (ends.act sound.wellFormed c) rest
    have nonneg := shiftOf_nonneg sound.wellFormed c
    have restNonneg := runShift_nonneg next.wellFormed calls
    rw [runShift_cons, ← add_assoc]
    by_cases made : c.time ≤ e + shiftOf st c + runShift (st.act c) calls - 1
    · rw [List.takeWhile_cons_of_pos (by simpa using made), runShift_cons, tail]
    · -- neither this call nor a later one moves the end
      rw [List.takeWhile_cons_of_neg (by simpa using made)]
      have still : shiftOf st c = 0 := by
        by_contra moves
        have before := sound.before_end ends (c := c) (by omega)
        omega
      have none_ : calls.takeWhile (·.time ≤ e + shiftOf st c + runShift (st.act c) calls - 1) = [] := by
        cases calls with
        | nil => rfl
        | cons d calls =>
          have later : c.time ≤ d.time := first _ (by simp)
          apply List.takeWhile_cons_of_neg
          simp only [decide_eq_true_eq]
          omega
      rw [none_] at tail
      rw [still, ← tail]
      rfl

/-- A token that is issued for an event stays valid at every time at which a round is
    preconnecting or in progress, exactly when the accepted extensions and resumes add up to
    no more than the timeline was stored ahead of the event's start time.  On a timeline stored
    at that time, no extension and no resume may be accepted. -/
theorem token_lasts_iff (hasher : PasswordHasher) (participant : TokenHolder) (random : String) (base : Int)
    (st : OperatorState) (planned : st.rounds = plannedRounds participant.event base)
    (untouched : ∀ log ∈ st.logs, log.action = .recalculate)
    (calls : List TimedCall) (ordered : (calls.map (·.time)).Pairwise (· ≤ ·)) :
    ((∀ t, Active (stateDuring st calls t).rounds t →
      (issueJoinToken hasher participant random).2.tokenIsExpired t = false) ↔
      runShift st calls ≤ participant.event.startTime - base) ∧
    (base = participant.event.startTime → (runShift st calls ≤ participant.event.startTime - base ↔
      ∀ v ∈ visited OperatorState.act st calls, (perform v.1 v.2).isOk = true → v.2.call = .pause)) := by
  have expired : ∀ t, (issueJoinToken hasher participant random).2.tokenIsExpired t = false ↔
      t < eventEnd participant.event := by
    intro t
    simp [issueJoinToken, TokenHolder.tokenIsExpired]
  have sound : Sound st := by
    refine ⟨planned ▸ wellFormed_plannedRounds participant.event base, fun log member isPause => ?_⟩
    rw [untouched log member] at isPause
    cases isPause
  have ends := endsAt_plannedRounds participant.event base
  rw [← planned] at ends
  simp only [expired]
  constructor
  · constructor
    · intro lasts
      -- the last moment of the last round, when all the calls that move it have been made
      let last := base + (eventEnd participant.event - participant.event.startTime) + runShift st calls - 1
      have moved := ends.run sound.wellFormed (calls.takeWhile (·.time ≤ last))
      rw [sound.all_moved ends ordered] at moved
      have active : Active (stateDuring st calls last).rounds last :=
        moved.active_last (wellFormed_run sound.wellFormed _)
      have before := lasts last active
      omega
    · intro slack t active
      have moved := ends.run sound.wellFormed (calls.takeWhile (·.time ≤ t))
      have upper := runShift_takeWhile_le sound.wellFormed (·.time ≤ t) calls
      have before := moved.active_lt (wellFormed_run sound.wellFormed _) active
      omega
  · rintro rfl
    have nonneg := runShift_nonneg sound.wellFormed calls
    rw [← runShift_eq_zero_iff sound.wellFormed]
    omega

/-- A hasher that keeps the password readable. -/
def plainHasher : PasswordHasher where
  makePassword := ("plain$" ++ ·)
  checkPassword := fun raw hash => hash == "plain$" ++ raw
  checks := by simp

def ada : TokenHolder :=
  ⟨"00000000-0000-4000-8000-000000000201", twoRoundEvent, "!", "", none, none⟩

def extendedOnce : List TimedCall := [minute 1 (.extend 30)]

theorem token_lasts_iff_extendedOnce :
    ((∀ t, Active (stateDuring freshTwoRounds extendedOnce t).rounds t →
      (issueJoinToken plainHasher ada "random").2.tokenIsExpired t = false) ↔
      runShift freshTwoRounds extendedOnce ≤ ada.event.startTime - twoRoundEvent.startTime) ∧
    (twoRoundEvent.startTime = ada.event.startTime →
      (runShift freshTwoRounds extendedOnce ≤ ada.event.startTime - twoRoundEvent.startTime ↔
      ∀ v ∈ visited OperatorState.act freshTwoRounds extendedOnce,
        (perform v.1 v.2).isOk = true → v.2.call = .pause)) :=
  token_lasts_iff plainHasher ada "random" twoRoundEvent.startTime freshTwoRounds rfl
    (fun _ member => (by cases member)) extendedOnce (by decide)

/-- Half a minute before the extended second round is over, its participants' tokens expire. -/
theorem extension_outlives_token : ¬ ∀ t, Active (stateDuring freshTwoRounds extendedOnce t).rounds t →
    (issueJoinToken plainHasher ada "random").2.tokenIsExpired t = false := by
  intro lasts
  have active : Active (stateDuring freshTwoRounds extendedOnce (eventEnd twoRoundEvent)).rounds
      (eventEnd twoRoundEvent) := by
    decide +kernel
  have valid := lasts _ active
  simp [issueJoinToken, TokenHolder.tokenIsExpired, ada] at valid

end EventPlatform.Operator
