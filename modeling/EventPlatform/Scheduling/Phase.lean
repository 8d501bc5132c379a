import EventPlatform.Scheduling.Timeline

/-! # The phase of an event

`getCurrentPhase` walks the rounds in order and returns the first window that
contains the time.  `Cell` is the partition of time it computes: every time is
in exactly one cell of a well-formed timeline. -/

namespace EventPlatform.Scheduling

inductive EventPhase where
  | notStarted
  | preconnect
  | inRound
  | break_
  | completed
deriving DecidableEq

/-- The phase, the round it belongs to, and the time left in it. -/
structure PhaseResult where
  phase : EventPhase
  activeRound : Option Round
  remaining : Option Int
deriving DecidableEq

/-! ## The scheduler's computation -/

/-- `for round_obj in rounds:`; `none` when the loop runs to its end. -/
def scanRounds (preconnectDuration currentTime : Int) (rounds : List Round) :
    List Round → Option PhaseResult
  | [] => none
  | roundObj :: rest =>
    if roundObj.startsAt - preconnectDuration ≤ currentTime ∧ currentTime < roundObj.startsAt then
      some ⟨.preconnect, roundObj, some (roundObj.startsAt - currentTime)⟩
    else if roundObj.startsAt ≤ currentTime ∧ currentTime < roundObj.endsAt then
      some ⟨.inRound, roundObj, some (roundObj.endsAt - currentTime)⟩
    else
      match rounds.find? (·.number = roundObj.number + 1) with
      | some nextRound =>
        let nextPreconnect := nextRound.startsAt - preconnectDuration
        if roundObj.endsAt ≤ currentTime ∧ currentTime < nextPreconnect then
          some ⟨.break_, roundObj, some (nextPreconnect - currentTime)⟩
        else scanRounds preconnectDuration currentTime rounds rest
      | none => scanRounds preconnectDuration currentTime rounds rest

def getCurrentPhase (preconnectDuration : Int) (stored : List Round) (currentTime : Int) :
    PhaseResult :=
  let rounds := stored.insertionSort fun r s => r.number ≤ s.number
  match rounds with
  | [] => ⟨.notStarted, none, none⟩
  | firstRound :: later =>
    let firstPreconnect := firstRound.startsAt - preconnectDuration
    if currentTime < firstPreconnect then
      ⟨.notStarted, none, some (firstPreconnect - currentTime)⟩
    else
      match scanRounds preconnectDuration currentTime rounds rounds with
      | some result => result
      | none =>
        let lastRound := (firstRound :: later).getLast (List.cons_ne_nil _ _)
        if lastRound.endsAt ≤ currentTime then ⟨.completed, lastRound, some 0⟩
        else ⟨.notStarted, none, none⟩

/-! ## The partition of time -/

/-- The reference partition.  A break shorter than the preconnect window is
    swallowed by it, so the window also waits for the earlier rounds to end. -/
inductive Cell (preconnectDuration : Int) (rounds : List Round) (t : Int) : PhaseResult → Prop where
  | notStarted (first : Round) : first ∈ rounds → first.number = 1 →
      t < first.startsAt - preconnectDuration →
      Cell preconnectDuration rounds t
        ⟨.notStarted, none, some (first.startsAt - preconnectDuration - t)⟩
  | preconnect (r : Round) : r ∈ rounds → r.startsAt - preconnectDuration ≤ t → t < r.startsAt →
      (∀ s ∈ rounds, s.number < r.number → s.endsAt ≤ t) →
      Cell preconnectDuration rounds t ⟨.preconnect, some r, some (r.startsAt - t)⟩
  | inRound (r : Round) : r ∈ rounds → r.startsAt ≤ t → t < r.endsAt →
      Cell preconnectDuration rounds t ⟨.inRound, some r, some (r.endsAt - t)⟩
  | break_ (r next : Round) : r ∈ rounds → next ∈ rounds → next.number = r.number + 1 →
      r.endsAt ≤ t → t < next.startsAt - preconnectDuration →
      Cell preconnectDuration rounds t
        ⟨.break_, some r, some (next.startsAt - preconnectDuration - t)⟩
  | completed (last : Round) : last ∈ rounds → last.number = rounds.length → last.endsAt ≤ t →
      Cell preconnectDuration rounds t ⟨.completed, some last, some 0⟩

variable {preconnectDuration : Int} {rounds : List Round} {t : Int}

/-- The rounds before the one being looked at are over, and its window has begun. -/
theorem scanRounds_cell (preconnectDuration t : Int) (wf : WellFormed rounds) {done rest : List Round}
    (split : rounds = done ++ rest)
    (passed : ∀ s ∈ done, s.endsAt ≤ t ∧ s.startsAt - preconnectDuration ≤ t)
    (begun : ∀ r ∈ rest.head?, r.startsAt - preconnectDuration ≤ t) :
    (∃ result, scanRounds preconnectDuration t rounds rest = some result ∧
      Cell preconnectDuration rounds t result ∧
      ∀ r ∈ result.activeRound, r.startsAt - preconnectDuration ≤ t) ∨
    (scanRounds preconnectDuration t rounds rest = none ∧
      ∀ s ∈ rounds, s.endsAt ≤ t ∧ s.startsAt - preconnectDuration ≤ t) := by
  induction rest generalizing done with
  | nil =>
    rw [List.append_nil] at split
    exact .inr ⟨rfl, split ▸ passed⟩
  | cons r rest ih =>
    have member : r ∈ rounds := by rw [split]; simp
    have preconnect : r.startsAt - preconnectDuration ≤ t := begun r rfl
    -- a round is numbered by its place, so `r` is the one right after those of `done`
    have position : r.number = done.length + 1 := by
      have inside : done.length < rounds.length := by rw [split]; simp
      have number := wf.number_getElem inside
      have here : rounds[done.length] = r := by simp [split]
      rwa [here] at number
    have earlier : ∀ s ∈ rounds, s.number < r.number → s.endsAt ≤ t := by
      intro s inRounds lower
      obtain ⟨inside, positive, here⟩ := wf.exists_getElem inRounds
      have inDone : s ∈ done := by
        rw [← here]
        simp only [split]
        rw [List.getElem_append_left (by omega)]
        exact List.getElem_mem _
      exact (passed s inDone).1
    have continued : r.endsAt ≤ t →
        ∀ s ∈ done ++ [r], s.endsAt ≤ t ∧ s.startsAt - preconnectDuration ≤ t := by
      intro ended s inDone
      cases List.mem_append.mp inDone with
      | inl old => exact passed s old
      | inr here => rw [List.mem_singleton.mp here]; exact ⟨ended, preconnect⟩
    have active : ∀ s ∈ some r, s.startsAt - preconnectDuration ≤ t := by
      intro s here
      cases here
      exact preconnect
    have split' : rounds = done ++ [r] ++ rest := by rw [split]; simp
    simp only [scanRounds]
    by_cases waiting : t < r.startsAt
    · rw [if_pos ⟨preconnect, waiting⟩]
      exact .inl ⟨_, rfl, .preconnect r member preconnect waiting earlier, active⟩
    · rw [if_neg (by omega)]
      by_cases running : t < r.endsAt
      · rw [if_pos ⟨by omega, running⟩]
        exact .inl ⟨_, rfl, .inRound r member (by omega) running, active⟩
      · rw [if_neg (by omega)]
        have ended : r.endsAt ≤ t := by omega
        cases rest with
        | nil =>
          -- no round follows: the search for the next number fails and the scan runs out
          have none_ : rounds.find? (·.number = r.number + 1) = none := by
            rw [List.find?_eq_none]
            intro s inRounds
            have le := wf.number_le inRounds
            have length : rounds.length = done.length + 1 := by simp [split]
            simp only [decide_eq_true_eq]
            omega
          simp only [none_]
          exact ih split' (continued ended) (by simp)
        | cons next rest =>
          have nextMember : next ∈ rounds := by rw [split]; simp
          have number : next.number = r.number + 1 := by
            have inside : done.length + 1 < rounds.length := by rw [split]; simp
            have number := wf.number_getElem inside
            have here : rounds[done.length + 1] = next := by simp [split]
            rw [here] at number
            omega
          have found : rounds.find? (·.number = r.number + 1) = some next := by
            rw [← number]
            exact wf.find?_number nextMember
          simp only [found]
          by_cases resting : t < next.startsAt - preconnectDuration
          · rw [if_pos ⟨ended, resting⟩]
            exact .inl ⟨_, rfl, .break_ r next member nextMember number ended resting, active⟩
          · rw [if_neg (by omega)]
            -- the break is over too, and the next round is looked at
            refine ih split' (continued ended) ?_
            intro r' head
            cases head
            omega

theorem getCurrentPhase_cell_begun (preconnectDuration t : Int) (wf : WellFormed rounds)
    (nonempty : rounds ≠ []) :
    Cell preconnectDuration rounds t (getCurrentPhase preconnectDuration rounds t) ∧
      ∀ r ∈ (getCurrentPhase preconnectDuration rounds t).activeRound,
        r.startsAt - preconnectDuration ≤ t := by
  simp only [getCurrentPhase]
  rw [wf.order_by_number]
  cases rounds with
  | nil => exact absurd rfl nonempty
  | cons first later =>
    have number : first.number = 1 := wf.number_getElem (i := 0) (by simp)
    simp only
    by_cases early : t < first.startsAt - preconnectDuration
    · rw [if_pos early]
      exact ⟨.notStarted first List.mem_cons_self number early, by simp⟩
    · rw [if_neg early]
      have scanned := scanRounds_cell preconnectDuration t wf
        (List.nil_append (first :: later)).symm (by simp) (fun r head => by cases head; omega)
      cases scanned with
      | inl found =>
        obtain ⟨result, scan, cell⟩ := found
        rw [scan]
        exact cell
      -- the scan has passed every round, and the last one is over too
      | inr finished =>
        obtain ⟨scan, passed⟩ := finished
        obtain ⟨ended, begun⟩ := passed _ (List.getLast_mem (List.cons_ne_nil first later))
        rw [scan]
        simp only
        rw [if_pos ended]
        refine ⟨.completed _ (List.getLast_mem _) ?_ ended, fun r here => by cases here; exact begun⟩
        rw [List.getLast_eq_getElem, wf.number_getElem]
        simp

theorem getCurrentPhase_cell (preconnectDuration t : Int) (wf : WellFormed rounds) (nonempty : rounds ≠ []) :
    Cell preconnectDuration rounds t (getCurrentPhase preconnectDuration rounds t) :=
  (getCurrentPhase_cell_begun preconnectDuration t wf nonempty).1

/-- No round is reported before its own window has begun. -/
theorem getCurrentPhase_begun (wf : WellFormed rounds) {r : Round}
    (active : (getCurrentPhase preconnectDuration rounds t).activeRound = some r) :
    r.startsAt - preconnectDuration ≤ t := by
  have nonempty : rounds ≠ [] := by
    intro empty
    rw [empty] at active
    cases active
  exact (getCurrentPhase_cell_begun preconnectDuration t wf nonempty).2 r active

/-! ## The order of the cells -/

/-- How far the event is: before, inside and after round `k` count `3k - 2`,
    `3k - 1` and `3k`, the end of the event like the time after its last round. -/
def PhaseResult.position (result : PhaseResult) : Nat :=
  match result.phase with
  | .notStarted => 0
  | .preconnect => 3 * (result.activeRound.map (·.number)).getD 0 - 2
  | .inRound => 3 * (result.activeRound.map (·.number)).getD 0 - 1
  | .break_ => 3 * (result.activeRound.map (·.number)).getD 0
  | .completed => 3 * (result.activeRound.map (·.number)).getD 0

namespace Cell

variable {result other : PhaseResult} {t' : Int}

/-- A round that the cell lies before has not started. -/
theorem lt_startsAt (cell : Cell preconnectDuration rounds t result) (wf : WellFormed rounds)
    (nonneg : 0 ≤ preconnectDuration) {s : Round} (member : s ∈ rounds)
    (below : result.position < 3 * s.number - 1) : t < s.startsAt := by
  -- the rounds start in the order of their numbers
  have atLeast : ∀ r ∈ rounds, r.number ≤ s.number → r.startsAt ≤ s.startsAt := by
    intro r inRounds le
    cases Nat.lt_or_ge r.number s.number with
    | inl before =>
      have order := wf.before inRounds member before
      have positive := wf.positive r inRounds
      omega
    | inr same => rw [wf.eq_of_number inRounds member (by omega)]
  have first := wf.number_pos member
  have last := wf.number_le member
  cases cell with
  | notStarted r inRounds number waiting =>
    have order := atLeast r inRounds (by omega)
    omega
  | preconnect r inRounds _ waiting _ =>
    simp only [PhaseResult.position, Option.map_some, Option.getD_some] at below
    have order := atLeast r inRounds (by omega)
    omega
  | inRound r inRounds begun running =>
    simp only [PhaseResult.position, Option.map_some, Option.getD_some] at below
    have order := wf.before inRounds member (by omega)
    omega
  | break_ r next inRounds nextMember number ended resting =>
    simp only [PhaseResult.position, Option.map_some, Option.getD_some] at below
    have order := atLeast next nextMember (by omega)
    omega
  | completed r inRounds number ended =>
    simp only [PhaseResult.position, Option.map_some, Option.getD_some] at below
    omega

/-- A round that the cell does not lie after is not over. -/
theorem lt_endsAt (cell : Cell preconnectDuration rounds t result) (wf : WellFormed rounds)
    (nonneg : 0 ≤ preconnectDuration) {s : Round} (member : s ∈ rounds)
    (below : result.position < 3 * s.number) : t < s.endsAt := by
  have positive := wf.positive s member
  by_cases earlier : result.position < 3 * s.number - 1
  · have := cell.lt_startsAt wf nonneg member earlier
    omega
  · -- the only cell in between is the round itself
    cases cell with
    | inRound r inRounds begun running =>
      have number := wf.number_pos inRounds
      simp only [PhaseResult.position, Option.map_some, Option.getD_some] at below earlier
      rw [wf.eq_of_number member inRounds (by omega)]
      exact running
    | notStarted => simp only [PhaseResult.position] at below earlier; omega
    | preconnect | break_ | completed =>
      simp only [PhaseResult.position, Option.map_some, Option.getD_some] at below earlier
      omega

/-- Before the window of a round, it has not opened or an earlier round still runs. -/
theorem lt_window (cell : Cell preconnectDuration rounds t result) (wf : WellFormed rounds)
    (nonneg : 0 ≤ preconnectDuration) {s : Round} (member : s ∈ rounds)
    (below : result.position < 3 * s.number - 2) :
    t < s.startsAt - preconnectDuration ∨
      ∃ r ∈ rounds, r.number < s.number ∧ t < r.endsAt := by
  -- before the first round there is no break, only the time before the event
  by_cases one : s.number = 1
  · left
    cases cell with
    | notStarted r inRounds number waiting =>
      rw [wf.eq_of_number member inRounds (by omega)]
      exact waiting
    | preconnect r inRounds | inRound r inRounds | break_ r _ inRounds | completed r inRounds =>
      have := wf.number_pos inRounds
      simp only [PhaseResult.position, Option.map_some, Option.getD_some] at below
      omega
  have first := wf.number_pos member
  have last := wf.number_le member
  obtain ⟨before, beforeMember, number⟩ := wf.exists_number (k := s.number - 1) (by omega) (by omega)
  by_cases earlier : result.position < 3 * before.number
  · exact .inr ⟨before, beforeMember, by omega, cell.lt_endsAt wf nonneg beforeMember earlier⟩
  · -- the only cell in between is the break before the round
    cases cell with
    | notStarted => simp only [PhaseResult.position] at earlier; omega
    | break_ r next inRounds nextMember number' ended resting =>
      simp only [PhaseResult.position, Option.map_some, Option.getD_some] at below earlier
      rw [wf.eq_of_number member nextMember (by omega)]
      exact .inl resting
    | preconnect | inRound | completed =>
      simp only [PhaseResult.position, Option.map_some, Option.getD_some] at below earlier
      omega

/-- Later times lie in later cells. -/
theorem position_le (cell : Cell preconnectDuration rounds t result)
    (later : Cell preconnectDuration rounds t' other) (wf : WellFormed rounds)
    (nonneg : 0 ≤ preconnectDuration) (le : t ≤ t') : result.position ≤ other.position := by
  by_contra below
  rw [Nat.not_le] at below
  cases cell with
  | notStarted => cases below
  | preconnect r member begun waiting passed =>
    cases later.lt_window wf nonneg member below with
    | inl closed => omega
    | inr running =>
      obtain ⟨s, inRounds, lower, running⟩ := running
      have := passed s inRounds lower
      omega
  | inRound r member begun running =>
    have := later.lt_startsAt wf nonneg member below
    omega
  | break_ r next member nextMember number ended resting =>
    have := later.lt_endsAt wf nonneg member below
    omega
  | completed r member number ended =>
    have := later.lt_endsAt wf nonneg member below
    omega

/-- A time lies in one cell only. -/
theorem unique (cell : Cell preconnectDuration rounds t result)
    (cell' : Cell preconnectDuration rounds t other) (wf : WellFormed rounds)
    (nonneg : 0 ≤ preconnectDuration) : result = other := by
  have same := le_antisymm (cell.position_le cell' wf nonneg (le_refl t))
    (cell'.position_le cell wf nonneg (le_refl t))
  -- equal positions mean one kind of cell at one round; a break is not the end, as a round follows
  cases cell with
  | notStarted r member number waiting =>
    cases cell' with
    | notStarted s inRounds number' => rw [wf.eq_of_number member inRounds (by omega)]
    | preconnect s inRounds | inRound s inRounds | break_ s _ inRounds | completed s inRounds =>
      have := wf.number_pos inRounds
      simp only [PhaseResult.position, Option.map_some, Option.getD_some] at same
      omega
  | preconnect r member =>
    have := wf.number_pos member
    cases cell' with
    | preconnect s inRounds =>
      have := wf.number_pos inRounds
      simp only [PhaseResult.position, Option.map_some, Option.getD_some] at same
      rw [wf.eq_of_number member inRounds (by omega)]
    | notStarted s inRounds | inRound s inRounds | break_ s _ inRounds | completed s inRounds =>
      have := wf.number_pos inRounds
      simp only [PhaseResult.position, Option.map_some, Option.getD_some] at same
      omega
  | inRound r member =>
    have := wf.number_pos member
    cases cell' with
    | inRound s inRounds =>
      have := wf.number_pos inRounds
      simp only [PhaseResult.position, Option.map_some, Option.getD_some] at same
      rw [wf.eq_of_number member inRounds (by omega)]
    | notStarted s inRounds | preconnect s inRounds | break_ s _ inRounds | completed s inRounds =>
      have := wf.number_pos inRounds
      simp only [PhaseResult.position, Option.map_some, Option.getD_some] at same
      omega
  | break_ r next member nextMember number =>
    have := wf.number_pos member
    have := wf.number_le nextMember
    cases cell' with
    | break_ s next' inRounds nextMember' number' =>
      simp only [PhaseResult.position, Option.map_some, Option.getD_some] at same
      rw [wf.eq_of_number member inRounds (by omega),
        wf.eq_of_number nextMember nextMember' (by omega)]
    | notStarted s inRounds | preconnect s inRounds | inRound s inRounds | completed s inRounds =>
      have := wf.number_pos inRounds
      simp only [PhaseResult.position, Option.map_some, Option.getD_some] at same
      omega
  | completed r member number =>
    have := wf.number_pos member
    cases cell' with
    | completed s inRounds => rw [wf.eq_of_number member inRounds (by omega)]
    | break_ s next' inRounds nextMember' number' =>
      have := wf.number_le nextMember'
      simp only [PhaseResult.position, Option.map_some, Option.getD_some] at same
      omega
    | notStarted s inRounds | preconnect s inRounds | inRound s inRounds =>
      have := wf.number_pos inRounds
      simp only [PhaseResult.position, Option.map_some, Option.getD_some] at same
      omega

theorem nonempty (cell : Cell preconnectDuration rounds t result) :
    rounds ≠ [] := by
  cases cell with
  | notStarted r member | preconnect r member | inRound r member | break_ r _ member
  | completed r member => exact List.ne_nil_of_mem member

end Cell

/-- The scheduler reports the cell of the time. -/
theorem getCurrentPhase_eq (wf : WellFormed rounds) (nonneg : 0 ≤ preconnectDuration)
    {result : PhaseResult} (cell : Cell preconnectDuration rounds t result) :
    getCurrentPhase preconnectDuration rounds t = result :=
  (getCurrentPhase_cell preconnectDuration t wf cell.nonempty).unique cell wf nonneg

theorem getCurrentPhase_inRound (wf : WellFormed rounds) {r : Round} {remaining : Option Int}
    (phase : getCurrentPhase preconnectDuration rounds t = ⟨.inRound, some r, remaining⟩) :
    r ∈ rounds ∧ r.startsAt ≤ t ∧ t < r.endsAt ∧ remaining = some (r.endsAt - t) := by
  have nonempty : rounds ≠ [] := by
    intro empty
    subst empty
    cases phase
  have cell := getCurrentPhase_cell preconnectDuration t wf nonempty
  rw [phase] at cell
  cases cell with
  | inRound _ member begun running => exact ⟨member, begun, running, rfl⟩

/-- Inside a round the scheduler reports that round. -/
theorem getCurrentPhase_running (wf : WellFormed rounds) (nonneg : 0 ≤ preconnectDuration)
    {r : Round} (member : r ∈ rounds) (begun : r.startsAt ≤ t) (running : t < r.endsAt) :
    getCurrentPhase preconnectDuration rounds t = ⟨.inRound, some r, some (r.endsAt - t)⟩ :=
  getCurrentPhase_eq wf nonneg (.inRound r member begun running)

/-- Inside the break after `r` the scheduler reports that break. -/
theorem getCurrentPhase_break (wf : WellFormed rounds) (nonneg : 0 ≤ preconnectDuration)
    {r next : Round} (member : r ∈ rounds) (nextMember : next ∈ rounds)
    (number : next.number = r.number + 1) (ended : r.endsAt ≤ t)
    (resting : t < next.startsAt - preconnectDuration) :
    getCurrentPhase preconnectDuration rounds t =
      ⟨.break_, some r, some (next.startsAt - preconnectDuration - t)⟩ :=
  getCurrentPhase_eq wf nonneg (.break_ r next member nextMember number ended resting)

end EventPlatform.Scheduling
