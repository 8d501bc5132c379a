import EventPlatform.Lib.Processes
import EventPlatform.Lib.Runs
import EventPlatform.Operator.Service

/-! # Concurrent shifts

`extend` and `resume` read the rounds, and later write absolute times, without locking
what they have read.  Here each transaction goes on statement by statement under READ
COMMITTED: a SELECT sees what is committed and the transaction's own writes, an UPDATE
waits while another open transaction has written the row. -/

namespace EventPlatform.Operator

open EventPlatform.Lib EventPlatform.Scheduling

/-! ## Transactions -/

inductive ShiftCall where
  | extend (extraSeconds : Int)
  | resume

/-- An UPDATE of one round; only the columns that `save` names are written. -/
structure RoundUpdate where
  number : Nat
  startsAt : Option Int
  endsAt : Int

def RoundUpdate.apply (update : RoundUpdate) (r : Round) : Round :=
  { r with startsAt := update.startsAt.getD r.startsAt, endsAt := update.endsAt }

/-- A row as the transaction with these updates sees it. -/
def withUpdates (updates : List RoundUpdate) (r : Round) : Round :=
  match updates.find? (·.number = r.number) with
  | some update => update.apply r
  | none => r

/-- The next statement of a transaction. -/
inductive ShiftPc where
  | selectRounds (extraSeconds : Int)
  | selectLog
  | selectRound (log : OperatorActionLog)
  | updateTarget (target : Round) (shift : Int)
  | selectLater (number : Nat) (endsAt shift : Int)
  | updateLater (number : Nat) (endsAt shift : Int) (later : List Round)
  | insertLog (number : Nat) (endsAt shift : Int)
  | commit (number : Nat) (endsAt shift : Int)
  | done
deriving DecidableEq

/-- `lastLog` is the pause that a `resume` has found. -/
structure ShiftTransaction where
  call : ShiftCall
  now : Int
  pc : ShiftPc
  updates : List RoundUpdate
  lastLog : Option OperatorActionLog

def ShiftTransaction.begin (call : ShiftCall) (now : Int) : ShiftTransaction :=
  match call with
  | .extend extraSeconds => ⟨call, now, .selectRounds extraSeconds, [], none⟩
  | .resume => ⟨call, now, .selectLog, [], none⟩

/-- The row that the transaction adds to the log. -/
def ShiftTransaction.log (tx : ShiftTransaction) (number : Nat) (endsAt shift : Int) : OperatorActionLog :=
  match tx.call with
  | .extend extraSeconds => ⟨some number, .extend, .extend extraSeconds endsAt, tx.now⟩
  | .resume => ⟨some number, .resume, .resume tx.now endsAt (shift.tdiv (seconds 1)), tx.now⟩

/-- An action that has committed. -/
structure AcceptedShift where
  target : Nat
  shift : Int
  lastLog : Option OperatorActionLog

/-- The committed rows and the transactions.  `accepted` is kept by nobody. -/
structure ShiftState where
  clock : Int
  rounds : List Round
  logs : List OperatorActionLog
  transactions : List ShiftTransaction
  accepted : List AcceptedShift

def ShiftState.start (clock : Int) (st : OperatorState) : ShiftState := ⟨clock, st.rounds, st.logs, [], []⟩

inductive ShiftAction where
  | pass (now : Int)
  | begin (call : ShiftCall)
  /-- The transaction goes on; its statement may fail, and roll it back. -/
  | go (transaction : Nat) (fails : Bool)

namespace ShiftState

def put (s : ShiftState) (i : Nat) (tx : ShiftTransaction) : ShiftState :=
  { s with transactions := s.transactions.set i tx }

/-- An exception, whose transaction is rolled back. -/
def reject (s : ShiftState) (i : Nat) (tx : ShiftTransaction) : ShiftState :=
  s.put i { tx with pc := .done, updates := [] }

/-- What a SELECT of the rounds returns. -/
def view (s : ShiftState) (tx : ShiftTransaction) : List Round := s.rounds.map (withUpdates tx.updates)

/-- Another open transaction has written the row. -/
def Locked (s : ShiftState) (i number : Nat) : Prop :=
  ∃ j < s.transactions.length, j ≠ i ∧
    ∃ tx ∈ s.transactions[j]?, number ∈ tx.updates.map (·.number)

instance (s : ShiftState) (i number : Nat) : Decidable (s.Locked i number) :=
  inferInstanceAs (Decidable (∃ j < s.transactions.length, j ≠ i ∧
    ∃ tx ∈ s.transactions[j]?, number ∈ tx.updates.map (·.number)))

/-- One statement of the `i`-th transaction. -/
def goOn (s : ShiftState) (i : Nat) (tx : ShiftTransaction) : ShiftState :=
  match tx.pc with
  | .selectRounds extraSeconds =>
    if extraSeconds ≤ 0 then s.reject i tx
    else
      match getCurrentPhase preconnectDefault (s.view tx) tx.now with
      | ⟨.inRound, some activeRound, _⟩ =>
        s.put i { tx with pc := .updateTarget activeRound (seconds extraSeconds) }
      | _ => s.reject i tx
  | .selectLog =>
    match OperatorState.lastLog ⟨s.rounds, s.logs⟩ with
    | none => s.reject i tx
    | some lastLog =>
      if lastLog.action ≠ .pause then s.reject i tx
      else s.put i { tx with pc := .selectRound lastLog, lastLog := some lastLog }
  | .selectRound lastLog =>
    match lastLog.round.bind fun number => (s.view tx).find? (·.number = number) with
    | none => s.reject i tx
    | some activeRound =>
      s.put i { tx with pc := .updateTarget activeRound (timeShift tx.now lastLog.details.pausedAt) }
  | .updateTarget target shift =>
    if s.Locked i target.number then s
    else
      s.put i { tx with
        pc := .selectLater target.number (target.endsAt + shift) shift
        updates := ⟨target.number, none, target.endsAt + shift⟩ :: tx.updates }
  | .selectLater number endsAt shift =>
    let later := ((s.view tx).filter (number < ·.number)).insertionSort fun r r' => r.number ≤ r'.number
    s.put i { tx with pc := .updateLater number endsAt shift later }
  | .updateLater number endsAt shift [] => s.put i { tx with pc := .insertLog number endsAt shift }
  | .updateLater number endsAt shift (r :: later) =>
    if s.Locked i r.number then s
    else
      s.put i { tx with
        pc := .updateLater number endsAt shift later
        updates := ⟨r.number, some (r.startsAt + shift), r.endsAt + shift⟩ :: tx.updates }
  | .insertLog number endsAt shift => s.put i { tx with pc := .commit number endsAt shift }
  | .commit number endsAt shift =>
    let committed : ShiftState :=
      { s with
        rounds := s.rounds.map (withUpdates tx.updates)
        logs := s.logs ++ [tx.log number endsAt shift]
        accepted := s.accepted ++ [⟨number, shift, tx.lastLog⟩] }
    committed.put i { tx with pc := .done, updates := [] }
  | .done => s

def step (s : ShiftState) : ShiftAction → ShiftState
  | .pass now => { s with clock := max s.clock now }
  | .begin call => { s with transactions := s.transactions ++ [.begin call s.clock] }
  | .go i fails =>
    match s.transactions[i]? with
    | none => s
    | some tx => if fails then s.reject i tx else s.goOn i tx

end ShiftState

/-! ## What must not be lost -/

def totalShift (accepted : List AcceptedShift) (reaches : AcceptedShift → Bool) : Int :=
  ((accepted.filter reaches).map (·.shift)).sum

/-- The target of an action ends later, and the rounds after it move as a whole. -/
def shiftedBy (accepted : List AcceptedShift) (r : Round) : Round :=
  { r with
    startsAt := r.startsAt + totalShift accepted fun a => a.target < r.number
    endsAt := r.endsAt + totalShift accepted fun a => a.target ≤ r.number }

/-- The times are the initial ones and all the accepted shifts, and no pause has been
    resumed twice. -/
structure NoLostShift (initial : List Round) (s : ShiftState) : Prop where
  times : s.rounds = initial.map (shiftedBy s.accepted)
  pauses : (s.accepted.filterMap (·.lastLog)).Nodup

/-! ## The condition -/

def ShiftTransaction.Open (tx : ShiftTransaction) : Prop := tx.pc ≠ .done

/-- The next statement does not rest on a row that has changed since it was read, and a
    pause is not read while another open transaction has read one. -/
def Careful (s : ShiftState) (i : Nat) : ShiftPc → Prop
  | .selectLog => (∃ log ∈ OperatorState.lastLog ⟨s.rounds, s.logs⟩, log.action = .pause) →
      ∀ other ∈ s.transactions, other.Open → other.lastLog = none
  | .updateTarget target _ => s.Locked i target.number ∨
      ∀ r ∈ s.rounds, r.number = target.number → r.endsAt = target.endsAt
  | .updateLater _ _ _ (later :: _) => s.Locked i later.number ∨
      ∀ r ∈ s.rounds, r.number = later.number → r = later
  | _ => True

def CarefulStep (s : ShiftState) : ShiftAction → Prop
  | .go i false => ∀ tx ∈ s.transactions[i]?, Careful s i tx.pc
  | _ => True

/-! ## The invariant -/

variable {start : Int} {initial : List Round} {s : ShiftState} {i number : Nat} {shift endsAt : Int}
  {tx old new : ShiftTransaction} {updates : List RoundUpdate} {rounds : List Round} {r : Round}

/-- What a transaction has written is what its shift makes of the committed rows. -/
structure Moves (rounds : List Round) (updates : List RoundUpdate) (number : Nat) (shift : Int) : Prop where
  reach : ∀ update ∈ updates, number ≤ update.number
  moved : ∀ update ∈ updates, ∀ r ∈ rounds, r.number = update.number →
    update.apply r = shiftRound number shift r

/-- Every round that the shift reaches is written, or still to be written. -/
def Covers (rounds : List Round) (updates : List RoundUpdate) (number : Nat) (later : List Round) : Prop :=
  ∀ r ∈ rounds, number ≤ r.number → r.number ∈ updates.map (·.number) ∨ r.number ∈ later.map (·.number)

/-- How far a transaction has come. -/
def Progress (rounds : List Round) (tx : ShiftTransaction) : Prop :=
  match tx.pc with
  | .selectRounds _ | .selectLog | .selectRound _ | .updateTarget _ _ | .done => tx.updates = []
  | .selectLater number _ shift => Moves rounds tx.updates number shift ∧ number ∈ tx.updates.map (·.number)
  | .updateLater number _ shift later => Moves rounds tx.updates number shift ∧
      Covers rounds tx.updates number later ∧ ∀ r ∈ later, number < r.number
  | .insertLog number _ shift | .commit number _ shift => Moves rounds tx.updates number shift ∧
      Covers rounds tx.updates number []

/-- No two transactions have written the same row. -/
def Exclusive (transactions : List ShiftTransaction) : Prop :=
  ∀ (i j : Nat) (tx other : ShiftTransaction), transactions[i]? = some tx → transactions[j]? = some other → i ≠ j →
    ∀ update ∈ tx.updates, update.number ∉ other.updates.map (·.number)

/-- At most one transaction is on its way with a pause, and none once one is accepted. -/
structure SinglePause (s : ShiftState) : Prop where
  reader : ∀ (i j : Nat) (tx other : ShiftTransaction), s.transactions[i]? = some tx → s.transactions[j]? = some other → tx.Open →
    other.Open → tx.lastLog ≠ none → other.lastLog ≠ none → i = j
  gone : s.accepted.filterMap (·.lastLog) ≠ [] → ∀ tx ∈ s.transactions, tx.Open → tx.lastLog = none
  accepted : (s.accepted.filterMap (·.lastLog)).length ≤ 1

/-- The rows of the log: a pause is older than every transaction. -/
structure Logged (start : Int) (s : ShiftState) : Prop where
  clock : start ≤ s.clock
  began : ∀ tx ∈ s.transactions, start ≤ tx.now
  pauses : ∀ log ∈ s.logs, log.action = .pause → log.performedAt < start
  accepted : s.accepted ≠ [] → ∃ log ∈ s.logs, start ≤ log.performedAt

structure NoRace (start : Int) (initial : List Round) (s : ShiftState) : Prop where
  times : s.rounds = initial.map (shiftedBy s.accepted)
  progress : ∀ tx ∈ s.transactions, Progress s.rounds tx
  exclusive : Exclusive s.transactions
  pause : SinglePause s
  logged : Logged start s

/-! ## Rows -/

theorem Moves.nil : Moves rounds [] number shift := ⟨by simp, by simp⟩

/-- Together the writes of a transaction are its shift. -/
theorem Moves.withUpdates (moves : Moves rounds updates number shift)
    (covers : Covers rounds updates number []) (member : r ∈ rounds) :
    Operator.withUpdates updates r = shiftRound number shift r := by
  simp only [Operator.withUpdates]
  cases found : updates.find? (·.number = r.number) with
  | some update =>
    have same : update.number = r.number := by simpa using List.find?_some found
    exact moves.moved update (List.mem_of_find?_eq_some found) r member same.symm
  | none =>
    -- a row that is not written lies before the target
    have before : r.number < number := by
      by_contra reached
      rcases covers r member (not_lt.mp reached) with written | later
      · obtain ⟨update, inUpdates, same⟩ := List.mem_map.mp written
        have missed := List.find?_eq_none.mp found update inUpdates
        simp [same] at missed
      · cases later
    simp only [shiftRound]
    rw [if_neg (by omega), if_neg (by omega)]

theorem totalShift_concat (accepted : List AcceptedShift) (a : AcceptedShift) (reaches : AcceptedShift → Bool) :
    totalShift (accepted ++ [a]) reaches = totalShift accepted reaches + if reaches a then a.shift else 0 := by
  simp only [totalShift, List.filter_append, List.map_append, List.sum_append]
  cases reached : reaches a <;> simp [reached]

theorem shiftRound_shiftedBy (accepted : List AcceptedShift) (a : AcceptedShift) (r : Round) :
    shiftRound a.target a.shift (shiftedBy accepted r) = shiftedBy (accepted ++ [a]) r := by
  simp only [shiftedBy, totalShift_concat, shiftRound]
  rcases lt_trichotomy a.target r.number with before | same | after
  · simp [before, before.le, before.ne', add_assoc]
  · simp [same, add_assoc]
  · simp [after.ne, not_lt.mpr after.le, not_le.mpr after]

/-! ## Steps of one transaction -/

theorem ShiftState.not_locked {j : Nat} {other : ShiftTransaction} (free : ¬ s.Locked i number)
    (there : s.transactions[j]? = some other) (apart : j ≠ i) : number ∉ other.updates.map (·.number) := by
  intro written
  exact free ⟨j, (List.getElem?_eq_some_iff.mp there).1, apart, other, there, written⟩

theorem Exclusive.set (exclusive : Exclusive s.transactions) (here : s.transactions[i]? = some old)
    (writes : ∀ update ∈ new.updates,
      update.number ∈ old.updates.map (·.number) ∨ ¬ s.Locked i update.number) :
    Exclusive (s.transactions.set i new) := by
  -- what the other transactions have written is apart from what this one writes
  have apart : ∀ (j : Nat) (other : ShiftTransaction), s.transactions[j]? = some other → j ≠ i →
      ∀ update ∈ new.updates, update.number ∉ other.updates.map (·.number) := by
    intro j other there different update member
    rcases writes update member with written | free
    · obtain ⟨earlier, inOld, same⟩ := List.mem_map.mp written
      rw [← same]
      exact exclusive i j old other here there different.symm earlier inOld
    · exact ShiftState.not_locked free there different
  intro j k tx other there there' different update member written
  rcases getElem?_of_set there with ⟨rfl, rfl⟩ | ⟨first, found⟩ <;>
  rcases getElem?_of_set there' with ⟨rfl, rfl⟩ | ⟨second, found'⟩
  · exact different rfl
  · exact apart k other found' second update member written
  · obtain ⟨mine, inNew, same⟩ := List.mem_map.mp written
    exact apart j tx found first mine inNew (same ▸ List.mem_map_of_mem member)
  · exact exclusive j k tx other found found' different update member written

/-- A transaction that has found a pause had found it before, or is the first. -/
def Reads (s : ShiftState) (old new : ShiftTransaction) : Prop :=
  new.Open → new.lastLog ≠ none → (old.Open ∧ old.lastLog ≠ none) ∨
    ((∀ other ∈ s.transactions, other.Open → other.lastLog = none) ∧
      s.accepted.filterMap (·.lastLog) = [])

theorem SinglePause.put (pause : SinglePause s) (here : s.transactions[i]? = some old)
    (reads : Reads s old new) : SinglePause (s.put i new) := by
  have mine : ∀ (j : Nat) (other : ShiftTransaction), s.transactions[j]? = some other → other.Open →
      other.lastLog ≠ none → new.Open → new.lastLog ≠ none → j = i := by
    intro j other there open_ found newOpen newFound
    rcases reads newOpen newFound with ⟨oldOpen, oldFound⟩ | ⟨nobody, _⟩
    · exact pause.reader j i other old there here open_ oldOpen found oldFound
    · exact absurd (nobody other (List.mem_of_getElem? there) open_) found
  refine ⟨fun j k tx other set set' open_ open_' found found' => ?_, fun some_ tx member open_ => ?_,
    pause.accepted⟩
  · rcases getElem?_of_set set with ⟨rfl, rfl⟩ | ⟨_, there⟩ <;>
    rcases getElem?_of_set set' with ⟨rfl, rfl⟩ | ⟨_, there'⟩
    · rfl
    · exact (mine k other there' open_' found' open_ found).symm
    · exact mine j tx there open_ found open_' found'
    · exact pause.reader j k tx other there there' open_ open_' found found'
  · rcases List.mem_or_eq_of_mem_set member with old_ | rfl
    · exact pause.gone some_ tx old_ open_
    · by_contra found
      rcases reads open_ found with ⟨oldOpen, oldFound⟩ | ⟨_, none_⟩
      · exact oldFound (pause.gone some_ old (List.mem_of_getElem? here) oldOpen)
      · exact some_ none_

theorem Logged.put (logged : Logged start s) (member : old ∈ s.transactions) (now : new.now = old.now) :
    Logged start (s.put i new) := by
  refine ⟨logged.clock, fun tx inside => ?_, logged.pauses, logged.accepted⟩
  rcases List.mem_or_eq_of_mem_set inside with old_ | rfl
  · exact logged.began tx old_
  · rw [now]
    exact logged.began old member

theorem NoRace.put (race : NoRace start initial s) (here : s.transactions[i]? = some old)
    (progress : Progress s.rounds new) (writes : ∀ update ∈ new.updates,
      update.number ∈ old.updates.map (·.number) ∨ ¬ s.Locked i update.number)
    (now : new.now = old.now) (reads : Reads s old new) : NoRace start initial (s.put i new) := by
  refine ⟨race.times, fun tx inside => ?_, race.exclusive.set here writes, race.pause.put here reads,
    race.logged.put (List.mem_of_getElem? here) now⟩
  rcases List.mem_or_eq_of_mem_set inside with old_ | rfl
  · exact race.progress tx old_
  · exact progress

/-- A statement that writes no row and looks for no pause. -/
theorem NoRace.goto (race : NoRace start initial s) (here : s.transactions[i]? = some tx) {pc : ShiftPc}
    (open_ : tx.Open) (progress : Progress s.rounds { tx with pc := pc }) :
    NoRace start initial (s.put i { tx with pc := pc }) :=
  race.put here progress (fun _ member => .inl (List.mem_map_of_mem member)) rfl
    fun _ found => .inl ⟨open_, found⟩

theorem NoRace.reject (race : NoRace start initial s) (here : s.transactions[i]? = some tx) :
    NoRace start initial (s.reject i tx) :=
  race.put here rfl (fun _ member => (by cases member)) rfl fun open_ => absurd rfl open_

/-! ## Statements -/

@[simp] theorem withUpdates_number (updates : List RoundUpdate) (r : Round) :
    (withUpdates updates r).number = r.number := by
  simp only [withUpdates]
  split <;> rfl

theorem mem_view_number (tx : ShiftTransaction) (member : r ∈ s.rounds) :
    ∃ seen ∈ s.view tx, seen.number = r.number :=
  ⟨_, List.mem_map_of_mem member, withUpdates_number _ r⟩

/-- Once something is accepted, the newest row of the log is no pause. -/
theorem Logged.lastLog (logged : Logged start s) {log : OperatorActionLog}
    (newest : OperatorState.lastLog ⟨s.rounds, s.logs⟩ = some log) (isPause : log.action = .pause) :
    s.accepted = [] := by
  by_contra some_
  obtain ⟨later, member, recent⟩ := logged.accepted some_
  have old : log.performedAt < start := logged.pauses log (firstLeast_mem _ newest) isPause
  have asymmetric : ∀ a b : OperatorActionLog, b.performedAt < a.performedAt → ¬ a.performedAt < b.performedAt :=
    fun _ _ newer => not_lt.mpr newer.le
  have transitive : ∀ a b c : OperatorActionLog, ¬ b.performedAt < a.performedAt →
      ¬ c.performedAt < b.performedAt → ¬ c.performedAt < a.performedAt :=
    by
    intro a b c ab bc
    omega
  have unbeaten : ¬ log.performedAt < later.performedAt :=
    firstLeast_not_beaten _ asymmetric transitive newest later member
  omega

theorem NoRace.selectLog (race : NoRace start initial s) (here : s.transactions[i]? = some tx)
    (pc : tx.pc = .selectLog) (careful : Careful s i tx.pc) : NoRace start initial (s.goOn i tx) := by
  have unwritten : tx.updates = [] := by
    simpa only [Progress, pc] using race.progress tx (List.mem_of_getElem? here)
  simp only [Careful, pc] at careful
  simp only [ShiftState.goOn, pc]
  cases newest : OperatorState.lastLog ⟨s.rounds, s.logs⟩ with
  | none => exact race.reject here
  | some log =>
    simp only
    by_cases isPause : log.action = .pause
    · rw [if_neg (not_not.mpr isPause)]
      have nobody := careful ⟨log, newest, isPause⟩
      have first := race.logged.lastLog newest isPause
      exact race.put here unwritten (fun _ member => .inl (List.mem_map_of_mem member)) rfl
        fun _ _ => .inr ⟨nobody, by rw [first]; rfl⟩
    · rw [if_pos isPause]
      exact race.reject here

theorem NoRace.updateTarget (race : NoRace start initial s) (here : s.transactions[i]? = some tx)
    {target : Round} (pc : tx.pc = .updateTarget target shift) (careful : Careful s i tx.pc) :
    NoRace start initial (s.goOn i tx) := by
  have unwritten : tx.updates = [] := by
    simpa only [Progress, pc] using race.progress tx (List.mem_of_getElem? here)
  simp only [Careful, pc] at careful
  simp only [ShiftState.goOn, pc]
  by_cases locked : s.Locked i target.number
  · rw [if_pos locked]
    exact race
  · rw [if_neg locked]
    have current := careful.resolve_left locked
    refine race.put here ?_ ?_ rfl fun _ found => .inl ⟨by simp [ShiftTransaction.Open, pc], found⟩
    · refine ⟨⟨by simp [unwritten], fun update member r inRounds same => ?_⟩, by simp⟩
      simp only [unwritten, List.mem_singleton] at member
      rw [member] at same ⊢
      -- the end that was read is still the committed one
      simp only [RoundUpdate.apply, shiftRound, same, if_pos, Option.getD_none, current r inRounds same]
    · intro update member
      simp only [unwritten, List.mem_singleton] at member
      rw [member]
      exact .inr locked

theorem NoRace.selectLater (race : NoRace start initial s) (here : s.transactions[i]? = some tx)
    (pc : tx.pc = .selectLater number endsAt shift) : NoRace start initial (s.goOn i tx) := by
  have progress := race.progress tx (List.mem_of_getElem? here)
  simp only [Progress, pc] at progress
  obtain ⟨moves, target⟩ := progress
  simp only [ShiftState.goOn, pc]
  refine race.goto here (by simp [ShiftTransaction.Open, pc]) ⟨moves, fun r member reached => ?_, ?_⟩
  · rcases reached.eq_or_lt with rfl | beyond
    · exact .inl target
    · obtain ⟨seen, inView, same⟩ := mem_view_number tx member
      refine .inr (List.mem_map.mpr ⟨seen, ?_, same⟩)
      simp only [List.mem_insertionSort, List.mem_filter, decide_eq_true_eq]
      exact ⟨inView, same ▸ beyond⟩
  · intro r member
    simp only [List.mem_insertionSort, List.mem_filter, decide_eq_true_eq] at member
    exact member.2

theorem NoRace.updateLater (race : NoRace start initial s) (here : s.transactions[i]? = some tx)
    {later : List Round} (pc : tx.pc = .updateLater number endsAt shift later) (careful : Careful s i tx.pc) :
    NoRace start initial (s.goOn i tx) := by
  have progress := race.progress tx (List.mem_of_getElem? here)
  simp only [Progress, pc] at progress
  obtain ⟨moves, covers, beyond⟩ := progress
  have open_ : tx.Open := by simp [ShiftTransaction.Open, pc]
  cases later with
  | nil =>
    simp only [ShiftState.goOn, pc]
    exact race.goto here open_ ⟨moves, covers⟩
  | cons next later =>
    simp only [Careful, pc] at careful
    simp only [ShiftState.goOn, pc]
    by_cases locked : s.Locked i next.number
    · rw [if_pos locked]
      exact race
    · rw [if_neg locked]
      -- nobody else has written the row since it was selected
      have current := careful.resolve_left locked
      have after : number < next.number := beyond next List.mem_cons_self
      refine race.put here ⟨⟨?_, ?_⟩, ?_, ?_⟩ ?_ rfl fun _ found => .inl ⟨open_, found⟩
      · exact List.forall_mem_cons.mpr ⟨after.le, moves.reach⟩
      · refine List.forall_mem_cons.mpr ⟨fun r inRounds same => ?_, moves.moved⟩
        rw [current r inRounds same]
        simp only [RoundUpdate.apply, shiftRound, Option.getD_some]
        rw [if_neg after.ne', if_pos after]
      · intro r inRounds reached
        rcases covers r inRounds reached with written | waiting
        · exact .inl (List.mem_cons_of_mem _ written)
        · rcases List.mem_cons.mp waiting with same | waiting
          · exact .inl (List.mem_cons.mpr (.inl same))
          · exact .inr waiting
      · exact fun r member => beyond r (List.mem_cons_of_mem _ member)
      · refine List.forall_mem_cons.mpr ⟨.inr locked, fun update member => ?_⟩
        exact .inl (List.mem_map_of_mem member)

/-! ## Commits -/

/-- A commit leaves the rows alone that another transaction has written. -/
theorem Progress.commit {other : ShiftTransaction} (progress : Progress rounds other)
    (apart : ∀ update ∈ other.updates, update.number ∉ updates.map (·.number)) :
    Progress (rounds.map (withUpdates updates)) other := by
  have moves : ∀ {number shift}, Moves rounds other.updates number shift →
      Moves (rounds.map (withUpdates updates)) other.updates number shift := by
    intro number shift moves
    refine ⟨moves.reach, fun update member r inRounds same => ?_⟩
    obtain ⟨before, inBefore, rfl⟩ := List.mem_map.mp inRounds
    rw [withUpdates_number] at same
    -- the rows that the other transaction has written are not among these
    have kept : withUpdates updates before = before := by
      simp only [withUpdates]
      cases found : updates.find? (·.number = before.number) with
      | none => rfl
      | some written =>
        have hit : written.number = before.number := by simpa using List.find?_some found
        exact absurd (List.mem_map.mpr ⟨written, List.mem_of_find?_eq_some found, hit.trans same⟩)
          (apart update member)
    rw [kept]
    exact moves.moved update member before inBefore same
  have covers : ∀ {number later}, Covers rounds other.updates number later →
      Covers (rounds.map (withUpdates updates)) other.updates number later := by
    intro number later covers r inRounds reached
    obtain ⟨before, inBefore, rfl⟩ := List.mem_map.mp inRounds
    rw [withUpdates_number] at reached ⊢
    exact covers before inBefore reached
  revert progress
  simp only [Progress]
  split <;> intro progress
  all_goals first
    | exact progress
    | exact ⟨moves progress.1, progress.2⟩
    | exact ⟨moves progress.1, covers progress.2.1, progress.2.2⟩
    | exact ⟨moves progress.1, covers progress.2⟩

theorem ShiftTransaction.log_action (tx : ShiftTransaction) (number : Nat) (endsAt shift : Int) :
    (tx.log number endsAt shift).action ≠ .pause := by
  simp only [ShiftTransaction.log]
  split <;> simp

theorem ShiftTransaction.log_performedAt (tx : ShiftTransaction) (number : Nat) (endsAt shift : Int) :
    (tx.log number endsAt shift).performedAt = tx.now := by
  simp only [ShiftTransaction.log]
  split <;> rfl

/-- The accepted pauses of a state, after one more action. -/
theorem pauses_concat (accepted : List AcceptedShift) (a : AcceptedShift) :
    (accepted ++ [a]).filterMap (·.lastLog) = accepted.filterMap (·.lastLog) ++ a.lastLog.toList := by
  rw [List.filterMap_append]
  cases found : a.lastLog <;> simp [found]

/-- A commit takes its pause with it. -/
theorem SinglePause.commit (pause : SinglePause s) (here : s.transactions[i]? = some tx) (open_ : tx.Open)
    {a : AcceptedShift} (same : a.lastLog = tx.lastLog) {rounds : List Round} {logs : List OperatorActionLog} :
    SinglePause (ShiftState.put { s with rounds := rounds, logs := logs, accepted := s.accepted ++ [a] } i
      { tx with pc := .done, updates := [] }) := by
  refine ⟨fun j k first second there there' firstOpen secondOpen => ?_,
    fun some_ other inside otherOpen => ?_, ?_⟩
  · rcases getElem?_of_set there with ⟨_, rfl⟩ | ⟨_, there⟩
    · exact absurd rfl firstOpen
    rcases getElem?_of_set there' with ⟨_, rfl⟩ | ⟨_, there'⟩
    · exact absurd rfl secondOpen
    exact pause.reader j k first second there there' firstOpen secondOpen
  · obtain ⟨j, there⟩ := List.mem_iff_getElem?.mp inside
    rcases getElem?_of_set there with ⟨_, rfl⟩ | ⟨different, there⟩
    · exact absurd rfl otherOpen
    -- who commits without a pause leaves the open pauses as they are
    by_cases found : tx.lastLog = none
    · refine pause.gone (fun none_ => some_ ?_) other (List.mem_of_getElem? there) otherOpen
      simp only [ShiftState.put, pauses_concat, same, found, none_]
      rfl
    · by_contra otherFound
      exact different (pause.reader j i other tx there here otherOpen open_ otherFound found)
  · simp only [ShiftState.put, pauses_concat, same, List.length_append]
    by_cases found : tx.lastLog = none
    · simpa [found] using pause.accepted
    · -- the pause was still open, so none was accepted before
      have none_ : s.accepted.filterMap (·.lastLog) = [] := by
        by_contra some_
        exact found (pause.gone some_ tx (List.mem_of_getElem? here) open_)
      rw [none_]
      cases tx.lastLog <;> simp

/-- The committed rows are those of the state before, shifted. -/
theorem NoRace.commit (race : NoRace start initial s) (here : s.transactions[i]? = some tx)
    (pc : tx.pc = .commit number endsAt shift) : NoRace start initial (s.goOn i tx) := by
  have member := List.mem_of_getElem? here
  have progress := race.progress tx member
  simp only [Progress, pc] at progress
  obtain ⟨moves, covers⟩ := progress
  simp only [ShiftState.goOn, pc]
  refine ⟨?_, fun other inside => ?_, ?_,
    race.pause.commit here (by simp [ShiftTransaction.Open, pc]) rfl, ?_⟩
  -- every row that the shift concerns has been written, each with its shifted times
  · calc s.rounds.map (withUpdates tx.updates) = s.rounds.map (shiftRound number shift) :=
        List.map_congr_left fun r inRounds => moves.withUpdates covers inRounds
      _ = initial.map (fun r => shiftRound number shift (shiftedBy s.accepted r)) := by
        rw [race.times, List.map_map]
        rfl
      _ = initial.map (shiftedBy (s.accepted ++ [⟨number, shift, tx.lastLog⟩])) :=
        List.map_congr_left fun r _ => shiftRound_shiftedBy s.accepted ⟨number, shift, tx.lastLog⟩ r
  · obtain ⟨j, there⟩ := List.mem_iff_getElem?.mp inside
    rcases getElem?_of_set there with ⟨_, rfl⟩ | ⟨different, there⟩
    · rfl
    · refine (race.progress other (List.mem_of_getElem? there)).commit fun update written mine => ?_
      exact race.exclusive j i other tx there here different update written mine
  · exact race.exclusive.set here fun _ none_ => by cases none_
  · refine ⟨race.logged.clock, fun other inside => ?_, fun log inside isPause => ?_, fun _ => ?_⟩
    · rcases List.mem_or_eq_of_mem_set inside with old_ | rfl
      · exact race.logged.began other old_
      · exact race.logged.began tx member
    · rcases List.mem_append.mp inside with old_ | new_
      · exact race.logged.pauses log old_ isPause
      · rw [List.mem_singleton.mp new_] at isPause
        exact absurd isPause (tx.log_action number endsAt shift)
    · refine ⟨tx.log number endsAt shift, List.mem_append_right _ (List.mem_singleton_self _), ?_⟩
      rw [tx.log_performedAt]
      exact race.logged.began tx member

/-! ## Runs -/

theorem NoRace.goOn (race : NoRace start initial s) (here : s.transactions[i]? = some tx)
    (careful : Careful s i tx.pc) : NoRace start initial (s.goOn i tx) := by
  have progress := race.progress tx (List.mem_of_getElem? here)
  cases pc : tx.pc with
  | selectRounds extraSeconds =>
    simp only [Progress, pc] at progress
    have open_ : tx.Open := by simp [ShiftTransaction.Open, pc]
    simp only [ShiftState.goOn, pc]
    split
    · exact race.reject here
    · split
      · exact race.goto here open_ progress
      · exact race.reject here
  | selectLog => exact race.selectLog here pc careful
  | selectRound log =>
    simp only [Progress, pc] at progress
    simp only [ShiftState.goOn, pc]
    split
    · exact race.reject here
    · exact race.goto here (by simp [ShiftTransaction.Open, pc]) progress
  | updateTarget target shift => exact race.updateTarget here pc careful
  | selectLater number endsAt shift => exact race.selectLater here pc
  | updateLater number endsAt shift later => exact race.updateLater here pc careful
  | insertLog number endsAt shift =>
    simp only [Progress, pc] at progress
    simp only [ShiftState.goOn, pc]
    exact race.goto here (by simp [ShiftTransaction.Open, pc]) progress
  | commit number endsAt shift => exact race.commit here pc
  | done =>
    simp only [ShiftState.goOn, pc]
    exact race

/-- A new transaction has written nothing and found nothing. -/
theorem NoRace.begin (race : NoRace start initial s) (call : ShiftCall) :
    NoRace start initial (s.step (.begin call)) := by
  have fresh : (ShiftTransaction.begin call s.clock).updates = [] ∧
      (ShiftTransaction.begin call s.clock).lastLog = none ∧
      (ShiftTransaction.begin call s.clock).now = s.clock ∧
      Progress s.rounds (.begin call s.clock) := by
    cases call <;> exact ⟨rfl, rfl, rfl, rfl⟩
  obtain ⟨unwritten, unread, now, progress⟩ := fresh
  -- the transactions there are the old ones, at their old places, and the new one
  have which : ∀ (j : Nat) (tx : ShiftTransaction), (s.step (.begin call)).transactions[j]? = some tx →
      s.transactions[j]? = some tx ∨ tx = .begin call s.clock := by
    intro j tx there
    simp only [ShiftState.step, List.getElem?_append] at there
    split at there
    · exact .inl there
    · exact .inr (List.mem_singleton.mp (List.mem_of_getElem? there))
  have one : ∀ tx ∈ (s.step (.begin call)).transactions, tx ∈ s.transactions ∨ tx = .begin call s.clock := by
    intro tx inside
    obtain ⟨j, there⟩ := List.mem_iff_getElem?.mp inside
    exact (which j tx there).imp_left List.mem_of_getElem?
  refine ⟨race.times, fun tx inside => ?_, fun j k tx other there there' different update written => ?_,
    ⟨fun j k tx other there there' open_ open_' found found' => ?_, fun some_ tx inside open_ => ?_,
      race.pause.accepted⟩,
    ⟨race.logged.clock, fun tx inside => ?_, race.logged.pauses, race.logged.accepted⟩⟩
  · rcases one tx inside with old_ | rfl
    · exact race.progress tx old_
    · exact progress
  · rcases which j tx there with there | rfl
    · rcases which k other there' with there' | rfl
      · exact race.exclusive j k tx other there there' different update written
      · simp [unwritten]
    · rw [unwritten] at written
      cases written
  · rcases which j tx there with there | rfl
    · rcases which k other there' with there' | rfl
      · exact race.pause.reader j k tx other there there' open_ open_' found found'
      · exact absurd unread found'
    · exact absurd unread found
  · rcases one tx inside with old_ | rfl
    · exact race.pause.gone some_ tx old_ open_
    · exact unread
  · rcases one tx inside with old_ | rfl
    · exact race.logged.began tx old_
    · rw [now]
      exact race.logged.clock

theorem NoRace.step (race : NoRace start initial s) (action : ShiftAction) (careful : CarefulStep s action) :
    NoRace start initial (s.step action) := by
  cases action with
  | pass now =>
    exact ⟨race.times, race.progress, race.exclusive,
      ⟨race.pause.reader, race.pause.gone, race.pause.accepted⟩,
      ⟨le_trans race.logged.clock (le_max_left _ _), race.logged.began, race.logged.pauses, race.logged.accepted⟩⟩
  | begin call => exact race.begin call
  | go i fails =>
    simp only [ShiftState.step]
    cases here : s.transactions[i]? with
    | none => exact race
    | some tx =>
      cases fails with
      | true => exact race.reject here
      | false => exact race.goOn here (careful tx here)

theorem noRace_start (start : Int) (st : OperatorState)
    (past : ∀ log ∈ st.logs, log.performedAt < start) : NoRace start st.rounds (.start start st) := by
  refine ⟨?_, by simp [ShiftState.start], ?_, ⟨?_, ?_, ?_⟩, ⟨le_refl start, ?_, ?_, ?_⟩⟩
  · have same : shiftedBy [] = id := by
      funext r
      simp [shiftedBy, totalShift]
    simp [ShiftState.start, same]
  · intro j k tx other there
    simp [ShiftState.start] at there
  · intro j k tx other there
    simp [ShiftState.start] at there
  · simp [ShiftState.start]
  · simp [ShiftState.start]
  · simp [ShiftState.start]
  · exact fun log member _ => past log member
  · simp [ShiftState.start]

theorem NoRace.noLostShift (race : NoRace start initial s) : NoLostShift initial s := by
  refine ⟨race.times, ?_⟩
  have few := race.pause.accepted
  generalize s.accepted.filterMap (·.lastLog) = pauses at few ⊢
  cases pauses with
  | nil => exact List.nodup_nil
  | cons pause pauses =>
    cases pauses with
    | nil => exact List.nodup_singleton pause
    | cons _ _ => simp at few

/-- No shift is lost while no statement rests on a row that has changed since it was read,
    and no pause is read twice at a time. -/
theorem shifts_are_kept (start : Int) (st : OperatorState) (past : ∀ log ∈ st.logs, log.performedAt < start)
    (actions : List ShiftAction)
    (careful : ∀ v ∈ visited ShiftState.step (.start start st) actions, CarefulStep v.1 v.2) :
    NoLostShift st.rounds (actions.foldl ShiftState.step (.start start st)) := by
  have race : NoRace start st.rounds (actions.foldl ShiftState.step (.start start st)) :=
    foldl_invariant (fun _ action race careful => race.step action careful) (noRace_start start st past) careful
  exact race.noLostShift

/-! ## Two extensions at a time -/

instance (tx : ShiftTransaction) : Decidable tx.Open := inferInstanceAs (Decidable (_ ≠ _))

instance decidableCareful (s : ShiftState) (i : Nat) : (pc : ShiftPc) → Decidable (Careful s i pc)
  | .selectLog => inferInstanceAs (Decidable ((∃ _ ∈ _, _) → ∀ _ ∈ _, _ → _))
  | .updateTarget _ _ => inferInstanceAs (Decidable (_ ∨ ∀ _ ∈ _, _ → _))
  | .updateLater _ _ _ (_ :: _) => inferInstanceAs (Decidable (_ ∨ ∀ _ ∈ _, _ → _))
  | .updateLater _ _ _ [] | .selectRounds _ | .selectRound _ | .selectLater _ _ _ | .insertLog _ _ _
  | .commit _ _ _ | .done => .isTrue trivial

instance decidableCarefulStep (s : ShiftState) : (action : ShiftAction) → Decidable (CarefulStep s action)
  | .go i false => inferInstanceAs (Decidable (∀ tx ∈ s.transactions[i]?, Careful s i tx.pc))
  | .go _ true | .pass _ | .begin _ => .isTrue trivial

/-- One minute into the first of two rounds. -/
def runningRound : ShiftState :=
  .start (twoRoundEvent.startTime + seconds 60) ⟨plannedRounds twoRoundEvent twoRoundEvent.startTime, []⟩

/-- The statements of one transaction, as many as they are for a target with one round after it. -/
def statements (i : Nat) : List ShiftAction := List.replicate 7 (.go i false)

/-- One extension after the other. -/
def extendTwice : List ShiftAction := [.begin (.extend 30)] ++ statements 0 ++ [.begin (.extend 60)] ++ statements 1

theorem extend_twice_keeps_both : NoLostShift (plannedRounds twoRoundEvent twoRoundEvent.startTime)
    (extendTwice.foldl ShiftState.step runningRound) :=
  shifts_are_kept (twoRoundEvent.startTime + seconds 60)
    ⟨plannedRounds twoRoundEvent twoRoundEvent.startTime, []⟩ (by simp) extendTwice (by decide +kernel)

/-- Both have read the rounds before either of them writes. -/
def extendTogether : List ShiftAction :=
  [.begin (.extend 30), .begin (.extend 60), .go 0 false, .go 1 false] ++ statements 0 ++ statements 1

/-- Both extensions commit, and one of them is lost. -/
theorem extend_together_loses_one :
    (∀ tx ∈ (extendTogether.foldl ShiftState.step runningRound).transactions, tx.pc = .done) ∧
    (extendTogether.foldl ShiftState.step runningRound).accepted.length = 2 ∧
    ¬ NoLostShift (plannedRounds twoRoundEvent twoRoundEvent.startTime)
      (extendTogether.foldl ShiftState.step runningRound) := by
  refine ⟨by decide +kernel, by decide +kernel, fun kept => ?_⟩
  have lost : (extendTogether.foldl ShiftState.step runningRound).rounds ≠
      (plannedRounds twoRoundEvent twoRoundEvent.startTime).map
        (shiftedBy (extendTogether.foldl ShiftState.step runningRound).accepted) := by decide +kernel
  exact lost kept.times

end EventPlatform.Operator
