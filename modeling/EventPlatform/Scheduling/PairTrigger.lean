import EventPlatform.Lib.Overlay
import EventPlatform.Lib.Processes
import EventPlatform.Lib.Runs

/-! # The trigger on pairs

`events_pair_validate_constraints` runs before every row that is inserted, and before every
row whose event, round or participants are updated.  It takes the advisory locks of both
participants in the round, and only then looks for another pair of theirs.  Transactions
interleave statement by statement under READ COMMITTED. -/

namespace EventPlatform.Scheduling.PairTrigger

open EventPlatform.Lib

/-! ## Rows and transactions -/

/-- The columns of a pair that the trigger reads; ids are UUIDs, and ordered as such. -/
structure PairRow where
  event : Nat
  round : Nat
  participantA : Nat
  participantB : Nat
deriving DecidableEq

/-- The statement of the trigger that a row has come to. -/
inductive TriggerStage where
  | roundExists
  | participantsExist
  | lockLeast
  | lockGreatest
  | pairExists
  /-- The trigger has returned NEW, and the row is written. -/
  | write
deriving DecidableEq

/-- A transaction is between two rows, or on a row: its id, NEW, and whether it is inserted. -/
inductive PairPc where
  | ready
  | row (id : Nat) (new : PairRow) (inserts : Bool) (stage : TriggerStage)
  | ended
deriving DecidableEq

def PairPc.target : PairPc → Option Nat
  | row id _ _ _ => some id
  | ready | ended => none

structure PairTransaction where
  pc : PairPc
  writes : Writes Nat PairRow
  locks : List UInt64

def PairTransaction.begin : PairTransaction := ⟨.ready, [], []⟩

def PairTransaction.ended : PairTransaction := ⟨.ended, [], []⟩

/-- The committed rows and the open transactions; `rounds` and `participants` give the event
    of a row, if there is one. -/
structure PairState where
  rounds : Nat → Option Nat
  participants : Nat → Option Nat
  pairs : Dict Nat PairRow
  transactions : List PairTransaction

inductive PairAction where
  /-- Other statements change rounds and participants. -/
  | others (rounds participants : Nat → Option Nat)
  | begin
  | insert (transaction id : Nat) (new : PairRow)
  | update (transaction id : Nat) (change : PairRow → PairRow)
  | delete (transaction id : Nat)
  /-- The next statement of the trigger, or the write of its row. -/
  | go (transaction : Nat)
  | commit (transaction : Nat)
  /-- By the client, after an error, to resolve a deadlock, or in a crash. -/
  | rollback (transaction : Nat)

/-! ## What the trigger and the constraints ask -/

/-- The two rows share a participant in a round, on whichever side. -/
def Clash (row other : PairRow) : Prop :=
  other.round = row.round ∧ (other.participantA ∈ [row.participantA, row.participantB] ∨
    other.participantB ∈ [row.participantA, row.participantB])

instance (row other : PairRow) : Decidable (Clash row other) := inferInstanceAs (Decidable (_ ∧ _))

/-- `hashtextextended(round || ':' || participant, 0)`; `hash` and `text` may be anything. -/
def lockKey (hash : String → UInt64) (text : Nat → String) (round participant : Nat) : UInt64 :=
  hash (text round ++ ":" ++ text participant)

/-- The unique constraints of `Pair`. -/
def Duplicates (new other : PairRow) : Prop :=
  (other.event = new.event ∧ other.participantA = new.participantA ∧ other.participantB = new.participantB) ∨
    (other.round = new.round ∧ other.participantA = new.participantA) ∨
    (other.round = new.round ∧ other.participantB = new.participantB)

instance (new other : PairRow) : Decidable (Duplicates new other) := inferInstanceAs (Decidable (_ ∨ _))

namespace PairState

def put (s : PairState) (i : Nat) (tx : PairTransaction) : PairState :=
  { s with transactions := s.transactions.set i tx }

def visible (s : PairState) (tx : PairTransaction) : Dict Nat PairRow := overlay s.pairs tx.writes

/-- Some other open transaction has the property. -/
def Other (s : PairState) (i : Nat) (p : PairTransaction → Prop) : Prop :=
  ∃ j < s.transactions.length, j ≠ i ∧ ∃ tx ∈ s.transactions[j]?, p tx

instance (s : PairState) (i : Nat) (p : PairTransaction → Prop) [DecidablePred p] : Decidable (s.Other i p) :=
  inferInstanceAs (Decidable (∃ j < s.transactions.length, j ≠ i ∧ ∃ tx ∈ s.transactions[j]?, p tx))

/-- Another transaction has locked the row, or claimed its primary key. -/
def RowLocked (s : PairState) (i id : Nat) : Prop :=
  s.Other i fun tx => id ∈ tx.writes.map (·.1) ∨ tx.pc.target = some id

instance (s : PairState) (i id : Nat) : Decidable (s.RowLocked i id) :=
  inferInstanceAs (Decidable (s.Other i fun tx => id ∈ tx.writes.map (·.1) ∨ tx.pc.target = some id))

/-- `pg_advisory_xact_lock` waits while another transaction holds the lock. -/
def acquire (s : PairState) (i : Nat) (tx : PairTransaction) (key : UInt64) (next : PairPc) : PairState :=
  if s.Other i fun other => key ∈ other.locks then s
  else s.put i { tx with locks := key :: tx.locks, pc := next }

/-- The write of a row that the trigger has let through; the constraints may still refuse
    it, or wait for a row in flight. -/
def writeRow (s : PairState) (i : Nat) (tx : PairTransaction) (id : Nat) (new : PairRow) (inserts : Bool) :
    PairState :=
  if s.Other i fun other => id ∈ other.writes.map (·.1) ∨ ∃ row ∈ other.writes.added, Duplicates new row.2 then s
  else if inserts ∧ id ∈ (s.visible tx).map (·.1) then s.put i .ended
  else if ¬ new.participantA < new.participantB then s.put i .ended
  else if ∃ row ∈ s.visible tx, row.1 ≠ id ∧ Duplicates new row.2 then s.put i .ended
  else s.put i { tx with writes := tx.writes.set id (some new), pc := .ready }

def goOn (hash : String → UInt64) (text : Nat → String) (s : PairState) (i : Nat) (tx : PairTransaction) : PairState :=
  match tx.pc with
  | .ready | .ended => s
  | .row id new inserts stage =>
    let next (stage : TriggerStage) : PairPc := .row id new inserts stage
    match stage with
    | .roundExists =>
      if s.rounds new.round = some new.event then s.put i { tx with pc := next .participantsExist }
      else s.put i .ended
    | .participantsExist =>
      if s.participants new.participantA = some new.event ∧ s.participants new.participantB = some new.event then
        s.put i { tx with pc := next .lockLeast }
      else s.put i .ended
    | .lockLeast =>
      s.acquire i tx (lockKey hash text new.round (min new.participantA new.participantB)) (next .lockGreatest)
    | .lockGreatest =>
      s.acquire i tx (lockKey hash text new.round (max new.participantA new.participantB)) (next .pairExists)
    | .pairExists =>
      if ∃ row ∈ s.visible tx, row.1 ≠ id ∧ Clash new row.2 then s.put i .ended
      else s.put i { tx with pc := next .write }
    | .write => s.writeRow i tx id new inserts

/-- The statement of a transaction that is between two rows. -/
def statement (s : PairState) (i : Nat) (run : PairTransaction → PairState) : PairState :=
  match s.transactions[i]? with
  | some tx => if tx.pc = .ready then run tx else s
  | none => s

def step (hash : String → UInt64) (text : Nat → String) (s : PairState) : PairAction → PairState
  | .others rounds participants => { s with rounds := rounds, participants := participants }
  | .begin => { s with transactions := s.transactions ++ [.begin] }
  | .insert i id new => s.statement i fun tx => s.put i { tx with pc := .row id new true .roundExists }
  | .update i id change => s.statement i fun tx =>
    if s.RowLocked i id then s
    else
      match (s.visible tx).get? id with
      | none => s
      | some old => s.put i { tx with pc := .row id (change old) false .roundExists }
  | .delete i id => s.statement i fun tx =>
    if s.RowLocked i id then s
    else if id ∈ (s.visible tx).map (·.1) then s.put i { tx with writes := tx.writes.set id none }
    else s
  | .go i =>
    match s.transactions[i]? with
    | some tx => goOn hash text s i tx
    | none => s
  | .commit i => s.statement i fun tx => { s with pairs := s.visible tx }.put i .ended
  | .rollback i =>
    match s.transactions[i]? with
    | some _ => s.put i .ended
    | none => s

end PairState

def PairState.start (rounds participants : Nat → Option Nat) : PairState := ⟨rounds, participants, [], []⟩

/-- No participant occurs in two pairs of one round. -/
def OnePairPerRound (pairs : Dict Nat PairRow) : Prop := pairs.Pairwise fun row other => ¬ Clash row.2 other.2

/-! ## Locks against clashes -/

variable {hash : String → UInt64} {text : Nat → String} {s : PairState} {i : Nat}
  {tx other old new : PairTransaction} {row row' : PairRow} {pairs : Dict Nat PairRow}

theorem Clash.symm (clash : Clash row row') : Clash row' row := by
  simp only [Clash, List.mem_cons, List.not_mem_nil, or_false] at clash ⊢
  obtain ⟨round, shared⟩ := clash
  refine ⟨round.symm, ?_⟩
  rcases shared with (aa | ab) | (ba | bb)
  · exact .inl (.inl aa.symm)
  · exact .inr (.inl ab.symm)
  · exact .inl (.inr ba.symm)
  · exact .inr (.inr bb.symm)

/-- The locks of both participants of the row. -/
structure Covers (hash : String → UInt64) (text : Nat → String) (locks : List UInt64) (row : PairRow) : Prop where
  first : lockKey hash text row.round row.participantA ∈ locks
  second : lockKey hash text row.round row.participantB ∈ locks

def ShareLock (tx other : PairTransaction) : Prop := ∃ key ∈ tx.locks, key ∈ other.locks

theorem ShareLock.symm (share : ShareLock tx other) : ShareLock other tx := by
  obtain ⟨key, mine, theirs⟩ := share
  exact ⟨key, theirs, mine⟩

/-- Rows that clash are covered by a common lock, whatever the hash. -/
theorem Covers.share (mine : Covers hash text tx.locks row) (theirs : Covers hash text other.locks row')
    (clash : Clash row row') : ShareLock tx other := by
  obtain ⟨round, shared⟩ := clash
  have first := theirs.first
  have second := theirs.second
  rw [round] at first second
  simp only [List.mem_cons, List.not_mem_nil, or_false] at shared
  rcases shared with (aa | ab) | (ba | bb)
  · exact ⟨_, mine.first, aa ▸ first⟩
  · exact ⟨_, mine.second, ab ▸ first⟩
  · exact ⟨_, mine.first, ba ▸ second⟩
  · exact ⟨_, mine.second, bb ▸ second⟩

/-- Taken in order, the two locks are those of both participants. -/
theorem Covers.of_ordered {locks : List UInt64}
    (least : lockKey hash text row.round (min row.participantA row.participantB) ∈ locks)
    (greatest : lockKey hash text row.round (max row.participantA row.participantB) ∈ locks) :
    Covers hash text locks row := by
  cases le_total row.participantA row.participantB with
  | inl le =>
    rw [min_eq_left le] at least
    rw [max_eq_right le] at greatest
    exact ⟨least, greatest⟩
  | inr ge =>
    rw [min_eq_right ge] at least
    rw [max_eq_left ge] at greatest
    exact ⟨greatest, least⟩

theorem Covers.cons {locks : List UInt64} (covers : Covers hash text locks row) (key : UInt64) :
    Covers hash text (key :: locks) row :=
  ⟨List.mem_cons_of_mem _ covers.first, List.mem_cons_of_mem _ covers.second⟩

/-! ## The invariant -/

/-- Rows with different ids do not clash. -/
def Compatible (rows : Dict Nat PairRow) : Prop :=
  ∀ (id id' : Nat) (row row' : PairRow), (id, row) ∈ rows → (id', row') ∈ rows → id ≠ id' → ¬ Clash row row'

/-- What the trigger has established for the row at hand. -/
def Staged (hash : String → UInt64) (text : Nat → String) (pairs : Dict Nat PairRow) (tx : PairTransaction) : Prop :=
  match tx.pc with
  | .row _ new _ .lockGreatest => lockKey hash text new.round (min new.participantA new.participantB) ∈ tx.locks
  | .row _ new _ .pairExists => Covers hash text tx.locks new
  | .row id new _ .write => Covers hash text tx.locks new ∧
      ∀ (id' : Nat) (row : PairRow), (id', row) ∈ overlay pairs tx.writes → id' ≠ id → ¬ Clash new row
  | _ => True

/-- A transaction holds the locks of all it has written, and sees no clash. -/
structure Guarded (hash : String → UInt64) (text : Nat → String) (pairs : Dict Nat PairRow)
    (tx : PairTransaction) : Prop where
  nodup : (tx.writes.map (·.1)).Nodup
  covered : ∀ (id : Nat) (row : PairRow), (id, some row) ∈ tx.writes → Covers hash text tx.locks row
  compatible : Compatible (overlay pairs tx.writes)
  staged : Staged hash text pairs tx

structure PairsInv (hash : String → UInt64) (text : Nat → String) (s : PairState) : Prop where
  nodup : (s.pairs.map (·.1)).Nodup
  compatible : Compatible s.pairs
  guarded : ∀ tx ∈ s.transactions, Guarded hash text s.pairs tx
  exclusive : MutualExclusion ShareLock s.transactions

theorem Guarded.idle (compatible : Compatible pairs) {pc : PairPc} (free : pc.target = none) :
    Guarded hash text pairs ⟨pc, [], []⟩ := by
  refine ⟨List.nodup_nil, fun _ _ member => (by cases member), ?_, ?_⟩
  · simpa using compatible
  · cases pc with
    | row => cases free
    | ready | ended => trivial

theorem PairState.free_of_not_other {p : PairTransaction → Prop} {j : Nat} (alone : ¬ s.Other i p)
    (there : s.transactions[j]? = some other) (apart : j ≠ i) : ¬ p other :=
  fun holds => alone ⟨j, (List.getElem?_eq_some_iff.mp there).1, apart, other, there, holds⟩

/-- A transaction gets only locks that no other one holds. -/
theorem shareLock_set (exclusive : MutualExclusion ShareLock s.transactions) (here : s.transactions[i]? = some old)
    (locks : ∀ key ∈ new.locks, key ∈ old.locks ∨ ¬ s.Other i fun tx => key ∈ tx.locks) :
    MutualExclusion ShareLock (s.transactions.set i new) := by
  apply exclusive.set fun _ _ => ShareLock.symm
  intro j other there different share
  obtain ⟨key, mine, theirs⟩ := share
  cases locks key mine with
  | inl held => exact different (exclusive i j old other here there ⟨key, held, theirs⟩).symm
  | inr alone => exact PairState.free_of_not_other alone there different theirs

theorem PairsInv.put (inv : PairsInv hash text s) (here : s.transactions[i]? = some old)
    (guarded : Guarded hash text s.pairs new)
    (locks : ∀ key ∈ new.locks, key ∈ old.locks ∨ ¬ s.Other i fun tx => key ∈ tx.locks) :
    PairsInv hash text (s.put i new) := by
  refine ⟨inv.nodup, inv.compatible, fun tx member => ?_, shareLock_set inv.exclusive here locks⟩
  cases List.mem_or_eq_of_mem_set member with
  | inl theirs => exact inv.guarded tx theirs
  | inr mine => rw [mine]; exact guarded

theorem PairsInv.end_ (inv : PairsInv hash text s) (here : s.transactions[i]? = some old) :
    PairsInv hash text (s.put i .ended) :=
  inv.put here (Guarded.idle inv.compatible rfl) fun _ held => (by cases held)

/-- A statement that only moves its transaction on. -/
theorem PairsInv.goto (inv : PairsInv hash text s) (here : s.transactions[i]? = some tx) {pc : PairPc}
    (staged : Staged hash text s.pairs { tx with pc := pc }) : PairsInv hash text (s.put i { tx with pc := pc }) := by
  have guarded := inv.guarded tx (List.mem_of_getElem? here)
  exact inv.put here ⟨guarded.nodup, guarded.covered, guarded.compatible, staged⟩ fun _ held => .inl held

theorem PairsInv.acquire (inv : PairsInv hash text s) (here : s.transactions[i]? = some tx) {key : UInt64}
    {next : PairPc} (staged : Staged hash text s.pairs { tx with locks := key :: tx.locks, pc := next }) :
    PairsInv hash text (s.acquire i tx key next) := by
  simp only [PairState.acquire]
  split
  · exact inv
  next alone =>
    have guarded := inv.guarded tx (List.mem_of_getElem? here)
    refine inv.put here ⟨guarded.nodup, fun id row member => (guarded.covered id row member).cons key,
      guarded.compatible, staged⟩ fun held member => ?_
    cases member with
    | head => exact .inr alone
    | tail _ old => exact .inl old

/-- The row that is written clashes with nothing its transaction sees. -/
theorem PairsInv.writeRow (inv : PairsInv hash text s) (here : s.transactions[i]? = some tx) {id : Nat}
    {new : PairRow} {inserts : Bool} (now : tx.pc = .row id new inserts .write) :
    PairsInv hash text (s.writeRow i tx id new inserts) := by
  have guarded := inv.guarded tx (List.mem_of_getElem? here)
  obtain ⟨covers, free⟩ : Covers hash text tx.locks new ∧
      ∀ (id' : Nat) (row : PairRow), (id', row) ∈ overlay s.pairs tx.writes → id' ≠ id → ¬ Clash new row := by
    have staged := guarded.staged
    simpa [Staged, now] using staged
  simp only [PairState.writeRow]
  split
  · exact inv
  · split
    · exact inv.end_ here
    · split
      · exact inv.end_ here
      · split
        · exact inv.end_ here
        · refine inv.put here ⟨Dict.nodup_keys_set guarded.nodup id (some new), ?_, ?_, trivial⟩ fun _ held => .inl held
          · intro id' row member
            cases (Writes.mem_set guarded.nodup).mp member with
            | inl written => cases written.2; exact covers
            | inr earlier => exact guarded.covered id' row earlier.2
          -- of two rows at most one is the new one, and the trigger has found nothing that it clashes with
          · intro id₁ id₂ row₁ row₂ seen₁ seen₂ different clash
            cases mem_overlay_set guarded.nodup seen₁ with
            | inl written₁ =>
              obtain ⟨rfl, same⟩ := written₁
              cases same
              cases mem_overlay_set guarded.nodup seen₂ with
              | inl written₂ => exact different written₂.1.symm
              | inr old₂ => exact free id₂ row₂ old₂.2 (Ne.symm different) clash
            | inr old₁ =>
              cases mem_overlay_set guarded.nodup seen₂ with
              | inl written₂ =>
                obtain ⟨rfl, same⟩ := written₂
                cases same
                exact free id₁ row₁ old₁.2 different clash.symm
              | inr old₂ => exact guarded.compatible id₁ id₂ row₁ row₂ old₁.2 old₂.2 different clash

theorem PairsInv.goOn (inv : PairsInv hash text s) (here : s.transactions[i]? = some tx) :
    PairsInv hash text (PairState.goOn hash text s i tx) := by
  have staged := (inv.guarded tx (List.mem_of_getElem? here)).staged
  simp only [PairState.goOn]
  split
  · exact inv
  · exact inv
  next id new inserts stage now =>
    -- the locks are taken in the order of the ids, and the check is made under both
    cases stage with
    | roundExists =>
      simp only
      split
      · exact inv.goto here trivial
      · exact inv.end_ here
    | participantsExist =>
      simp only
      split
      · exact inv.goto here trivial
      · exact inv.end_ here
    | lockLeast => exact inv.acquire here List.mem_cons_self
    | lockGreatest =>
      simp only [Staged, now] at staged
      exact inv.acquire here (Covers.of_ordered (List.mem_cons_of_mem _ staged) List.mem_cons_self)
    | pairExists =>
      simp only [Staged, now] at staged
      simp only
      split
      · exact inv.end_ here
      next absent =>
        refine inv.goto here ⟨staged, fun id' row seen different clash => absent ⟨(id', row), seen, different, clash⟩⟩
    | write => exact inv.writeRow here now

/-- Whoever stays open after a commit holds other locks than the rows that have been
    committed, so it still sees no clash. -/
theorem PairsInv.commit (inv : PairsInv hash text s) (here : s.transactions[i]? = some tx) :
    PairsInv hash text ({ s with pairs := s.visible tx }.put i .ended) := by
  have mine := inv.guarded tx (List.mem_of_getElem? here)
  refine ⟨nodup_overlay inv.nodup mine.nodup, mine.compatible, fun other member => ?_, ?_⟩
  · obtain ⟨j, found⟩ := List.mem_iff_getElem?.mp member
    cases getElem?_of_set found with
    | inl ended =>
      rw [ended.2]
      exact Guarded.idle mine.compatible rfl
    | inr theirs =>
      obtain ⟨apart, there⟩ := theirs
      have guarded := inv.guarded other (List.mem_of_getElem? there)
      have alone : ¬ ShareLock tx other := fun share => apart (inv.exclusive i j tx other here there share).symm
      -- a row that the other one has locked clashes with no row that is committed here
      have fresh : ∀ (id : Nat) (row locked : PairRow), (id, some row) ∈ tx.writes →
          Covers hash text other.locks locked → ¬ Clash row locked := fun id row locked written covers clash =>
        alone ((mine.covered id row written).share covers clash)
      have apart_ : ∀ (id id' : Nat) (row row' : PairRow), (id, some row) ∈ tx.writes →
          (id', row') ∈ overlay (overlay s.pairs tx.writes) other.writes → id ≠ id' → ¬ Clash row row' := by
        intro id id' row row' written seen different
        cases mem_overlay.mp seen with
        | inl kept => exact mine.compatible id id' row row' (mem_overlay.mpr (.inr written)) kept.1 different
        | inr own => exact fresh id row row' written (guarded.covered id' row' own)
      refine ⟨guarded.nodup, guarded.covered, ?_, ?_⟩
      · intro id₁ id₂ row₁ row₂ seen₁ seen₂ different clash
        cases mem_overlay_overlay seen₁ with
        | inr written₁ => exact apart_ id₁ id₂ row₁ row₂ written₁ seen₂ different clash
        | inl old₁ =>
          cases mem_overlay_overlay seen₂ with
          | inr written₂ => exact apart_ id₂ id₁ row₂ row₁ written₂ seen₁ (Ne.symm different) clash.symm
          | inl old₂ => exact guarded.compatible id₁ id₂ row₁ row₂ old₁ old₂ different clash
      · have staged := guarded.staged
        simp only [Staged] at staged ⊢
        split
        next now => rwa [now] at staged
        next now => rwa [now] at staged
        next now =>
          rw [now] at staged
          refine ⟨staged.1, fun id' row seen different clash => ?_⟩
          cases mem_overlay_overlay seen with
          | inl old => exact staged.2 id' row old different clash
          | inr written => exact fresh id' row _ written staged.1 clash.symm
        · trivial
  · apply shareLock_set inv.exclusive here
    intro key held
    cases held

/-- A deleted row is seen no more. -/
theorem PairsInv.delete (inv : PairsInv hash text s) (here : s.transactions[i]? = some tx) (now : tx.pc = .ready)
    (id : Nat) : PairsInv hash text (s.put i { tx with writes := tx.writes.set id none }) := by
  have guarded := inv.guarded tx (List.mem_of_getElem? here)
  have old : ∀ (id' : Nat) (row : PairRow), (id', row) ∈ overlay s.pairs (Dict.set id none tx.writes) →
      (id', row) ∈ overlay s.pairs tx.writes := by
    intro id' row seen
    cases mem_overlay_set guarded.nodup seen with
    | inl written => cases written.2
    | inr earlier => exact earlier.2
  refine inv.put here ⟨Dict.nodup_keys_set guarded.nodup id none, ?_, ?_, ?_⟩ fun _ held => .inl held
  · intro id' row member
    cases (Writes.mem_set guarded.nodup).mp member with
    | inl written => cases written.2
    | inr earlier => exact guarded.covered id' row earlier.2
  · intro id₁ id₂ row₁ row₂ seen₁ seen₂
    exact guarded.compatible id₁ id₂ row₁ row₂ (old _ _ seen₁) (old _ _ seen₂)
  · simp [Staged, now]

/-! ## Steps and runs -/

theorem PairsInv.statement (inv : PairsInv hash text s) {run : PairTransaction → PairState}
    (runs : ∀ tx, s.transactions[i]? = some tx → tx.pc = .ready → PairsInv hash text (run tx)) :
    PairsInv hash text (s.statement i run) := by
  simp only [PairState.statement]
  split
  next tx here =>
    split
    next now => exact runs tx here now
    next => exact inv
  · exact inv

theorem PairsInv.step (inv : PairsInv hash text s) (action : PairAction) :
    PairsInv hash text (PairState.step hash text s action) := by
  cases action with
  | others rounds participants => exact ⟨inv.nodup, inv.compatible, inv.guarded, inv.exclusive⟩
  | begin =>
    refine ⟨inv.nodup, inv.compatible, fun tx member => ?_, ?_⟩
    · cases List.mem_append.mp member with
      | inl old => exact inv.guarded tx old
      | inr new =>
        rw [List.mem_singleton.mp new]
        exact Guarded.idle inv.compatible rfl
    · apply inv.exclusive.append fun _ _ => ShareLock.symm
      intro other _ share
      obtain ⟨key, held, _⟩ := share
      cases held
  | insert i id new => exact inv.statement fun tx here _ => inv.goto here trivial
  | update i id change =>
    apply inv.statement
    intro tx here _
    split
    · exact inv
    · split
      · exact inv
      · exact inv.goto here trivial
  | delete i id =>
    apply inv.statement
    intro tx here now
    split
    · exact inv
    · split
      · exact inv.delete here now id
      · exact inv
  | go i =>
    simp only [PairState.step]
    split
    next tx here => exact inv.goOn here
    · exact inv
  | commit i => exact inv.statement fun tx here _ => inv.commit here
  | rollback i =>
    simp only [PairState.step]
    split
    next tx here => exact inv.end_ here
    · exact inv

theorem PairsInv.start (rounds participants : Nat → Option Nat) :
    PairsInv hash text (.start rounds participants) where
  nodup := List.nodup_nil
  compatible := fun _ _ _ _ member => by cases member
  guarded := fun _ member => by cases member
  exclusive := MutualExclusion.nil

theorem PairsInv.onePairPerRound (inv : PairsInv hash text s) : OnePairPerRound s.pairs := by
  apply (List.pairwise_map.mp inv.nodup).imp_of_mem
  intro row other member member' different
  exact inv.compatible row.1 other.1 row.2 other.2 member member' different

theorem one_pair_per_round (hash : String → UInt64) (text : Nat → String) (rounds participants : Nat → Option Nat)
    (actions : List PairAction) :
    OnePairPerRound (actions.foldl (PairState.step hash text) (.start rounds participants)).pairs := by
  have keeps : ∀ (s : PairState) (action : PairAction), PairsInv hash text s → True →
      PairsInv hash text (PairState.step hash text s action) := fun s action inv _ => inv.step action
  exact (foldl_preserves keeps (PairsInv.start rounds participants) fun _ _ => trivial).onePairPerRound

end EventPlatform.Scheduling.PairTrigger
