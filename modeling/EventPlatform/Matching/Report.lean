import EventPlatform.Lib.Dict
import EventPlatform.Lib.Runs
import EventPlatform.Lib.Summation
import EventPlatform.Matching.Validity

/-! # The quality report

`build_report` goes once over the rounds of a schedule.  A score is any number here; the mean and
the percentile are computed in doubles, so they are what they should be up to rounding. -/

namespace EventPlatform.Matching

open EventPlatform.Lib

/-! ## The report -/

structure RoundReport where
  number : Int
  pairCount : Nat
  avgScore : ℚ
  p10Score : ℚ
  zeroTagPairs : Nat
  unmatchedPid : Option String
deriving DecidableEq

/-- `byeDistribution` counts the rounds in which a participant sits out. -/
structure MatchingReport where
  rounds : List RoundReport
  totalPairs : Nat
  totalZeroTagPairs : Nat
  byeDistribution : Dict String Nat
  violationCount : Nat
  violations : List ScheduleViolation
deriving DecidableEq

def MatchingReport.canLock (report : MatchingReport) : Bool := report.violationCount = 0

/-- The first cut point of `statistics.quantiles(data, n=10, method="inclusive")`, for the
    sorted data. -/
def firstDecile (data : List ℚ) : ℚ :=
  let m := data.length - 1
  let j := m / 10
  let delta := m % 10
  let low := toDouble (data.getD j 0 * (10 - delta))
  let high := toDouble (data.getD (j + 1) 0 * delta)
  toDouble (toDouble (low + high) / 10)

/-- `_percentile10` -/
def percentile10 : List ℚ → ℚ
  | [] => 0
  | [score] => score
  | scores => firstDecile (scores.insertionSort (· ≤ ·))

def roundReport (rnd : ScheduleRound) : RoundReport :=
  let scores := rnd.pairs.map (·.score)
  { number := rnd.number
    pairCount := rnd.pairs.length
    avgScore := if scores.isEmpty then 0 else toDouble (floatSum scores / scores.length)
    p10Score := percentile10 scores
    zeroTagPairs := rnd.pairs.countP (·.score = 0)
    unmatchedPid := rnd.unmatchedPid }

/-- An empty id is as good as none. -/
def countBye (byes : Dict String Nat) (unmatchedPid : Option String) : Dict String Nat :=
  match unmatchedPid with
  | none => byes
  | some pid => if pid = "" then byes else byes.set pid ((byes.get? pid).getD 0 + 1)

/-- One turn of the loop over the rounds. -/
def MatchingReport.addRound (report : MatchingReport) (rnd : ScheduleRound) : MatchingReport :=
  { report with
    rounds := report.rounds ++ [roundReport rnd]
    totalPairs := report.totalPairs + rnd.pairs.length
    totalZeroTagPairs := report.totalZeroTagPairs + rnd.pairs.countP (·.score = 0)
    byeDistribution := countBye report.byeDistribution rnd.unmatchedPid }

def buildReport (schedule : GeneratedSchedule) (violations : List ScheduleViolation) : MatchingReport :=
  schedule.rounds.foldl MatchingReport.addRound ⟨[], 0, 0, [], violations.length, violations⟩

/-! ## The tenth percentile -/

section Percentile

variable {data scores : List ℚ}

/-- The first cut point, without rounding. -/
def exactDecile (data : List ℚ) : ℚ :=
  let m := data.length - 1
  (data.getD (m / 10) 0 * (10 - (m % 10 : ℕ)) + data.getD (m / 10 + 1) 0 * (m % 10 : ℕ)) / 10

/-- The first cut point lies between two neighbours. -/
theorem exactDecile_between (sorted : data.Pairwise (· ≤ ·)) (many : 2 ≤ data.length) :
    data.getD ((data.length - 1) / 10) 0 ≤ exactDecile data ∧
      exactDecile data ≤ data.getD ((data.length - 1) / 10 + 1) 0 := by
  have inside : (data.length - 1) / 10 + 1 < data.length := by omega
  have order : data.getD ((data.length - 1) / 10) 0 ≤ data.getD ((data.length - 1) / 10 + 1) 0 := by
    rw [List.getD_eq_getElem _ _ (by omega), List.getD_eq_getElem _ _ inside]
    exact List.pairwise_iff_getElem.mp sorted _ _ _ inside (Nat.lt_succ_self _)
  have small : ((data.length - 1) % 10 : ℕ) ≤ 10 := by omega
  have weight : (((data.length - 1) % 10 : ℕ) : ℚ) ≤ 10 := by exact_mod_cast small
  have positive : (0 : ℚ) ≤ ((data.length - 1) % 10 : ℕ) := by positivity
  simp only [exactDecile]
  generalize data.getD ((data.length - 1) / 10) 0 = low at order ⊢
  generalize data.getD ((data.length - 1) / 10 + 1) 0 = high at order ⊢
  generalize (((data.length - 1) % 10 : ℕ) : ℚ) = delta at weight positive ⊢
  constructor
  · have gap : 0 ≤ (high - low) * delta := mul_nonneg (by linarith) positive
    linarith
  · have gap : 0 ≤ (high - low) * (10 - delta) := mul_nonneg (by linarith) (by linarith)
    linarith

/-- A weighted score is rounded once, and stays below its weight. -/
theorem weighted_close {score : ℚ} {weight : Nat} (nonneg : 0 ≤ score) (atMostOne : score ≤ 1) (light : weight ≤ 10) :
    0 ≤ toDouble (score * weight) ∧ toDouble (score * weight) ≤ weight ∧
      |toDouble (score * weight) - score * weight| ≤ 10 / 2 ^ 53 := by
  have light' : (weight : ℚ) ≤ 10 := by exact_mod_cast light
  have product : 0 ≤ score * weight := mul_nonneg nonneg (Nat.cast_nonneg weight)
  have below : score * weight ≤ weight := mul_le_of_le_one_left (Nat.cast_nonneg weight) atMostOne
  refine ⟨toDouble_nonneg product, toDouble_le_natCast below (by omega), abs_toDouble_sub_le ?_ ?_⟩
  · rw [abs_of_nonneg product]
    exact below.trans light'
  · exact minNormal_le.trans (by norm_num)

/-- Four roundings lie between the cut point and what is reported. -/
theorem firstDecile_close (bounded : ∀ score ∈ data, 0 ≤ score ∧ score ≤ 1) :
    0 ≤ firstDecile data ∧ firstDecile data ≤ 1 ∧ |firstDecile data - exactDecile data| ≤ 1 / 2 ^ 49 := by
  have score : ∀ i, 0 ≤ data.getD i 0 ∧ data.getD i 0 ≤ 1 := by
    intro i
    by_cases inside : i < data.length
    · rw [List.getD_eq_getElem _ _ inside]
      exact bounded _ (List.getElem_mem _)
    · rw [List.getD_eq_default _ _ (not_lt.mp inside)]
      exact ⟨le_refl 0, zero_le_one⟩
  have digit : (data.length - 1) % 10 ≤ 10 := by omega
  have rest : (10 : ℚ) - ((data.length - 1) % 10 : ℕ) = ((10 - (data.length - 1) % 10 : ℕ) : ℚ) := by
    rw [Nat.cast_sub digit, Nat.cast_ofNat]
  have whole : ((10 - (data.length - 1) % 10 : ℕ) : ℚ) + ((data.length - 1) % 10 : ℕ) = 10 := by
    rw [← rest]
    ring
  simp only [firstDecile, exactDecile, rest]
  obtain ⟨low_nonneg, low_le, low_close⟩ := @weighted_close _ (10 - (data.length - 1) % 10)
    (score ((data.length - 1) / 10)).1 (score ((data.length - 1) / 10)).2 (by omega)
  obtain ⟨high_nonneg, high_le, high_close⟩ := @weighted_close _ ((data.length - 1) % 10)
    (score ((data.length - 1) / 10 + 1)).1 (score ((data.length - 1) / 10 + 1)).2 digit
  generalize toDouble (data.getD ((data.length - 1) / 10) 0 * _) = low at low_nonneg low_le low_close ⊢
  generalize toDouble (data.getD ((data.length - 1) / 10 + 1) 0 * _) = high at high_nonneg high_le high_close ⊢
  obtain ⟨total_nonneg, total_le, total_close⟩ := @toDouble_close (low + high) 10 (add_nonneg low_nonneg high_nonneg)
    (by push_cast; linarith) (by norm_num) (by norm_num)
  generalize toDouble (low + high) = total at total_nonneg total_le total_close ⊢
  push_cast at total_le total_close
  obtain ⟨mean_nonneg, mean_le, mean_close⟩ := @toDouble_close (total / 10) 1 (by linarith)
    (by push_cast; linarith) (by norm_num) (by norm_num)
  push_cast at mean_le mean_close
  refine ⟨mean_nonneg, mean_le, ?_⟩
  have low_close := abs_le.mp low_close
  have high_close := abs_le.mp high_close
  have total_close := abs_le.mp total_close
  have mean_close := abs_le.mp mean_close
  rw [abs_le]
  constructor <;> linarith [low_close.1, low_close.2, high_close.1, high_close.2, total_close.1, total_close.2,
    mean_close.1, mean_close.2]

/-- Nothing below position `k` of a sorted list is what can lie below its element there. -/
theorem countP_lt_getElem_le (sorted : data.Pairwise (· ≤ ·)) {k : Nat} (inside : k < data.length) :
    data.countP (· < data[k]) ≤ k := by
  have late : (data.drop k).countP (· < data[k]) = 0 := by
    apply List.countP_eq_zero.mpr
    intro x member
    obtain ⟨i, inDrop, rfl⟩ := List.getElem_of_mem member
    rw [List.length_drop] at inDrop
    rw [List.getElem_drop, decide_eq_true_eq, not_lt]
    cases i with
    | zero => exact le_refl _
    | succ i => exact List.pairwise_iff_getElem.mp sorted k (k + (i + 1)) inside (by omega) (by omega)
  have early : (data.take k).countP (· < data[k]) ≤ k := by
    refine List.countP_le_length.trans ?_
    rw [List.length_take]
    omega
  have split := @List.countP_append _ (fun x => decide (x < data[k])) (data.take k) (data.drop k)
  rw [List.take_append_drop] at split
  omega

/-- What a tenth percentile promises of a list of scores. -/
structure IsTenthPercentile (scores : List ℚ) (p : ℚ) : Prop where
  above : ∃ score ∈ scores, score ≤ p
  below : ∃ score ∈ scores, p ≤ score
  few : scores.countP (· < p) ≤ (scores.length - 1) / 10 + 1

theorem exactDecile_spec (perm : data.Perm scores) (sorted : data.Pairwise (· ≤ ·)) (many : 2 ≤ data.length) :
    IsTenthPercentile scores (exactDecile data) := by
  obtain ⟨low, high⟩ := exactDecile_between sorted many
  have inside : (data.length - 1) / 10 + 1 < data.length := by omega
  rw [List.getD_eq_getElem _ _ (by omega)] at low
  rw [List.getD_eq_getElem _ _ inside] at high
  refine ⟨⟨_, perm.mem_iff.mp (List.getElem_mem _), low⟩, ⟨_, perm.mem_iff.mp (List.getElem_mem _), high⟩, ?_⟩
  rw [← perm.countP_eq, ← perm.length_eq]
  -- what lies below the percentile lies below the neighbour above it
  refine le_trans (List.countP_mono_left fun x _ less => ?_) (countP_lt_getElem_le sorted inside)
  simp only [decide_eq_true_eq] at less ⊢
  exact lt_of_lt_of_le less high

theorem percentile10_spec (nonempty : scores ≠ []) (bounded : ∀ score ∈ scores, 0 ≤ score ∧ score ≤ 1) :
    ∃ exact, IsTenthPercentile scores exact ∧ |percentile10 scores - exact| ≤ 1 / 2 ^ 49 := by
  cases scores with
  | nil => exact absurd rfl nonempty
  | cons score rest =>
    cases rest with
    | nil => exact ⟨score, ⟨⟨score, by simp, le_refl _⟩, ⟨score, by simp, le_refl _⟩, by simp⟩, by simp [percentile10]⟩
    | cons other rest =>
      have perm := List.perm_insertionSort (· ≤ ·) (score :: other :: rest)
      have many : 2 ≤ ((score :: other :: rest).insertionSort (· ≤ ·)).length := by
        rw [perm.length_eq]
        simp
      exact ⟨_, exactDecile_spec perm (List.pairwise_insertionSort _ _) many,
        (firstDecile_close fun x member => bounded x (perm.mem_iff.mp member)).2.2⟩

theorem percentile10_between (bounded : ∀ score ∈ scores, 0 ≤ score ∧ score ≤ 1) :
    0 ≤ percentile10 scores ∧ percentile10 scores ≤ 1 := by
  cases scores with
  | nil => exact ⟨le_refl 0, zero_le_one⟩
  | cons score rest =>
    cases rest with
    | nil => exact bounded score List.mem_cons_self
    | cons other rest =>
      have perm := List.perm_insertionSort (· ≤ ·) (score :: other :: rest)
      have close := firstDecile_close fun x member => bounded x (perm.mem_iff.mp member)
      exact ⟨close.1, close.2.1⟩

/-- The sum is off by a few roundings a score, and the mean by a few roundings. -/
theorem mean_close (nonempty : scores ≠ []) (few : scores.length ≤ 2 ^ 26)
    (bounded : ∀ score ∈ scores, 0 ≤ score ∧ score ≤ 1) :
    |toDouble (floatSum scores / scores.length) - scores.sum / scores.length| ≤ 1 / 2 ^ 49 := by
  have positive : (0 : ℚ) < scores.length := by exact_mod_cast List.length_pos_iff.mpr nonempty
  have lower : 0 ≤ scores.sum / scores.length :=
    div_nonneg (List.sum_nonneg fun score member => (bounded score member).1) positive.le
  have upper : scores.sum / scores.length ≤ 1 := by
    have le := List.sum_le_card_nsmul scores 1 fun score member => (bounded score member).2
    exact div_le_one_of_le₀ (by simpa using le) positive.le
  have apart : |floatSum scores / scores.length - scores.sum / scores.length| ≤ 8 / 2 ^ 53 := by
    rw [← sub_div, abs_div, abs_of_pos positive, div_le_iff₀ positive]
    linarith [floatSum_close few bounded]
  have apart := abs_le.mp apart
  have small : |floatSum scores / scores.length| ≤ 2 := by
    rw [abs_le]
    constructor <;> linarith [apart.1, apart.2]
  have rounded := abs_le.mp (abs_toDouble_sub_le small (minNormal_le.trans (by norm_num)))
  rw [abs_le]
  constructor <;> linarith [apart.1, apart.2, rounded.1, rounded.2]

end Percentile

/-! ## The loop -/

section Loop

variable {report : MatchingReport} {rounds : List ScheduleRound}

/-- The byes that are counted. -/
def countedByes (rounds : List ScheduleRound) : List String :=
  (rounds.filterMap (·.unmatchedPid)).filter (· ≠ "")

theorem get?_countBye (byes : Dict String Nat) (unmatchedPid : Option String) (pid : String) :
    ((countBye byes unmatchedPid).get? pid).getD 0 =
      (byes.get? pid).getD 0 + (unmatchedPid.toList.filter (· ≠ "")).count pid := by
  cases unmatchedPid with
  | none => simp [countBye]
  | some out =>
    simp only [countBye]
    split
    next empty => simp [empty]
    next proper =>
      by_cases same : pid = out
      · subst same
        simp [proper]
      · simp [Dict.get?_set_of_ne _ same, proper, Ne.symm same]

/-- A participant is in the distribution when it has been counted. -/
theorem countBye_keys (byes : Dict String Nat) (unmatchedPid : Option String) (pid : String) :
    pid ∈ (countBye byes unmatchedPid).map (·.1) ↔
      pid ∈ byes.map (·.1) ∨ pid ∈ unmatchedPid.toList.filter (· ≠ "") := by
  cases unmatchedPid with
  | none => simp [countBye]
  | some out =>
    simp only [countBye]
    split
    next empty => simp [empty]
    next proper =>
      rw [Dict.mem_keys_set]
      simp [proper, or_comm]

theorem nodup_countBye {byes : Dict String Nat} (nodup : (byes.map (·.1)).Nodup) (unmatchedPid : Option String) :
    ((countBye byes unmatchedPid).map (·.1)).Nodup := by
  cases unmatchedPid with
  | none => exact nodup
  | some out =>
    simp only [countBye]
    split
    · exact nodup
    · exact Dict.nodup_keys_set nodup _ _

/-- What the report says of the rounds that the loop has seen. -/
structure Reports (rounds : List ScheduleRound) (report : MatchingReport) : Prop where
  each : report.rounds = rounds.map roundReport
  pairs : report.totalPairs = (rounds.map (·.pairs.length)).sum
  zeroTag : report.totalZeroTagPairs = (rounds.flatMap (·.pairs)).countP (·.score = 0)
  keys : (report.byeDistribution.map (·.1)).Nodup
  listed : ∀ pid, pid ∈ report.byeDistribution.map (·.1) ↔ pid ∈ countedByes rounds
  counts : ∀ pid, (report.byeDistribution.get? pid).getD 0 = (countedByes rounds).count pid

theorem countedByes_append (rounds : List ScheduleRound) (rnd : ScheduleRound) :
    countedByes (rounds ++ [rnd]) = countedByes rounds ++ rnd.unmatchedPid.toList.filter (· ≠ "") := by
  cases bye : rnd.unmatchedPid <;> simp [countedByes, List.filterMap_append, bye]

theorem Reports.addRound (reports : Reports rounds report) (rnd : ScheduleRound) :
    Reports (rounds ++ [rnd]) (report.addRound rnd) where
  each := by simp [MatchingReport.addRound, reports.each]
  pairs := by simp [MatchingReport.addRound, reports.pairs]
  zeroTag := by simp [MatchingReport.addRound, reports.zeroTag]
  keys := nodup_countBye reports.keys _
  listed := by
    intro pid
    simp only [MatchingReport.addRound]
    rw [countBye_keys, reports.listed, countedByes_append, List.mem_append]
  counts := by
    intro pid
    simp only [MatchingReport.addRound]
    rw [get?_countBye, reports.counts, countedByes_append, List.count_append]

theorem buildReport_reports (schedule : GeneratedSchedule) (violations : List ScheduleViolation) :
    Reports schedule.rounds (buildReport schedule violations) := by
  have start : Reports [] ⟨[], 0, 0, [], violations.length, violations⟩ := by
    constructor <;> simp [countedByes, Dict.get?]
  exact foldl_history start fun past rnd _ _ _ reports => reports.addRound rnd

/-- The loop leaves the violations alone. -/
theorem foldl_addRound_violations (rounds : List ScheduleRound) (report : MatchingReport) :
    (rounds.foldl MatchingReport.addRound report).violationCount = report.violationCount := by
  induction rounds generalizing report with
  | nil => rfl
  | cons rnd rounds ih => rw [List.foldl_cons, ih]; rfl

theorem canLock_buildReport (schedule : GeneratedSchedule) (violations : List ScheduleViolation) :
    (buildReport schedule violations).canLock = violations.isEmpty := by
  have same := foldl_addRound_violations schedule.rounds ⟨[], 0, 0, [], violations.length, violations⟩
  simp only [MatchingReport.canLock, buildReport, same]
  cases violations <;> simp

end Loop

/-! ## Reports of accepted schedules -/

section Accepted

variable {pids : Finset String} {numRounds : Int} {schedule : GeneratedSchedule} {violations : List ScheduleViolation}
  {rnd : ScheduleRound}

/-- What the report says of the scores of a round, up to rounding. -/
structure Summarises (scores : List ℚ) (report : RoundReport) : Prop where
  average : |report.avgScore - scores.sum / scores.length| ≤ 1 / 2 ^ 49
  percentile : ∃ exact, IsTenthPercentile scores exact ∧ |report.p10Score - exact| ≤ 1 / 2 ^ 49

/-- A round of an accepted schedule, as the report has it. -/
structure ValidRoundReport (pids : Finset String) (report : RoundReport) : Prop where
  pairs : report.pairCount = pids.card / 2
  bye : report.unmatchedPid.isSome ↔ pids.card % 2 = 1
  zeroTag : report.zeroTagPairs ≤ report.pairCount
  percentile : 0 ≤ report.p10Score ∧ report.p10Score ≤ 1

/-- Nobody sits out twice, and in an odd event somebody sits out in every round. -/
structure ValidReport (pids : Finset String) (numRounds : Int) (report : MatchingReport) : Prop where
  canLock : report.canLock = true
  numbers : (report.rounds.map (·.number)).Perm (roundNumbers numRounds)
  rounds : ∀ r ∈ report.rounds, ValidRoundReport pids r
  totalPairs : report.totalPairs = numRounds.toNat * (pids.card / 2)
  totalZeroTag : report.totalZeroTagPairs = (report.rounds.map (·.zeroTagPairs)).sum
  byes : report.byeDistribution.length = if pids.card % 2 = 1 then numRounds.toNat else 0
  once : ∀ item ∈ report.byeDistribution, item.1 ∈ pids ∧ item.2 = 1

theorem ValidRound.pairCount (valid : ValidRound pids rnd) : rnd.pairs.length = pids.card / 2 := by
  have everyone : rnd.members.toFinset = pids := by
    ext pid
    rw [List.mem_toFinset, valid.everyone]
  have length : rnd.members.length = pids.card := by
    rw [← List.toFinset_card_of_nodup valid.nodup, everyone]
  rw [length_members, length_unmatched valid.parity] at length
  omega

theorem bounded_scores (scored : ∀ sp ∈ rnd.pairs, 0 ≤ sp.score ∧ sp.score ≤ 1) :
    ∀ score ∈ rnd.pairs.map (·.score), 0 ≤ score ∧ score ≤ 1 := by
  intro score member
  obtain ⟨sp, inPairs, rfl⟩ := List.mem_map.mp member
  exact scored sp inPairs

theorem summarises_roundReport (nonempty : rnd.pairs ≠ []) (few : rnd.pairs.length ≤ 2 ^ 26)
    (scored : ∀ sp ∈ rnd.pairs, 0 ≤ sp.score ∧ sp.score ≤ 1) :
    Summarises (rnd.pairs.map (·.score)) (roundReport rnd) := by
  have bounded := bounded_scores scored
  have nonempty : rnd.pairs.map (·.score) ≠ [] := by simpa using nonempty
  refine ⟨?_, percentile10_spec nonempty bounded⟩
  simp only [roundReport, List.isEmpty_iff, if_neg nonempty]
  exact mean_close nonempty (by simpa using few) bounded

theorem ValidRound.report (valid : ValidRound pids rnd) : ValidRoundReport pids (roundReport rnd) where
  pairs := valid.pairCount
  bye := valid.parity
  zeroTag := List.countP_le_length
  percentile := percentile10_between (bounded_scores valid.scored)

theorem not_empty_of_uuid {pid : String} (valid : (uuidValue pid).isSome) : pid ≠ "" := by
  intro empty
  rw [empty] at valid
  exact absurd valid (by decide)

/-- Every bye of an accepted schedule is counted. -/
theorem countedByes_of_valid (ids : DistinctUuids pids) (valid : ValidSchedule pids numRounds schedule) :
    countedByes schedule.rounds = schedule.rounds.filterMap (·.unmatchedPid) := by
  refine List.filter_eq_self.mpr fun pid member => ?_
  obtain ⟨rnd, inRounds, bye⟩ := List.mem_filterMap.mp member
  have known : pid ∈ pids := by
    apply ((valid.rounds rnd inRounds).everyone pid).mp
    exact List.mem_append_right _ (by simp [bye])
  simpa using not_empty_of_uuid (ids.valid pid known)

theorem nodup_byes (valid : ValidSchedule pids numRounds schedule) :
    (schedule.rounds.filterMap (·.unmatchedPid)).Nodup := by
  refine List.pairwise_filterMap.mpr (valid.byes.imp fun {r s} apart pid bye pid' bye' same => ?_)
  subst same
  exact apart pid bye bye'

theorem length_byes (valid : ValidSchedule pids numRounds schedule) :
    (schedule.rounds.filterMap (·.unmatchedPid)).length = if pids.card % 2 = 1 then numRounds.toNat else 0 := by
  have rounds : schedule.rounds.length = numRounds.toNat := by
    have length := valid.numbers.length_eq
    rwa [List.length_map, length_roundNumbers] at length
  have parity : ∀ rnd ∈ schedule.rounds, (rnd.unmatchedPid.isSome ↔ pids.card % 2 = 1) := fun rnd member =>
    (valid.rounds rnd member).parity
  rw [List.length_filterMap_eq_countP]
  split
  next odd =>
    rw [← rounds, List.countP_eq_length]
    exact fun rnd member => (parity rnd member).mpr odd
  next even =>
    rw [List.countP_eq_zero]
    exact fun rnd member bye => even ((parity rnd member).mp bye)

theorem validReport_of_reports (ids : DistinctUuids pids) (valid : ValidSchedule pids numRounds schedule)
    {report : MatchingReport} (reports : Reports schedule.rounds report) (canLock : report.canLock = true) :
    ValidReport pids numRounds report := by
  have counted := countedByes_of_valid ids valid
  have nodup := nodup_byes valid
  have keys : (report.byeDistribution.map (·.1)).Perm (schedule.rounds.filterMap (·.unmatchedPid)) :=
    (List.perm_ext_iff_of_nodup reports.keys nodup).mpr fun pid => by rw [reports.listed, counted]
  have length : schedule.rounds.length = numRounds.toNat := by
    have same := valid.numbers.length_eq
    rwa [List.length_map, length_roundNumbers] at same
  refine ⟨canLock, ?_, ?_, ?_, ?_, ?_, ?_⟩
  · rw [reports.each, List.map_map]
    exact valid.numbers
  · intro r member
    rw [reports.each] at member
    obtain ⟨rnd, inRounds, rfl⟩ := List.mem_map.mp member
    exact (valid.rounds rnd inRounds).report
  · have constant : schedule.rounds.map (·.pairs.length) = schedule.rounds.map fun _ => pids.card / 2 :=
      List.map_congr_left fun rnd member => (valid.rounds rnd member).pairCount
    rw [reports.pairs, constant, List.map_const', List.sum_replicate, length, smul_eq_mul]
  · rw [reports.zeroTag, reports.each, List.countP_flatMap, List.map_map]
    rfl
  · rw [← length_byes valid, ← keys.length_eq, List.length_map]
  · intro item member
    obtain ⟨pid, count⟩ := item
    have inByes : pid ∈ schedule.rounds.filterMap (·.unmatchedPid) :=
      keys.mem_iff.mp (List.mem_map_of_mem member)
    obtain ⟨rnd, inRounds, bye⟩ := List.mem_filterMap.mp inByes
    have known := ((valid.rounds rnd inRounds).everyone pid).mp (List.mem_append_right _ (by simp [bye]))
    have counts := reports.counts pid
    rw [(Dict.mem_iff_get? reports.keys).mp member, counted, nodup.count, if_pos inByes] at counts
    exact ⟨known, counts⟩

/-- The report of every schedule counts what is in it, and up to rounding its means are the means
    and at most every tenth score, and one more, lies below its percentiles.  The report of an
    accepted schedule, and of no other, can be locked; it has all rounds, as many pairs as fit in
    each, and one bye in each round of an odd event and none otherwise. -/
theorem buildReport_valid (pids : Finset String) (ids : DistinctUuids pids) (numRounds : Int) (nonneg : 0 ≤ numRounds)
    (schedule : GeneratedSchedule) (violations : List ScheduleViolation)
    (checked : validateSchedule schedule pids numRounds = violations) :
    Reports schedule.rounds (buildReport schedule violations) ∧
      (∀ rnd ∈ schedule.rounds, rnd.pairs ≠ [] → rnd.pairs.length ≤ 2 ^ 26 →
        (∀ sp ∈ rnd.pairs, 0 ≤ sp.score ∧ sp.score ≤ 1) → Summarises (rnd.pairs.map (·.score)) (roundReport rnd)) ∧
      ((buildReport schedule violations).canLock = true ↔ ValidSchedule pids numRounds schedule) ∧
      (ValidSchedule pids numRounds schedule → ValidReport pids numRounds (buildReport schedule violations)) := by
  have reports := buildReport_reports schedule violations
  have lock : (buildReport schedule violations).canLock = true ↔ ValidSchedule pids numRounds schedule := by
    rw [canLock_buildReport, List.isEmpty_iff, ← checked]
    exact ⟨validSchedule_of_accepted ids nonneg, fun valid => valid.accepted ids nonneg⟩
  exact ⟨reports, fun _ _ => summarises_roundReport, lock,
    fun valid => validReport_of_reports ids valid reports (lock.mpr valid)⟩

end Accepted

/-- The double next to a third. -/
def third : ℚ := toDouble (1 / 3)

def fourPids : Finset String :=
  {"00000000-0000-0000-0000-000000000001", "00000000-0000-0000-0000-000000000002",
    "00000000-0000-0000-0000-000000000003", "00000000-0000-0000-0000-000000000004"}

def thirdsSchedule : GeneratedSchedule where
  rounds := [{
    number := 1
    pairs := [⟨"00000000-0000-0000-0000-000000000001", "00000000-0000-0000-0000-000000000002", third⟩,
      ⟨"00000000-0000-0000-0000-000000000003", "00000000-0000-0000-0000-000000000004", third⟩]
    unmatchedPid := none }]

theorem buildReport_valid_thirds :
    Reports thirdsSchedule.rounds (buildReport thirdsSchedule []) ∧
      (∀ rnd ∈ thirdsSchedule.rounds, rnd.pairs ≠ [] → rnd.pairs.length ≤ 2 ^ 26 →
        (∀ sp ∈ rnd.pairs, 0 ≤ sp.score ∧ sp.score ≤ 1) → Summarises (rnd.pairs.map (·.score)) (roundReport rnd)) ∧
      ((buildReport thirdsSchedule []).canLock = true ↔ ValidSchedule fourPids 1 thirdsSchedule) ∧
      (ValidSchedule fourPids 1 thirdsSchedule → ValidReport fourPids 1 (buildReport thirdsSchedule [])) :=
  buildReport_valid fourPids ⟨by decide +kernel, by decide +kernel⟩ 1 (by decide) thirdsSchedule [] (by decide +kernel)

-- the percentile of two equal scores may lie above both
example : third < percentile10 [third, third] := by decide +kernel

end EventPlatform.Matching
