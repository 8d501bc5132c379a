import EventPlatform.Presence.Inbound

/-! # The rate limit of a connection

`_within_rate_limit` keeps the times of the calls it has accepted and forgets them from the
front.  What it answers depends on nothing but the calls accepted in the last minute. -/

namespace EventPlatform.Presence

open EventPlatform.Lib

/-! ## The limiter -/

/-- `_within_rate_limit`, with `time.monotonic()` in seconds. -/
def withinRateLimit (limit : Nat) (now : ℚ) (rateTimestamps : List ℚ) : Bool × List ℚ :=
  let rateTimestamps := rateTimestamps.dropWhile (· ≤ now - 60)
  if limit ≤ rateTimestamps.length then (false, rateTimestamps)
  else (true, rateTimestamps ++ [now])

theorem withinRateLimit_eq (limit : Nat) (now : ℚ) (rateTimestamps : List ℚ) :
    withinRateLimit limit now rateTimestamps = SlidingWindow.allow rateWindow limit now rateTimestamps := rfl

/-- The calls accepted so far, and the queue. -/
structure RateLimitHistory where
  accepted : List ℚ
  rateTimestamps : List ℚ

def RateLimitHistory.call (limit : Nat) (history : RateLimitHistory) (now : ℚ) : RateLimitHistory :=
  match withinRateLimit limit now history.rateTimestamps with
  | (true, rateTimestamps) => ⟨history.accepted ++ [now], rateTimestamps⟩
  | (false, rateTimestamps) => ⟨history.accepted, rateTimestamps⟩

/-- After calls at the given times, the first of them on a new connection. -/
def rateLimitHistory (limit : Nat) (times : List ℚ) : RateLimitHistory :=
  times.foldl (RateLimitHistory.call limit) ⟨[], []⟩

variable {limit : Nat} {times : List ℚ} {now : ℚ}

theorem rateLimitHistory_concat (limit : Nat) (times : List ℚ) (now : ℚ) :
    rateLimitHistory limit (times ++ [now]) = (rateLimitHistory limit times).call limit now := by
  simp [rateLimitHistory]

/-- The history is the log of a sliding window of a minute. -/
theorem rateLimitHistory_eq (limit : Nat) (times : List ℚ) : rateLimitHistory limit times =
    ⟨(SlidingWindow.Log.run rateWindow limit times).admitted, (SlidingWindow.Log.run rateWindow limit times).kept⟩ := by
  induction times using List.reverseRecOn with
  | nil => rfl
  | append_singleton times now ih =>
    rw [rateLimitHistory_concat, SlidingWindow.Log.run_concat, ih]
    simp only [RateLimitHistory.call, SlidingWindow.Log.call, withinRateLimit_eq]
    cases answer : SlidingWindow.allow rateWindow limit now (SlidingWindow.Log.run rateWindow limit times).kept with
    | mk accepted kept => cases accepted <;> rfl

theorem rateWindow_pos : 0 < rateWindow := by decide +kernel

/-! ## What a call is answered -/

/-- The queue is exactly the accepted times that had not expired at the last call. -/
theorem rateTimestamps_call (ordered : (times ++ [now]).Pairwise (· ≤ ·)) :
    (rateLimitHistory limit (times ++ [now])).rateTimestamps =
      (rateLimitHistory limit (times ++ [now])).accepted.filter (now - 60 < ·) := by
  rw [rateLimitHistory_eq]
  exact SlidingWindow.Log.kept_call rateWindow_pos ordered

theorem withinRateLimit_iff (ordered : (times ++ [now]).Pairwise (· ≤ ·)) :
    (withinRateLimit limit now (rateLimitHistory limit times).rateTimestamps).1 = true ↔
      ((rateLimitHistory limit times).accepted.filter fun t => now - 60 < t ∧ t ≤ now).length < limit := by
  obtain ⟨before, -, upTo⟩ := List.pairwise_append.mp ordered
  have keeps : SlidingWindow.Keeps rateWindow limit now (SlidingWindow.Log.run rateWindow limit times).admitted
      (SlidingWindow.Log.run rateWindow limit times).kept :=
    .run rateWindow_pos before fun t member => upTo t member now List.mem_cons_self
  rw [rateLimitHistory_eq]
  exact keeps.admits_iff (le_refl now)

/-- Of calls at times that never go back, one is accepted exactly when fewer than the limit
    have been accepted in the minute before it; no minute holds more accepted calls than
    that, and the queue is what has not expired, in order. -/
theorem rateLimit_slidingWindow (limit : Nat) (times : List ℚ) (ordered : times.Pairwise (· ≤ ·)) :
    (∀ before now after, times = before ++ now :: after →
      ((withinRateLimit limit now (rateLimitHistory limit before).rateTimestamps).1 = true ↔
        ((rateLimitHistory limit before).accepted.filter fun t => now - 60 < t ∧ t ≤ now).length < limit) ∧
      (rateLimitHistory limit (before ++ [now])).rateTimestamps =
        (rateLimitHistory limit (before ++ [now])).accepted.filter (now - 60 < ·)) ∧
    (∀ last, ((rateLimitHistory limit times).accepted.filter fun t => last - 60 < t ∧ t ≤ last).length ≤ limit) ∧
    (∀ first, ((rateLimitHistory limit times).accepted.filter fun t => first ≤ t ∧ t < first + 60).length ≤ limit) ∧
    (rateLimitHistory limit times).accepted.Sublist times := by
  have keeps : ∃ last, SlidingWindow.Keeps rateWindow limit last (rateLimitHistory limit times).accepted
      (rateLimitHistory limit times).rateTimestamps := by
    rw [rateLimitHistory_eq]
    -- the queue is as the last call has left it
    cases final : times.getLast? with
    | none =>
      rw [List.getLast?_eq_none_iff.mp final]
      exact ⟨0, .nil rateWindow limit 0⟩
    | some last =>
      obtain ⟨before, rfl⟩ := List.getLast?_eq_some_iff.mp final
      refine ⟨last, .run rateWindow_pos ordered fun t member => ?_⟩
      cases List.mem_append.mp member with
      | inl earlier => exact (List.pairwise_append.mp ordered).2.2 t earlier last List.mem_cons_self
      | inr here => rw [List.mem_singleton.mp here]
  obtain ⟨last, keeps⟩ := keeps
  refine ⟨?_, keeps.sparse, keeps.sparse_from, ?_⟩
  · rintro before now after rfl
    have upTo : (before ++ [now]).Pairwise (· ≤ ·) := ordered.sublist (by simp)
    exact ⟨withinRateLimit_iff upTo, rateTimestamps_call upTo⟩
  · rw [rateLimitHistory_eq]
    exact SlidingWindow.Log.admitted_sublist times

/-- Three calls at once, and three when the first minute is over to the second. -/
def minuteApart : List ℚ := [0, 0, 0, 60, 60, 61]

theorem rateLimit_minuteApart :
    (withinRateLimit 2 60 (rateLimitHistory 2 [0, 0, 0]).rateTimestamps).1 = true ∧
      (rateLimitHistory 2 minuteApart).accepted = [0, 0, 60, 60] ∧
      ∀ last, ((rateLimitHistory 2 minuteApart).accepted.filter fun t => last - 60 < t ∧ t ≤ last).length ≤ 2 := by
  have limited := rateLimit_slidingWindow 2 minuteApart (by decide +kernel)
  exact ⟨(limited.1 [0, 0, 0] 60 [60, 61] rfl).1.mpr (by decide +kernel), by decide +kernel, limited.2.1⟩

end EventPlatform.Presence
