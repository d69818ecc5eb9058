import Mathlib
import TopicBridge.Proofs.BreakerRuns

/-!
# Failure streaks of a circuit breaker

The **streak** of a run is the number of failures it reports after its last success, or
from its start when it reports none (`TopicBridge.Relay.Breaker.streak`). The breaker keeps
its own count of consecutive failures, and the two are not the same number: a failed probe
opens the breaker again without counting, so the streak can run ahead of the count.

`TopicBridge.Relay.Breaker.closed_iff_short_streak`: after any run of fewer than `2⁶³`
failures from a new breaker, the breaker is closed exactly when its streak is below the
threshold, and exactly when its count is. So from a new breaker exactly `threshold`
failures in a row open it, fewer leave it closed, and a success closes it with the count
back at zero.

## Why the count and the streak agree where it matters

A breaker leaves the closed state only by a trip, and comes back only by a success, so
while it is closed every failure since the last success was counted: the count is the
streak, and it is below the threshold or the last failure would have tripped it. Once it
is not closed, the count is at the threshold or above, since a trip does not reset it,
and the count never runs ahead of the streak. The invariant is
`TopicBridge.Relay.Breaker.Streak`.
-/

namespace TopicBridge.Relay.Breaker

open TopicBridge.Num

/-! ### The streak of a run -/

/-- The streak after one more call: a success ends it, a failure extends it. -/
def Call.extendStreak (k : Nat) : Call → Nat
  | .success => 0
  | .failure _ => k + 1
  | _ => k

/-- The streak after a run, counted on from `k`. -/
def streakFrom (k : Nat) (calls : List Call) : Nat := calls.foldl Call.extendStreak k

/-- The failures a run reports after its last success, or from its start when it reports
none. -/
def streak (calls : List Call) : Nat := streakFrom 0 calls

@[simp] theorem streakFrom_nil (k : Nat) : streakFrom k [] = k := rfl

@[simp] theorem streakFrom_cons (k : Nat) (c : Call) (cs : List Call) :
    streakFrom k (c :: cs) = streakFrom (c.extendStreak k) cs := rfl

/-- A call adds to the streak at most the failure it reports. -/
theorem Call.extendStreak_le (k : Nat) (c : Call) : c.extendStreak k ≤ k + c.failureCount := by
  cases c <;> simp [Call.extendStreak, Call.failureCount]

/-- Failures in a row, at any instants, make a streak of their number. -/
theorem streakFrom_failures (k : Nat) (ts : List Int) :
    streakFrom k (ts.map .failure) = k + ts.length := by
  induction ts generalizing k with
  | nil => simp
  | cons t ts ih =>
    simp only [List.map_cons, streakFrom_cons, Call.extendStreak, ih, List.length_cons]
    omega

theorem failures_failures (ts : List Int) : failures (ts.map .failure) = ts.length := by
  induction ts with
  | nil => rfl
  | cons t ts ih => simp [ih, Call.failureCount, Nat.add_comm]

/-! ### The invariant -/

/-- The invariant of a breaker whose run has the streak `k`. The count of consecutive
failures has not wrapped around and is at most the streak; a closed breaker has counted
the whole streak and is below its threshold; a breaker that is not closed is at the
threshold or above. -/
structure Streak (k : Nat) (b : Breaker) : Prop where
  /-- The threshold is positive. -/
  threshold_pos : 0 < b.threshold
  /-- The count is not negative. -/
  fails_nonneg : 0 ≤ b.fails
  /-- The count is at most the streak. -/
  fails_le : b.fails ≤ k
  /-- A closed breaker has counted the whole streak, and is below its threshold. -/
  closed : b.state = .closed → b.fails = k ∧ b.fails < b.threshold
  /-- A breaker that is not closed has reached its threshold. -/
  tripped : b.state ≠ .closed → b.threshold ≤ b.fails

theorem streak_new (threshold openFor : Int) : Streak 0 (new threshold openFor) :=
  ⟨new_threshold_pos threshold openFor, by simp, by simp,
    fun _ => ⟨by simp, by simpa using new_threshold_pos threshold openFor⟩, fun h => absurd rfl h⟩

/-- The breaker is closed exactly when the streak is below the threshold. -/
theorem Streak.closed_iff_streak {k : Nat} {b : Breaker} (h : Streak k b) :
    b.state = .closed ↔ (k : Int) < b.threshold := by
  constructor
  · intro hs
    obtain ⟨hk, hlt⟩ := h.closed hs
    omega
  · intro hk
    by_contra hs
    have := h.tripped hs
    have := h.fails_le
    omega

/-- The breaker is closed exactly when its count is below the threshold. -/
theorem Streak.closed_iff_fails {k : Nat} {b : Breaker} (h : Streak k b) :
    b.state = .closed ↔ b.fails < b.threshold := by
  constructor
  · exact fun hs => (h.closed hs).2
  · intro hlt
    by_contra hs
    have := h.tripped hs
    omega

/-- A failure while closed is counted on top of the whole streak. -/
theorem Streak.onFailure_of_closed {k : Nat} {b : Breaker} (h : Streak k b)
    (hk : k + 1 < 2 ^ 63) (hs : b.state = .closed) (now : Int) :
    Streak (k + 1) (b.onFailure now) := by
  obtain ⟨hfk, -⟩ := h.closed hs
  have hw : wrap64 (b.fails + 1) = b.fails + 1 :=
    wrap64_small _ (by have := h.fails_nonneg; omega) (by omega)
  have hh : b.state ≠ .halfOpen := by simp [hs]
  have h0 := h.fails_nonneg
  rw [onFailure_of_ne_halfOpen b now hh, hw]
  split
  · next ht =>
    exact ⟨h.threshold_pos, by simp; omega, by simp; omega, by simp, fun _ => ht⟩
  · next ht =>
    -- below the threshold the breaker stays closed, with the failure counted
    exact ⟨h.threshold_pos, by simp; omega, by simp; omega,
      fun _ => ⟨by simp; omega, by simp; omega⟩, fun h' => absurd hs h'⟩

/-- A failure while not closed trips the breaker again, and the count stays at the
threshold or above. -/
theorem Streak.onFailure_of_not_closed {k : Nat} {b : Breaker} (h : Streak k b)
    (hk : k + 1 < 2 ^ 63) (hs : b.state ≠ .closed) (now : Int) :
    Streak (k + 1) (b.onFailure now) := by
  have ht := h.tripped hs
  have hle := h.fails_le
  have hc : Counted k b := ⟨h.threshold_pos, h.fails_nonneg, h.fails_le, h.tripped⟩
  obtain ⟨hopen, -⟩ := onFailure_trips hc hk hs now
  -- a failed probe keeps the count, any other failure adds one to it
  have hfails : (b.onFailure now).fails = b.fails ∨ (b.onFailure now).fails = b.fails + 1 := by
    by_cases hh : b.state = .halfOpen
    · simp [onFailure_of_halfOpen b now hh]
    · right
      rw [onFailure_of_ne_halfOpen b now hh, hc.wrap64_succ hk]
      split <;> rfl
  have h0 := h.fails_nonneg
  refine ⟨by simpa using h.threshold_pos, by omega, by omega, fun hc' => ?_, fun _ => ?_⟩
  · simp [hopen] at hc'
  · simp only [onFailure_threshold]
    omega

/-- **Every call keeps the invariant**, the streak moving as the call says. -/
theorem Streak.call {k : Nat} {b : Breaker} (h : Streak k b) (c : Call)
    (hk : k + c.failureCount < 2 ^ 63) : Streak (c.extendStreak k) (b.call c) := by
  cases c with
  | acquire now =>
    -- only an open breaker moves, to half-open, and the count stays
    rw [Breaker.call, acquire_snd]
    split
    · next hr =>
      have hs : b.state ≠ .closed := by
        simp at hr
        exact hr.2
      exact ⟨h.threshold_pos, h.fails_nonneg, h.fails_le, fun h' => absurd h' (by simp),
        fun _ => h.tripped hs⟩
    · exact h
  | ready _ => exact h
  | state => exact h
  | success =>
    exact ⟨h.threshold_pos, by simp [Breaker.call], by simp [Breaker.call, Call.extendStreak],
      fun _ => ⟨by simp [Breaker.call, Call.extendStreak],
        by simpa [Breaker.call] using h.threshold_pos⟩,
      fun h' => absurd rfl h'⟩
  | failure now =>
    have hk1 : k + 1 < 2 ^ 63 := by simpa [Call.failureCount] using hk
    by_cases hs : b.state = .closed
    · exact h.onFailure_of_closed hk1 hs now
    · exact h.onFailure_of_not_closed hk1 hs now

theorem Streak.run {k : Nat} {b : Breaker} (h : Streak k b) (calls : List Call)
    (hk : k + failures calls < 2 ^ 63) : Streak (streakFrom k calls) (b.run calls) := by
  induction calls generalizing k b with
  | nil => exact h
  | cons c cs ih =>
    simp only [failures_cons] at hk
    have hc := c.extendStreak_le k
    exact ih (h.call c (by omega)) (by omega)

/-! ### The closed state -/

/-- **Closed exactly on a short streak.** After any run of fewer than `2⁶³` failures from a
new breaker, with the threshold it was built with (three when not positive): the breaker
is closed exactly when the failures reported since the last success, or since it was
built, are fewer than the threshold, and exactly when its count of consecutive failures
is. In particular, from a new breaker failures in a row open it exactly when there are
`threshold` of them, and a success closes any breaker with its count back at zero. -/
theorem closed_iff_short_streak (threshold openFor : Int) (calls : List Call)
    (hfew : failures calls < 2 ^ 63) :
    let b := (new threshold openFor).run calls
    let limit := if threshold ≤ 0 then 3 else threshold
    b.threshold = limit ∧
      (b.state = .closed ↔ (streak calls : Int) < limit) ∧
      (b.state = .closed ↔ b.fails < limit) ∧
      (∀ ts : List Int, ts.length < 2 ^ 63 →
        (((new threshold openFor).run (ts.map .failure)).state = .closed ↔
          (ts.length : Int) < limit)) ∧
      ((new threshold openFor).run (calls ++ [.success])).state = .closed ∧
      ((new threshold openFor).run (calls ++ [.success])).fails = 0 := by
  intro b limit
  have hlimit : b.threshold = limit := by simp [b, limit, defaultThreshold]
  have hrun : Streak (streak calls) b :=
    (streak_new threshold openFor).run calls (by simpa using hfew)
  refine ⟨hlimit, hlimit ▸ hrun.closed_iff_streak, hlimit ▸ hrun.closed_iff_fails,
    fun ts hts => ?_, by simp [run_append, Breaker.call], by simp [run_append, Breaker.call]⟩
  -- failures in a row: the streak is their number
  have hts' : 0 + failures (ts.map .failure) < 2 ^ 63 := by rwa [failures_failures, Nat.zero_add]
  rw [((streak_new threshold openFor).run _ hts').closed_iff_streak, streakFrom_failures]
  simp [limit, defaultThreshold]

/-- A breaker built with a threshold of zero takes three: after a success, three more
failures open it, a refused `acquire` between them changing nothing. -/
theorem third_failure_opens :
    failures [.failure 1, .success, .failure 2, .failure 3, .acquire 4, .failure 5] < 2 ^ 63 ∧
      streak [.failure 1, .success, .failure 2, .failure 3, .acquire 4, .failure 5] = 3 ∧
      ((new 0 0).run [.failure 1, .success, .failure 2, .failure 3, .acquire 4, .failure 5]).state ≠
        .closed := by
  have hfew : failures [.failure 1, .success, .failure 2, .failure 3, .acquire 4, .failure 5] <
      2 ^ 63 := by decide
  obtain ⟨-, hclosed, -⟩ := closed_iff_short_streak 0 0
    [.failure 1, .success, .failure 2, .failure 3, .acquire 4, .failure 5] hfew
  have hstreak :
      streak [.failure 1, .success, .failure 2, .failure 3, .acquire 4, .failure 5] = 3 := by
    decide
  refine ⟨hfew, hstreak, fun hs => ?_⟩
  have := hclosed.mp hs
  simp [hstreak] at this

end TopicBridge.Relay.Breaker
