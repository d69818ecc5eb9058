import Mathlib
import TopicBridge.Relay.Breaker

/-!
# Runs of a circuit breaker

What holds of a breaker after **any** run of calls from `TopicBridge.Relay.Breaker.new`:
`acquire`, `ready` and `state` calls, success and failure reports in any order – stale
reports of calls admitted long before included – each made at any reading of the clock.

## The single probe

`TopicBridge.Relay.Breaker.single_probe`: in every reachable state the probe is out
exactly when the breaker is half-open, so `ready` is false all through the half-open
state; and from a breaker that is not closed at most one `acquire` is granted before the
next report. The invariant is `TopicBridge.Relay.Breaker.ProbeHeld`, kept by every call.

## The cool-down

`TopicBridge.Relay.Breaker.cool_down`: an open breaker admits a call exactly when the
clock is strictly past the most recent failure plus the cool-down. Nothing in `onFailure`
says so directly. A trip does not reset the count of consecutive failures, so a breaker
that is not closed has its count at the threshold or above
(`TopicBridge.Relay.Breaker.Counted`), and every failure reported while it is not closed
trips it again (`TopicBridge.Relay.Breaker.onFailure_trips`). That needs the count not
to have wrapped around, which holds for runs of fewer than `2⁶³` failures.
-/

namespace TopicBridge.Relay.Breaker

open TopicBridge.Num

/-! ### Observing a run -/

/-- Whether a call reports the outcome of an admitted call. -/
def Call.reports : Call → Bool
  | .success => true
  | .failure _ => true
  | _ => false

/-- Whether a call is an `acquire` that the breaker grants. -/
def Call.granted (b : Breaker) : Call → Bool
  | .acquire now => (b.acquire now).1
  | _ => false

/-- The number of `acquire` calls of a run that are granted. -/
def admitted : Breaker → List Call → Nat
  | _, [] => 0
  | b, c :: cs => (if c.granted b then 1 else 0) + admitted (b.call c) cs

/-- Whether a call is a failure report, as a number. -/
def Call.failureCount : Call → Nat
  | .failure _ => 1
  | _ => 0

/-- The number of failures a run reports. -/
def failures (calls : List Call) : Nat := (calls.map Call.failureCount).sum

/-- The instant of the most recent failure, once a call is made. -/
def Call.noteFailure (last : Option Int) : Call → Option Int
  | .failure now => some now
  | _ => last

/-- The instant of the most recent failure a run reports, if it reports one. -/
def lastFailure (calls : List Call) : Option Int := calls.foldl Call.noteFailure none

@[simp] theorem admitted_nil (b : Breaker) : admitted b [] = 0 := rfl

@[simp] theorem admitted_cons (b : Breaker) (c : Call) (cs : List Call) :
    admitted b (c :: cs) = (if c.granted b then 1 else 0) + admitted (b.call c) cs := rfl

@[simp] theorem failures_nil : failures [] = 0 := rfl

@[simp] theorem failures_cons (c : Call) (cs : List Call) :
    failures (c :: cs) = c.failureCount + failures cs := by
  simp [failures]

/-! ### The probe -/

/-- The probe is out exactly when the breaker is half-open. -/
def ProbeHeld (b : Breaker) : Prop := b.probing = true ↔ b.state = .halfOpen

theorem probeHeld_new (threshold openFor : Int) : ProbeHeld (new threshold openFor) := by
  simp [ProbeHeld]

/-- Every call keeps the probe and the half-open state together. -/
theorem ProbeHeld.call {b : Breaker} (h : ProbeHeld b) (c : Call) : ProbeHeld (b.call c) := by
  cases c with
  | acquire now =>
    rw [Breaker.call, acquire_snd]
    split
    · simp [ProbeHeld]
    · exact h
  | ready _ => exact h
  | state => exact h
  | success => simp [ProbeHeld, Breaker.call]
  | failure now =>
    -- the probe is given back, and a failure never leaves the breaker half-open
    simp [ProbeHeld, Breaker.call, onFailure_state_ne_halfOpen]

theorem ProbeHeld.run {b : Breaker} (h : ProbeHeld b) (calls : List Call) :
    ProbeHeld (b.run calls) := by
  induction calls generalizing b with
  | nil => exact h
  | cons c cs ih => exact ih (h.call c)

/-- While the probe is out, nothing is admitted. -/
theorem ready_eq_false_of_halfOpen {b : Breaker} (h : ProbeHeld b) (hs : b.state = .halfOpen)
    (now : Int) : b.ready now = false := by
  have hp : b.probing = true := h.mpr hs
  simp [hs, hp]

/-- A refused `acquire` leaves the breaker as it was. -/
theorem call_acquire_of_not_ready {b : Breaker} {now : Int} (h : b.ready now = false) :
    b.call (.acquire now) = b := by
  simp [Breaker.call, acquire_snd, h]

/-- A call that neither reports nor is granted leaves the breaker as it was. -/
theorem call_eq_of_not_granted {b : Breaker} {c : Call} (hq : c.reports = false)
    (hg : c.granted b = false) : b.call c = b := by
  cases c with
  | acquire now => exact call_acquire_of_not_ready (by simpa [Call.granted] using hg)
  | ready _ => rfl
  | state => rfl
  | success => simp [Call.reports] at hq
  | failure _ => simp [Call.reports] at hq

/-- A call granted by a breaker that is not closed hands out the probe. -/
theorem call_eq_of_granted {b : Breaker} {c : Call} (hs : b.state ≠ .closed)
    (hg : c.granted b = true) : b.call c = { b with state := .halfOpen, probing := true } := by
  cases c with
  | acquire now =>
    have hr : b.ready now = true := by simpa [Call.granted] using hg
    simp [Breaker.call, acquire_snd, hr, hs]
  | _ => simp [Call.granted] at hg

/-- A half-open breaker with its probe out grants nothing until a report comes. -/
theorem admitted_of_probing {b : Breaker} (hs : b.state = .halfOpen) (hp : b.probing = true)
    {calls : List Call} (hq : ∀ c ∈ calls, c.reports = false) : admitted b calls = 0 := by
  induction calls with
  | nil => rfl
  | cons c cs ih =>
    have hcs : ∀ c ∈ cs, c.reports = false := fun c hc => hq c (List.mem_cons_of_mem _ hc)
    -- with the probe out nothing is granted, so nothing changes
    have hg : c.granted b = false := by
      cases c <;> simp [Call.granted, hs, hp]
    simp [hg, call_eq_of_not_granted (hq c List.mem_cons_self) hg, ih hcs]

/-- From a breaker that is not closed, at most one `acquire` is granted until a report
comes: the first one granted hands out the probe, which blocks all others. -/
theorem admitted_le_one {b : Breaker} (hs : b.state ≠ .closed) {calls : List Call}
    (hq : ∀ c ∈ calls, c.reports = false) : admitted b calls ≤ 1 := by
  induction calls with
  | nil => simp
  | cons c cs ih =>
    have hcs : ∀ c ∈ cs, c.reports = false := fun c hc => hq c (List.mem_cons_of_mem _ hc)
    cases hg : c.granted b
    · simpa [hg, call_eq_of_not_granted (hq c List.mem_cons_self) hg] using ih hcs
    · -- the probe is handed out: the rest of the run grants nothing
      have h0 : admitted (b.call c) cs = 0 := by
        rw [call_eq_of_granted hs hg]
        exact admitted_of_probing rfl rfl hcs
      simp [hg, h0]

/-- **The single probe.** In every state a run reaches from a new breaker, the probe is out
exactly when the breaker is half-open, so `ready` is false throughout the half-open state;
and once the breaker is not closed, at most one `acquire` is granted until the next
success or failure is reported. -/
theorem single_probe (threshold openFor : Int) (calls : List Call) :
    let b := (new threshold openFor).run calls
    (b.probing = true ↔ b.state = .halfOpen) ∧
      (b.state = .halfOpen → ∀ now, b.ready now = false) ∧
      (b.state ≠ .closed → ∀ rest : List Call, (∀ c ∈ rest, c.reports = false) →
        admitted b rest ≤ 1) := by
  intro b
  have h : ProbeHeld b := (probeHeld_new threshold openFor).run calls
  exact ⟨h, ready_eq_false_of_halfOpen h, fun hs _ hq => admitted_le_one hs hq⟩

/-- A probe handed out after the cool-down blocks every later `acquire` and `ready`. -/
theorem single_probe_after_cool_down :
    ((new 1 1000).run [.failure 0, .acquire 2000]).state = .halfOpen ∧
      (∀ now, ((new 1 1000).run [.failure 0, .acquire 2000]).ready now = false) ∧
      admitted ((new 1 1000).run [.failure 0, .acquire 2000])
        [.acquire 2001, .ready 2002, .state, .acquire 5000] ≤ 1 := by
  have h := single_probe 1 1000 [.failure 0, .acquire 2000]
  have hs : ((new 1 1000).run [.failure 0, .acquire 2000]).state = .halfOpen := by decide
  exact ⟨hs, h.2.1 hs, h.2.2 (by rw [hs]; decide) _ (by decide)⟩

/-! ### The cool-down -/

/-- The invariant behind the cool-down, after a run that has reported `n` failures. The
count of consecutive failures lies between `0` and `n`, so it has not wrapped around; and
a breaker that is not closed has its count at the threshold or above, since a trip does
not reset it. -/
structure Counted (n : Nat) (b : Breaker) : Prop where
  /-- The threshold is positive. -/
  threshold_pos : 0 < b.threshold
  /-- The count is not negative. -/
  fails_nonneg : 0 ≤ b.fails
  /-- The count is at most the number of failures reported. -/
  fails_le : b.fails ≤ n
  /-- A breaker that is not closed has reached its threshold. -/
  tripped : b.state ≠ .closed → b.threshold ≤ b.fails

theorem counted_new (threshold openFor : Int) : Counted 0 (new threshold openFor) :=
  ⟨new_threshold_pos threshold openFor, by simp, by simp, fun h => absurd rfl h⟩

/-- Counting one more failure does not wrap around while the run stays short. -/
theorem Counted.wrap64_succ {n : Nat} {b : Breaker} (hc : Counted n b) (hn : n + 1 < 2 ^ 63) :
    wrap64 (b.fails + 1) = b.fails + 1 := by
  have h0 := hc.fails_nonneg
  have h1 := hc.fails_le
  exact wrap64_small _ (by omega) (by omega)

/-- **A failure reported while the breaker is not closed trips it again**, from the
instant of the failure: a failed probe by the half-open rule, and any other failure
because the count is already at the threshold. -/
theorem onFailure_trips {n : Nat} {b : Breaker} (hc : Counted n b) (hn : n + 1 < 2 ^ 63)
    (hs : b.state ≠ .closed) (now : Int) :
    (b.onFailure now).state = .opened ∧ (b.onFailure now).retryAt = now + b.openFor := by
  by_cases hh : b.state = .halfOpen
  · simp [onFailure_of_halfOpen b now hh]
  · have ht : b.threshold ≤ wrap64 (b.fails + 1) := by
      rw [hc.wrap64_succ hn]
      have := hc.tripped hs
      omega
    simp [onFailure_of_ne_halfOpen b now hh, ht]

/-- Every call keeps the invariant, the failure count growing with the failures reported. -/
theorem Counted.call {n : Nat} {b : Breaker} (hc : Counted n b) (c : Call)
    (hn : n + c.failureCount < 2 ^ 63) : Counted (n + c.failureCount) (b.call c) := by
  cases c with
  | acquire now =>
    -- only the state may change, and only on a breaker that is not closed
    rw [Breaker.call, acquire_snd]
    split
    · next h =>
      have hs : b.state ≠ .closed := by
        simp at h
        exact h.2
      exact ⟨hc.threshold_pos, hc.fails_nonneg, hc.fails_le, fun _ => hc.tripped hs⟩
    · exact hc
  | ready _ => exact hc
  | state => exact hc
  | success =>
    exact ⟨hc.threshold_pos, by simp [Breaker.call], by simp [Breaker.call]; omega,
      fun h => absurd rfl h⟩
  | failure now =>
    have hn1 : n + 1 < 2 ^ 63 := by simpa [Call.failureCount] using hn
    have hle := hc.fails_le
    by_cases hh : b.state = .halfOpen
    · rw [Breaker.call, onFailure_of_halfOpen b now hh]
      exact ⟨hc.threshold_pos, hc.fails_nonneg, by simp [Call.failureCount]; omega,
        fun _ => hc.tripped (by simp [hh])⟩
    · have hw := hc.wrap64_succ hn1
      have h0 := hc.fails_nonneg
      rw [Breaker.call, onFailure_of_ne_halfOpen b now hh, hw]
      split
      · next ht =>
        exact ⟨hc.threshold_pos, by simp; omega, by simp [Call.failureCount]; omega, fun _ => ht⟩
      · next ht =>
        -- the state is kept, and it is closed: an open breaker would have tripped again
        have hcl : b.state = .closed := Classical.byContradiction fun hs => by
          have := hc.tripped hs
          omega
        refine ⟨hc.threshold_pos, ?_, ?_, fun h => absurd hcl h⟩ <;>
          simp [Call.failureCount] <;> omega

theorem Counted.run {n : Nat} {b : Breaker} (hc : Counted n b) (calls : List Call)
    (hn : n + failures calls < 2 ^ 63) : Counted (n + failures calls) (b.run calls) := by
  induction calls generalizing n b with
  | nil => simpa using hc
  | cons c cs ih =>
    simp only [failures_cons] at hn
    rw [run_cons, failures_cons, ← Nat.add_assoc]
    exact ih (hc.call c (by omega)) (by omega)

/-- An open breaker waits out its cool-down from the most recent failure, `last`. -/
def CoolsFrom (last : Option Int) (b : Breaker) : Prop :=
  b.state = .opened → ∃ tf, last = some tf ∧ b.retryAt = tf + b.openFor

theorem coolsFrom_new (threshold openFor : Int) : CoolsFrom none (new threshold openFor) := by
  simp [CoolsFrom]

/-- Every call keeps the cool-down running from the most recent failure. -/
theorem CoolsFrom.call {n : Nat} {b : Breaker} {last : Option Int} (h : CoolsFrom last b)
    (hc : Counted n b) (c : Call) (hn : n + c.failureCount < 2 ^ 63) :
    CoolsFrom (c.noteFailure last) (b.call c) := by
  cases c with
  | acquire now =>
    rw [Breaker.call, acquire_snd]
    split
    · simp [CoolsFrom]
    · exact h
  | ready _ => exact h
  | state => exact h
  | success => simp [CoolsFrom, Breaker.call]
  | failure now =>
    intro ho
    refine ⟨now, rfl, ?_⟩
    have hn1 : n + 1 < 2 ^ 63 := by simpa [Call.failureCount] using hn
    by_cases hs : b.state = .closed
    · -- a closed breaker is left open only by a trip, which starts at the failure
      have hh : b.state ≠ .halfOpen := by simp [hs]
      rw [Breaker.call, onFailure_of_ne_halfOpen b now hh] at ho ⊢
      split
      · rfl
      · next ht => simp [ht, hs] at ho
    · simp [Breaker.call, (onFailure_trips hc hn1 hs now).2]

theorem CoolsFrom.run {n : Nat} {b : Breaker} {last : Option Int} (h : CoolsFrom last b)
    (hc : Counted n b) (calls : List Call) (hn : n + failures calls < 2 ^ 63) :
    CoolsFrom (calls.foldl Call.noteFailure last) (b.run calls) := by
  induction calls generalizing n b last with
  | nil => exact h
  | cons c cs ih =>
    simp only [failures_cons] at hn
    have hn1 : n + c.failureCount < 2 ^ 63 := by omega
    exact ih (h.call hc c hn1) (hc.call c hn1) (by omega)

/-- **The cool-down.** After any run of fewer than `2⁶³` failures from a new breaker, an
open breaker admits a call – through `ready` or `acquire` – exactly when the clock is
strictly past the most recent failure plus the cool-down, which is the one the breaker was
built with when positive and fifteen seconds otherwise. So no call is admitted within the
cool-down of the last failure, and a stale failure reported while the breaker is open
starts the cool-down again. -/
theorem cool_down (threshold openFor : Int) (calls : List Call)
    (hfew : failures calls < 2 ^ 63) :
    let b := (new threshold openFor).run calls
    b.state = .opened →
      ∃ tf, lastFailure calls = some tf ∧ ∀ now,
        (b.ready now = true ↔ tf + (if 0 < openFor then openFor else 15 * 1000000000) < now) ∧
        ((b.acquire now).1 = true ↔
          tf + (if 0 < openFor then openFor else 15 * 1000000000) < now) := by
  intro b ho
  have hn : 0 + failures calls < 2 ^ 63 := by omega
  obtain ⟨tf, hlast, hretry⟩ :=
    (coolsFrom_new threshold openFor).run (counted_new threshold openFor) calls hn ho
  -- an open breaker has no probe out
  have hp : b.probing = false := by
    have h : ProbeHeld b := (probeHeld_new threshold openFor).run calls
    cases hpb : b.probing
    · rfl
    · have := h.mp hpb
      rw [ho] at this
      cases this
  have hof : b.openFor = if 0 < openFor then openFor else 15 * 1000000000 := by
    simp only [b, run_openFor, new_openFor, defaultOpenFor]
    split <;> split <;> omega
  refine ⟨tf, hlast, fun now => ?_⟩
  have hr : b.ready now = decide (b.retryAt < now) := by simp [ho, hp]
  have hretry : b.retryAt = tf + b.openFor := hretry
  simp [hr, hretry, hof]

/-- A failure reported while the breaker is open restarts its cool-down: after the probe
fails at `2100`, the stale failure at `2500` moves the end of the cool-down to `3500`. -/
theorem stale_failure_restarts_cool_down :
    ((new 2 1000).run [.failure 0, .failure 10, .acquire 2000, .failure 2100, .failure 2500]).state =
        .opened ∧
      ∀ now, ((new 2 1000).run
        [.failure 0, .failure 10, .acquire 2000, .failure 2100, .failure 2500]).ready now = true ↔
          3500 < now := by
  have hs : ((new 2 1000).run
      [.failure 0, .failure 10, .acquire 2000, .failure 2100, .failure 2500]).state = .opened := by
    decide
  obtain ⟨tf, hlast, h⟩ :=
    cool_down 2 1000 [.failure 0, .failure 10, .acquire 2000, .failure 2100, .failure 2500]
      (by decide) hs
  have htf : tf = 2500 := by
    simp only [lastFailure, List.foldl, Call.noteFailure] at hlast
    exact (Option.some.inj hlast).symm
  subst htf
  exact ⟨hs, fun now => by simpa using (h now).1⟩

end TopicBridge.Relay.Breaker
