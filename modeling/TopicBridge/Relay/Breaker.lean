import TopicBridge.Num.Word

/-!
# Circuit breakers

A **breaker** guards one sink. It is **closed** while calls go through; after `threshold`
consecutive failures it **opens** until `openFor` nanoseconds have passed. Then one call –
the **probe** – is let through and the breaker is **half-open**: a success closes it, a
failure opens it again for another `openFor`. While the probe is out nothing else is let
through.

The breaker holds no clock: every operation that looks at time is given the current
instant, in nanoseconds. The count of consecutive failures is a 64-bit integer, and wraps
around as one.

* `ready` answers whether a call would be admitted, without taking the probe slot;
* `acquire` admits a call, moving an open breaker past its cool-down to half-open;
* `onSuccess` and `onFailure` report how the admitted call went.

A **run** is a sequence of such calls (`TopicBridge.Relay.Breaker.Call`), each one that
reads the clock carrying the instant it is made at; `TopicBridge.Relay.Breaker.run` is the
breaker after it.
-/

namespace TopicBridge.Relay

open TopicBridge.Num

/-- The three states of a breaker. -/
inductive BreakerState where
  /-- Calls go through. -/
  | closed
  /-- Calls are refused until the cool-down ends. -/
  | opened
  /-- One probe call is allowed through. -/
  | halfOpen
  deriving Repr, DecidableEq, Inhabited

/-- The word of a state. -/
def BreakerState.label : BreakerState → String
  | .closed => "closed"
  | .opened => "open"
  | .halfOpen => "half-open"

/-- A breaker's state. -/
structure Breaker where
  /-- Consecutive failures that open the breaker; positive. -/
  threshold : Int
  /-- The cool-down, in nanoseconds; positive. -/
  openFor : Int
  /-- The current state. -/
  state : BreakerState := .closed
  /-- Consecutive failures so far, a 64-bit count. -/
  fails : Int := 0
  /-- The instant after which an open breaker lets a probe through. -/
  retryAt : Int := 0
  /-- Whether the probe is out. -/
  probing : Bool := false
  deriving Repr, DecidableEq, Inhabited

namespace Breaker

/-- The default threshold. -/
def defaultThreshold : Int := 3

/-- The default cool-down: fifteen seconds. -/
def defaultOpenFor : Int := 15 * 1000000000

/-- A closed breaker; a threshold or cool-down that is not positive takes its default. -/
def new (threshold : Int) (openFor : Int) : Breaker :=
  { threshold := if threshold ≤ 0 then defaultThreshold else threshold,
    openFor := if openFor ≤ 0 then defaultOpenFor else openFor }

/-- Whether a call would be admitted at an instant. -/
def ready (b : Breaker) (now : Int) : Bool :=
  match b.state with
  | .opened => !b.probing && now > b.retryAt
  | .halfOpen => !b.probing
  | .closed => true

/-- Admits a call at an instant, if the breaker allows one; a breaker that is not
closed hands out its probe. -/
def acquire (b : Breaker) (now : Int) : Bool × Breaker :=
  if !b.ready now then (false, b)
  else if b.state == .closed then (true, b)
  else (true, { b with state := .halfOpen, probing := true })

/-- Opens the breaker for a cool-down from an instant. -/
def trip (b : Breaker) (now : Int) : Breaker :=
  { b with state := .opened, retryAt := now + b.openFor }

/-- Reports a successful call: closed, with no failures counted. -/
def onSuccess (b : Breaker) : Breaker :=
  { b with fails := 0, state := .closed, probing := false }

/-- Reports a failed call at an instant: a failed probe opens the breaker again, and
otherwise the failure is counted and the breaker opens at the threshold. -/
def onFailure (b : Breaker) (now : Int) : Breaker :=
  let b := { b with probing := false }
  if b.state == .halfOpen then b.trip now
  else
    let b := { b with fails := wrap64 (b.fails + 1) }
    if b.fails ≥ b.threshold then b.trip now else b

/-! ### What each operation changes -/

section Operations

variable (b : Breaker) (now : Int)

@[simp] theorem new_state (threshold openFor : Int) : (new threshold openFor).state = .closed :=
  rfl

@[simp] theorem new_probing (threshold openFor : Int) : (new threshold openFor).probing = false :=
  rfl

@[simp] theorem new_fails (threshold openFor : Int) : (new threshold openFor).fails = 0 := rfl

@[simp] theorem new_openFor (threshold openFor : Int) :
    (new threshold openFor).openFor = if openFor ≤ 0 then defaultOpenFor else openFor := rfl

@[simp] theorem new_threshold (threshold openFor : Int) :
    (new threshold openFor).threshold = if threshold ≤ 0 then defaultThreshold else threshold :=
  rfl

theorem new_threshold_pos (threshold openFor : Int) : 0 < (new threshold openFor).threshold := by
  simp only [new, defaultThreshold]
  split <;> omega

@[simp] theorem ready_closed (h : b.state = .closed) : b.ready now = true := by
  simp [ready, h]

@[simp] theorem ready_halfOpen (h : b.state = .halfOpen) : b.ready now = !b.probing := by
  simp [ready, h]

@[simp] theorem ready_opened (h : b.state = .opened) :
    b.ready now = (!b.probing && decide (b.retryAt < now)) := by
  simp [ready, h]

/-- `acquire` admits exactly when `ready` says it would. -/
@[simp] theorem acquire_fst : (b.acquire now).1 = b.ready now := by
  unfold acquire
  split
  · simp_all
  · split <;> simp_all

/-- A refused `acquire`, or one on a closed breaker, changes nothing; any other hands out
the probe. -/
theorem acquire_snd :
    (b.acquire now).2 =
      if b.ready now && b.state != .closed then { b with state := .halfOpen, probing := true }
      else b := by
  unfold acquire
  cases b.ready now <;> cases b.state <;> simp

@[simp] theorem acquire_snd_threshold : (b.acquire now).2.threshold = b.threshold := by
  rw [acquire_snd]; split <;> rfl

@[simp] theorem acquire_snd_openFor : (b.acquire now).2.openFor = b.openFor := by
  rw [acquire_snd]; split <;> rfl

@[simp] theorem acquire_snd_fails : (b.acquire now).2.fails = b.fails := by
  rw [acquire_snd]; split <;> rfl

@[simp] theorem acquire_snd_retryAt : (b.acquire now).2.retryAt = b.retryAt := by
  rw [acquire_snd]; split <;> rfl

@[simp] theorem onSuccess_state : b.onSuccess.state = .closed := rfl
@[simp] theorem onSuccess_probing : b.onSuccess.probing = false := rfl
@[simp] theorem onSuccess_fails : b.onSuccess.fails = 0 := rfl
@[simp] theorem onSuccess_threshold : b.onSuccess.threshold = b.threshold := rfl
@[simp] theorem onSuccess_openFor : b.onSuccess.openFor = b.openFor := rfl

/-- A failed probe opens the breaker again from the instant of the failure. -/
theorem onFailure_of_halfOpen (h : b.state = .halfOpen) :
    b.onFailure now = { b with probing := false, state := .opened, retryAt := now + b.openFor } := by
  simp [onFailure, trip, h]

/-- Any other failure is counted, and opens the breaker when the count reaches the
threshold. -/
theorem onFailure_of_ne_halfOpen (h : b.state ≠ .halfOpen) :
    b.onFailure now =
      if b.threshold ≤ wrap64 (b.fails + 1) then
        { b with probing := false, fails := wrap64 (b.fails + 1), state := .opened,
                 retryAt := now + b.openFor }
      else { b with probing := false, fails := wrap64 (b.fails + 1) } := by
  simp [onFailure, trip, h]

@[simp] theorem onFailure_probing : (b.onFailure now).probing = false := by
  by_cases h : b.state = .halfOpen
  · rw [onFailure_of_halfOpen b now h]
  · rw [onFailure_of_ne_halfOpen b now h]
    split <;> rfl

@[simp] theorem onFailure_threshold : (b.onFailure now).threshold = b.threshold := by
  by_cases h : b.state = .halfOpen
  · rw [onFailure_of_halfOpen b now h]
  · rw [onFailure_of_ne_halfOpen b now h]
    split <;> rfl

@[simp] theorem onFailure_openFor : (b.onFailure now).openFor = b.openFor := by
  by_cases h : b.state = .halfOpen
  · rw [onFailure_of_halfOpen b now h]
  · rw [onFailure_of_ne_halfOpen b now h]
    split <;> rfl

/-- A failure never leaves the breaker half-open. -/
theorem onFailure_state_ne_halfOpen : (b.onFailure now).state ≠ .halfOpen := by
  by_cases h : b.state = .halfOpen
  · rw [onFailure_of_halfOpen b now h]
    simp
  · rw [onFailure_of_ne_halfOpen b now h]
    split
    · simp
    · exact h

end Operations

/-! ### Runs -/

/-- A call on a breaker. The calls that read the clock carry the instant they are made
at; `state` only reads the state. -/
inductive Call where
  /-- `acquire` at an instant. -/
  | acquire (now : Int)
  /-- `ready` at an instant. -/
  | ready (now : Int)
  /-- `state`. -/
  | state
  /-- `onSuccess`. -/
  | success
  /-- `onFailure` at an instant. -/
  | failure (now : Int)
  deriving Repr, DecidableEq, Inhabited

/-- The breaker after one call. -/
def call (b : Breaker) : Call → Breaker
  | .acquire now => (b.acquire now).2
  | .ready _ => b
  | .state => b
  | .success => b.onSuccess
  | .failure now => b.onFailure now

/-- The breaker after a run of calls, made in order. -/
def run (b : Breaker) (calls : List Call) : Breaker := calls.foldl call b

@[simp] theorem run_nil (b : Breaker) : b.run [] = b := rfl

@[simp] theorem run_cons (b : Breaker) (c : Call) (cs : List Call) :
    b.run (c :: cs) = (b.call c).run cs := rfl

@[simp] theorem call_threshold (b : Breaker) (c : Call) : (b.call c).threshold = b.threshold := by
  cases c <;> simp [call]

@[simp] theorem call_openFor (b : Breaker) (c : Call) : (b.call c).openFor = b.openFor := by
  cases c <;> simp [call]

@[simp] theorem run_openFor (b : Breaker) (calls : List Call) : (b.run calls).openFor = b.openFor := by
  induction calls generalizing b with
  | nil => rfl
  | cons c cs ih => simp [ih]

@[simp] theorem run_threshold (b : Breaker) (calls : List Call) :
    (b.run calls).threshold = b.threshold := by
  induction calls generalizing b with
  | nil => rfl
  | cons c cs ih => simp [ih]

theorem run_append (b : Breaker) (xs ys : List Call) : b.run (xs ++ ys) = (b.run xs).run ys := by
  simp [run, List.foldl_append]

end Breaker

end TopicBridge.Relay
