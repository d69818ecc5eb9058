import TopicBridge.Time.Instant
import TopicBridge.Num.Word
/-!
# Limiting the request rate

A **limiter** lets each client make at most `rps` requests per fixed **window** of time. It
counts in a store under the key `<prefix><client>:<window number>`, the window number being
the clock reading in nanoseconds divided by the window length. Each request sends the store
a pipeline of two commands: `INCR` of the key, then `EXPIRE` of the key after twice the
window. A request that brings the count above `rps` is refused and, when the limiter gives
hints, told to retry after the seconds left in the window, rounded up.

The store and its client library lie outside the limiter: they are a parameter
(`TopicBridge.Http.CounterOps`), the two commands on a state of the store. What the limiter
relies on is that they behave as Redis and its client document
(`TopicBridge.Http.CounterOps.Lawful`): a key that is gone counts from zero, a key gets a
timeout only from `EXPIRE`, a timeout is sent in whole seconds (one for a timeout under a
second, otherwise the seconds truncated), and `EXPIRE` with a timeout of no seconds or fewer
removes the key. The store's clock is the clock of the requests. `TopicBridge.Http.Counts` is
an in-process store that behaves so. Twice the window is a product of 64-bit integers, so it
wraps around to a negative duration for windows of `2⁶²` nanoseconds or more.

Requests pass without being counted when no limit is set (`rps ≤ 0`), when there is no
store, when the client is unknown, and when the store fails: the limiter fails open.

* `TopicBridge.Http.Limiter.check`, `TopicBridge.Http.Limiter.run`.
-/

namespace TopicBridge.Http

open TopicBridge.Time TopicBridge.Num

/-- Where a limiter counts requests. -/
inductive CounterStore where
  /-- No store: requests are not limited. -/
  | absent
  /-- A store that fails every pipeline. -/
  | failing
  /-- A store that counts. -/
  | counting
  deriving Repr, DecidableEq, Inhabited

/-- A fixed-window rate limiter. -/
structure Limiter where
  /-- The store it counts in. -/
  store : CounterStore := .absent
  /-- The requests allowed per window and client; `0` or less disables the limit. -/
  rps : Int := 0
  /-- The window length in nanoseconds; `0` or less means one second. -/
  window : Int := nanosPerSecond
  /-- The start of every key; empty means `rl:ip:`. -/
  keyStart : String := "rl:ip:"
  /-- Whether a refusal says when to retry. -/
  retryAfterHint : Bool := true
  deriving Repr, Inhabited

/-- What the limiter decides for a request. -/
inductive LimitDecision where
  /-- The request goes on. -/
  | pass
  /-- The request is refused, with the seconds after which to retry when the limiter gives
  hints. -/
  | limited (retryAfter : Option Int)
  deriving Repr, DecidableEq

/-- A counter in the store. -/
structure Counter where
  /-- The count. -/
  count : Nat := 0
  /-- The instant, in nanoseconds, after which the counter is gone; none if it stays. -/
  expiresAt : Option Int := none
  deriving Repr, DecidableEq, Inhabited

/-- The whole seconds sent for a timeout in nanoseconds: one for a timeout under a second,
otherwise the seconds, truncated. -/
def timeoutSeconds (d : Int) : Int :=
  if 0 < d ∧ d < nanosPerSecond then 1 else d.tdiv nanosPerSecond

/-- A store the limiter counts in, through its client library: the two commands it is sent,
on a state `S` of the store. -/
structure CounterOps (S : Type) where
  /-- `INCR` of a key at an instant in nanoseconds: the count after it, and the store. -/
  incr : S → String → Int → Nat × S
  /-- `EXPIRE` of a key, after a duration in nanoseconds, at an instant in nanoseconds. -/
  expire : S → String → Int → Int → S

namespace CounterOps

variable {S : Type} (stored : S → String → Option Counter)

/-- The counter under a key at an instant, if it is there: a counter is gone once the instant
it expires at has passed. -/
def live (s : S) (key : String) (now : Int) : Option Counter :=
  (stored s key).filter fun k => k.expiresAt.all (now ≤ ·)

/-- The counter `INCR` leaves under its key: the live one, or a new one with no timeout,
counted once more. -/
def bumped (s : S) (key : String) (now : Int) : Counter :=
  { (live stored s key now).getD {} with count := ((live stored s key now).getD {}).count + 1 }

/-- What the limiter relies on of its store, read through `stored`, the counter under each
key whether or not it is gone: Redis's `INCR` and `EXPIRE`, with the duration sent in whole
seconds as the client library sends it (`TopicBridge.Http.timeoutSeconds`). -/
structure Lawful (ops : CounterOps S) : Prop where
  /-- `INCR` answers the count of the counter it leaves. -/
  incr_count : ∀ s key now, (ops.incr s key now).1 = (bumped stored s key now).count
  /-- `INCR` leaves its counter under its key, and every other key as it was. -/
  incr_stored : ∀ s key now key', stored (ops.incr s key now).2 key' =
    if key = key' then some (bumped stored s key now) else stored s key'
  /-- `EXPIRE` leaves every other key as it was. -/
  expire_stored_of_ne : ∀ s key d now key', key ≠ key' →
    stored (ops.expire s key d now) key' = stored s key'
  /-- `EXPIRE` of a live key removes it for a timeout of no seconds or fewer, and otherwise
  sets it to go that many seconds later. -/
  expire_stored_of_live : ∀ s key d now k, live stored s key now = some k →
    stored (ops.expire s key d now) key =
      if timeoutSeconds d ≤ 0 then none
      else some { k with expiresAt := some (now + timeoutSeconds d * nanosPerSecond) }

end CounterOps

/-- Counters by key, each key once: a store kept in process. -/
abbrev Counts := List (String × Counter)

namespace Counts

/-- The counter under a key, if it is there at an instant. -/
def live (c : Counts) (key : String) (now : Int) : Option Counter :=
  match c.find? (·.1 == key) with
  | some (_, k) => if k.expiresAt.all (now ≤ ·) then some k else none
  | none => none

/-- Puts a counter under a key, in place of the one there. -/
def put (c : Counts) (key : String) (k : Counter) : Counts :=
  if c.any (·.1 == key) then c.map fun e => if e.1 == key then (key, k) else e
  else c ++ [(key, k)]

/-- Removes a key. -/
def erase (c : Counts) (key : String) : Counts := c.filter (·.1 != key)

/-- `INCR` of a key at an instant: the count after it, and the counters. A key that is gone
counts from zero and has no timeout. -/
def incr (c : Counts) (key : String) (now : Int) : Nat × Counts :=
  let k := (c.live key now).getD {}
  (k.count + 1, c.put key { k with count := k.count + 1 })

/-- `EXPIRE` of a key at an instant, with a timeout in seconds: a key that is there is
removed for a timeout of no seconds or fewer, and otherwise goes after the timeout. -/
def expire (c : Counts) (key : String) (secs now : Int) : Counts :=
  match c.live key now with
  | none => c
  | some k =>
    if secs ≤ 0 then c.erase key
    else c.put key { k with expiresAt := some (now + secs * nanosPerSecond) }

/-- The in-process store's commands, the duration of `EXPIRE` sent in whole seconds. -/
def ops : CounterOps Counts where
  incr := incr
  expire c key d now := c.expire key (timeoutSeconds d) now

end Counts

/-- The window length in use. -/
def Limiter.windowLength (l : Limiter) : Int := if l.window ≤ 0 then nanosPerSecond else l.window

/-- The start of the keys in use. -/
def Limiter.keyPrefix (l : Limiter) : String := if l.keyStart.isEmpty then "rl:ip:" else l.keyStart

/-- The key a client's requests in a window are counted under. -/
def Limiter.key (l : Limiter) (client : String) (slot : Int) : String :=
  l.keyPrefix ++ client ++ ":" ++ toString slot

/-- The timeout of a key: twice the window, as a 64-bit product of nanoseconds. -/
def Limiter.keyTimeout (l : Limiter) : Int := mul64 l.windowLength 2

/-- The timeout of a key as sent, in seconds. -/
def Limiter.ttl (l : Limiter) : Int := timeoutSeconds l.keyTimeout

/-- The seconds after which to retry at a 64-bit clock reading: the rest of the window,
rounded up, in 64-bit arithmetic. -/
def Limiter.retryAfter (l : Limiter) (t : Int) : Int :=
  let w := l.windowLength
  let remain := wrap64 (w - t.tmod w)
  (wrap64 (remain + nanosPerSecond - 1)).tdiv nanosPerSecond

/-- Decides on a request from a client at an instant, counting it in the store. -/
def Limiter.check {S : Type} (l : Limiter) (ops : CounterOps S) (st : S) (now : Instant)
    (client : String) : LimitDecision × S :=
  if l.rps ≤ 0 || client.isEmpty then (.pass, st) else
  match l.store with
  | .absent | .failing => (.pass, st)
  | .counting =>
    -- the window number is read off the clock as a 64-bit count of nanoseconds
    let t := wrap64 now.nanos
    let key := l.key client (t.tdiv l.windowLength)
    let (n, st) := ops.incr st key now.nanos
    let st := ops.expire st key l.keyTimeout now.nanos
    if (n : Int) > l.rps then
      (.limited (if l.retryAfterHint then some (l.retryAfter t) else none), st)
    else (.pass, st)

/-- The decisions on requests in turn, each from a client at an instant, and the store after
them. -/
def Limiter.run {S : Type} (l : Limiter) (ops : CounterOps S) :
    S → List (Instant × String) → List LimitDecision × S
  | st, [] => ([], st)
  | st, (now, client) :: rs =>
    let (d, st) := l.check ops st now client
    let (ds, st) := l.run ops st rs
    (d :: ds, st)

theorem check_failing {S : Type} (l : Limiter) (h : l.store = .failing) (ops : CounterOps S)
    (st : S) (t : Instant) (k : String) : (l.check ops st t k).1 = .pass := by
  unfold Limiter.check
  split
  · rfl
  · rw [h]

end TopicBridge.Http
