import Mathlib
import TopicBridge.Relay.Dispatch
import TopicBridge.Proofs.BreakerRuns

/-!
# Runs of deliveries over HTTP sinks

A **run** is a sequence of deliveries made one after another by one dispatcher whose sinks
all post over HTTP, each delivery with its own network, clock, context and event
(`TopicBridge.Relay.Dispatcher.deliverAll`). The servers may answer anything: any status,
or no answer at all. Within a delivery every call on a sink reads the clock anew, and the
context is read before every attempt.

Every attempt that reaches a sink makes one **POST**, recorded as an
`TopicBridge.Relay.Exchange`: the sink's index, the delivery it belongs to, and the instants
of the acquire that let it through and of the report that followed. To its sink's breaker a
POST is those two calls: the acquire, then a success for a `2xx` answer and a failure for
anything else (`TopicBridge.Relay.Exchange.calls`).

## The guarded run

`TopicBridge.Relay.deliverAll_guarded`: for a dispatcher over HTTP sinks whose breakers
hold their probe exactly when half-open, with clocks that never run backwards and contexts
that end as Go's do, every run makes a sequence of POSTs, grouped by delivery, such that

* each POST's acquire and report are two consecutive readings of its delivery's clock;
* each delivery's answers reached are those of its own POSTs;
* each sink's breaker ends as its first state run through the two calls of each POST it
  took, in order (`TopicBridge.Relay.afterPosts`), so nothing else reaches a breaker;
* each POST went to a sink whose breaker, as the earlier POSTs left it, granted the
  acquire, had no probe out and, if open, had finished its cool-down at the acquire;
* no delivery fails with `sink not acquired`.

The last point is where the clock matters. An attempt picks its sink among those that were
ready when polled and acquires it at a later reading. Between the two nothing changes the
breaker, and readiness only grows with time (`TopicBridge.Relay.Breaker.ready_of_le`), so a
clock that never runs backwards grants the acquire. One that does can refuse it (the example
after the theorem).

## Proof

Polling reads the clock once per sink and changes nothing else
(`TopicBridge.Relay.poll_callsAt`). One attempt either finds no ready sink, or makes one POST
(`TopicBridge.Relay.tryOnce_posts`). The attempts of a delivery then extend the run's POSTs
one at a time (`TopicBridge.Relay.attempt_delivered`), with the sinks kept equal to
`afterPosts` of the POSTs so far (`TopicBridge.Relay.afterPosts_snoc`) and every POST
admitted (`TopicBridge.Relay.Admitted`); a run of deliveries chains them.
-/

namespace TopicBridge.Relay

open TopicBridge.Bridge TopicBridge.Net

/-! ### Runs of deliveries -/

/-- One delivery of a run: the network it goes over, its clock and its caller's context,
read as `TopicBridge.Relay.Dispatcher.deliver` reads them, and the event. -/
structure DeliverCall where
  /-- The network. -/
  net : Network
  /-- What the clock shows at each reading. -/
  clock : Nat → Int
  /-- The context's error, once it has ended, after each number of readings. -/
  ctx : Nat → Option Fault
  /-- The event delivered. -/
  event : Event

/-- A context as Go documents it: once it has ended, its error is `context canceled` or
`context deadline exceeded`. -/
def DeliverCall.EndsAsContext (c : DeliverCall) : Prop :=
  ∀ n e, c.ctx n = some e → e = .named .canceled ∨ e = .named .deadlineExceeded

namespace Dispatcher

/-- A run of deliveries made one after another: the dispatcher afterwards, and what each
delivery did. -/
def deliverAll (d : Dispatcher) : List DeliverCall → Dispatcher × List Dispatched
  | [] => (d, [])
  | c :: cs =>
    let r := d.deliver c.net c.clock c.ctx c.event
    let out := r.next.deliverAll cs
    (out.1, r :: out.2)

end Dispatcher

/-! ### POSTs -/

/-- A POST of a run: the sink it went to, the delivery that made it, and the instants its
acquire and its report were made at. -/
structure Exchange where
  /-- The index of the sink. -/
  sink : Nat
  /-- The delivery. -/
  call : DeliverCall
  /-- The instant of the acquire. -/
  acquiredAt : Int
  /-- The instant of the report. -/
  reportedAt : Int

namespace Exchange

variable (h : HttpSink) (x : Exchange)

/-- The server's answer to the POST, if it was sent to the sink `h`. -/
def answer : Except String Nat :=
  post x.call.net h.url (eventHeaders x.call.event) (bodyBytes x.call.event.payload)

/-- The outcome reported to the breaker: a success for a `2xx` status, a failure for any
other status and for no answer. -/
def report : Breaker.Call :=
  match x.answer h with
  | .ok status => if status / 100 = 2 then .success else .failure x.reportedAt
  | .error _ => .failure x.reportedAt

/-- The calls the POST makes on its sink's breaker: the acquire, then the report. -/
def calls : List Breaker.Call := [.acquire x.acquiredAt, x.report h]

/-- What reached a server: the POST, if it was answered. -/
def delivery : Option Delivery :=
  match x.answer h with
  | .ok status =>
    some (.http h.name status (eventHeaders x.call.event) (bodyBytes x.call.event.payload))
  | .error _ => none

/-- The sink `h` after the POST. -/
def apply (x : Exchange) (h : HttpSink) : HttpSink :=
  { h with breaker := h.breaker.run (x.calls h) }

/-- What reached a server, the sinks being `hs`. -/
def deliveries (hs : List HttpSink) (x : Exchange) : List Delivery :=
  (hs[x.sink]?.bind x.delivery).toList

end Exchange

/-- The sinks after a run of POSTs: each sink's breaker has made, in order, the calls of
the POSTs it took. -/
def afterPosts (hs : List HttpSink) (xs : List Exchange) : List HttpSink :=
  hs.mapIdx fun i h =>
    { h with breaker := h.breaker.run ((xs.filter (·.sink = i)).flatMap (·.calls h)) }

@[simp] theorem afterPosts_nil (hs : List HttpSink) : afterPosts hs [] = hs := by
  apply List.ext_getElem?
  intro j
  simp only [afterPosts, List.getElem?_mapIdx]
  cases hs[j]? <;> rfl

@[simp] theorem length_afterPosts (hs : List HttpSink) (xs : List Exchange) :
    (afterPosts hs xs).length = hs.length := by
  simp [afterPosts]

/-- A POST changes its own sink only. -/
theorem afterPosts_snoc (hs : List HttpSink) (xs : List Exchange) (x : Exchange) :
    afterPosts hs (xs ++ [x]) = (afterPosts hs xs).modify x.sink x.apply := by
  apply List.ext_getElem?
  intro j
  simp only [afterPosts, List.getElem?_mapIdx, List.getElem?_modify]
  cases hs[j]? with
  | none => simp
  | some h =>
    by_cases hj : x.sink = j
    · simp [hj, List.filter_append, Breaker.run_append, Exchange.apply, Exchange.calls,
        Exchange.report, Exchange.answer]
    · simp [hj, List.filter_append]

/-- POSTs change no sink's name or address, so what reaches a server is the same. -/
theorem getElem?_afterPosts_bind_delivery (hs : List HttpSink) (xs : List Exchange)
    (x : Exchange) (i : Nat) :
    (afterPosts hs xs)[i]?.bind x.delivery = hs[i]?.bind x.delivery := by
  simp only [afterPosts, List.getElem?_mapIdx]
  cases hs[i]? <;> rfl

theorem deliveries_of_getElem? {hs : List HttpSink} {xs : List Exchange} {x : Exchange}
    {h : HttpSink} (hh : (afterPosts hs xs)[x.sink]? = some h) :
    x.deliveries hs = (x.delivery h).toList := by
  rw [Exchange.deliveries, ← getElem?_afterPosts_bind_delivery hs xs, hh, Option.bind_some]

/-- Breakers that hold their probe exactly when half-open still do after any POSTs. -/
theorem probeHeld_afterPosts {hs : List HttpSink} (hp : ∀ h ∈ hs, Breaker.ProbeHeld h.breaker)
    {xs : List Exchange} {i : Nat} {h : HttpSink} (hh : (afterPosts hs xs)[i]? = some h) :
    Breaker.ProbeHeld h.breaker := by
  simp only [afterPosts, List.getElem?_mapIdx, Option.map_eq_some_iff] at hh
  obtain ⟨h0, hh0, rfl⟩ := hh
  exact (hp h0 (List.mem_of_getElem? hh0)).run _

/-- Every POST of a run went to a sink whose breaker, as the earlier POSTs left it, was
ready at the instant of the POST's acquire. -/
def Admitted (hs : List HttpSink) (xs : List Exchange) : Prop :=
  ∀ ys x zs, xs = ys ++ x :: zs →
    ∃ h, (afterPosts hs ys)[x.sink]? = some h ∧ h.breaker.ready x.acquiredAt = true

theorem Admitted.nil (hs : List HttpSink) : Admitted hs [] := by
  intro ys x zs h
  simp at h

theorem Admitted.snoc {hs : List HttpSink} {xs : List Exchange} (ha : Admitted hs xs)
    {x : Exchange} {h : HttpSink} (hh : (afterPosts hs xs)[x.sink]? = some h)
    (hr : h.breaker.ready x.acquiredAt = true) : Admitted hs (xs ++ [x]) := by
  intro ys y zs he
  -- the POST split off is either the new one or one of the run before it
  obtain rfl | ⟨zs, z, rfl⟩ := zs.eq_nil_or_concat
  · obtain ⟨rfl, hx⟩ := List.append_inj' he rfl
    obtain rfl : x = y := by simpa using hx
    exact ⟨h, hh, hr⟩
  · rw [List.concat_eq_append, ← List.cons_append, ← List.append_assoc] at he
    obtain ⟨rfl, -⟩ := List.append_inj' he rfl
    exact ha ys y zs rfl

/-- Readiness only grows as time passes: an open breaker past its cool-down stays past it. -/
theorem Breaker.ready_of_le {b : Breaker} {t t' : Int} (hr : b.ready t = true) (ht : t ≤ t') :
    b.ready t' = true := by
  cases hs : b.state with
  | closed => exact Breaker.ready_closed b t' hs
  | halfOpen => rwa [Breaker.ready_halfOpen b t' hs, ← Breaker.ready_halfOpen b t hs]
  | opened =>
    rw [Breaker.ready_opened b t hs, Bool.and_eq_true, decide_eq_true_eq] at hr
    rw [Breaker.ready_opened b t' hs, Bool.and_eq_true, decide_eq_true_eq]
    exact ⟨hr.1, by omega⟩

/-- A ready breaker whose probe is out exactly when half-open grants the acquire, has no
probe out, and, if open, has finished its cool-down. -/
theorem granted_of_ready {b : Breaker} (hp : Breaker.ProbeHeld b) {now : Int}
    (hr : b.ready now = true) :
    (b.acquire now).1 = true ∧ b.probing = false ∧ (b.state = .opened → b.retryAt < now) := by
  refine ⟨by rw [Breaker.acquire_fst, hr], ?_, ?_⟩
  · cases hs : b.state with
    | closed => simpa [Breaker.ProbeHeld, hs] using hp
    | opened => simp_all
    | halfOpen => simp_all
  · intro hs
    simp_all

/-! ### One attempt -/

section Attempt

variable (net : Network) (clock : Nat → Int)

/-- Polling the sinks numbered from `k` on reads the clock once for each and changes nothing
else; a sink counted ready was ready at the instant of its own reading. -/
theorem poll_callsAt (n : Nat) :
    ∀ (k : Nat) (w : Dispatcher.World),
      (Retry.poll ((List.range' k n).map (Sink.callsAt net clock)) k w).2.1 =
          { w with readings := w.readings + n } ∧
        ∀ p ∈ (Retry.poll ((List.range' k n).map (Sink.callsAt net clock)) k w).1,
          ∃ j < n, p = (k + j, Sink.callsAt net clock (k + j)) ∧
            (w.sinks.getD (k + j) default).ready (clock (w.readings + j)) = true := by
  induction n with
  | zero => intro k w; simp [Retry.poll]
  | succ n ih =>
    intro k w
    -- the first sink is asked at this reading, the rest from the next one on
    obtain ⟨hworld, hmem⟩ := ih (k + 1) { w with readings := w.readings + 1 }
    simp only [List.range'_succ, List.map_cons, Retry.poll, Sink.callsAt_ready]
    refine ⟨by rw [hworld]; simp only [Nat.add_assoc, Nat.add_comm 1 n], ?_⟩
    -- a sink found ready after the first one was ready at its own, later reading
    have hlater : ∀ p ∈ (Retry.poll ((List.range' (k + 1) n).map (Sink.callsAt net clock))
        (k + 1) { w with readings := w.readings + 1 }).1, ∃ j < n + 1,
          p = (k + j, Sink.callsAt net clock (k + j)) ∧
            (w.sinks.getD (k + j) default).ready (clock (w.readings + j)) = true := by
      intro p hp
      obtain ⟨j, hj, rfl, hr⟩ := hmem p hp
      exact ⟨j + 1, by omega, by simp [Nat.add_assoc, Nat.add_comm 1 j],
        by simpa [Nat.add_assoc, Nat.add_comm 1 j] using hr⟩
    intro p hp
    by_cases hk : (w.sinks.getD k default).ready (clock w.readings) = true
    · simp only [hk, ↓reduceIte] at hp
      rcases List.mem_cons.1 hp with rfl | hp
      · exact ⟨0, by omega, by simp, by simpa using hk⟩
      · exact hlater p hp
    · simp only [hk] at hp
      exact hlater p hp

end Attempt

/-- An HTTP sink answers a delivery by the POST's report, what reached the server, and a
plain failure if any. -/
theorem deliver_http (h : HttpSink) (b : Breaker) (x : Exchange) :
    ((Sink.http { h with breaker := b }).deliver x.call.net x.reportedAt x.call.event).2.1 =
        .http { h with breaker := b.call (x.report h) } ∧
      ((Sink.http { h with breaker := b }).deliver x.call.net x.reportedAt x.call.event).2.2 =
        (x.delivery h).toList ∧
      ∀ f, ((Sink.http { h with breaker := b }).deliver x.call.net x.reportedAt x.call.event).1 =
          .error f → f.matches .sinkNotAcquired = false := by
  simp only [Sink.deliver, Exchange.report, Exchange.delivery, Exchange.answer]
  cases post x.call.net h.url (eventHeaders x.call.event) (bodyBytes x.call.event.payload) with
  | error e => simp [Breaker.call, Fault.matches]
  | ok status =>
    by_cases h2 : status / 100 = 2 <;> simp [h2, Breaker.call, Fault.matches]

theorem acquire_http (h : HttpSink) (now : Int) :
    (Sink.http h).acquire now =
      ((h.breaker.acquire now).1, .http { h with breaker := (h.breaker.acquire now).2 }) := rfl

theorem getD_mod_mem {α : Type} (a : α) (l : List α) (k : Nat) :
    (a :: l).getD (k % (a :: l).length) a ∈ a :: l := by
  rw [List.getD_eq_getElem _ _ (Nat.mod_lt _ (by simp))]
  exact List.getElem_mem _

/-- What an attempt that made the POST `x` did, from the world `w` over the sinks `hs`. -/
structure Exchanged (hs : List HttpSink) (w : Dispatcher.World)
    (r : Retry.Progress Dispatcher.World) (x : Exchange) : Prop where
  /-- The acquire and the report were the two readings after the poll. -/
  instants : x.acquiredAt = x.call.clock (w.readings + hs.length) ∧
    x.reportedAt = x.call.clock (w.readings + hs.length + 1)
  /-- The sink was ready at the acquire; the POST changed it alone, and what reached its
  server is all the attempt adds. -/
  sink : ∃ h, hs[x.sink]? = some h ∧ h.breaker.ready x.acquiredAt = true ∧
    r.world = { sinks := (hs.modify x.sink x.apply).map .http,
                calls := w.calls ++ (x.delivery h).toList,
                readings := w.readings + hs.length + 2 }
  /-- The attempt did not fail with `sink not acquired`. -/
  no_acquire : ∀ f, r.result = .error f → f.matches .sinkNotAcquired = false

/-- **One attempt** over HTTP sinks, with a clock that never runs backwards, finds no ready
sink and only reads the clock, or makes one POST to a sink that is ready when acquired. -/
theorem tryOnce_posts {hs : List HttpSink} {w : Dispatcher.World} (hw : w.sinks = hs.map .http)
    (c : DeliverCall) (hclock : Monotone c.clock) (turns : Nat) :
    ((Retry.tryOnce ((List.range hs.length).map (Sink.callsAt c.net c.clock)) c.event turns
        w).result = .error (.named .noHealthySinks) ∧
      (Retry.tryOnce ((List.range hs.length).map (Sink.callsAt c.net c.clock)) c.event turns
        w).world = { w with readings := w.readings + hs.length }) ∨
    ∃ x, x.call = c ∧ Exchanged hs w
      (Retry.tryOnce ((List.range hs.length).map (Sink.callsAt c.net c.clock)) c.event turns w)
      x := by
  obtain ⟨hworld, hmem⟩ := poll_callsAt c.net c.clock hs.length 0 w
  rw [← List.range_eq_range'] at hworld hmem
  unfold Retry.tryOnce
  generalize Retry.poll ((List.range hs.length).map (Sink.callsAt c.net c.clock)) 0 w = P
    at hworld hmem
  obtain ⟨healthy, w', polled⟩ := P
  simp only at hworld hmem
  subst hworld
  cases healthy with
  | nil => exact .inl ⟨rfl, rfl⟩
  | cons first rest =>
    dsimp only
    -- the sink picked round-robin is one of the ready ones, ready when it was polled
    obtain ⟨i, hi, hp, hready⟩ := hmem _ (getD_mod_mem first rest turns)
    rw [hp]
    simp only [Nat.zero_add] at hready ⊢
    have hget : hs[i]? = some hs[i] := List.getElem?_eq_getElem hi
    have hsink : w.sinks.getD i default = .http hs[i] := by
      simp [hw, List.getD_eq_getElem?_getD, hget]
    rw [hsink] at hready
    set h := hs[i]
    -- the clock has not run back since the poll, so the acquire is granted
    have hr : h.breaker.ready (c.clock (w.readings + hs.length)) = true :=
      Breaker.ready_of_le hready (hclock (by omega))
    let x : Exchange := ⟨i, c, c.clock (w.readings + hs.length),
      c.clock (w.readings + hs.length + 1)⟩
    obtain ⟨hs2, hcalls, hres⟩ := deliver_http h (h.breaker.acquire x.acquiredAt).2 x
    simp only [Sink.callsAt_acquire, Sink.callsAt_deliver, hsink, acquire_http,
      Breaker.acquire_fst, hr, Bool.not_true, Bool.false_eq_true, if_false]
    have hset : (w.sinks.set i (.http { h with breaker := (h.breaker.acquire x.acquiredAt).2 }
        )).getD i default = .http { h with breaker := (h.breaker.acquire x.acquiredAt).2 } := by
      have hlen : i < w.sinks.length := by simpa [hw] using hi
      simp [List.getD_eq_getElem?_getD, hlen]
    rw [hset]
    refine .inr ⟨x, rfl, ⟨⟨rfl, rfl⟩, ⟨h, hget, hr, ?_⟩, hres⟩⟩
    rw [hs2, hcalls, List.set_set, hw, ← List.map_set, List.modify_eq_set_getElem?, hget]
    rfl

/-! ### Deliveries -/

/-- What the attempts of the delivery `c` did after the POSTs `xs` of a run, with the
answers `acc` reached so far: the POSTs `ys`. -/
structure Delivered (hs : List HttpSink) (c : DeliverCall) (xs : List Exchange)
    (acc : List Delivery) (r : Retry.Progress Dispatcher.World) (ys : List Exchange) :
    Prop where
  /-- The POSTs were made by this delivery, each acquired and reported at two consecutive
  readings of its clock. -/
  made : ∀ y ∈ ys, y.call = c ∧ ∃ m, y.acquiredAt = c.clock m ∧ y.reportedAt = c.clock (m + 1)
  /-- Every POST so far was admitted. -/
  admitted : Admitted hs (xs ++ ys)
  /-- The sinks are as the POSTs left them. -/
  sinks : r.world.sinks = (afterPosts hs (xs ++ ys)).map .http
  /-- What reached a server is what the POSTs reached. -/
  calls : r.world.calls = acc ++ ys.flatMap (Exchange.deliveries hs)
  /-- The delivery did not fail with `sink not acquired`. -/
  no_acquire : ∀ f, r.result = .error f → f.matches .sinkNotAcquired = false

/-- A delivery that has made no POST since `xs`. -/
theorem Delivered.nil {hs : List HttpSink} {c : DeliverCall} {xs : List Exchange}
    {acc : List Delivery} {r : Retry.Progress Dispatcher.World}
    (hsinks : r.world.sinks = (afterPosts hs xs).map .http) (ha : Admitted hs xs)
    (hcalls : r.world.calls = acc)
    (hres : ∀ f, r.result = .error f → f.matches .sinkNotAcquired = false) :
    Delivered hs c xs acc r [] :=
  ⟨by simp, by simpa using ha, by simpa using hsinks, by simpa using hcalls, hres⟩

/-- A delivery's POST `x`, then the POSTs `ys` it made after it. -/
theorem Delivered.cons {hs : List HttpSink} {c : DeliverCall} {xs : List Exchange}
    {acc : List Delivery} {r : Retry.Progress Dispatcher.World} {x : Exchange}
    {ys : List Exchange}
    (hmade : x.call = c ∧ ∃ m, x.acquiredAt = c.clock m ∧ x.reportedAt = c.clock (m + 1))
    (hy : Delivered hs c (xs ++ [x]) (acc ++ x.deliveries hs) r ys) :
    Delivered hs c xs acc r (x :: ys) where
  made := by simpa [hmade] using hy.made
  admitted := by simpa using hy.admitted
  sinks := by simpa using hy.sinks
  calls := by simpa using hy.calls
  no_acquire := hy.no_acquire

/-- The context's error is never `sink not acquired`. -/
theorem DeliverCall.EndsAsContext.not_acquire {c : DeliverCall} (hc : c.EndsAsContext)
    {n : Nat} {e : Fault} (he : c.ctx n = some e) : e.matches .sinkNotAcquired = false := by
  rcases hc n e he with rfl | rfl <;> rfl

/-- The remaining attempts of a delivery extend the run's POSTs. -/
theorem attempt_delivered (hs : List HttpSink) (c : DeliverCall) (hclock : Monotone c.clock)
    (hctx : c.EndsAsContext) (N : Nat) (hN : hs.length = N) (n k : Nat) :
    ∀ (turns : Nat) (w : Dispatcher.World) (last : Fault) (steps : List Retry.Step)
      (xs : List Exchange), w.sinks = (afterPosts hs xs).map .http → Admitted hs xs →
      last.matches .sinkNotAcquired = false →
      ∃ ys, Delivered hs c xs w.calls
        (Retry.attempt ((List.range N).map (Sink.callsAt c.net c.clock))
          (fun w => c.ctx w.readings) c.event n k turns w last steps) ys := by
  subst hN
  induction k with
  | zero =>
    intro turns w last steps xs hw ha hl
    exact ⟨[], .nil hw ha rfl (by simp [Retry.attempt, Retry.exhausted, Fault.matches, hl])⟩
  | succ k ih =>
    intro turns w last steps xs hw ha hl
    rw [Retry.attempt]
    cases he : c.ctx w.readings with
    | some e =>
      -- the context has ended: the delivery stops with its error and no POST
      exact ⟨[], .nil hw ha rfl fun f hf => by cases hf; exact hctx.not_acquire he⟩
    | none =>
      dsimp only
      have hpost := @tryOnce_posts (afterPosts hs xs) w hw c hclock turns
      rw [length_afterPosts] at hpost
      rcases hpost with ⟨hres, hworld⟩ | ⟨x, rfl, ⟨⟨hacq, hrep⟩, ⟨h, hh, hr, hworld⟩, hres⟩⟩
      · -- no sink was ready: the next attempt starts from the same sinks, the clock read on
        rw [hres]
        dsimp only
        rw [hworld]
        exact ih _ { w with readings := w.readings + hs.length } (.named .noHealthySinks) _ xs hw ha
          rfl
      · -- sink `x.sink` took the POST `x`
        have hmade : x.call = x.call ∧
            ∃ m, x.acquiredAt = x.call.clock m ∧ x.reportedAt = x.call.clock (m + 1) :=
          ⟨rfl, _, hacq, hrep⟩
        set T := Retry.tryOnce ((List.range hs.length).map
          (Sink.callsAt x.call.net x.call.clock)) x.call.event turns w with hT
        have hsinks : T.world.sinks = (afterPosts hs (xs ++ [x])).map Sink.http := by
          rw [hworld, afterPosts_snoc]
        have hcalls : T.world.calls = w.calls ++ x.deliveries hs := by
          rw [hworld, deliveries_of_getElem? hh]
        have ha' := ha.snoc hh hr
        cases hres' : T.result with
        | ok u =>
          exact ⟨[x], .cons hmade (.nil hsinks ha' hcalls (by simp))⟩
        | error f =>
          dsimp only
          -- the next attempts start from the sinks the POST left
          obtain ⟨ys, hy⟩ := ih T.turns T.world f (steps ++ .check none :: T.steps) (xs ++ [x])
            hsinks ha' (hres f hres')
          rw [hcalls] at hy
          exact ⟨x :: ys, .cons hmade hy⟩

theorem deliver_delivered (hs : List HttpSink) (c : DeliverCall) (hclock : Monotone c.clock)
    (hctx : c.EndsAsContext) {d : Dispatcher} {xs : List Exchange}
    (hd : d.sinks = (afterPosts hs xs).map .http) (ha : Admitted hs xs) :
    ∃ ys, Delivered hs c xs []
      (Retry.deliver ((List.range d.sinks.length).map (Sink.callsAt c.net c.clock))
        (fun w => c.ctx w.readings) d.maxAttempts c.event d.turns { sinks := d.sinks }) ys :=
  attempt_delivered hs c hclock hctx d.sinks.length (by simp [hd]) d.maxAttempts d.maxAttempts
    d.turns { sinks := d.sinks } (.named .noHealthySinks) [] xs hd ha rfl

/-- A run of deliveries extends the POSTs of the run before it, one group per delivery. -/
theorem deliverAll_delivered (hs : List HttpSink) (cs : List DeliverCall)
    (hclock : ∀ c ∈ cs, Monotone c.clock) (hctx : ∀ c ∈ cs, c.EndsAsContext) :
    ∀ (d : Dispatcher) (xs : List Exchange), d.sinks = (afterPosts hs xs).map .http →
      Admitted hs xs →
      ∃ xss : List (List Exchange),
        List.Forall₂ (fun c ys => ∀ y ∈ ys, y.call = c ∧
          ∃ m, y.acquiredAt = c.clock m ∧ y.reportedAt = c.clock (m + 1)) cs xss ∧
        List.Forall₂ (fun r ys => r.calls = ys.flatMap (Exchange.deliveries hs))
          (d.deliverAll cs).2 xss ∧
        (d.deliverAll cs).1.sinks = (afterPosts hs (xs ++ xss.flatten)).map .http ∧
        Admitted hs (xs ++ xss.flatten) ∧
        ∀ r ∈ (d.deliverAll cs).2, ∀ f, r.result = .error f →
          f.matches .sinkNotAcquired = false := by
  induction cs with
  | nil =>
    intro d xs hd ha
    exact ⟨[], .nil, .nil, by simpa [Dispatcher.deliverAll] using hd, by simpa using ha,
      by simp [Dispatcher.deliverAll]⟩
  | cons c cs ih =>
    intro d xs hd ha
    obtain ⟨ys, hy⟩ := deliver_delivered hs c (hclock c (by simp)) (hctx c (by simp)) hd ha
    obtain ⟨xss, hmade, hcalls, hsinks, hadm, hres⟩ :=
      ih (fun c' hc' => hclock c' (by simp [hc'])) (fun c' hc' => hctx c' (by simp [hc']))
        (d.deliver c.net c.clock c.ctx c.event).next _ hy.sinks hy.admitted
    refine ⟨ys :: xss, .cons hy.made hmade, .cons (hy.calls.trans (List.nil_append _)) hcalls,
      by simpa [Dispatcher.deliverAll] using hsinks, by simpa using hadm, ?_⟩
    simp only [Dispatcher.deliverAll, List.mem_cons, forall_eq_or_imp]
    exact ⟨hy.no_acquire, hres⟩

/-- **Guarded POSTs.** Over HTTP sinks whose breakers hold their probe exactly when
half-open, any run of deliveries whose clocks never run backwards and whose contexts end as
Go's do, whatever the servers answer, makes POSTs, grouped by delivery, such that: each
POST's acquire and report are two consecutive readings of its delivery's clock; each
delivery reached exactly the servers its POSTs reached; each breaker has seen exactly an
acquire and then one report for each POST to its sink, in order; each POST's acquire was
granted by a breaker with no probe out and, if open, past its cool-down at that instant; and
no delivery fails with `sink not acquired`. -/
theorem deliverAll_guarded (d : Dispatcher) (hs : List HttpSink) (hd : d.sinks = hs.map .http)
    (hp : ∀ h ∈ hs, Breaker.ProbeHeld h.breaker) (cs : List DeliverCall)
    (hclock : ∀ c ∈ cs, Monotone c.clock) (hctx : ∀ c ∈ cs, c.EndsAsContext) :
    (∀ r ∈ (d.deliverAll cs).2, ∀ f, r.result = .error f → f.matches .sinkNotAcquired = false) ∧
    ∃ xss : List (List Exchange),
      List.Forall₂ (fun c ys => ∀ y ∈ ys, y.call = c ∧
        ∃ m, y.acquiredAt = c.clock m ∧ y.reportedAt = c.clock (m + 1)) cs xss ∧
      List.Forall₂ (fun r ys => r.calls = ys.flatMap (Exchange.deliveries hs))
        (d.deliverAll cs).2 xss ∧
      (d.deliverAll cs).1.sinks = (afterPosts hs xss.flatten).map .http ∧
      ∀ ys x zs, xss.flatten = ys ++ x :: zs → ∃ h, (afterPosts hs ys)[x.sink]? = some h ∧
        (h.breaker.acquire x.acquiredAt).1 = true ∧ h.breaker.probing = false ∧
        (h.breaker.state = .opened → h.breaker.retryAt < x.acquiredAt) := by
  obtain ⟨xss, hmade, hcalls, hsinks, hadm, hres⟩ :=
    deliverAll_delivered hs cs hclock hctx d [] (by simpa using hd) (Admitted.nil hs)
  refine ⟨hres, xss, hmade, hcalls, by simpa using hsinks, ?_⟩
  intro ys x zs he
  obtain ⟨h, hh, hr⟩ := hadm ys x zs (by simpa using he)
  exact ⟨h, hh, granted_of_ready (probeHeld_afterPosts hp hh) hr⟩

/-- A clock that runs backwards between the poll and the acquire can refuse a sink that was
ready: an open breaker past its cool-down at the first reading is not at the second. -/
example :
    let b : Breaker := { threshold := 1, openFor := 1, state := .opened, retryAt := 5 }
    let d : Dispatcher := { sinks := [.http ⟨"a", "http://127.0.0.1:9/events", 0, b⟩],
                            maxAttempts := 1 }
    (fun r : Except Fault Unit => match r with
      | .error f => f.matches .sinkNotAcquired
      | .ok () => false)
      (d.deliver .unreachable (fun n => if n = 0 then 10 else 0) (fun _ => none) {}).result =
      true := by
  decide

/-- A delivery to a sink that cannot be reached, over a new sink, with a clock that moves
on by a nanosecond at each reading and a context that does not end. -/
theorem unreachable_sink_run :
    let hs := [HttpSink.new "a" "http://127.0.0.1:9/events" 0 1 1000]
    let cs : List DeliverCall := [⟨.unreachable, fun n => n, fun _ => none, {}⟩]
    (∀ c ∈ cs, Monotone c.clock) ∧ (∀ c ∈ cs, c.EndsAsContext) ∧
      (∀ r ∈ ((Dispatcher.new (hs.map .http) 2).deliverAll cs).2, ∀ f, r.result = .error f →
        f.matches .sinkNotAcquired = false) ∧
      ∃ xs, ((Dispatcher.new (hs.map .http) 2).deliverAll cs).1.sinks =
        (afterPosts hs xs).map .http := by
  intro hs cs
  have hclock : ∀ c ∈ cs, Monotone c.clock := by
    simp only [cs, List.mem_singleton, forall_eq]
    exact fun a b hab => Int.ofNat_le.mpr hab
  have hctx : ∀ c ∈ cs, c.EndsAsContext := by
    simp [cs, DeliverCall.EndsAsContext]
  obtain ⟨hres, xss, -, -, hsinks, -⟩ := deliverAll_guarded (Dispatcher.new (hs.map .http) 2) hs
    rfl (by simp [hs, HttpSink.new, Breaker.probeHeld_new]) cs hclock hctx
  exact ⟨hclock, hctx, hres, xss.flatten, hsinks⟩

end TopicBridge.Relay
