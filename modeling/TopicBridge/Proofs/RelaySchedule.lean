import Mathlib
import TopicBridge.Proofs.RelayRuns

/-!
# The sequential run is one interleaving

`TopicBridge.Relay.RelaySetup.run` relays the messages that arrive while it subscribes: it makes
their events, keeps the first `bufferSize` of them and drops the others, then delivers the kept
ones in order. That is one run of the concurrent relay (`TopicBridge.Relay.Channel.exec`):
every message arrives before any worker moves, then worker 0 takes each queued event in turn,
hands it on and is answered (`TopicBridge.Relay.Channel.sequentialSchedule`). That run hands
on the same events and logs the same entries, the entries about the subscription apart
(`TopicBridge.Relay.Channel.run_is_interleaving`).

So what `TopicBridge.Relay.Channel.relay_handles_messages_once` proves of every run of the relay
holds of the sequential one in particular. The proof follows the schedule's two phases: the
arrivals fill the channel and then log drops (`TopicBridge.Relay.Channel.exec_arrivals`), and
each turn of worker 0 empties it by one event (`TopicBridge.Relay.Channel.exec_handleQueued`).
-/

namespace TopicBridge.Relay.Channel

open TopicBridge.Bridge TopicBridge.Log TopicBridge.Time

/-! ### The entries of a log -/

/-- The entry an effect logs, if any. -/
def Effect.entry : Effect → Option Entry
  | .log _ e => some e
  | _ => none

/-- The entries logged, in order. -/
def entries (log : List Effect) : List Entry := log.filterMap Effect.entry

section Entries

variable {k w : Nat} {ev : Event} {e : Entry} {result : Except Fault Unit} {l : List Effect}

@[simp] theorem entries_nil : entries [] = [] := rfl
@[simp] theorem entries_append (l₁ l₂ : List Effect) :
    entries (l₁ ++ l₂) = entries l₁ ++ entries l₂ := List.filterMap_append
@[simp] theorem entries_cons_made : entries (.made k ev :: l) = entries l := rfl
@[simp] theorem entries_cons_log : entries (.log k e :: l) = e :: entries l := rfl
@[simp] theorem entries_cons_deliver : entries (.deliver w k ev :: l) = entries l := rfl
@[simp] theorem entries_cons_answered : entries (.answered w k result :: l) = entries l := rfl

@[simp] theorem entries_map_log (es : List Entry) : entries (es.map (.log k)) = es := by
  induction es <;> simp [*]

end Entries

/-! ### The schedule -/

/-- A message arrives at an instant. -/
def arriveAt (now : Instant) (msg : String × Option ByteArray) : Action :=
  .arrive ⟨msg.1, msg.2, now⟩

/-- Worker 0 takes the oldest queued event, hands it on, and is answered as `deliver` says. -/
def handleQueued (deliver : Event → Except Fault Unit) (ev : Event) : List Action :=
  [.take 0, .call 0, .answer 0 (deliver ev)]

/-- The sequential schedule: every message arrives, then worker 0 handles each kept event in
turn. -/
def sequentialSchedule {G : Type} (r : RelaySetup) (draw : G → String × G) (g : G)
    (now : Instant) (msgs : List (String × Option ByteArray))
    (deliver : Event → Except Fault Unit) : List Action :=
  msgs.map (arriveAt now) ++ ((r.eventsOf draw now g msgs).take r.bufferSize).flatMap
    (handleQueued deliver)

section Phases

variable {G : Type} {r : RelaySetup} {draw : G → String × G} {s : System G}

@[simp] theorem eventsOf_nil (now : Instant) (g : G) : r.eventsOf draw now g [] = [] := rfl

@[simp] theorem deliveries_arrive (m : Arrival) :
    deliveries (s.arrive r draw m).log = deliveries s.log := by
  unfold System.arrive
  split <;> simp

theorem entries_arrive (m : Arrival) :
    entries (s.arrive r draw m).log = entries s.log ++
      if s.buffer.length < r.bufferSize then []
      else [RelaySetup.droppedEntry (s.nextEvent r draw m)] := by
  unfold System.arrive
  split <;> simp

/-- **The arrivals.** Messages that arrive while no worker moves fill the channel with their
events, in order, up to its size, and the others are dropped with a warning each. -/
theorem exec_arrivals (now : Instant) (msgs : List (String × Option ByteArray))
    (hb : s.buffer.length ≤ r.bufferSize) :
    ∃ s', exec r draw s (msgs.map (arriveAt now)) = some s' ∧ s'.workers = s.workers ∧
      s'.buffer.map Prod.snd = s.buffer.map Prod.snd ++
        (r.eventsOf draw now s.ids msgs).take (r.bufferSize - s.buffer.length) ∧
      deliveries s'.log = deliveries s.log ∧
      entries s'.log = entries s.log ++
        ((r.eventsOf draw now s.ids msgs).drop (r.bufferSize - s.buffer.length)).map
          RelaySetup.droppedEntry := by
  induction msgs generalizing s with
  | nil => exact ⟨s, rfl, rfl, by simp, rfl, by simp⟩
  | cons msg msgs ih =>
    let m : Arrival := ⟨msg.1, msg.2, now⟩
    have hevents : r.eventsOf draw now s.ids (msg :: msgs) =
        s.nextEvent r draw m :: r.eventsOf draw now (s.arrive r draw m).ids msgs := by
      rw [arrive_ids]
      rfl
    by_cases hroom : s.buffer.length < r.bufferSize
    · obtain ⟨hbuf, -, -⟩ := arrive_of_room draw m hroom
      obtain ⟨s', hexec, hws, hbuf', hdel, hent⟩ :=
        @ih (s.arrive r draw m) (by rw [hbuf, List.length_append, List.length_singleton]; omega)
      -- the room left shrinks by one
      obtain ⟨j, hj⟩ : ∃ j, r.bufferSize - s.buffer.length = j + 1 :=
        ⟨r.bufferSize - s.buffer.length - 1, by omega⟩
      have hj' : r.bufferSize - (s.arrive r draw m).buffer.length = j := by
        rw [hbuf, List.length_append, List.length_singleton]
        omega
      refine ⟨s', hexec, by rw [hws, arrive_workers], ?_, by rw [hdel, deliveries_arrive], ?_⟩
      · rw [hbuf', hj', hbuf, hevents, hj, List.take_succ_cons]
        simp
      · rw [hent, hj', entries_arrive, if_pos hroom, hevents, hj, List.drop_succ_cons]
        simp
    · obtain ⟨hbuf, -, -⟩ := arrive_of_full draw m hroom
      obtain ⟨s', hexec, hws, hbuf', hdel, hent⟩ := @ih (s.arrive r draw m) (by rw [hbuf]; exact hb)
      have hfull : r.bufferSize - s.buffer.length = 0 := by omega
      refine ⟨s', hexec, by rw [hws, arrive_workers], ?_, by rw [hdel, deliveries_arrive], ?_⟩
      · rw [hbuf', hbuf, hevents, hfull]
        simp
      · rw [hent, entries_arrive, if_neg hroom, hevents, hbuf, hfull]
        simp

theorem step_take_of {w k : Nat} {ev : Event} {rest : List (Nat × Event)}
    (hw : s.workers[w]? = some .idle) (hb : s.buffer = (k, ev) :: rest) :
    step r draw s (.take w) = some { s.work w (.holding k ev) [] with buffer := rest } := by
  simp [step, hw, hb]

theorem step_call_of {w k : Nat} {ev : Event} (hw : s.workers[w]? = some (.holding k ev)) :
    step r draw s (.call w) =
      some (s.work w (.delivering k ev) ((r.eventLogs ev).map (.log k) ++ [.deliver w k ev])) := by
  simp [step, hw]

theorem step_answer_of {w k : Nat} {ev : Event} {result : Except Fault Unit}
    (hw : s.workers[w]? = some (.delivering k ev)) :
    step r draw s (.answer w result) =
      some (s.work w .idle
        (.answered w k result :: (RelaySetup.failureLogs ev result).map (.log k))) := by
  simp [step, hw]

/-- **The turns of worker 0.** While worker 0 is idle, it hands on every queued event in turn,
logging each as `TopicBridge.Relay.RelaySetup.deliveryLogs` does. -/
theorem exec_handleQueued (deliver : Event → Except Fault Unit) {bs : List (Nat × Event)}
    (h0 : s.workers[0]? = some .idle) (hb : s.buffer = bs) :
    ∃ s', exec r draw s (bs.flatMap fun p => handleQueued deliver p.2) = some s' ∧
      deliveries s'.log = deliveries s.log ++ bs ∧
      entries s'.log = entries s.log ++ bs.flatMap fun p => r.deliveryLogs p.2 (deliver p.2) := by
  induction bs generalizing s with
  | nil => exact ⟨s, rfl, by simp, by simp⟩
  | cons p bs ih =>
    obtain ⟨k, ev⟩ := p
    have hlen : 0 < s.workers.length := (List.getElem?_eq_some_iff.1 h0).1
    -- one turn: take, hand on, be answered
    let t₁ : System G := { s.work 0 (.holding k ev) [] with buffer := bs }
    let t₂ := t₁.work 0 (.delivering k ev) ((r.eventLogs ev).map (.log k) ++ [.deliver 0 k ev])
    let u := t₂.work 0 .idle
      (.answered 0 k (deliver ev) :: (RelaySetup.failureLogs ev (deliver ev)).map (.log k))
    have hw₁ : t₁.workers[0]? = some (.holding k ev) := by simp [t₁, System.work, hlen]
    have hw₂ : t₂.workers[0]? = some (.delivering k ev) := by simp [t₂, t₁, System.work, hlen]
    have hturn : exec r draw s (handleQueued deliver ev) = some u := by
      simp only [handleQueued, exec, step_take_of h0 hb, Option.bind_some]
      rw [step_call_of hw₁, Option.bind_some, step_answer_of hw₂, Option.bind_some]
    obtain ⟨s', hexec, hdel, hent⟩ :=
      @ih u (by simp [u, t₂, t₁, System.work, hlen]) (by simp [u, t₂, t₁, System.work])
    refine ⟨s', ?_, ?_, ?_⟩
    · rw [List.flatMap_cons, exec_append, hturn, Option.bind_some]
      exact hexec
    · simp [hdel, u, t₂, t₁, System.work]
    · simp [hent, u, t₂, t₁, System.work, RelaySetup.deliveryLogs]

end Phases

/-- The entries of relaying events are about the events and their delivery. -/
theorem message_of_mem_deliveryLogs {r : RelaySetup} {ev : Event} {result : Except Fault Unit}
    {e : Entry} (he : e ∈ r.deliveryLogs ev result) :
    e.message = "event" ∨ e.message = "relay delivery failed" := by
  rw [RelaySetup.deliveryLogs, List.mem_append] at he
  exact he.imp (RelaySetup.eventLogs_message r ev e) (RelaySetup.failureLogs_message ev result e)

/-- Entries none of which is about the subscription pass the filter that leaves those out. -/
theorem filter_not_subscription {es : List Entry}
    (h : ∀ e ∈ es, e.message ≠ "relay subscribed" ∧ e.message ≠ "relay unsubscribe failed") :
    es.filter (fun e => e.message ≠ "relay subscribed" ∧ e.message ≠ "relay unsubscribe failed") =
      es :=
  List.filter_eq_self.2 fun e he => decide_eq_true (h e he)

/-- **The sequential run is one interleaving.** When the subscription succeeds, the run that
lets every message arrive and then has worker 0 hand on each kept event in turn hands on the
events `TopicBridge.Relay.RelaySetup.run` delivers, and logs its entries, those about the
subscription apart. -/
theorem run_is_interleaving (r : RelaySetup) {G : Type} (draw : G → String × G) (g : G)
    (now : Instant) (msgs : List (String × Option ByteArray)) (unsubscribeError : Option String)
    (deliver : Event → Except Fault Unit) (out : RelaySetup.RunOutcome)
    (hrun : r.run true true now draw g msgs none unsubscribeError deliver = .ok out) :
    ∃ s, exec r draw (System.start r g) (sequentialSchedule r draw g now msgs deliver) = some s ∧
      (deliveries s.log).map Prod.snd = out.delivered ∧
      entries s.log = out.logs.filter fun e =>
        e.message ≠ "relay subscribed" ∧ e.message ≠ "relay unsubscribe failed" := by
  unfold RelaySetup.run at hrun
  split at hrun
  · cases hrun
  obtain rfl := (Except.ok.inj hrun).symm
  obtain ⟨s₁, hexec₁, hws₁, hbuf₁, hdel₁, hent₁⟩ :=
    @exec_arrivals G r draw (System.start r g) now msgs (by simp [System.start])
  have hkept : s₁.buffer.map Prod.snd = (r.eventsOf draw now g msgs).take r.bufferSize := by
    simpa [System.start] using hbuf₁
  have h0 : s₁.workers[0]? = some .idle := by
    have : 0 < r.workerCount := by
      unfold RelaySetup.workerCount
      split <;> omega
    simp [hws₁, System.start, this]
  obtain ⟨s₂, hexec₂, hdel₂, hent₂⟩ := exec_handleQueued deliver h0 rfl
  refine ⟨s₂, ?_, ?_, ?_⟩
  · rw [sequentialSchedule, exec_append, hexec₁, Option.bind_some, ← hkept, List.flatMap_map]
    exact hexec₂
  · simp [hdel₂, hdel₁, System.start, hkept]
  · have hdelivered : s₁.buffer.flatMap (fun p => r.deliveryLogs p.2 (deliver p.2)) =
        ((r.eventsOf draw now g msgs).take r.bufferSize).flatMap fun ev =>
          r.deliveryLogs ev (deliver ev) := by
      rw [← hkept, List.flatMap_map]
    -- neither the drop warnings nor the entries of deliveries are about the subscription
    have hdrop : ∀ e ∈ ((r.eventsOf draw now g msgs).drop r.bufferSize).map RelaySetup.droppedEntry,
        e.message ≠ "relay subscribed" ∧ e.message ≠ "relay unsubscribe failed" := by
      intro e he
      obtain ⟨ev, -, rfl⟩ := List.mem_map.1 he
      simp [RelaySetup.droppedEntry, RelaySetup.droppedMessage]
    have hdel : ∀ e ∈ ((r.eventsOf draw now g msgs).take r.bufferSize).flatMap (fun ev =>
        r.deliveryLogs ev (deliver ev)),
        e.message ≠ "relay subscribed" ∧ e.message ≠ "relay unsubscribe failed" := by
      intro e he
      obtain ⟨ev, -, he⟩ := List.mem_flatMap.1 he
      rcases message_of_mem_deliveryLogs he with h | h <;> simp [h]
    rw [hent₂, hent₁, hdelivered, List.filter_append, List.filter_append, List.filter_append,
      filter_not_subscription hdrop, filter_not_subscription hdel]
    cases unsubscribeError <;> simp [System.start]

example : ∃ out, ({ topic := "t", eventType := "type", eventSource := "src", buffer := 1 } :
    RelaySetup).run true true {} (fun g : Ident.IdSource => g.next {}) {} [("t", none), ("t", none)]
      none none (fun _ => .ok ()) = .ok out := ⟨_, rfl⟩

end TopicBridge.Relay.Channel
