import TopicBridge.Bridge.Publish

/-!
# One request, one publish, one row

What handling a request on a route does, for **every** route, request, bridge, publisher and
journal: the three views of the exchange – the message handed to the publisher, the journal
row and the reply – agree.

* The publisher is consulted once, on the message built from the route, the bridge's broker
  and the request body (`TopicBridge.Bridge.handle_published`,
  `TopicBridge.Bridge.handle_eq_answer`); how the route logs changes nothing but the log.
* An attached journal gets exactly one row, which agrees with the request, the message and
  the outcome (`TopicBridge.Bridge.RowAgrees`); every log entry naming an exchange names
  this one.
* The result is the same whether the journal is absent, records, or fails.

The main statement is `TopicBridge.Bridge.handle_publishes_once`.
-/

namespace TopicBridge.Bridge

open TopicBridge.Log TopicBridge.Time

/-! ### Journals and log entries -/

/-- An entry is about the exchange `id`: each of its `exchange_id` fields holds `id`. -/
def AboutExchange (id : String) (e : Entry) : Prop :=
  ∀ fld ∈ e.fields, fld.key = "exchange_id" → fld.value = .text id

/-- A journal keeps the row exactly when it is attached. -/
theorem record_rows (j : Journal) (ex : Exchange) :
    (record j ex).1 = if j.attached then [ex] else [] := by
  cases j <;> rfl

/-- The only row a journal can keep is the one it is given. -/
theorem eq_of_mem_record_rows {j : Journal} {ex row : Exchange} (h : row ∈ (record j ex).1) :
    row = ex := by
  rw [record_rows] at h
  split at h
  · exact List.mem_singleton.mp h
  · cases h

/-- A failing journal logs its error against the row's exchange. -/
theorem record_logs_about (j : Journal) (ex : Exchange) :
    ∀ e ∈ (record j ex).2, AboutExchange ex.id e := by
  cases j with
  | absent => simp [record]
  | accepting => simp [record]
  | failing t => simp [record, AboutExchange, Field.str, Field.err]

/-- The entries a request is logged with are about its exchange, whatever the verbosity. -/
theorem requestLog_about (id : String) (route : Route) (req : InboundRequest) :
    ∀ e ∈ requestLog id route req, AboutExchange id e := by
  unfold requestLog
  split
  · simp
  · split <;> simp [AboutExchange, Field.str]
  · simp [AboutExchange, Field.str, Field.num]

/-- What the journal row of an exchange says: the exchange id, the route, method and path
of the request, the topic and broker of the message, the size of the body, the latency
truncated to whole milliseconds, whether the result is a success, and on a failure the text
of the publisher's error. -/
structure RowAgrees (id : String) (route : Route) (req : InboundRequest) (msg : OutboundMessage)
    (pub : Publication) (result : Except PublishFailure Reply) (row : Exchange) : Prop where
  /-- The exchange id. -/
  id_eq : row.id = id
  /-- The route's name. -/
  route_eq : row.route = route.name
  /-- The request's method. -/
  method_eq : row.method = req.method
  /-- The request's path. -/
  path_eq : row.path = req.path
  /-- The message's topic. -/
  topic_eq : row.topic = msg.topic
  /-- The message's broker. -/
  broker_eq : row.broker = msg.broker
  /-- The size of the request body. -/
  size_eq : row.payloadSize = (req.body.getD ByteArray.empty).size
  /-- The latency, truncated to milliseconds. -/
  latency_eq : row.latencyMs = pub.elapsed.tdiv 1000000
  /-- Published exactly on success. -/
  published_iff : row.status = .published ↔ result.isOk = true
  /-- The publisher's error text on a failure. -/
  error_eq : ∀ f, pub.result = .error f → row.error = f.text

/-! ### The publish -/

section Handle

variable (b : BridgeSetup) (id : String) (start : Instant) (route : Route) (req : InboundRequest)
  (cancelled : Bool) (publish : OutboundMessage → CallContext → Publication)

/-- The message handed to the publisher: the route's topic, quality of service and retain
flag, the bridge's broker, and the request body, empty when there is none. -/
@[simp] theorem handle_published :
    (handle b id start route req cancelled publish).published =
      OutboundMessage.ofBody route.topic b.broker route.qos route.retained req.body := by
  simp only [handle]
  split <;> rfl

/-- The publisher is consulted once: everything handling a request produces is decided by
the publisher's answer on that message, in a context ending at the publish timeout. -/
theorem handle_eq_answer :
    handle b id start route req cancelled publish =
      handle b id start route req cancelled fun _ _ =>
        publish (OutboundMessage.ofBody route.topic b.broker route.qos route.retained req.body)
          { timeout := b.publishTimeout, cancelled } := rfl

/-- An attached journal gets one row, and no other journal any. -/
theorem handle_rows_length :
    (handle b id start route req cancelled publish).rows.length =
      if b.journal.attached then 1 else 0 := by
  simp only [handle]
  split <;> simp [record_rows] <;> split <;> rfl

/-- Every entry logged while handling a request is about its exchange. -/
theorem handle_logs_about : ∀ e ∈ (handle b id start route req cancelled publish).logs,
    AboutExchange id e := by
  simp only [handle]
  -- either way the entries are the request's, one on the outcome, and the journal's
  split
  all_goals
    intro e he
    simp only [List.append_assoc, List.mem_append, List.mem_singleton] at he
    rcases he with he | rfl | he
    · exact requestLog_about id route req e he
    · simp [AboutExchange, Field.str, Field.num, Field.err]
    · exact record_logs_about b.journal _ e he

/-- The journal changes nothing of the result. -/
theorem handle_result_journal (j : Journal) :
    (handle { b with journal := j } id start route req cancelled publish).result =
      (handle b id start route req cancelled publish).result := by
  simp only [handle]
  split <;> rfl

/-- How the route logs changes neither the rows nor the result. -/
theorem handle_log_options (log : LogOptions) :
    (handle b id start { route with log } req cancelled publish).rows =
        (handle b id start route req cancelled publish).rows ∧
      (handle b id start { route with log } req cancelled publish).result =
        (handle b id start route req cancelled publish).result := by
  simp only [handle]
  split <;> exact ⟨rfl, rfl⟩

/-- The row of a journal agrees with the request, the message and the outcome. -/
theorem handle_rows_agree :
    ∀ row ∈ (handle b id start route req cancelled publish).rows,
      RowAgrees id route req
        (OutboundMessage.ofBody route.topic b.broker route.qos route.retained req.body)
        (publish (OutboundMessage.ofBody route.topic b.broker route.qos route.retained req.body)
          { timeout := b.publishTimeout, cancelled })
        (handle b id start route req cancelled publish).result row := by
  simp only [handle]
  split
  · next f hf =>
    intro row hrow
    obtain rfl := eq_of_mem_record_rows hrow
    refine ⟨rfl, rfl, rfl, rfl, rfl, rfl, rfl, rfl, ?_, fun g hg => ?_⟩
    · split <;> simp [Except.isOk, Except.toBool]
    · rw [hf] at hg
      cases hg
      rfl
  · next hf =>
    intro row hrow
    obtain rfl := eq_of_mem_record_rows hrow
    exact ⟨rfl, rfl, rfl, rfl, rfl, rfl, rfl, rfl, by simp [Except.isOk, Except.toBool],
      fun g hg => by simp [hf] at hg⟩

/-- A successful publish replies with the acknowledgement of the exchange and the request
body, emptied when the route clears it. -/
theorem handle_reply {r : Reply} (h : (handle b id start route req cancelled publish).result = .ok r) :
    r.ack = { id, topic := route.topic, payloadSize := (req.body.getD ByteArray.empty).size,
              latency := (publish (OutboundMessage.ofBody route.topic b.broker route.qos
                route.retained req.body) { timeout := b.publishTimeout, cancelled }).elapsed } ∧
      r.body = if route.clearBody then some ByteArray.empty else req.body := by
  simp only [handle] at h
  split at h
  · cases h
  · cases h
    exact ⟨rfl, rfl⟩

/-- A failed publish returns the classified failure. -/
theorem handle_result_of_error {f : Fault}
    (hf : (publish (OutboundMessage.ofBody route.topic b.broker route.qos route.retained req.body)
      { timeout := b.publishTimeout, cancelled }).result = .error f) :
    (handle b id start route req cancelled publish).result =
      .error (classify route.name route.topic f) := by
  simp [handle, hf]

/-- The row of a failed publish says `timeout` for a failure of the timeout kind, and
`failed` for any other. -/
theorem handle_rows_status_of_error {f : Fault}
    (hf : (publish (OutboundMessage.ofBody route.topic b.broker route.qos route.retained req.body)
      { timeout := b.publishTimeout, cancelled }).result = .error f) :
    ∀ row ∈ (handle b id start route req cancelled publish).rows,
      row.status = if (classify route.name route.topic f).kind = .timedOut then .timeout
        else .failed := by
  simp only [handle, hf]
  intro row hrow
  obtain rfl := eq_of_mem_record_rows hrow
  simp [PublishFailure.isTimeoutKind]

end Handle

/-! ### The three views of an exchange -/

/-- **One request, one publish, one row.** For every bridge, route, request and publisher:
the publisher is consulted once, on the message carrying the route's topic, quality of
service and retain flag, the bridge's broker and a copy of the body (empty when there is
none), however the route logs; an attached journal gets exactly one row, which agrees with
the exchange; every entry logged names this exchange; the result is the same whatever the
journal does; and a success replies with the exchange's acknowledgement and the body,
emptied when the route clears it. -/
theorem handle_publishes_once (b : BridgeSetup) (id : String) (start : Instant) (route : Route)
    (req : InboundRequest) (cancelled : Bool)
    (publish : OutboundMessage → CallContext → Publication) :
    let msg : OutboundMessage :=
      { topic := route.topic, broker := b.broker, qos := route.qos, retained := route.retained,
        payload := req.body.getD ByteArray.empty }
    let pub := publish msg { timeout := b.publishTimeout, cancelled }
    let h := handle b id start route req cancelled publish
    (h.published = msg ∧ h = handle b id start route req cancelled (fun _ _ => pub)) ∧
      (∀ log, (handle b id start { route with log } req cancelled publish).published = msg ∧
        (handle b id start { route with log } req cancelled publish).rows = h.rows ∧
        (handle b id start { route with log } req cancelled publish).result = h.result) ∧
      h.rows.length = (if b.journal.attached then 1 else 0) ∧
      (∀ row ∈ h.rows, RowAgrees id route req msg pub h.result row) ∧
      (∀ e ∈ h.logs, AboutExchange id e) ∧
      (∀ j, (handle { b with journal := j } id start route req cancelled publish).result =
        h.result) ∧
      (∀ r, h.result = .ok r →
        r.ack = { id, topic := route.topic, payloadSize := msg.payload.size,
                  latency := pub.elapsed } ∧
        r.body = if route.clearBody then some ByteArray.empty else req.body) := by
  intro msg pub h
  have hlog := handle_log_options b id start route req cancelled publish
  refine ⟨⟨handle_published .., handle_eq_answer ..⟩,
    fun log => ⟨handle_published .., (hlog log).1, (hlog log).2⟩, handle_rows_length ..,
    handle_rows_agree b id start route req cancelled publish,
    handle_logs_about b id start route req cancelled publish,
    handle_result_journal b id start route req cancelled publish, fun r hr => ?_⟩
  exact handle_reply b id start route req cancelled publish hr

/-- A request on a route that clears the body, journalled and acknowledged after 2.5 ms:
one row, published, with a latency of 2 ms, and an empty reply body. -/
theorem cleared_reply_journalled :
    let h := handle { journal := .accepting } "e1" {} { topic := "t", clearBody := true }
      { body := some "hi".toUTF8 } false fun _ _ => { elapsed := 2500000 }
    (∃ row ∈ h.rows, row.status = .published ∧ row.latencyMs = 2) ∧
      ∃ r, h.result = .ok r ∧ r.body = some ByteArray.empty := by
  intro h
  obtain ⟨-, -, -, hrows, -, -, hreply⟩ :=
    handle_publishes_once { journal := .accepting } "e1" {} { topic := "t", clearBody := true }
      { body := some "hi".toUTF8 } false fun _ _ => { elapsed := 2500000 }
  obtain ⟨row, hrow⟩ : ∃ row, h.rows = [row] := ⟨_, rfl⟩
  obtain ⟨r, hr⟩ : ∃ r, h.result = .ok r := ⟨_, rfl⟩
  have hmem : row ∈ h.rows := by simp [hrow]
  have hagree := hrows row hmem
  have hok : h.result.isOk = true := by
    rw [hr]
    rfl
  refine ⟨⟨row, hmem, hagree.published_iff.mpr hok, by rw [hagree.latency_eq]; decide⟩,
    r, hr, ?_⟩
  simpa using (hreply r hr).2

end TopicBridge.Bridge
