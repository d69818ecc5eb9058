import Mathlib
import TopicBridge.Relay.Dispatch

/-!
# What an HTTP sink sends

An HTTP sink delivers an event as one POST in CloudEvents binary mode
(`TopicBridge.Relay.Sink.deliver`): the event's attributes go in seven header fields
(`TopicBridge.Relay.cloudEventFields`) and its payload is the body. The sink's breaker then
hears one outcome: a success for a `2xx` answer, a failure for anything else.

Four of the fields hold the event's own texts, and a client does not send a header value
holding a control character other than a tab, such as a line break
(`TopicBridge.Net.Headers.refusal`). The version, the time and the content type never hold
one (`TopicBridge.Net.validHeaderValue_render`), so the fields that can be refused are the
id, the type, the source and the subject.

`TopicBridge.Relay.http_sink_posts`: for every URL a client posts to and every event,

* the header is the seven CloudEvents fields, in order;
* when none of the four texts holds such a character, the delivery sends exactly one
  request, the POST of those fields and of the payload to the sink's URL; it succeeds
  exactly on a `2xx` answer, its breaker hears that outcome, and the server counts as
  reached exactly when it answered;
* otherwise nothing is sent, whatever the network, the delivery fails with
  `net/http: invalid header field value for "<field>"`, naming the first such field, and
  the breaker hears a failure.

So an event with a line break in its id counts against a sink that is up, and one such
event opens a breaker that trips at the first failure
(`TopicBridge.Relay.line_break_opens_breaker`).
-/

namespace TopicBridge.Net

open TopicBridge.Text TopicBridge.Time

/-! ### Header values a client sends -/

theorem validHeaderChar_of_printable {c : Char} (h : 0x20 ≤ c.toNat) (h' : c.toNat ≠ 0x7f) :
    validHeaderChar c = true := by
  have hlt : ¬ c.toNat < 0x20 := by omega
  simp [validHeaderChar, hlt, h']

theorem validHeaderChar_of_isDigit {c : Char} (h : c.isDigit = true) :
    validHeaderChar c = true := by
  simp only [Char.isDigit, Bool.and_eq_true, decide_eq_true_eq, UInt32.le_iff_toNat_le] at h
  obtain ⟨h0, h9⟩ := h
  change 48 ≤ c.val.toNat at h0
  change c.val.toNat ≤ 57 at h9
  exact validHeaderChar_of_printable (by unfold Char.toNat; omega) (by unfold Char.toNat; omega)

theorem validHeaderValue_iff {v : String} :
    validHeaderValue v = true ↔ ∀ c ∈ v.toList, validHeaderChar c = true := by
  simp [validHeaderValue]

@[simp] theorem validHeaderValue_append (a b : String) :
    validHeaderValue (a ++ b) = (validHeaderValue a && validHeaderValue b) := by
  simp [validHeaderValue, String.toList_append, List.all_append]

@[simp] theorem validHeaderValue_ofList (cs : List Char) :
    validHeaderValue (String.ofList cs) = cs.all validHeaderChar := by
  simp [validHeaderValue, String.toList_ofList]

/-- A decimal number is sent as it is. -/
@[simp] theorem validHeaderValue_repr (n : Nat) : validHeaderValue n.repr = true := by
  rw [validHeaderValue_iff, Nat.toList_repr]
  intro c hc
  exact validHeaderChar_of_isDigit (Nat.isDigit_of_mem_toDigits (by decide) (by decide) hc)

@[simp] theorem validHeaderValue_padded (n w : Nat) : validHeaderValue (padded n w) = true := by
  simp [padded, List.all_replicate, show validHeaderChar '0' = true by decide]

@[simp] theorem validHeaderValue_fractionText (ns : Nat) :
    validHeaderValue (fractionText ns) = true := by
  unfold fractionText
  split
  · decide
  · -- the digits kept are some of those of the padded number
    have hpad := validHeaderValue_iff.mp (validHeaderValue_padded ns 9)
    simp only [validHeaderValue_append, validHeaderValue_ofList, List.all_eq_true,
      List.mem_reverse, Bool.and_eq_true]
    refine ⟨by decide, fun c hc => hpad c ?_⟩
    exact List.mem_reverse.mp ((List.dropWhile_suffix _).subset hc)

@[simp] theorem validHeaderValue_offsetText (off : Int) :
    validHeaderValue (offsetText off) = true := by
  unfold offsetText
  split
  · decide
  · split <;> simp +decide

@[simp] theorem validHeaderValue_yearText (y : Int) : validHeaderValue (yearText y) = true := by
  unfold yearText
  split <;> simp +decide

/-- **Times are sent as they are**: the RFC 3339 text of an instant holds no control
character. -/
theorem validHeaderValue_render (t : Instant) : validHeaderValue t.render = true := by
  unfold Instant.render
  simp +decide

/-! ### Which fields a client refuses -/

/-- The first of some header fields, each with one value, whose value a client refuses to
send. -/
def refusedField (fs : List (String × String)) : Option String :=
  (fs.find? fun f => !validHeaderValue f.2).map (·.1)

theorem refusedField_eq_none_iff {fs : List (String × String)} :
    refusedField fs = none ↔ ∀ f ∈ fs, validHeaderValue f.2 = true := by
  simp [refusedField, List.find?_eq_none]

/-- Fields with token names and one value each are refused at the first value a client
refuses. -/
theorem refusal_of_fields (fs : List (String × String))
    (hn : ∀ f ∈ fs, validHeaderName f.1 = true) :
    (⟨fs.map fun f => (f.1, [f.2])⟩ : Headers).refusal =
      (refusedField fs).map fun k => "field value for " ++ quote k := by
  induction fs with
  | nil => rfl
  | cons f fs ih =>
    have hf : validHeaderName f.1 = true := hn f (List.mem_cons_self ..)
    have ih := ih fun g hg => hn g (List.mem_cons_of_mem _ hg)
    simp only [Headers.refusal, List.map_cons, List.findSome?_cons] at ih ⊢
    cases hv : validHeaderValue f.2
    · simp [hf, hv, refusedField]
    · simp only [hf, hv, Bool.not_true, List.all_cons, List.all_nil, Bool.and_true,
        Bool.false_eq_true, if_false, if_true, ih]
      simp [refusedField, hv]

/-! ### Posting -/

/-- A URL a client posts to, as it is sent: the text reads, with an empty port dropped from
its host; its scheme is `http` or `https`; and it names a host. -/
structure PostsTo (url : String) (u : Url) : Prop where
  /-- The text reads as `u`, but for an empty port. -/
  parse : ∃ u₀, Url.parse url = .ok u₀ ∧ u = { u₀ with host := dropEmptyPort u₀.host }
  /-- The scheme is one a client posts over. -/
  scheme : ofOctets u.scheme = "http" ∨ ofOctets u.scheme = "https"
  /-- There is a host. -/
  host : u.host ≠ []

section Posting

variable {url : String} {u : Url} {headers : Headers}

theorem PostsTo.scheme_ok (h : PostsTo url u) :
    (ofOctets u.scheme != "http" && ofOctets u.scheme != "https") = false := by
  rcases h.scheme with hs | hs <;> simp [hs]

/-- A POST with a refused header field is not sent: it fails, whatever the network. -/
theorem post_of_refusal (h : PostsTo url u) {why : String} (hr : headers.refusal = some why)
    (net : Network) (body : ByteArray) :
    post net url headers body =
      .error ("Post " ++ quote u.redacted ++ ": net/http: invalid header " ++ why) := by
  obtain ⟨u₀, hp, rfl⟩ := h.parse
  have hs := h.scheme_ok
  have hlit :
      ": " ++ ("net/http: invalid header " ++ why) = ": net/http: invalid header " ++ why := by
    rw [← String.append_assoc]
    rfl
  simp only [post, hp, hs, hr, Bool.false_eq_true, if_false, String.append_assoc, hlit]

/-- **One request.** A POST whose header fields are all sent goes out as one request: the
POST of the header and the body to the URL, at a host and a port fixed by the URL. Its
answer is the network's, and a failure to reach the server is reported with the URL. -/
theorem post_of_sent (h : PostsTo url u) (hr : headers.refusal = none) :
    ∃ host port, ∀ (net : Network) (body : ByteArray), post net url headers body =
      (net.send host port ⟨"POST", u.render, headers, body⟩).mapError
        fun e => "Post " ++ quote u.redacted ++ ": " ++ e := by
  obtain ⟨u₀, hp, rfl⟩ := h.parse
  have hs := h.scheme_ok
  have hh : (dropEmptyPort u₀.host).isEmpty = false := List.isEmpty_eq_false_iff.mpr h.host
  refine ⟨ofOctets (hostName (dropEmptyPort u₀.host)),
    if (hostPort (dropEmptyPort u₀.host)).isEmpty then
      (if ofOctets u₀.scheme == "https" then "443" else "80")
    else ofOctets (hostPort (dropEmptyPort u₀.host)), fun net body => ?_⟩
  simp only [post, hp, hs, hr, hh, Bool.false_eq_true, if_false]
  cases net.send _ _ _ <;> rfl

end Posting

end TopicBridge.Net

namespace TopicBridge.Relay

open TopicBridge.Bridge TopicBridge.Net TopicBridge.Text

/-! ### The CloudEvents fields -/

/-- The CloudEvents fields of an event in binary mode, in the order they are set: the
specification version, the event's id, type, source and subject, its time in UTC, and the
type of the body. -/
def cloudEventFields (ev : Event) : List (String × String) :=
  [("Ce-Specversion", "1.0"), ("Ce-Id", ev.id), ("Ce-Type", ev.type),
    ("Ce-Source", ev.source), ("Ce-Subject", ev.topic), ("Ce-Time", ev.receivedAt.utc.render),
    ("Content-Type", "application/octet-stream")]

/-- An event's header is its CloudEvents fields, each with one value. -/
theorem eventHeaders_entries (ev : Event) :
    (eventHeaders ev).entries = (cloudEventFields ev).map fun f => (f.1, [f.2]) := by
  -- the names are already canonical, so each `set` appends a new field
  have h1 : canonicalName "Ce-Specversion" = "Ce-Specversion" := by decide
  have h2 : canonicalName "Ce-Id" = "Ce-Id" := by decide
  have h3 : canonicalName "Ce-Type" = "Ce-Type" := by decide
  have h4 : canonicalName "Ce-Source" = "Ce-Source" := by decide
  have h5 : canonicalName "Ce-Subject" = "Ce-Subject" := by decide
  have h6 : canonicalName "Ce-Time" = "Ce-Time" := by decide
  have h7 : canonicalName "Content-Type" = "Content-Type" := by decide
  simp [eventHeaders, cloudEventFields, Headers.set, h1, h2, h3, h4, h5, h6, h7]

/-- Of an event's fields only the four that hold its own texts can be refused. -/
theorem refusedField_cloudEventFields (ev : Event) :
    refusedField (cloudEventFields ev) = refusedField [("Ce-Id", ev.id), ("Ce-Type", ev.type),
      ("Ce-Source", ev.source), ("Ce-Subject", ev.topic)] := by
  simp [refusedField, cloudEventFields, List.find?_cons, validHeaderValue_render,
    show validHeaderValue "1.0" = true by decide,
    show validHeaderValue "application/octet-stream" = true by decide]

theorem refusal_eventHeaders (ev : Event) :
    (eventHeaders ev).refusal =
      (refusedField (cloudEventFields ev)).map fun k => "field value for " ++ quote k := by
  have he : eventHeaders ev = ⟨(cloudEventFields ev).map fun f => (f.1, [f.2])⟩ := by
    rw [← eventHeaders_entries]
  rw [he]
  exact refusal_of_fields _ (by simp +decide [cloudEventFields])

/-! ### The delivery -/

/-- Whether the answer to a POST is a `2xx` status. -/
def isSuccess : Except String Nat → Bool
  | .ok status => status / 100 == 2
  | .error _ => false

@[simp] theorem isSuccess_mapError (a : Except String Nat) (f : String → String) :
    isSuccess (a.mapError f) = isSuccess a := by
  cases a <;> rfl

@[simp] theorem toOption_mapError (a : Except String Nat) (f : String → String) :
    (a.mapError f).toOption = a.toOption := by
  cases a <;> rfl

/-- An HTTP sink's delivery, from the answer to its POST: it succeeds exactly on a `2xx`
status, its breaker hears that outcome, and the POST counts as reached when answered. -/
theorem deliver_http_of_post (s : HttpSink) (net : Network) (now : Int) (ev : Event)
    {a : Except String Nat} (ha : post net s.url (eventHeaders ev) (bodyBytes ev.payload) = a) :
    let r := (Sink.http s).deliver net now ev
    (r.1 = .ok () ↔ isSuccess a = true) ∧
      r.2.1 = .http { s with
        breaker := s.breaker.call (if isSuccess a then .success else .failure now) } ∧
      r.2.2 = (a.toOption.map fun status =>
        Delivery.http s.name status (eventHeaders ev) (bodyBytes ev.payload)).toList := by
  simp only [Sink.deliver, ha]
  cases a with
  | error e => simp [isSuccess, Breaker.call, Except.toOption]
  | ok status =>
    by_cases h2 : status / 100 = 2 <;> simp [h2, isSuccess, Breaker.call, Except.toOption]

/-! ### Every event -/

/-- **What an HTTP sink sends.** For an HTTP sink whose URL a client posts to, and every
event: the header is the event's seven CloudEvents fields, and a field is refused exactly
when the id, the type, the source or the subject holds a control character other than a
tab. When none is refused, the delivery is one request, the POST of the header and the
payload to the URL; whatever the network answers, the delivery succeeds exactly on a `2xx`
answer, the breaker hears that one outcome, and the server counts as reached exactly when it
answered. When a field is refused nothing is sent, whatever the network: the delivery fails
naming the first refused field, and the breaker hears a failure. -/
theorem http_sink_posts (s : HttpSink) {u : Url} (hu : PostsTo s.url u) (now : Int)
    (ev : Event) :
    (eventHeaders ev).entries = (cloudEventFields ev).map (fun f => (f.1, [f.2])) ∧
      (refusedField (cloudEventFields ev) = none ↔
        ∀ v ∈ [ev.id, ev.type, ev.source, ev.topic], validHeaderValue v = true) ∧
      (refusedField (cloudEventFields ev) = none → ∃ host port, ∀ net : Network,
        let a := net.send host port ⟨"POST", u.render, eventHeaders ev, bodyBytes ev.payload⟩
        let r := (Sink.http s).deliver net now ev
        (r.1 = .ok () ↔ isSuccess a = true) ∧
          r.2.1 = .http { s with
            breaker := s.breaker.call (if isSuccess a then .success else .failure now) } ∧
          r.2.2 = (a.toOption.map fun status =>
            Delivery.http s.name status (eventHeaders ev) (bodyBytes ev.payload)).toList) ∧
      ∀ k, refusedField (cloudEventFields ev) = some k → ∀ net : Network,
        (Sink.http s).deliver net now ev =
          (.error (.plain ("Post " ++ quote u.redacted ++
              ": net/http: invalid header field value for " ++ quote k)),
            .http { s with breaker := s.breaker.onFailure now }, []) := by
  refine ⟨eventHeaders_entries ev, ?_, ?_, ?_⟩
  · rw [refusedField_cloudEventFields, refusedField_eq_none_iff]
    simp
  · -- the header is sent: the delivery reads the one answer
    intro hnone
    obtain ⟨host, port, hpost⟩ := post_of_sent hu (by rw [refusal_eventHeaders, hnone]; rfl)
    refine ⟨host, port, fun net => ?_⟩
    simpa using deliver_http_of_post s net now ev (hpost net (bodyBytes ev.payload))
  · -- a field is refused: the POST fails before the network is reached
    intro k hk net
    have hpost := post_of_refusal hu (by rw [refusal_eventHeaders, hk]; rfl) net
      (bodyBytes ev.payload)
    have hlit : ": net/http: invalid header " ++ ("field value for " ++ quote k) =
        ": net/http: invalid header field value for " ++ quote k := by
      rw [← String.append_assoc]
      rfl
    simp only [Sink.deliver, hpost, String.append_assoc, hlit]

/-- The address of a sink on this host, as sent. -/
theorem postsTo_local :
    PostsTo "http://127.0.0.1:1/"
      { scheme := "http".toList, host := "127.0.0.1:1".toList, path := ['/'] } :=
  ⟨⟨{ scheme := "http".toList, host := "127.0.0.1:1".toList, path := ['/'] },
    by decide +kernel, rfl⟩, Or.inl (by decide +kernel), by decide⟩

/-- An event of plain texts is sent, and a server answering `200` makes the delivery
succeed. -/
theorem plain_event_delivered :
    PostsTo "http://127.0.0.1:1/"
        { scheme := "http".toList, host := "127.0.0.1:1".toList, path := ['/'] } ∧
      ((Sink.http (HttpSink.new "broker" "http://127.0.0.1:1/" 1000 1 60000)).deliver
        ⟨fun _ _ _ => .ok 200⟩ 0 { id := "ev-1", topic := "boiler-to-virtual" }).1 = .ok () := by
  have hnone : refusedField (cloudEventFields { id := "ev-1", topic := "boiler-to-virtual" }) =
      none := by
    rw [refusedField_cloudEventFields]
    decide
  obtain ⟨host, port, h⟩ :=
    (http_sink_posts (HttpSink.new "broker" "http://127.0.0.1:1/" 1000 1 60000) postsTo_local 0
      { id := "ev-1", topic := "boiler-to-virtual" }).2.2.1 hnone
  exact ⟨postsTo_local, ((h ⟨fun _ _ _ => .ok 200⟩).1).mpr rfl⟩

/-- An event with a line break in its id, delivered to a sink that is up and answers every
POST with `200`: nothing is sent, the delivery fails, and a breaker that trips at the first
failure opens. -/
theorem line_break_opens_breaker :
    let s := HttpSink.new "broker" "http://127.0.0.1:1/" 1000 1 60000
    let r := (Sink.http s).deliver ⟨fun _ _ _ => .ok 200⟩ 0 { id := "ev\n0" }
    r.1 = .error (.plain
        "Post \"http://127.0.0.1:1/\": net/http: invalid header field value for \"Ce-Id\"") ∧
      r.2.1 = .http { s with breaker := s.breaker.onFailure 0 } ∧ r.2.2 = [] ∧
      (s.breaker.onFailure 0).state = .opened := by
  have hpost : post ⟨fun _ _ _ => .ok 200⟩ "http://127.0.0.1:1/" (eventHeaders { id := "ev\n0" })
      (bodyBytes none) = .error
        "Post \"http://127.0.0.1:1/\": net/http: invalid header field value for \"Ce-Id\"" := by
    decide +kernel
  refine ⟨?_, ?_, ?_, by decide⟩ <;> simp [Sink.deliver, HttpSink.new, hpost]

end TopicBridge.Relay
