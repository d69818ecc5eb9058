import Mathlib
import TopicBridge.Broker.Session

/-!
# What a session's registry holds

A session records a subscription before it asks the link for it, and replays every
recorded subscription after each connect. Read as a map from topics
(`TopicBridge.Broker.Session.subscriptions`), the registry follows what each request
returned: a subscribe that returned without error records its topic, an unsubscribe
forgets its topics, and a subscribe that returned an error **forgets its topic** – also
when the topic was recorded by an earlier subscribe that succeeded, since the refusal
deletes the topic rather than undoing its own record
(`TopicBridge.Broker.Session.refused_resubscribe_forgets`).

`TopicBridge.Broker.Session.registry_follows_answers` states this over every run of
requests, with the link going up and down and answering anything, and adds what a connect
does: one request per recorded subscription, the registry left as it was.

The registry is a list of entries keyed by topic, set in place and filtered; the first
section shows these to act on lookups as setting and removing keys of a map, and to keep
each topic once.
-/

namespace TopicBridge.Broker

open TopicBridge.Bridge

/-! ### Keyed entries -/

section Entries

variable {α : Type}

/-- A lookup on an entry put in front. -/
theorem lookup_cons_ite (k other : String) (x : α) (rest : List (String × α)) :
    ((k, x) :: rest).lookup other = if other = k then some x else rest.lookup other := by
  by_cases ho : other = k
  · subst ho
    simp
  · simp [List.lookup_cons, beq_false_of_ne ho, ho]

/-- Setting every entry of a key in place. -/
theorem lookup_map_set (entries : List (String × α)) (key other : String) (value : α) :
    (entries.map fun e => if e.1 == key then (key, value) else e).lookup other =
      if other = key then (if entries.any (·.1 == key) then some value else none)
      else entries.lookup other := by
  induction entries with
  | nil => simp
  | cons e rest ih =>
    obtain ⟨k, x⟩ := e
    simp only [List.map_cons, List.any_cons]
    by_cases hk : k = key
    · subst hk
      simp only [beq_self_eq_true, ↓reduceIte, lookup_cons_ite, Bool.true_or]
      rw [ih]
      by_cases ho : other = k <;> simp [ho]
    · simp only [beq_false_of_ne hk, Bool.false_eq_true, ↓reduceIte, lookup_cons_ite,
        Bool.false_or]
      rw [ih]
      by_cases ho : other = k
      · subst ho
        simp [hk]
      · simp [ho]

/-- Adding an entry of a key no entry has. -/
theorem lookup_append_new (entries : List (String × α)) (key other : String) (value : α)
    (hnew : entries.any (·.1 == key) = false) :
    (entries ++ [(key, value)]).lookup other =
      if other = key then some value else entries.lookup other := by
  induction entries with
  | nil => exact lookup_cons_ite key other value []
  | cons e rest ih =>
    obtain ⟨k, x⟩ := e
    simp only [List.any_cons, Bool.or_eq_false_iff, beq_eq_false_iff_ne] at hnew
    rw [List.cons_append, lookup_cons_ite, ih hnew.2, lookup_cons_ite]
    by_cases ho : other = k
    · subst ho
      simp [hnew.1]
    · simp [ho]

/-- **Setting a key changes what is found under that key and nothing else.** -/
theorem lookup_assign (entries : List (String × α)) (key other : String) (value : α) :
    (assign entries key value).lookup other =
      if other = key then some value else entries.lookup other := by
  unfold assign
  split
  · next hany => rw [lookup_map_set, if_pos hany]
  · next hnew => exact lookup_append_new entries key other value (Bool.eq_false_iff.mpr hnew)

/-- **Dropping the entries of some keys** leaves nothing under them and changes nothing
else. -/
theorem lookup_filter_keys (entries : List (String × α)) (keys : List String) (other : String) :
    (entries.filter fun e => !(keys.contains e.1)).lookup other =
      if other ∈ keys then none else entries.lookup other := by
  induction entries with
  | nil => simp
  | cons e rest ih =>
    obtain ⟨k, x⟩ := e
    by_cases hk : k ∈ keys
    · rw [List.filter_cons_of_neg (by simpa using hk), ih, lookup_cons_ite]
      by_cases ho : other = k
      · subst ho
        simp [hk]
      · simp [ho]
    · rw [List.filter_cons_of_pos (by simpa using hk), lookup_cons_ite, ih, lookup_cons_ite]
      by_cases ho : other = k
      · subst ho
        simp [hk]
      · simp [ho]

/-- Setting a key keeps the keys distinct. -/
theorem assign_keys_nodup (entries : List (String × α)) (key : String) (value : α)
    (h : (entries.map (·.1)).Nodup) : ((assign entries key value).map (·.1)).Nodup := by
  unfold assign
  split
  · next hany =>
    -- the keys stay where they were
    have hkeys : ((entries.map fun e => if e.1 == key then (key, value) else e).map (·.1)) =
        entries.map (·.1) := by
      simp only [List.map_map]
      refine List.map_congr_left fun e _ => ?_
      by_cases hk : e.1 = key <;> simp [hk]
    rwa [hkeys]
  · next hnew =>
    -- the new key is not among the old ones
    have hkey : key ∉ entries.map (·.1) := by simpa using hnew
    rw [List.map_append, List.map_singleton]
    exact h.append (List.nodup_singleton _) (List.disjoint_singleton.mpr hkey)

/-- Dropping the entries of some keys keeps the keys distinct. -/
theorem filter_keys_nodup (entries : List (String × α)) (keys : List String)
    (h : (entries.map (·.1)).Nodup) :
    ((entries.filter fun e => !(keys.contains e.1)).map (·.1)).Nodup :=
  h.sublist (List.filter_sublist.map _)

end Entries

namespace Session

variable {H : Type}

/-! ### The registry as a map -/

/-- The subscription recorded for each topic. -/
def subscriptions (s : Session H) (topic : String) : Option (Subscription H) :=
  s.registry.lookup topic

theorem subscriptions_remember (s : Session H) (topic : String) (sub : Subscription H) :
    (s.remember topic sub).subscriptions = Function.update s.subscriptions topic (some sub) := by
  funext other
  simp only [subscriptions, remember, lookup_assign, Function.update_apply]

theorem subscriptions_forget (s : Session H) (topics : List String) :
    (s.forget topics).subscriptions = fun t => if t ∈ topics then none else s.subscriptions t := by
  funext other
  simp only [subscriptions, forget, lookup_filter_keys]

/-! ### Resubscribing -/

/-- One resubscription asks for its entry's topic with the entry's quality of service and
handler, and leaves the registry alone. -/
theorem resubscribeOne_spec (answer : String → Token) (acc : Outcome H Unit)
    (e : String × Subscription H) :
    (resubscribeOne answer acc e).next.registry = acc.next.registry ∧
      (resubscribeOne answer acc e).calls = acc.calls ++ [.subscribe e.1 e.2.qos e.2.handler] := by
  unfold resubscribeOne
  split <;> exact ⟨rfl, rfl⟩

theorem foldl_resubscribeOne (answer : String → Token) (entries : List (String × Subscription H))
    (acc : Outcome H Unit) :
    (entries.foldl (resubscribeOne answer) acc).next.registry = acc.next.registry ∧
      (entries.foldl (resubscribeOne answer) acc).calls =
        acc.calls ++ entries.map fun e => .subscribe e.1 e.2.qos e.2.handler := by
  induction entries generalizing acc with
  | nil => simp
  | cons e rest ih =>
    obtain ⟨hreg, hcalls⟩ := resubscribeOne_spec answer acc e
    rw [List.foldl_cons, (ih _).1, (ih _).2, hreg, hcalls]
    simp

/-- **A connect asks once for every recorded subscription**, with its quality of service
and handler, and leaves the registry as it was. -/
theorem onConnect_spec (s : Session H) (answer : String → Token) :
    (s.onConnect answer).next.registry = s.registry ∧
      (s.onConnect answer).calls.Perm
        (s.registry.map fun e => .subscribe e.1 e.2.qos e.2.handler) := by
  obtain ⟨hreg, hcalls⟩ := foldl_resubscribeOne answer s.replayOrder
    { value := (), next := s,
      logs := [⟨.info, "connected to MQTT broker", [⟨"brokers", .texts s.brokers⟩]⟩] }
  refine ⟨hreg, ?_⟩
  rw [onConnect, hcalls, List.nil_append]
  exact (List.mergeSort_perm _ _).map _

/-- A connect makes one request per recorded subscription. -/
theorem onConnect_calls_length (s : Session H) (answer : String → Token) :
    (s.onConnect answer).calls.length = s.registry.length := by
  rw [(onConnect_spec s answer).2.length_eq, List.length_map]

/-! ### Subscribing and unsubscribing -/

/-- A subscribe records the topic when it returns without error, and forgets it when it
returns an error: the registry changes under that topic only. -/
theorem subscribe_subscriptions (s : Session H) (topic : String) (qos : Nat) (handler : H)
    (refusal : Option Fault) :
    (s.subscribe topic qos handler refusal).next.subscriptions =
      Function.update s.subscriptions topic
        (if (s.subscribe topic qos handler refusal).value.isOk then some ⟨qos, handler⟩
          else none) := by
  unfold subscribe
  cases refusal with
  | none => exact subscriptions_remember s topic _
  | some e =>
    dsimp only
    split
    · exact subscriptions_remember s topic _
    · -- refused while connected: recorded, then forgotten again
      funext other
      rw [subscriptions_forget, subscriptions_remember]
      by_cases ho : other = topic <;> simp [ho, Except.isOk, Except.toBool]

/-- An unsubscribe forgets its topics, whatever the link answers. -/
theorem unsubscribe_subscriptions (s : Session H) (topics : List String) (tok : Token) :
    (s.unsubscribe topics tok).next.subscriptions =
      fun t => if t ∈ topics then none else s.subscriptions t :=
  subscriptions_forget s topics

theorem subscribe_keys_nodup (s : Session H) (topic : String) (qos : Nat) (handler : H)
    (refusal : Option Fault) (h : (s.registry.map (·.1)).Nodup) :
    ((s.subscribe topic qos handler refusal).next.registry.map (·.1)).Nodup := by
  have hrem := assign_keys_nodup s.registry topic ⟨qos, handler⟩ h
  unfold subscribe
  cases refusal with
  | none => exact hrem
  | some e =>
    dsimp only
    split
    · exact hrem
    · exact filter_keys_nodup _ _ hrem

end Session

/-! ### Runs of requests -/

/-- A request a client makes of its session, with the link's answers. -/
inductive Request (H : Type) where
  /-- Subscribe a handler to a topic, the link refusing with the fault if one is given. -/
  | subscribe (topic : String) (qos : Nat) (handler : H) (refusal : Option Fault)
  /-- Unsubscribe from topics, the link answering with the token. -/
  | unsubscribe (topics : List String) (tok : Token)
  /-- The connection has come up: every recorded subscription is asked for again, each
  topic meeting its token. -/
  | reconnect (answer : String → Token)
  /-- The connection goes up or down. -/
  | link (up : Bool)

variable {H : Type}

/-- What a request does to the subscriptions, given whether it returned without error: a
subscribe records its topic when it succeeded and forgets it when it failed, an unsubscribe
forgets its topics, and nothing else changes them. -/
def Request.effect : Request H → Bool → (String → Option (Subscription H)) →
    String → Option (Subscription H)
  | .subscribe t q h _, ok, m => Function.update m t (if ok then some ⟨q, h⟩ else none)
  | .unsubscribe ts _, _, m => fun t => if t ∈ ts then none else m t
  | .reconnect _, _, m => m
  | .link _, _, m => m

namespace Session

/-- Serves one request: the session afterwards, and whether the request returned without
error. -/
def serve (s : Session H) : Request H → Session H × Bool
  | .subscribe t q h r => ((s.subscribe t q h r).next, (s.subscribe t q h r).value.isOk)
  | .unsubscribe ts tok => ((s.unsubscribe ts tok).next, (s.unsubscribe ts tok).value.isOk)
  | .reconnect answer => ((s.onConnect answer).next, true)
  | .link up => (s.linkUp up, true)

/-- Serves requests in order: the session afterwards, and for each request whether it
returned without error. -/
def serveAll (s : Session H) : List (Request H) → Session H × List Bool
  | [] => (s, [])
  | r :: rs => (((s.serve r).1.serveAll rs).1, (s.serve r).2 :: ((s.serve r).1.serveAll rs).2)

/-- **Every request changes the subscriptions as its answer says.** -/
theorem serve_subscriptions (s : Session H) (r : Request H) :
    (s.serve r).1.subscriptions = r.effect (s.serve r).2 s.subscriptions := by
  cases r with
  | subscribe t q h refusal => exact subscribe_subscriptions s t q h refusal
  | unsubscribe ts tok => exact unsubscribe_subscriptions s ts tok
  | reconnect answer =>
    funext t
    simp only [serve, subscriptions, (onConnect_spec s answer).1, Request.effect]
  | link up => rfl

theorem serve_keys_nodup (s : Session H) (r : Request H) (h : (s.registry.map (·.1)).Nodup) :
    ((s.serve r).1.registry.map (·.1)).Nodup := by
  cases r with
  | subscribe t q handler refusal => exact subscribe_keys_nodup s t q handler refusal h
  | unsubscribe ts tok => exact filter_keys_nodup _ _ h
  | reconnect answer => simpa [serve, (onConnect_spec s answer).1] using h
  | link up => exact h

/-- Over a run, the subscriptions are those the requests' answers build, in order. -/
theorem serveAll_subscriptions (s : Session H) (rs : List (Request H)) :
    (s.serveAll rs).1.subscriptions =
      (rs.zip (s.serveAll rs).2).foldl (fun m a => a.1.effect a.2 m) s.subscriptions := by
  induction rs generalizing s with
  | nil => rfl
  | cons r rs ih =>
    simp only [serveAll, List.zip_cons_cons, List.foldl_cons]
    rw [← serve_subscriptions, ih]

theorem serveAll_keys_nodup (s : Session H) (rs : List (Request H))
    (h : (s.registry.map (·.1)).Nodup) : ((s.serveAll rs).1.registry.map (·.1)).Nodup := by
  induction rs generalizing s with
  | nil => exact h
  | cons r rs ih => exact ih _ (serve_keys_nodup s r h)

/-- **The registry follows the answers.** Over any run of subscribes, unsubscribes,
reconnects and changes of the link, from a session whose registry holds each topic once:
the recorded subscriptions are those built by taking the requests in order, a subscribe
that returned without error recording its topic with its quality of service and handler, a
subscribe that returned an error forgetting its topic, and an unsubscribe forgetting its
topics. The registry still holds each topic once, and a connect afterwards asks once for
every recorded subscription, with its quality of service and handler, and leaves the
registry as it was. -/
theorem registry_follows_answers (s : Session H) (rs : List (Request H))
    (hs : (s.registry.map (·.1)).Nodup) :
    let run := s.serveAll rs
    run.1.subscriptions =
        (rs.zip run.2).foldl (fun m a => a.1.effect a.2 m) s.subscriptions ∧
      (run.1.registry.map (·.1)).Nodup ∧
      ∀ answer : String → Token,
        (run.1.onConnect answer).next.registry = run.1.registry ∧
          (run.1.onConnect answer).calls.Perm
            (run.1.registry.map fun e => .subscribe e.1 e.2.qos e.2.handler) :=
  ⟨serveAll_subscriptions s rs, serveAll_keys_nodup s rs hs,
    fun answer => onConnect_spec _ answer⟩

/-- A subscribe refused while connected, after one that succeeded: the topic is forgotten,
and a connect afterwards asks for nothing. -/
theorem refused_again_not_replayed :
    let s : Session Unit := { brokers := ["tcp://mqtt-broker:1883"], link := { connected := true } }
    let rs : List (Request Unit) := [.subscribe "boiler-to-virtual" 1 () none,
      .subscribe "boiler-to-virtual" 0 () (some (.plain "not authorized"))]
    (s.serveAll rs).2 = [true, false] ∧
      (s.serveAll rs).1.subscriptions "boiler-to-virtual" = none ∧
      ((s.serveAll rs).1.onConnect fun _ => .done).calls.Perm [] := by
  intro s rs
  obtain ⟨hsubs, -, hconnect⟩ := registry_follows_answers s rs List.nodup_nil
  have hanswers : (s.serveAll rs).2 = [true, false] := by decide
  have hforgot : (s.serveAll rs).1.subscriptions "boiler-to-virtual" = none := by
    rw [hsubs, hanswers]
    simp [rs, Request.effect]
  refine ⟨hanswers, hforgot, ?_⟩
  have hempty : (s.serveAll rs).1.registry = [] := by decide
  simpa [hempty] using (hconnect fun _ => .done).2

/-- **A refused subscribe does not leave the registry as it was.** On a connected session
where `boiler-to-virtual` is subscribed with quality of service 1, subscribing it again is
refused and returns an error, yet the earlier subscription is gone with it: a connect
before the refusal asks for the topic, a connect after it does not. -/
theorem refused_resubscribe_forgets :
    let s : Session Unit := { brokers := ["tcp://mqtt-broker:1883"], link := { connected := true } }
    let first := s.subscribe "boiler-to-virtual" 1 () none
    let second := first.next.subscribe "boiler-to-virtual" 0 () (some (.plain "not authorized"))
    first.value.isOk = true ∧ first.next.subscriptions "boiler-to-virtual" = some ⟨1, ()⟩ ∧
      (first.next.onConnect fun _ => .done).calls.length = 1 ∧
      second.value.isOk = false ∧ second.next.subscriptions "boiler-to-virtual" = none ∧
      (second.next.onConnect fun _ => .done).calls.length = 0 :=
  ⟨by decide, rfl, by rw [onConnect_calls_length]; decide, by decide, rfl,
    by rw [onConnect_calls_length]; decide⟩

end Session

end TopicBridge.Broker
