import Mathlib
import TopicBridge.Relay.Channel
import TopicBridge.Ident.Ulid

/-!
# What every relay run keeps

Whatever the interleaving of arrivals, worker steps and the cancellation, a run of the relay
(`TopicBridge.Relay.Channel.exec`) keeps `TopicBridge.Relay.Channel.Inv`: it holds at the start
(`TopicBridge.Relay.Channel.inv_start`) and after every action
(`TopicBridge.Relay.Channel.inv_step`), hence after every run
(`TopicBridge.Relay.Channel.inv_exec`).

## The invariant

The log is read in three views, each entry with the tag of its event: the events made
(`made`), the drop warnings (`dropped`) and the events handed to the deliverer
(`deliveries`). The events a run **keeps** are those handed on, then those held by a worker,
then those queued (`kept`): the order in which a single worker handles them. Then

* the events made are, in order, those of the messages that arrived (`arrivalEvent`), each
  under the identifier of its own draw from the identifier source (`TopicBridge.Ident.drawnId`);
* the channel never holds more events than its size;
* every arrival is dropped or kept, and only once: the tags of the drop warnings and of the
  kept events are a permutation of the arrivals' tags;
* every kept event is the event made under its tag;
* with one worker, the kept events are in order of arrival.

The argument has two halves. An arrival adds its event to the end of `kept`, or its warning
to the end of `dropped`. Every other action changes no view but `kept`, and only moves events
within it (`TopicBridge.Relay.Channel.Inv.rearrange`): a worker trades the event it held for
the one it holds (`TopicBridge.Relay.Channel.held_set_perm`), and with one worker the order
of `kept` does not change at all.

## Consequences

A drop is logged at the arrival it is about, or never: the drop warnings logged later are
about later arrivals (`TopicBridge.Relay.Channel.exec_extends`). So the event of a message is
dropped exactly when the channel is full as it arrives; its warning is then logged once and the
event is never handed on, and otherwise it is handed on at most once. The events' identifiers
are the source's draws in order, so they are distinct whenever those draws are. The repeatable
source of this library draws distinct identifiers while at most `2⁸⁰` are drawn, as the random
part of an identifier has 80 bits (`TopicBridge.Ident.IdSource.drawnId_nodup`).
-/

namespace TopicBridge.Ident

/-! ### Identifiers -/

theorem crockford_nodup : crockford.toList.Nodup := by decide

/-- Distinct remainders give distinct base-32 digits. -/
theorem crockford_getD_inj {i j : Nat} (hi : i < 32) (hj : j < 32)
    (h : crockford.getD i '0' = crockford.getD j '0') : i = j := by
  have hsize : crockford.size = 32 := by decide
  have hi' : i < crockford.toList.length := by simpa [hsize] using hi
  have hj' : j < crockford.toList.length := by simpa [hsize] using hj
  have hget : crockford.toList[i] = crockford.toList[j] := by
    simpa [Array.getD, hsize, hi, hj] using h
  exact crockford_nodup.getElem_inj_iff.1 hget

/-- Equal digits, as many of each, are equal remainders modulo `32 ^ count`. -/
theorem base32Digits_inj {n m count : Nat} (h : base32Digits n count = base32Digits m count) :
    n % 32 ^ count = m % 32 ^ count := by
  induction count generalizing n m with
  | zero => simp only [pow_zero, Nat.mod_one]
  | succ c ih =>
    simp only [base32Digits] at h
    obtain ⟨hhigh, hlow⟩ := List.append_inj h (by simp [base32Digits_length])
    have hdigit : n % 32 = m % 32 :=
      crockford_getD_inj (Nat.mod_lt _ (by decide)) (Nat.mod_lt _ (by decide))
        (List.singleton_inj.1 hlow)
    rw [Nat.pow_succ', Nat.mod_mul, Nat.mod_mul, hdigit, ih hhigh]

/-- An identifier gives back its random part, modulo `2 ^ 80`. -/
theorem ulidText_inj {a b x y : Nat} (h : ulidText a x = ulidText b y) :
    x % 2 ^ 80 = y % 2 ^ 80 := by
  have hdigits := base32Digits_inj (by simpa [ulidText] using congrArg String.toList h)
  -- both numbers are below `32 ^ 26`, and their low 80 bits are the random parts
  have h130 : (32 : Nat) ^ 26 = 1361129467683753853853498429727072845824 := by norm_num
  have h80 : (2 : Nat) ^ 80 = 1208925819614629174706176 := by norm_num
  rw [h130] at hdigits
  rw [h80]
  omega

/-! ### Draws from a source -/

section Draws

variable {G : Type} (draw : G → String × G)

/-- The state of an identifier source after `k` draws from the state `g`. -/
def afterDraws (g : G) (k : Nat) : G := (fun g => (draw g).2)^[k] g

/-- The identifier of the `k`-th draw from the state `g`, counting from zero. -/
def drawnId (g : G) (k : Nat) : String := (draw (afterDraws draw g k)).1

@[simp] theorem afterDraws_zero (g : G) : afterDraws draw g 0 = g := rfl

theorem afterDraws_succ (g : G) (k : Nat) :
    afterDraws draw g (k + 1) = (draw (afterDraws draw g k)).2 :=
  Function.iterate_succ_apply' _ k g

end Draws

/-- After `k` draws, the repeatable source has handed out `k` identifiers more. -/
theorem IdSource.afterDraws_eq (clock : Nat → Time.Instant) (g : IdSource) (k : Nat) :
    afterDraws (fun g : IdSource => g.next (clock g.issued)) g k = { issued := g.issued + k } := by
  induction k with
  | zero => rfl
  | succ k ih =>
    rw [afterDraws_succ, ih]
    rfl

/-- The `k`-th draw of the repeatable source: the clock's millisecond at that draw, and the
count of identifiers handed out as its random part. -/
theorem IdSource.drawnId_eq (clock : Nat → Time.Instant) (g : IdSource) (k : Nat) :
    drawnId (fun g : IdSource => g.next (clock g.issued)) g k =
      ulidText ((clock (g.issued + k)).nanos / Time.nanosPerMilli).toNat (g.issued + k + 1) := by
  rw [drawnId, IdSource.afterDraws_eq]
  rfl

/-- **The repeatable source draws distinct identifiers** while at most `2 ^ 80` are drawn,
whatever the clock reads at each draw: the random parts are consecutive counts. -/
theorem IdSource.drawnId_nodup (clock : Nat → Time.Instant) (g : IdSource) {n : Nat}
    (hn : n ≤ 2 ^ 80) :
    ((List.range n).map (drawnId (fun g : IdSource => g.next (clock g.issued)) g)).Nodup := by
  rw [List.Nodup, List.pairwise_iff_getElem]
  intro i j hi hj hij hid
  simp only [List.length_map, List.length_range] at hi hj
  simp only [List.getElem_map, List.getElem_range, IdSource.drawnId_eq] at hid
  -- the random parts are `g.issued + i + 1` and `g.issued + j + 1`, within one period
  have hrandom := ulidText_inj hid
  have h80 : (2 : Nat) ^ 80 = 1208925819614629174706176 := by norm_num
  rw [h80] at hrandom hn
  omega

end TopicBridge.Ident

namespace TopicBridge.Relay

/-- The entries logging an event are about the event, and none of them is a drop warning. -/
theorem RelaySetup.eventLogs_message (r : RelaySetup) (ev : Bridge.Event) :
    ∀ e ∈ r.eventLogs ev, e.message = "event" := by
  unfold RelaySetup.eventLogs
  split
  · simp
  · split <;> simp
  · simp

/-- The entries about a failed delivery are about the failure. -/
theorem RelaySetup.failureLogs_message (ev : Bridge.Event) (result : Except Bridge.Fault Unit) :
    ∀ e ∈ RelaySetup.failureLogs ev result, e.message = "relay delivery failed" := by
  cases result <;> simp [RelaySetup.failureLogs]

end TopicBridge.Relay

namespace TopicBridge.Relay.Channel

open TopicBridge.Bridge TopicBridge.Log TopicBridge.Time

/-! ### Reading the log -/

/-- The event an effect makes, with its tag. -/
def Effect.madeEvent : Effect → Option (Nat × Event)
  | .made k ev => some (k, ev)
  | _ => none

/-- The drop warning an effect logs, with the tag of its event. -/
def Effect.dropWarning : Effect → Option (Nat × Entry)
  | .log k e => if e.message = RelaySetup.droppedMessage then some (k, e) else none
  | _ => none

/-- The event an effect hands to the deliverer, with its tag. -/
def Effect.delivery : Effect → Option (Nat × Event)
  | .deliver _ k ev => some (k, ev)
  | _ => none

/-- The events made, with their tags, in order. -/
def made (log : List Effect) : List (Nat × Event) := log.filterMap Effect.madeEvent

/-- The drop warnings logged, with the tags of their events, in order. -/
def dropped (log : List Effect) : List (Nat × Entry) := log.filterMap Effect.dropWarning

/-- The events handed to the deliverer, with their tags, in order. -/
def deliveries (log : List Effect) : List (Nat × Event) := log.filterMap Effect.delivery

section Views

variable {k w : Nat} {ev : Event} {e : Entry} {result : Except Fault Unit} {l : List Effect}

@[simp] theorem made_nil : made [] = [] := rfl
@[simp] theorem dropped_nil : dropped [] = [] := rfl
@[simp] theorem deliveries_nil : deliveries [] = [] := rfl

@[simp] theorem made_append (l₁ l₂ : List Effect) : made (l₁ ++ l₂) = made l₁ ++ made l₂ :=
  List.filterMap_append
@[simp] theorem dropped_append (l₁ l₂ : List Effect) :
    dropped (l₁ ++ l₂) = dropped l₁ ++ dropped l₂ := List.filterMap_append
@[simp] theorem deliveries_append (l₁ l₂ : List Effect) :
    deliveries (l₁ ++ l₂) = deliveries l₁ ++ deliveries l₂ := List.filterMap_append

@[simp] theorem made_cons_made : made (.made k ev :: l) = (k, ev) :: made l := rfl
@[simp] theorem made_cons_log : made (.log k e :: l) = made l := rfl
@[simp] theorem made_cons_deliver : made (.deliver w k ev :: l) = made l := rfl
@[simp] theorem made_cons_answered : made (.answered w k result :: l) = made l := rfl

@[simp] theorem dropped_cons_made : dropped (.made k ev :: l) = dropped l := rfl
@[simp] theorem dropped_cons_log :
    dropped (.log k e :: l) =
      if e.message = RelaySetup.droppedMessage then (k, e) :: dropped l else dropped l := by
  by_cases h : e.message = RelaySetup.droppedMessage <;>
    simp [dropped, Effect.dropWarning, h]
@[simp] theorem dropped_cons_deliver : dropped (.deliver w k ev :: l) = dropped l := rfl
@[simp] theorem dropped_cons_answered : dropped (.answered w k result :: l) = dropped l := rfl

@[simp] theorem deliveries_cons_made : deliveries (.made k ev :: l) = deliveries l := rfl
@[simp] theorem deliveries_cons_log : deliveries (.log k e :: l) = deliveries l := rfl
@[simp] theorem deliveries_cons_deliver :
    deliveries (.deliver w k ev :: l) = (k, ev) :: deliveries l := rfl
@[simp] theorem deliveries_cons_answered :
    deliveries (.answered w k result :: l) = deliveries l := rfl

@[simp] theorem made_map_log (es : List Entry) : made (es.map (.log k)) = [] := by
  induction es <;> simp [*]

@[simp] theorem deliveries_map_log (es : List Entry) : deliveries (es.map (.log k)) = [] := by
  induction es <;> simp [*]

/-- Entries none of which is a drop warning log no drop. -/
theorem dropped_map_log {es : List Entry} (h : ∀ e ∈ es, e.message ≠ RelaySetup.droppedMessage) :
    dropped (es.map (.log k)) = [] := by
  induction es with
  | nil => rfl
  | cons e es ih =>
    simp [h e List.mem_cons_self, ih fun e' he' => h e' (List.mem_cons_of_mem _ he')]

@[simp] theorem dropped_eventLogs (r : RelaySetup) :
    dropped ((r.eventLogs ev).map (.log k)) = [] :=
  dropped_map_log fun e he => by
    rw [RelaySetup.eventLogs_message r ev e he, RelaySetup.droppedMessage]
    decide

@[simp] theorem dropped_failureLogs :
    dropped ((RelaySetup.failureLogs ev result).map (.log k)) = [] :=
  dropped_map_log fun e he => by
    rw [RelaySetup.failureLogs_message ev result e he, RelaySetup.droppedMessage]
    decide

end Views

/-! ### What the workers hold -/

/-- The event a worker holds and has not handed on, if any. -/
def Worker.held : Worker → List (Nat × Event)
  | .holding k ev => [(k, ev)]
  | _ => []

/-- The events the workers hold and have not handed on. -/
def held (ws : List Worker) : List (Nat × Event) := ws.flatMap Worker.held

@[simp] theorem Worker.held_idle : Worker.idle.held = [] := rfl
@[simp] theorem Worker.held_holding (k : Nat) (ev : Event) :
    (Worker.holding k ev).held = [(k, ev)] := rfl
@[simp] theorem Worker.held_delivering (k : Nat) (ev : Event) :
    (Worker.delivering k ev).held = [] := rfl
@[simp] theorem Worker.held_exited : Worker.exited.held = [] := rfl

theorem held_replicate_idle (n : Nat) : held (List.replicate n .idle) = [] := by
  simp [held]

/-- A worker's move trades the event it held for the one it holds. -/
theorem held_set_perm {ws : List Worker} {w : Nat} {W₀ : Worker} (hw : ws[w]? = some W₀)
    (W : Worker) : (held (ws.set w W) ++ W₀.held).Perm (held ws ++ W.held) := by
  obtain ⟨hlt, hW₀⟩ := List.getElem?_eq_some_iff.1 hw
  obtain ⟨L, R, hws, -, hset⟩ : ∃ L R, ws = L ++ ws[w] :: R ∧ L.length = w ∧
      ws.set w W = L ++ W :: R := List.exists_of_set hlt
  rw [hW₀] at hws
  rw [hset, hws, ← Multiset.coe_eq_coe]
  simp only [held, List.flatMap_append, List.flatMap_cons, ← Multiset.coe_add]
  abel

/-- With one worker, the events held are that worker's. -/
theorem held_set_single {ws : List Worker} (hone : ws.length = 1) {w : Nat} {W₀ : Worker}
    (hw : ws[w]? = some W₀) (W : Worker) : held ws = W₀.held ∧ held (ws.set w W) = W.held := by
  obtain ⟨W₁, rfl⟩ := List.length_eq_one_iff.1 hone
  cases w with
  | zero =>
    obtain rfl : W₁ = W₀ := by simpa using hw
    simp [held]
  | succ w => simp at hw

/-- The events a run has made and not dropped, in the order one worker handles them: those
handed to the deliverer, those held by a worker, then those queued. -/
def kept {G : Type} (s : System G) : List (Nat × Event) :=
  deliveries s.log ++ held s.workers ++ s.buffer

/-! ### Messages and their events -/

/-- The message an action brings, if it is an arrival. -/
def Action.message : Action → Option Arrival
  | .arrive m => some m
  | _ => none

/-- The messages that arrive in a run, in order. -/
def messages (acts : List Action) : List Arrival := acts.filterMap Action.message

/-- The event a message makes under an identifier: the identifier, the relay's type and
source, the message's topic and payload, and the message's instant in UTC. -/
def arrivalEvent (r : RelaySetup) (id : String) (m : Arrival) : Event where
  id := id
  type := r.eventType
  source := r.eventSource
  topic := m.topic
  payload := m.payload
  receivedAt := m.now.utc

theorem messages_append_arrive (acts : List Action) (m : Arrival) :
    messages (acts ++ [.arrive m]) = messages acts ++ [m] := by
  simp [messages, Action.message]

theorem messages_append_of_message {a : Action} (ha : a.message = none) (acts : List Action) :
    messages (acts ++ [a]) = messages acts := by
  simp [messages, ha]

/-- The tags of the events of the messages are their positions. -/
theorem map_fst_mapIdx {α β : Type} (l : List α) (f : Nat → α → β) :
    (l.mapIdx fun k a => (k, f k a)).map Prod.fst = List.range l.length := by
  apply List.ext_getElem <;> simp

/-! ### The entries of one tag -/

section Tags

variable {α : Type}

/-- In a list whose tags do not repeat, a tag has at most one entry. -/
theorem filter_tag_sublist {l : List (Nat × α)} (hl : (l.map Prod.fst).Nodup) {k : Nat} {x : α}
    (hp : ∀ q ∈ l, q.1 = k → q = (k, x)) : (l.filter fun q => q.1 = k).Sublist [(k, x)] := by
  have hnd : (l.filter fun q => q.1 = k).Nodup := (hl.of_map Prod.fst).filter _
  obtain ⟨n, hn⟩ : ∃ n, l.filter (fun q => q.1 = k) = List.replicate n (k, x) := by
    refine ⟨_, List.eq_replicate_iff.2 ⟨rfl, fun q hq => ?_⟩⟩
    rw [List.mem_filter, decide_eq_true_eq] at hq
    exact hp q hq.1 hq.2
  rw [hn] at hnd ⊢
  have hn1 : n ≤ 1 := List.nodup_replicate.1 hnd
  interval_cases n <;> simp

/-- In a list whose tags do not repeat, an entry is the only one of its tag. -/
theorem filter_tag_eq_singleton {l : List (Nat × α)} (hl : (l.map Prod.fst).Nodup) {k : Nat}
    {x : α} (hp : (k, x) ∈ l) : l.filter (fun q => q.1 = k) = [(k, x)] := by
  have hsub := filter_tag_sublist hl fun q hq hqk => List.inj_on_of_nodup_map hl hq hp hqk
  rcases List.sublist_singleton.1 hsub with h | h
  · rw [List.filter_eq_nil_iff] at h
    exact absurd (by simp) (h (k, x) hp)
  · exact h

/-- A tag that is not there has no entry. -/
theorem filter_tag_eq_nil {l : List (Nat × α)} {k : Nat} (hk : k ∉ l.map Prod.fst) :
    l.filter (fun q => q.1 = k) = [] := by
  rw [List.filter_eq_nil_iff]
  intro q hq hqk
  exact hk (List.mem_map.2 ⟨q, hq, by simpa using hqk⟩)

end Tags

section Steps

variable {G : Type} {r : RelaySetup} {draw : G → String × G} {g : G} {s s' : System G}

/-- While the source was drawn from once per arrival, the handler makes the event of the
arrival under the draw its tag calls for. -/
theorem nextEvent_eq (hdrawn : s.ids = Ident.afterDraws draw g s.arrivals) (m : Arrival) :
    s.nextEvent r draw m = arrivalEvent r (Ident.drawnId draw g s.arrivals) m := by
  simp only [System.nextEvent, RelaySetup.newEvent, Ident.drawnId, arrivalEvent, hdrawn]

/-! ### What each action does -/

@[simp] theorem step_arrive (m : Arrival) :
    step r draw s (.arrive m) = some (s.arrive r draw m) := rfl

@[simp] theorem arrive_arrivals (m : Arrival) : (s.arrive r draw m).arrivals = s.arrivals + 1 := by
  unfold System.arrive
  split <;> rfl

theorem arrive_ids (m : Arrival) : (s.arrive r draw m).ids = (draw s.ids).2 := by
  unfold System.arrive
  split <;> rfl

@[simp] theorem arrive_workers (m : Arrival) : (s.arrive r draw m).workers = s.workers := by
  unfold System.arrive
  split <;> rfl

@[simp] theorem made_arrive (m : Arrival) :
    made (s.arrive r draw m).log = made s.log ++ [(s.arrivals, s.nextEvent r draw m)] := by
  unfold System.arrive
  split <;> simp

/-- A message that finds room is queued, and its drop is not logged. -/
theorem arrive_of_room (draw : G → String × G) (m : Arrival)
    (h : s.buffer.length < r.bufferSize) :
    (s.arrive r draw m).buffer = s.buffer ++ [(s.arrivals, s.nextEvent r draw m)] ∧
      dropped (s.arrive r draw m).log = dropped s.log ∧
      kept (s.arrive r draw m) = kept s ++ [(s.arrivals, s.nextEvent r draw m)] := by
  simp [System.arrive, h, kept]

/-- A message that finds the channel full is not queued, and its drop is logged. -/
theorem arrive_of_full (draw : G → String × G) (m : Arrival)
    (h : ¬s.buffer.length < r.bufferSize) :
    (s.arrive r draw m).buffer = s.buffer ∧
      dropped (s.arrive r draw m).log =
        dropped s.log ++ [(s.arrivals, RelaySetup.droppedEntry (s.nextEvent r draw m))] ∧
      kept (s.arrive r draw m) = kept s := by
  simp [System.arrive, h, kept, RelaySetup.droppedEntry]

theorem step_take {w : Nat} (h : step r draw s (.take w) = some s') :
    ∃ k ev rest, s.workers[w]? = some .idle ∧ s.buffer = (k, ev) :: rest ∧
      s' = { s.work w (.holding k ev) [] with buffer := rest } := by
  simp only [step] at h
  split at h
  · next k ev rest hw hb => exact ⟨k, ev, rest, hw, hb, (Option.some.inj h).symm⟩
  · cases h

theorem step_call {w : Nat} (h : step r draw s (.call w) = some s') :
    ∃ k ev, s.workers[w]? = some (.holding k ev) ∧
      s' = s.work w (.delivering k ev) ((r.eventLogs ev).map (.log k) ++ [.deliver w k ev]) := by
  simp only [step] at h
  split at h
  · next k ev hw => exact ⟨k, ev, hw, (Option.some.inj h).symm⟩
  · cases h

theorem step_answer {w : Nat} {result : Except Fault Unit}
    (h : step r draw s (.answer w result) = some s') :
    ∃ k ev, s.workers[w]? = some (.delivering k ev) ∧
      s' = s.work w .idle
        (.answered w k result :: (RelaySetup.failureLogs ev result).map (.log k)) := by
  simp only [step] at h
  split at h
  · next k ev hw => exact ⟨k, ev, hw, (Option.some.inj h).symm⟩
  · cases h

theorem step_exit {w : Nat} (h : step r draw s (.exit w) = some s') :
    s.workers[w]? = some .idle ∧ s' = s.work w .exited [] := by
  simp only [step] at h
  split at h
  · next hw =>
    split at h
    · exact ⟨hw, (Option.some.inj h).symm⟩
    · cases h
  · cases h

/-! ### The invariant -/

/-- What every run from the start keeps, identifiers being drawn by `draw` from the state `g`
at the start and `acts` being the actions of the run. -/
structure Inv (r : RelaySetup) (draw : G → String × G) (g : G) (acts : List Action)
    (s : System G) : Prop where
  /-- The arrivals counted are the messages of the run. -/
  counted : s.arrivals = (messages acts).length
  /-- The source was drawn from once per arrival. -/
  drawn : s.ids = Ident.afterDraws draw g s.arrivals
  /-- The events made are those of the messages, in order, under the draws in order. -/
  events : made s.log =
    (messages acts).mapIdx fun k m => (k, arrivalEvent r (Ident.drawnId draw g k) m)
  /-- The channel holds at most its size. -/
  bounded : s.buffer.length ≤ r.bufferSize
  /-- The workers are as many as set up. -/
  width : s.workers.length = r.workerCount
  /-- Every arrival is dropped or kept, and only once. -/
  tags : ((dropped s.log).map Prod.fst ++ (kept s).map Prod.fst).Perm (List.range s.arrivals)
  /-- A kept event is the event made under its tag. -/
  carried : ∀ p ∈ kept s, p ∈ made s.log
  /-- With one worker, the kept events are in order of arrival. -/
  ordered : s.workers.length = 1 → ((kept s).map Prod.fst).Pairwise (· < ·)

theorem inv_start (r : RelaySetup) (draw : G → String × G) (g : G) :
    Inv r draw g [] (System.start r g) where
  counted := rfl
  drawn := rfl
  events := rfl
  bounded := Nat.zero_le _
  width := List.length_replicate
  tags := by simp [kept, System.start, held_replicate_idle]
  carried := by simp [kept, System.start, held_replicate_idle]
  ordered := by simp [kept, System.start, held_replicate_idle]

variable {acts : List Action}

/-- Every tag dropped or kept is the tag of an arrival. -/
theorem Inv.lt_of_mem (hi : Inv r draw g acts s) {t : Nat}
    (ht : t ∈ (dropped s.log).map Prod.fst ++ (kept s).map Prod.fst) : t < s.arrivals :=
  List.mem_range.1 (hi.tags.subset ht)

/-- The tags of the events made do not repeat. -/
theorem Inv.made_nodup (hi : Inv r draw g acts s) : ((made s.log).map Prod.fst).Nodup := by
  rw [hi.events, map_fst_mapIdx]
  exact List.nodup_range

/-- An arrival makes its event and keeps it, or logs its drop. -/
theorem Inv.arrive (hi : Inv r draw g acts s) (m : Arrival) :
    Inv r draw g (acts ++ [.arrive m]) (s.arrive r draw m) := by
  have hev : s.nextEvent r draw m = arrivalEvent r (Ident.drawnId draw g s.arrivals) m :=
    nextEvent_eq hi.drawn m
  have hcounted : (s.arrive r draw m).arrivals = (messages (acts ++ [.arrive m])).length := by
    simp [messages_append_arrive, hi.counted]
  have hdrawn :
      (s.arrive r draw m).ids = Ident.afterDraws draw g (s.arrive r draw m).arrivals := by
    rw [arrive_ids, arrive_arrivals, Ident.afterDraws_succ, hi.drawn]
  have hevents : made (s.arrive r draw m).log = (messages (acts ++ [.arrive m])).mapIdx
      fun k m => (k, arrivalEvent r (Ident.drawnId draw g k) m) := by
    rw [made_arrive, messages_append_arrive, List.mapIdx_concat, hi.events, hev, hi.counted]
  have hwidth : (s.arrive r draw m).workers.length = r.workerCount := by
    rw [arrive_workers, hi.width]
  by_cases hroom : s.buffer.length < r.bufferSize
  · obtain ⟨hbuf, hdrop, hkept⟩ := arrive_of_room draw m hroom
    refine ⟨hcounted, hdrawn, hevents, ?_, hwidth, ?_, ?_, ?_⟩
    · simp only [hbuf, List.length_append, List.length_singleton]
      omega
    · rw [hdrop, hkept, arrive_arrivals, List.range_succ, List.map_append, ← List.append_assoc]
      exact hi.tags.append_right _
    · intro p hp
      rw [hkept, List.mem_append, List.mem_singleton] at hp
      rw [made_arrive, List.mem_append, List.mem_singleton]
      exact hp.imp_left (hi.carried p)
    · intro hone
      rw [hkept, List.map_append, List.pairwise_append]
      refine ⟨hi.ordered (by simpa using hone), by simp, fun a ha b hb => ?_⟩
      rw [List.map_singleton, List.mem_singleton] at hb
      exact hb ▸ hi.lt_of_mem (List.mem_append_right _ ha)
  · obtain ⟨hbuf, hdrop, hkept⟩ := arrive_of_full draw m hroom
    refine ⟨hcounted, hdrawn, hevents, hbuf ▸ hi.bounded, hwidth, ?_, ?_, ?_⟩
    · rw [hdrop, hkept, arrive_arrivals, List.range_succ, List.map_append, List.append_assoc]
      refine List.Perm.trans ?_ (hi.tags.append_right _)
      rw [List.append_assoc]
      exact List.Perm.append_left _ List.perm_append_comm
    · intro p hp
      rw [hkept] at hp
      rw [made_arrive]
      exact List.mem_append_left _ (hi.carried p hp)
    · intro hone
      rw [hkept]
      exact hi.ordered (by simpa using hone)

/-- An action that is not an arrival, changes none of the views but `kept`, and only moves
the kept events, keeping their order when there is one worker, keeps the invariant. -/
theorem Inv.rearrange (hi : Inv r draw g acts s) {a : Action} (ha : a.message = none)
    (harr : s'.arrivals = s.arrivals) (hids : s'.ids = s.ids)
    (hmade : made s'.log = made s.log) (hdrop : dropped s'.log = dropped s.log)
    (hbuf : s'.buffer.length ≤ s.buffer.length) (hwidth : s'.workers.length = s.workers.length)
    (hperm : (kept s').Perm (kept s)) (hone : s.workers.length = 1 → kept s' = kept s) :
    Inv r draw g (acts ++ [a]) s' where
  counted := by rw [messages_append_of_message ha, harr, hi.counted]
  drawn := by rw [hids, harr, hi.drawn]
  events := by rw [hmade, messages_append_of_message ha, hi.events]
  bounded := hbuf.trans hi.bounded
  width := hwidth.trans hi.width
  tags := by
    rw [hdrop, harr]
    exact ((hperm.map Prod.fst).append_left _).trans hi.tags
  carried := fun p hp => hmade ▸ hi.carried p (hperm.subset hp)
  ordered := fun h => by
    rw [hone (hwidth ▸ h)]
    exact hi.ordered (hwidth ▸ h)

/-- A worker's move that holds nothing before or after and logs nothing the views see keeps
the invariant. -/
theorem Inv.quiet (hi : Inv r draw g acts s) {a : Action} (ha : a.message = none) {w : Nat}
    {W₀ W : Worker} (hw : s.workers[w]? = some W₀) (h₀ : W₀.held = []) (h₁ : W.held = [])
    {es : List Effect} (hmade : made es = []) (hdrop : dropped es = [])
    (hdel : deliveries es = []) : Inv r draw g (acts ++ [a]) (s.work w W es) := by
  have hheld : (held (s.workers.set w W)).Perm (held s.workers) := by
    simpa [h₀, h₁] using held_set_perm hw W
  refine hi.rearrange ha rfl rfl (by simp [System.work, hmade]) (by simp [System.work, hdrop])
    le_rfl (List.length_set) ?_ fun hone => ?_
  · simp only [kept, System.work, deliveries_append, hdel, List.append_nil]
    exact (hheld.append_left _).append_right _
  · obtain ⟨h, h'⟩ := held_set_single hone hw W
    simp [kept, System.work, hdel, h, h', h₀, h₁]

theorem Inv.take (hi : Inv r draw g acts s) {w k : Nat} {ev : Event} {rest : List (Nat × Event)}
    (hw : s.workers[w]? = some .idle) (hb : s.buffer = (k, ev) :: rest) :
    Inv r draw g (acts ++ [.take w]) { s.work w (.holding k ev) [] with buffer := rest } := by
  have hheld : (held (s.workers.set w (.holding k ev))).Perm (held s.workers ++ [(k, ev)]) := by
    simpa using held_set_perm hw (.holding k ev)
  refine hi.rearrange rfl rfl rfl (by simp [System.work]) (by simp [System.work])
    (by simp [hb]) (List.length_set) ?_ fun hone => ?_
  · simp only [kept, System.work, List.append_nil, hb]
    refine ((hheld.append_left _).append_right _).trans ?_
    simp
  · obtain ⟨h, h'⟩ := held_set_single hone hw (.holding k ev)
    simp [kept, System.work, hb, h, h']

theorem Inv.call (hi : Inv r draw g acts s) {w k : Nat} {ev : Event}
    (hw : s.workers[w]? = some (.holding k ev)) :
    Inv r draw g (acts ++ [.call w])
      (s.work w (.delivering k ev) ((r.eventLogs ev).map (.log k) ++ [.deliver w k ev])) := by
  have hheld : (held (s.workers.set w (.delivering k ev)) ++ [(k, ev)]).Perm (held s.workers) := by
    simpa using held_set_perm hw (.delivering k ev)
  refine hi.rearrange rfl rfl rfl (by simp [System.work]) (by simp [System.work]) le_rfl
    (List.length_set) ?_ fun hone => ?_
  · simp only [kept, System.work, deliveries_append, deliveries_map_log, deliveries_cons_deliver,
      deliveries_nil, List.nil_append, List.append_assoc]
    refine List.Perm.append_left _ ?_
    rw [← List.append_assoc]
    exact (List.perm_append_comm.trans hheld).append_right _
  · obtain ⟨h, h'⟩ := held_set_single hone hw (.delivering k ev)
    simp [kept, System.work, h, h']

/-- Every action the system can take keeps the invariant. -/
theorem inv_step (hi : Inv r draw g acts s) {a : Action} (h : step r draw s a = some s') :
    Inv r draw g (acts ++ [a]) s' := by
  cases a with
  | arrive m =>
    rw [← Option.some.inj h]
    exact hi.arrive m
  | take w =>
    obtain ⟨k, ev, rest, hw, hb, rfl⟩ := step_take h
    exact hi.take hw hb
  | call w =>
    obtain ⟨k, ev, hw, rfl⟩ := step_call h
    exact hi.call hw
  | answer w result =>
    obtain ⟨k, ev, hw, rfl⟩ := step_answer h
    exact hi.quiet rfl hw rfl rfl (by simp) (by simp) (by simp)
  | cancel =>
    rw [← Option.some.inj h]
    exact hi.rearrange rfl rfl rfl rfl rfl le_rfl rfl (List.Perm.refl _) fun _ => rfl
  | exit w =>
    obtain ⟨hw, rfl⟩ := step_exit h
    exact hi.quiet rfl hw rfl rfl rfl rfl rfl

/-! ### Runs -/

theorem exec_append (t : System G) (xs ys : List Action) :
    exec r draw t (xs ++ ys) = (exec r draw t xs).bind fun u => exec r draw u ys := by
  induction xs generalizing t with
  | nil => rfl
  | cons a xs ih =>
    simp only [List.cons_append, exec]
    cases step r draw t a <;> simp [ih]

/-- Every run from the start keeps the invariant. -/
theorem inv_exec (hrun : exec r draw (System.start r g) acts = some s) : Inv r draw g acts s := by
  induction acts using List.reverseRecOn generalizing s with
  | nil =>
    cases hrun
    exact inv_start r draw g
  | append_singleton acts a ih =>
    rw [exec_append] at hrun
    obtain ⟨t, ht, hstep⟩ := Option.bind_eq_some_iff.1 hrun
    exact inv_step (ih ht) (by simpa [exec] using hstep)

/-- A step only adds to the log, and the drop it logs, if any, is about the arrival it
makes. -/
theorem step_extends {a : Action} (h : step r draw s a = some s') :
    ∃ new, s'.log = s.log ++ new ∧ s.arrivals ≤ s'.arrivals ∧
      ∀ p ∈ dropped new, s.arrivals ≤ p.1 := by
  cases a with
  | arrive m =>
    rw [← Option.some.inj h]
    unfold System.arrive
    split
    · exact ⟨_, rfl, by simp, by simp⟩
    · refine ⟨_, rfl, by simp, fun p hp => ?_⟩
      simp [RelaySetup.droppedEntry] at hp
      rw [hp]
  | take w =>
    obtain ⟨k, ev, rest, -, -, rfl⟩ := step_take h
    exact ⟨[], rfl, le_rfl, by simp⟩
  | call w =>
    obtain ⟨k, ev, -, rfl⟩ := step_call h
    exact ⟨_, rfl, le_rfl, by simp⟩
  | answer w result =>
    obtain ⟨k, ev, -, rfl⟩ := step_answer h
    exact ⟨_, rfl, le_rfl, by simp⟩
  | cancel =>
    rw [← Option.some.inj h]
    exact ⟨[], by simp, le_rfl, by simp⟩
  | exit w =>
    obtain ⟨-, rfl⟩ := step_exit h
    exact ⟨[], rfl, le_rfl, by simp⟩

/-- A run only adds to the log, and the drops it logs are about arrivals made during it. -/
theorem exec_extends {t : System G} (h : exec r draw t acts = some s) :
    ∃ new, s.log = t.log ++ new ∧ ∀ p ∈ dropped new, t.arrivals ≤ p.1 := by
  induction acts generalizing t with
  | nil =>
    cases h
    exact ⟨[], by simp, by simp⟩
  | cons a acts ih =>
    obtain ⟨u, hu, hrest⟩ := Option.bind_eq_some_iff.1 h
    obtain ⟨new₁, hlog₁, harr, hdrop₁⟩ := step_extends hu
    obtain ⟨new₂, hlog₂, hdrop₂⟩ := ih hrest
    refine ⟨new₁ ++ new₂, by rw [hlog₂, hlog₁, List.append_assoc], fun p hp => ?_⟩
    rw [dropped_append, List.mem_append] at hp
    rcases hp with hp | hp
    · exact hdrop₁ p hp
    · exact harr.trans (hdrop₂ p hp)

/-! ### What a run guarantees -/

/-- Tags dropped or kept do not repeat. -/
theorem Inv.nodup (hi : Inv r draw g acts s) :
    ((dropped s.log).map Prod.fst ++ (kept s).map Prod.fst).Nodup :=
  hi.tags.nodup_iff.2 List.nodup_range

/-- The events handed on do not repeat their tags. -/
theorem Inv.deliveries_nodup (hi : Inv r draw g acts s) :
    ((deliveries s.log).map Prod.fst).Nodup := by
  have hkept := (List.nodup_append.1 hi.nodup).2.1
  simp only [kept, List.map_append, List.append_assoc] at hkept
  exact (List.nodup_append.1 hkept).1

/-- A dropped event is never handed on. -/
theorem Inv.not_delivered_of_dropped (hi : Inv r draw g acts s) {k : Nat}
    (hk : k ∈ (dropped s.log).map Prod.fst) : k ∉ (deliveries s.log).map Prod.fst := by
  intro hd
  have hkept : k ∈ (kept s).map Prod.fst := by
    simp only [kept, List.map_append, List.mem_append]
    exact Or.inl (Or.inl hd)
  exact (List.nodup_append.1 hi.nodup).2.2 k hk k hkept rfl

/-- The events carry the identifiers drawn, one draw per arrival, in order. -/
theorem Inv.made_ids (hi : Inv r draw g acts s) :
    (made s.log).map (fun p => p.2.id) =
      (List.range (messages acts).length).map (Ident.drawnId draw g) := by
  rw [hi.events]
  apply List.ext_getElem <;> simp [arrivalEvent]

/-- **Fresh identifiers.** No two events share an identifier while the source's draws are
distinct. -/
theorem Inv.ids_nodup (hi : Inv r draw g acts s)
    (hfresh : ((List.range (messages acts).length).map (Ident.drawnId draw g)).Nodup) :
    ((made s.log).map fun p => p.2.id).Nodup := by
  rw [hi.made_ids]
  exact hfresh

/-- **In order with one worker.** With one worker, events are handed on in order of
arrival. -/
theorem Inv.deliveries_sorted (hi : Inv r draw g acts s) (hone : r.workers = 1) :
    ((deliveries s.log).map Prod.fst).Pairwise (· < ·) := by
  have hcount : r.workerCount = 1 := by simp [RelaySetup.workerCount, hone]
  have hkept := hi.ordered (hi.width.trans hcount)
  simp only [kept, List.map_append, List.append_assoc] at hkept
  exact (List.pairwise_append.1 hkept).1

/-- What the rest of a run keeps of an arrival: the event it made, and its drop warning when
the channel was full. When there was room, no drop of it is ever logged, since the drops
logged later are about later arrivals. -/
theorem arrival_logged {pre post : List Action} {q : System G} {m : Arrival}
    (hq : Inv r draw g pre q) (hrest : exec r draw (q.arrive r draw m) post = some s) :
    (q.arrivals, q.nextEvent r draw m) ∈ made s.log ∧
      (¬q.buffer.length < r.bufferSize →
        (q.arrivals, RelaySetup.droppedEntry (q.nextEvent r draw m)) ∈ dropped s.log) ∧
      (q.buffer.length < r.bufferSize → q.arrivals ∉ (dropped s.log).map Prod.fst) := by
  obtain ⟨new, hlog, hnew⟩ := exec_extends hrest
  refine ⟨by simp [hlog], fun hfull => ?_, fun hroom => ?_⟩
  · obtain ⟨-, hdrop, -⟩ := arrive_of_full draw m hfull
    simp [hlog, hdrop]
  · obtain ⟨-, hdrop, -⟩ := arrive_of_room draw m hroom
    rw [hlog, dropped_append, hdrop, List.map_append, List.mem_append, not_or]
    refine ⟨fun h => ?_, fun h => ?_⟩
    · exact absurd (hq.lt_of_mem (List.mem_append_left _ h)) (Nat.lt_irrefl _)
    · obtain ⟨p, hp, hpk⟩ := List.mem_map.1 h
      have hlater := hnew p hp
      rw [arrive_arrivals] at hlater
      omega

/-- **Dropped exactly when full.** Take the message that arrives after the actions `pre`, in
the state `q` they lead to. If the channel is full then, its event is dropped: the warning is
logged once, about that event, and the event is never handed on. Otherwise no drop of it is
logged, and it is handed on at most once. -/
theorem arrival_dropped_iff_full {pre post : List Action} {m : Arrival} {q : System G}
    (hrun : exec r draw (System.start r g) (pre ++ .arrive m :: post) = some s)
    (hpre : exec r draw (System.start r g) pre = some q) :
    let k := (messages pre).length
    let ev := arrivalEvent r (Ident.drawnId draw g k) m
    (dropped s.log).filter (fun p => p.1 = k) =
        (if q.buffer.length = r.bufferSize then [(k, RelaySetup.droppedEntry ev)] else []) ∧
      ((deliveries s.log).filter (fun p => p.1 = k)).Sublist
        (if q.buffer.length = r.bufferSize then [] else [(k, ev)]) := by
  intro k ev
  have hq := inv_exec hpre
  have hs := inv_exec hrun
  rw [exec_append, hpre, Option.bind_some] at hrun
  obtain ⟨hmade, hdropped, hnot⟩ := arrival_logged hq (by simpa [exec] using hrun)
  rw [nextEvent_eq hq.drawn, hq.counted] at hmade hdropped
  rw [hq.counted] at hnot
  by_cases hfull : q.buffer.length = r.bufferSize
  · have hmem := hdropped (by omega)
    simp only [if_pos hfull]
    refine ⟨filter_tag_eq_singleton (List.nodup_append.1 hs.nodup).1 hmem, ?_⟩
    rw [filter_tag_eq_nil (hs.not_delivered_of_dropped (List.mem_map_of_mem hmem))]
  · have hroom : q.buffer.length < r.bufferSize := by
      have := hq.bounded
      omega
    simp only [if_neg hfull]
    refine ⟨filter_tag_eq_nil (hnot hroom), filter_tag_sublist hs.deliveries_nodup ?_⟩
    -- an event handed on under the tag is the one made under it
    intro p hp hpk
    exact List.inj_on_of_nodup_map hs.made_nodup (hs.carried p (by simp [kept, hp])) hmade hpk

end Steps

/-- **The relay's guarantees.** In every run of the relay, whatever the interleaving of
arrivals, worker steps and the cancellation, and whatever the source of identifiers:

* every message that arrives makes exactly one event, under the identifier of its own draw
  from the source, with the relay's type and source, its topic and payload, and its instant in
  UTC;
* so no two events share an identifier while the source's draws are distinct;
* the event of a message that arrives when the channel holds its size of events is dropped:
  its warning is logged once, about that event, and it is never handed to the deliverer;
* the event of any other message is never dropped, and handed on at most once;
* every warning is about an arrival, and every event handed on is the event of an arrival;
* the channel never holds more events than its size;
* with one worker, events are handed on in order of arrival. -/
theorem relay_handles_messages_once (r : RelaySetup) {G : Type} (draw : G → String × G) (g : G)
    (acts : List Action) (s : System G) (hrun : exec r draw (System.start r g) acts = some s) :
    made s.log =
        (messages acts).mapIdx (fun k m => (k, arrivalEvent r (Ident.drawnId draw g k) m)) ∧
      (((List.range (messages acts).length).map (Ident.drawnId draw g)).Nodup →
        ((made s.log).map fun p => p.2.id).Nodup) ∧
      (∀ pre m post q, acts = pre ++ .arrive m :: post →
        exec r draw (System.start r g) pre = some q →
        let k := (messages pre).length
        let ev := arrivalEvent r (Ident.drawnId draw g k) m
        (dropped s.log).filter (fun p => p.1 = k) =
            (if q.buffer.length = r.bufferSize then [(k, RelaySetup.droppedEntry ev)] else []) ∧
          ((deliveries s.log).filter (fun p => p.1 = k)).Sublist
            (if q.buffer.length = r.bufferSize then [] else [(k, ev)])) ∧
      (∀ p ∈ dropped s.log, p.1 < (messages acts).length) ∧
      (∀ p ∈ deliveries s.log, p ∈ made s.log) ∧
      s.buffer.length ≤ r.bufferSize ∧
      (r.workers = 1 → ((deliveries s.log).map Prod.fst).Pairwise (· < ·)) := by
  have hi := inv_exec hrun
  refine ⟨hi.events, hi.ids_nodup, fun pre m post q hacts hpre => ?_, fun p hp => ?_,
    fun p hp => hi.carried p (by simp [kept, hp]), hi.bounded, hi.deliveries_sorted⟩
  · subst hacts
    exact arrival_dropped_iff_full hrun hpre
  · rw [← hi.counted]
    exact hi.lt_of_mem (List.mem_append_left _ (List.mem_map_of_mem hp))

/-- One worker and a channel of one event, identifiers drawn from the repeatable source at the
instants of a clock: a first message is handed on; while it is being delivered, a second is
queued and a third is dropped; once the delivery is answered, the second is handed on. The
three events have distinct identifiers. -/
theorem third_message_dropped :
    let r : RelaySetup :=
      { topic := "t", eventType := "type", eventSource := "src", workers := 1, buffer := 1 }
    let m : Arrival := ⟨"t", none, {}⟩
    let clock : Nat → Instant := fun n => { nanos := n * 1000000 }
    let draw := fun g : Ident.IdSource => g.next (clock g.issued)
    let acts : List Action :=
      [.arrive m, .take 0, .call 0, .arrive m, .arrive m, .answer 0 (.ok ()), .take 0, .call 0]
    ∃ s, exec r draw (System.start r {}) acts = some s ∧
      (dropped s.log).filter (fun p => p.1 = 2) =
        [(2, RelaySetup.droppedEntry (arrivalEvent r (Ident.drawnId draw {} 2) m))] ∧
      ((made s.log).map fun p => p.2.id).Nodup ∧
      ((deliveries s.log).map Prod.fst).Pairwise (· < ·) := by
  intro r m clock draw acts
  refine ⟨_, rfl, ?_⟩
  obtain ⟨-, hfresh, harrival, -, -, -, hsorted⟩ :=
    relay_handles_messages_once r draw {} acts _ rfl
  refine ⟨?_, hfresh (Ident.IdSource.drawnId_nodup clock {} (by decide)), hsorted rfl⟩
  exact (harrival [.arrive m, .take 0, .call 0, .arrive m] m
    [.answer 0 (.ok ()), .take 0, .call 0] _ rfl rfl).1

end TopicBridge.Relay.Channel
