import Mathlib
import TopicBridge.Proofs.DeliveryAttempts

/-!
# Round-robin choice over a dispatcher's lifetime

A dispatcher keeps one count of turns for its whole life. Each attempt asks every sink, in
the order the sinks were given, whether it is ready. When at least one is, the attempt
takes a turn and asks the ready sink at position `turns mod (number of ready sinks)` to
admit the call; an attempt that finds no sink ready takes no turn.

`TopicBridge.Relay.Retry.deliverAll_round_robin`: over any run of deliveries by a new
dispatcher (`TopicBridge.Relay.Retry.deliverAll`), whatever the sinks answer and however the
world changes between deliveries, the attempts read off the steps
(`TopicBridge.Relay.Retry.attemptsSeen`) are such that

* each attempt asked every sink once, in the order given;
* an attempt that found no sink ready chose none;
* numbering from `0` the attempts that found a sink ready, across all the deliveries, the
  `k`-th chose the ready sink at position `k mod` their number;
* when every sink is ready at every attempt, the `k`-th attempt chose sink `k mod n`, and
  any `m` consecutive attempts chose each of the `n` sinks `⌊m / n⌋` or `⌈m / n⌉` times.

## Proof

One attempt shows as one record (`TopicBridge.Relay.Retry.tryOnce_seen`) that chose
round-robin from the turns it was given (`TopicBridge.Relay.Retry.ChoseFrom`), and took a
turn exactly when it found a sink ready. The records of consecutive attempts chain, each
from the turns the last one left (`TopicBridge.Relay.Retry.ChoseFrom.append`), within a
delivery and from one delivery to the next. The fairness count is the number of integers
in a window that are congruent to a sink's index, from `Nat.count_modEq_card`.
-/

namespace TopicBridge.Relay.Retry

open TopicBridge.Bridge

variable {W : Type}

/-! ### Attempts as the steps show them -/

/-- An attempt as its steps show it. -/
structure Seen where
  /-- The sinks asked whether they are ready, with their answers, in the order asked. -/
  polled : List (Nat × Bool) := []
  /-- The sink asked to admit the call, if one was. -/
  chosen : Option Nat := none

/-- The sinks an attempt found ready, in the order asked. -/
def Seen.ready (a : Seen) : List Nat := (a.polled.filter (·.2)).map (·.1)

/-- Whether an attempt found a sink ready. -/
def Seen.found (a : Seen) : Bool := !a.ready.isEmpty

/-- The attempts shown by steps that continue the attempt `cur`: a read of the context that
finds it not ended begins the next attempt. -/
def seenFrom (cur : Seen) : List Step → List Seen
  | [] => [cur]
  | .check none :: s => cur :: seenFrom {} s
  | .check (some _) :: s => seenFrom cur s
  | .ready i a :: s => seenFrom { cur with polled := cur.polled ++ [(i, a)] } s
  | .acquire i _ :: s => seenFrom { cur with chosen := some i } s
  | .deliver _ _ :: s => seenFrom cur s

/-- The attempts a delivery's steps show. -/
def attemptsSeen (steps : List Step) : List Seen := (seenFrom {} steps).tail

/-- Steps that begin an attempt close the one before. -/
theorem seenFrom_append_check (cur : Seen) (xs ys : List Step) :
    seenFrom cur (xs ++ .check none :: ys) = seenFrom cur xs ++ seenFrom {} ys := by
  induction xs generalizing cur with
  | nil => rfl
  | cons x xs ih =>
    cases x with
    | check e => cases e <;> simp [seenFrom, ih]
    | ready i a => exact ih _
    | acquire i ok => exact ih _
    | deliver i r => exact ih _

/-- A read of the context that finds it ended shows nothing more. -/
theorem seenFrom_append_ended (cur : Seen) (xs : List Step) (e : Fault) :
    seenFrom cur (xs ++ [.check (some e)]) = seenFrom cur xs := by
  induction xs generalizing cur with
  | nil => rfl
  | cons x xs ih =>
    cases x with
    | check e' => cases e' <;> simp [seenFrom, ih]
    | ready i a => exact ih _
    | acquire i ok => exact ih _
    | deliver i r => exact ih _

/-- Answers to polls add to the attempt's polled sinks. -/
theorem seenFrom_polls (cur : Seen) (ps : List (Nat × Bool)) (rest : List Step) :
    seenFrom cur (ps.map (fun p => Step.ready p.1 p.2) ++ rest) =
      seenFrom { cur with polled := cur.polled ++ ps } rest := by
  induction ps generalizing cur with
  | nil => simp
  | cons p ps ih =>
    rw [List.map_cons, List.cons_append, seenFrom, ih]
    simp

/-! ### Attempts that choose round-robin -/

/-- Attempts over `n` sinks that chose round-robin from `t` turns taken. -/
structure ChoseFrom (n t : Nat) (as : List Seen) : Prop where
  /-- Each attempt asked every sink once, in the order given. -/
  polled : ∀ a ∈ as, a.polled.map (·.1) = List.range n
  /-- An attempt that found no sink ready chose none. -/
  idle : ∀ a ∈ as, a.found = false → a.chosen = none
  /-- The `k`-th attempt that found a sink ready chose the ready sink at position
  `t + k` modulo their number. -/
  turn : ∀ k a, (as.filter Seen.found)[k]? = some a →
    a.chosen = a.ready[(t + k) % a.ready.length]?

theorem ChoseFrom.nil (n t : Nat) : ChoseFrom n t [] :=
  ⟨by simp, by simp, by simp⟩

/-- A single attempt that polled every sink in order and chose the ready sink at the turn. -/
theorem ChoseFrom.single {n t : Nat} {a : Seen} (hp : a.polled.map (·.1) = List.range n)
    (hc : a.chosen = a.ready[t % a.ready.length]?) : ChoseFrom n t [a] := by
  refine ⟨by simpa using hp, ?_, ?_⟩
  · -- nothing was ready, so there was nothing to choose from
    intro b hb hf
    obtain rfl := List.mem_singleton.mp hb
    simp only [Seen.found, Bool.not_eq_false', List.isEmpty_iff] at hf
    simp [hc, hf]
  · intro k b hb
    cases hf : a.found <;> cases k <;> simp_all

/-- Attempts that chose round-robin chain: the later ones start from the turns the earlier
ones took. -/
theorem ChoseFrom.append {n t : Nat} {as bs : List Seen} (ha : ChoseFrom n t as)
    (hb : ChoseFrom n (t + (as.filter Seen.found).length) bs) : ChoseFrom n t (as ++ bs) := by
  refine ⟨?_, ?_, ?_⟩
  · intro a h
    rcases List.mem_append.mp h with h | h
    exacts [ha.polled a h, hb.polled a h]
  · intro a h
    rcases List.mem_append.mp h with h | h
    exacts [ha.idle a h, hb.idle a h]
  · -- the `k`-th choice is among the earlier attempts' or, shifted, the later ones'
    intro k a h
    rw [List.filter_append] at h
    by_cases hk : k < (as.filter Seen.found).length
    · rw [List.getElem?_append_left hk] at h
      exact ha.turn k a h
    · rw [List.getElem?_append_right (by omega)] at h
      have hturn := hb.turn _ a h
      have hshift : t + (as.filter Seen.found).length + (k - (as.filter Seen.found).length) =
          t + k := by omega
      rwa [hshift] at hturn

/-! ### One attempt -/

/-- Polling asks the sinks in order, numbered from `i`, and keeps those that answered
ready, in the same order. -/
theorem poll_spec (sinks : List (SinkCalls W)) (i : Nat) (w : W) :
    ∃ ps : List (Nat × Bool), ps.map (·.1) = List.range' i sinks.length ∧
      (poll sinks i w).2.2 = ps.map (fun p => Step.ready p.1 p.2) ∧
      (poll sinks i w).1.map (·.1) = (ps.filter (·.2)).map (·.1) := by
  induction sinks generalizing i w with
  | nil => exact ⟨[], rfl, rfl, rfl⟩
  | cons s ss ih =>
    obtain ⟨ps, hidx, hsteps, hready⟩ := ih (i + 1) (s.ready w).2
    refine ⟨(i, (s.ready w).1) :: ps, ?_, ?_, ?_⟩
    · simp [hidx, List.range'_succ]
    · simp [poll, hsteps]
    · cases h : (s.ready w).1 <;> simp [poll, h, hready]

/-- **One attempt** shows as one record: it asked every sink once, in order, chose the ready
sink at position `turns` modulo their number, and took a turn exactly when it found a sink
ready. -/
theorem tryOnce_seen (sinks : List (SinkCalls W)) (ev : Event) (turns : Nat) (w : W) :
    ∃ a : Seen, seenFrom {} (tryOnce sinks ev turns w).steps = [a] ∧
      a.polled.map (·.1) = List.range sinks.length ∧
      a.chosen = a.ready[turns % a.ready.length]? ∧
      (tryOnce sinks ev turns w).turns = turns + (if a.found then 1 else 0) := by
  obtain ⟨ps, hidx, hsteps, hready⟩ := poll_spec sinks 0 w
  rw [← List.range_eq_range'] at hidx
  unfold tryOnce
  generalize poll sinks 0 w = P at hsteps hready
  obtain ⟨healthy, w', polled⟩ := P
  dsimp only at hsteps hready ⊢
  subst hsteps
  have hseen : ∀ rest, seenFrom {} (ps.map (fun p => Step.ready p.1 p.2) ++ rest) =
      seenFrom { polled := ps } rest := fun rest => seenFrom_polls {} ps rest
  cases healthy with
  | nil =>
    -- nothing ready: no choice and no turn
    have hnone : (({ polled := ps } : Seen).ready) = [] := by
      simpa [Seen.ready] using hready.symm
    have hone := hseen []
    rw [List.append_nil] at hone
    refine ⟨{ polled := ps }, hone, hidx, ?_, ?_⟩
    · rw [hnone]
      rfl
    · simp [Seen.found, hnone]
  | cons first rest =>
    dsimp only
    -- the sink picked is the ready one at the turn's position
    have hlen : (first :: rest).length = (({ polled := ps } : Seen).ready).length := by
      rw [Seen.ready, ← hready, List.length_map]
    have hlt : turns % (first :: rest).length < (first :: rest).length :=
      Nat.mod_lt _ (by simp)
    have hpick : ((first :: rest).getD (turns % (first :: rest).length) first).1 ∈
        (({ polled := ps } : Seen).ready)[turns % (({ polled := ps } : Seen).ready).length]? := by
      rw [← hlen, Seen.ready, ← hready, List.getElem?_map, List.getD_eq_getElem _ _ hlt,
        List.getElem?_eq_getElem hlt]
      rfl
    have hfound : ({ polled := ps } : Seen).found = true := by
      simp [Seen.found, ← List.length_pos_iff, ← hlen]
    generalize (first :: rest).getD (turns % (first :: rest).length) first = q at hpick
    obtain ⟨i, s⟩ := q
    refine ⟨{ polled := ps, chosen := some i }, ?_, hidx, (Option.mem_def.mp hpick).symm, ?_⟩
    · cases (s.acquire w').1 <;> simp [hseen, seenFrom]
    · show _ = turns + if ({ polled := ps } : Seen).found = true then 1 else 0
      rw [hfound]
      cases (s.acquire w').1 <;> rfl

/-! ### Deliveries and runs -/

/-- **The attempts of a delivery** add to the attempts the steps so far show, choosing
round-robin from the turns taken, and take one turn for each attempt that found a sink
ready. -/
theorem attempt_seen (sinks : List (SinkCalls W)) (ctxErr : W → Option Fault) (ev : Event)
    (n : Nat) (k : Nat) :
    ∀ turns w last steps, ∃ as : List Seen,
      seenFrom {} (attempt sinks ctxErr ev n k turns w last steps).steps =
          seenFrom {} steps ++ as ∧
        ChoseFrom sinks.length turns as ∧
        (attempt sinks ctxErr ev n k turns w last steps).turns =
          turns + (as.filter Seen.found).length := by
  induction k with
  | zero =>
    intro turns w last steps
    exact ⟨[], by simp [attempt], ChoseFrom.nil _ _, rfl⟩
  | succ k ih =>
    intro turns w last steps
    rw [attempt]
    cases he : ctxErr w with
    | some e =>
      -- the context has ended: no attempt
      exact ⟨[], by simp [seenFrom_append_ended], ChoseFrom.nil _ _, rfl⟩
    | none =>
      dsimp only
      obtain ⟨a, ha, hp, hc, ht⟩ := tryOnce_seen sinks ev turns w
      have hone : ChoseFrom sinks.length turns [a] := ChoseFrom.single hp hc
      have hsteps : seenFrom {} (steps ++ .check none :: (tryOnce sinks ev turns w).steps) =
          seenFrom {} steps ++ [a] := by
        rw [seenFrom_append_check, ha]
      have hcount : ([a].filter Seen.found).length = if a.found then 1 else 0 := by
        cases h : a.found <;> simp [h]
      cases (tryOnce sinks ev turns w).result with
      | ok u =>
        exact ⟨[a], hsteps, hone, by rw [hcount]; exact ht⟩
      | error f =>
        -- a failed attempt, then the rest from the turns it left
        obtain ⟨as, hs, hchose, hturns⟩ := ih (tryOnce sinks ev turns w).turns
          (tryOnce sinks ev turns w).world f
          (steps ++ .check none :: (tryOnce sinks ev turns w).steps)
        refine ⟨a :: as, by rw [hs, hsteps]; simp, ?_, ?_⟩
        · have hchose' : ChoseFrom sinks.length (turns + ([a].filter Seen.found).length) as := by
            rwa [hcount, ← ht]
          exact hone.append hchose'
        · rw [hturns, ht, List.filter_cons]
          cases a.found
          · simp
          · simp
            omega

/-- The attempts of a delivery, from the turns taken. -/
theorem deliver_seen (sinks : List (SinkCalls W)) (ctxErr : W → Option Fault) (attempts : Nat)
    (ev : Event) (turns : Nat) (w : W) :
    ChoseFrom sinks.length turns (attemptsSeen (deliver sinks ctxErr attempts ev turns w).steps) ∧
      (deliver sinks ctxErr attempts ev turns w).turns =
        turns + ((attemptsSeen (deliver sinks ctxErr attempts ev turns w).steps).filter
          Seen.found).length := by
  obtain ⟨as, hs, hchose, hturns⟩ :=
    attempt_seen sinks ctxErr ev attempts attempts turns w (.named .noHealthySinks) []
  have has : attemptsSeen (deliver sinks ctxErr attempts ev turns w).steps = as := by
    rw [attemptsSeen, deliver, hs]
    rfl
  rw [has]
  exact ⟨hchose, hturns⟩

/-- A delivery of a run: what became of the world since the delivery before, the caller's
context, and the event. -/
structure Call (W : Type) where
  /-- What happened to the world between the deliveries: clocks moved, sinks changed. -/
  advance : W → W
  /-- The caller's context, read off the world. -/
  ctxErr : W → Option Fault
  /-- The event. -/
  event : Event

/-- A run of deliveries by one dispatcher allowed `attempts` attempts each, from `turns`
turns taken and the world `w`: each delivery starts from the turns the one before left. -/
def deliverAll (sinks : List (SinkCalls W)) (attempts : Nat) :
    List (Call W) → Nat → W → List (Progress W)
  | [], _, _ => []
  | c :: cs, turns, w =>
    let r := deliver sinks c.ctxErr attempts c.event turns (c.advance w)
    r :: deliverAll sinks attempts cs r.turns r.world

/-- The attempts of a run, in order. -/
def runSeen (rs : List (Progress W)) : List Seen := rs.flatMap fun r => attemptsSeen r.steps

/-- The attempts of a run choose round-robin from the turns it starts with. -/
theorem deliverAll_seen (sinks : List (SinkCalls W)) (attempts : Nat) (cs : List (Call W)) :
    ∀ turns w, ChoseFrom sinks.length turns (runSeen (deliverAll sinks attempts cs turns w)) := by
  induction cs with
  | nil => exact fun turns _ => ChoseFrom.nil _ turns
  | cons c cs ih =>
    intro turns w
    obtain ⟨hchose, hturns⟩ := deliver_seen sinks c.ctxErr attempts c.event turns (c.advance w)
    simp only [deliverAll, runSeen, List.flatMap_cons] at ih ⊢
    refine hchose.append ?_
    rw [← hturns]
    exact ih _ _

/-! ### Every sink ready -/

/-- An attempt that found every sink ready, after asking each in order, found them all. -/
theorem Seen.ready_of_all {n : Nat} {a : Seen} (hp : a.polled.map (·.1) = List.range n)
    (hall : ∀ p ∈ a.polled, p.2 = true) : a.ready = List.range n := by
  rw [Seen.ready, List.filter_eq_self.mpr (fun p hp' => by simpa using hall p hp'), hp]

/-- With every sink ready at every attempt, round-robin is cyclic: the `k`-th attempt chose
sink `k mod n`. -/
theorem ChoseFrom.cyclic {n : Nat} (hn : 0 < n) {as : List Seen} (h : ChoseFrom n 0 as)
    (hall : ∀ a ∈ as, ∀ p ∈ a.polled, p.2 = true) (k : Nat) (a : Seen) (hk : as[k]? = some a) :
    a.chosen = some (k % n) := by
  have hready : ∀ b ∈ as, b.ready = List.range n := fun b hb =>
    Seen.ready_of_all (h.polled b hb) (hall b hb)
  -- every attempt found a sink ready, so every attempt took a turn
  have hfound : as.filter Seen.found = as := List.filter_eq_self.mpr fun b hb => by
    simp [Seen.found, hready b hb, List.range_eq_nil, Nat.pos_iff_ne_zero.mp hn]
  rw [h.turn k a (by rw [hfound]; exact hk), hready a (List.mem_of_getElem? hk),
    List.length_range, Nat.zero_add, List.getElem?_range (Nat.mod_lt _ hn)]

/-- In any window of `m` consecutive numbers, `⌊m / n⌋` or `⌈m / n⌉` of them are congruent
to `i` modulo `n`. -/
theorem count_window_modEq {n : Nat} (hn : 0 < n) {i : Nat} (hi : i < n) (s m : Nat) :
    Nat.count (fun j => s + j ≡ i [MOD n]) m = m / n ∨
      Nat.count (fun j => s + j ≡ i [MOD n]) m = (m + n - 1) / n := by
  have hwin := Nat.count_add (· ≡ i [MOD n]) s m
  have hall := Nat.count_modEq_card (s + m) hn i
  have hbefore := Nat.count_modEq_card s hn i
  rw [Nat.mod_eq_of_lt hi] at hall hbefore
  have hs := Nat.mod_lt s hn
  have hm := Nat.mod_lt m hn
  -- the quotient and remainder of `s + m` from those of `s` and `m`
  have hdiv : (s + m) / n = s / n + m / n + if n ≤ s % n + m % n then 1 else 0 :=
    Nat.add_div hn
  have hmod : (s + m) % n = if n ≤ s % n + m % n then s % n + m % n - n else s % n + m % n := by
    rw [Nat.add_mod]
    split_ifs with h
    · rw [Nat.mod_eq_sub_mod h, Nat.mod_eq_of_lt (by omega)]
    · exact Nat.mod_eq_of_lt (by omega)
  -- `⌈m / n⌉` is `⌊m / n⌋`, plus one when `n` does not divide `m`
  have hceil : (m + n - 1) / n = m / n + if 0 < m % n then 1 else 0 := by
    have hsplit : m + n - 1 = m + (n - 1) := by omega
    rw [hsplit, Nat.add_div hn, Nat.div_eq_of_lt (by omega : n - 1 < n),
      Nat.mod_eq_of_lt (by omega : n - 1 < n)]
    split_ifs <;> omega
  rw [hdiv, hmod] at hall
  split_ifs at hall hbefore hceil <;> omega

/-- The choices of attempts with every sink ready, in a window of `m` consecutive attempts
from the `s`-th: each of the `n` sinks was chosen `⌊m / n⌋` or `⌈m / n⌉` times. -/
theorem ChoseFrom.window {n : Nat} (hn : 0 < n) {as : List Seen} (h : ChoseFrom n 0 as)
    (hall : ∀ a ∈ as, ∀ p ∈ a.polled, p.2 = true) {s m : Nat} (hsm : s + m ≤ as.length)
    {i : Nat} (hi : i < n) :
    ((as.drop s).take m).countP (·.chosen = some i) = m / n ∨
      ((as.drop s).take m).countP (·.chosen = some i) = (m + n - 1) / n := by
  -- the window chose the sinks `(s + j) mod n` in turn
  have hchosen : ((as.drop s).take m).map Seen.chosen =
      (List.range m).map fun j => some ((s + j) % n) := by
    apply List.ext_getElem (by simp; omega)
    intro j h1 h2
    simp only [List.length_map, List.length_take, List.length_drop] at h1
    simp only [List.getElem_map, List.getElem_take, List.getElem_drop, List.getElem_range]
    exact h.cyclic hn hall (s + j) _ (List.getElem?_eq_getElem _)
  have hcount : ((as.drop s).take m).countP (·.chosen = some i) =
      Nat.count (fun j => s + j ≡ i [MOD n]) m := by
    rw [show (fun a : Seen => decide (a.chosen = some i)) =
        (fun o => decide (o = some i)) ∘ Seen.chosen from rfl, ← List.countP_map, hchosen,
      List.countP_map]
    unfold Nat.count
    apply List.countP_congr
    intro j _
    simp [Nat.ModEq, Nat.mod_eq_of_lt hi]
  rw [hcount]
  exact count_window_modEq hn hi s m

/-! ### A dispatcher's lifetime -/

/-- **Round-robin over a dispatcher's lifetime.** Over any run of deliveries by a new
dispatcher, whatever the sinks answer and however the world changes between deliveries:
every attempt asked every sink once, in the order given; an attempt that found no sink
ready chose none; and, numbering from `0` the attempts that found a sink ready across all
the deliveries, the `k`-th chose the ready sink at position `k` modulo their number. When
every sink is ready at every attempt, the `k`-th attempt chose sink `k mod n`, and any `m`
consecutive attempts chose each of the `n` sinks `⌊m / n⌋` or `⌈m / n⌉` times. -/
theorem deliverAll_round_robin (sinks : List (SinkCalls W)) (attempts : Nat)
    (cs : List (Call W)) (w : W) :
    let seen := runSeen (deliverAll sinks attempts cs 0 w)
    ChoseFrom sinks.length 0 seen ∧
      (0 < sinks.length → (∀ a ∈ seen, ∀ p ∈ a.polled, p.2 = true) →
        (∀ k a, seen[k]? = some a → a.chosen = some (k % sinks.length)) ∧
        ∀ s m i, s + m ≤ seen.length → i < sinks.length →
          ((seen.drop s).take m).countP (·.chosen = some i) = m / sinks.length ∨
            ((seen.drop s).take m).countP (·.chosen = some i) =
              (m + sinks.length - 1) / sinks.length) := by
  intro seen
  have h : ChoseFrom sinks.length 0 seen := deliverAll_seen sinks attempts cs 0 w
  exact ⟨h, fun hn hall => ⟨h.cyclic hn hall, fun s m i hsm hi => h.window hn hall hsm hi⟩⟩

/-- Two sinks that are always ready and always take the event. -/
def twoReadySinks : List (SinkCalls Unit) :=
  List.replicate 2 ⟨fun w => (true, w), fun w => (true, w), fun _ w => (.ok (), w)⟩

/-- Four deliveries over two sinks that are always ready alternate between them. -/
theorem two_ready_sinks_alternate :
    let seen := runSeen (deliverAll twoReadySinks 1 (List.replicate 4 ⟨id, fun _ => none, {}⟩) 0 ())
    0 < twoReadySinks.length ∧ (∀ a ∈ seen, ∀ p ∈ a.polled, p.2 = true) ∧
      ∀ k a, seen[k]? = some a → a.chosen = some (k % twoReadySinks.length) := by
  intro seen
  have hn : 0 < twoReadySinks.length := by decide
  have hall : ∀ a ∈ seen, ∀ p ∈ a.polled, p.2 = true := by decide
  exact ⟨hn, hall, ((deliverAll_round_robin twoReadySinks 1 _ ()).2 hn hall).1⟩

end TopicBridge.Relay.Retry
