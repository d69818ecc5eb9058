import Mathlib
import TopicBridge.Relay.Retry

/-!
# The attempts of one delivery

What a delivery does over **any** sinks (`TopicBridge.Relay.Retry.deliver`): whatever the
sinks answer to `ready`, `acquire` and `deliver`, however each answer changes them, and
wherever the caller's context ends.

`TopicBridge.Relay.Retry.deliver_settles`: a delivery allowed `maxAttempts` attempts (three
when fewer than one is asked for)

* makes at most that many attempts, and hands the event to a sink at most that many times;
* succeeds exactly when a sink took the event, and that was then the last call it made;
* once it finds the context ended before an attempt, returns the context's error as it
  is and calls no sink again;
* otherwise makes all its attempts, and fails with
  `deliver event <id> after <n> attempts: <failure>`, the failure being the last
  attempt's alone: no ready sink, a refused `acquire`, or the sink's own error.

The dispatcher delivers by this loop over its own sinks
(`TopicBridge.Relay.Dispatcher.deliver`), so all of it holds of the dispatcher, whatever its
clock shows at each reading and whenever its caller's context ends.

## Proof

One attempt polls every sink and then finds none ready, is refused by the one it picked,
or hands it the event (`TopicBridge.Relay.Retry.tryOnce_cases`). The attempts of a
delivery are an induction on the attempts left, over the steps made so far, which never
found the context ended nor saw a sink take the event (`TopicBridge.Relay.Retry.Failed`).
-/

namespace TopicBridge.Relay

open TopicBridge.Bridge TopicBridge.Net

namespace Retry

variable {W : Type}

/-! ### Reading the steps -/

/-- Whether a step asks a sink whether it is ready. -/
def Step.polls : Step → Bool
  | .ready _ _ => true
  | _ => false

/-- Whether a step begins an attempt: the context was read and had not ended. -/
def Step.startsAttempt : Step → Bool
  | .check none => true
  | _ => false

/-- Whether a step hands a sink the event. -/
def Step.delivers : Step → Bool
  | .deliver _ _ => true
  | _ => false

/-- The failure the last step of a failed attempt shows: the sink's own error, the chosen
sink's refusal to admit the call, and otherwise that no sink was ready. -/
def failureShown : Option Step → Fault
  | some (.deliver _ (.error f)) => f
  | some (.acquire _ false) => .named .sinkNotAcquired
  | _ => .named .noHealthySinks

/-! ### One attempt -/

/-- Polling asks each sink once and does nothing else. -/
theorem poll_polls (sinks : List (SinkCalls W)) (i : Nat) (w : W) :
    ∀ x ∈ (poll sinks i w).2.2, x.polls = true := by
  induction sinks generalizing i w with
  | nil => simp [poll]
  | cons s ss ih =>
    intro x hx
    simp only [poll, List.mem_cons] at hx
    rcases hx with rfl | hx
    · rfl
    · exact ih _ _ x hx

/-- **One attempt** polls the sinks, then finds none ready, or is refused by the sink it
picked, or hands that sink the event. -/
theorem tryOnce_cases (sinks : List (SinkCalls W)) (ev : Event) (turns : Nat) (w : W) :
    ∃ polled, (∀ x ∈ polled, x.polls = true) ∧
      (((tryOnce sinks ev turns w).result = .error (.named .noHealthySinks) ∧
          (tryOnce sinks ev turns w).steps = polled) ∨
        (∃ i, (tryOnce sinks ev turns w).result = .error (.named .sinkNotAcquired) ∧
          (tryOnce sinks ev turns w).steps = polled ++ [.acquire i false]) ∨
        (∃ i, (tryOnce sinks ev turns w).steps =
          polled ++ [.acquire i true, .deliver i (tryOnce sinks ev turns w).result])) := by
  have hpolls := poll_polls sinks 0 w
  unfold tryOnce
  generalize poll sinks 0 w = p at hpolls
  obtain ⟨healthy, w', polled⟩ := p
  refine ⟨polled, hpolls, ?_⟩
  cases healthy with
  | nil => exact .inl ⟨rfl, rfl⟩
  | cons first rest =>
    dsimp only
    generalize (first :: rest).getD (turns % (first :: rest).length) first = q
    obtain ⟨i, s⟩ := q
    dsimp only
    cases (s.acquire w').1
    · exact .inr (.inl ⟨i, rfl, rfl⟩)
    · exact .inr (.inr ⟨i, rfl⟩)

/-- A step that is not a poll is not among polled steps. -/
theorem not_mem_of_polls {polled : List Step} (hp : ∀ x ∈ polled, x.polls = true) {y : Step}
    (hy : y.polls = false) : y ∉ polled := fun h => by simp [hp y h] at hy

theorem countP_delivers_of_polls {polled : List Step} (hp : ∀ x ∈ polled, x.polls = true) :
    polled.countP Step.delivers = 0 :=
  List.countP_eq_zero.mpr fun x hx => by
    have := hp x hx
    cases x <;> simp_all [Step.polls, Step.delivers]

/-- After polled steps alone, the last step shows that no sink was ready. -/
theorem failureShown_of_polls {polled : List Step} (hp : ∀ x ∈ polled, x.polls = true) :
    failureShown (Step.check none :: polled).getLast? = .named .noHealthySinks := by
  cases h : (Step.check none :: polled).getLast? with
  | none => rfl
  | some x =>
    rcases List.mem_cons.mp (List.mem_of_getLast? h) with rfl | hx
    · rfl
    · have := hp x hx
      cases x <;> simp_all [Step.polls, failureShown]

section Attempt

variable (sinks : List (SinkCalls W)) (ev : Event) (turns : Nat) (w : W)

/-- An attempt never reads the context. -/
theorem tryOnce_no_check (e : Option Fault) : .check e ∉ (tryOnce sinks ev turns w).steps := by
  have hc : (Step.check e).polls = false := rfl
  obtain ⟨polled, hp, ⟨-, h⟩ | ⟨i, -, h⟩ | ⟨i, h⟩⟩ := tryOnce_cases sinks ev turns w <;>
    rw [h] <;> simp [not_mem_of_polls hp hc]

/-- An attempt's own steps begin no attempt. -/
theorem tryOnce_starts : (tryOnce sinks ev turns w).steps.countP Step.startsAttempt = 0 :=
  List.countP_eq_zero.mpr fun x hx => by
    cases x with
    | check e => exact absurd hx (tryOnce_no_check sinks ev turns w e)
    | _ => simp [Step.startsAttempt]

/-- An attempt hands the event to at most one sink. -/
theorem tryOnce_deliveries_le : (tryOnce sinks ev turns w).steps.countP Step.delivers ≤ 1 := by
  obtain ⟨polled, hp, ⟨-, h⟩ | ⟨i, -, h⟩ | ⟨i, h⟩⟩ := tryOnce_cases sinks ev turns w <;>
    rw [h] <;> simp [countP_delivers_of_polls hp, Step.delivers]

/-- An attempt succeeds exactly when a sink took the event, and that was its last step. -/
theorem tryOnce_ok_iff :
    ((tryOnce sinks ev turns w).result = .ok () ↔
        ∃ i, .deliver i (.ok ()) ∈ (tryOnce sinks ev turns w).steps) ∧
      ∀ i, .deliver i (.ok ()) ∈ (tryOnce sinks ev turns w).steps →
        (tryOnce sinks ev turns w).steps.getLast? = some (.deliver i (.ok ())) := by
  have hd : ∀ i r, (Step.deliver i r).polls = false := fun _ _ => rfl
  obtain ⟨polled, hp, ⟨hr, h⟩ | ⟨i, hr, h⟩ | ⟨i, h⟩⟩ := tryOnce_cases sinks ev turns w
  · -- no sink was ready: nothing took the event
    rw [h, hr]
    simp [not_mem_of_polls hp (hd _ _)]
  · rw [h, hr]
    simp [not_mem_of_polls hp (hd _ _)]
  · -- the last step handed sink `i` the event, and its answer is the attempt's result
    rw [h]
    generalize (tryOnce sinks ev turns w).result = r
    simp only [List.mem_append, not_mem_of_polls hp (hd _ _), List.mem_cons, List.not_mem_nil,
      false_or, or_false, reduceCtorEq, Step.deliver.injEq]
    refine ⟨⟨fun hr => ⟨i, rfl, hr.symm⟩, fun ⟨j, _, hr⟩ => hr.symm⟩, ?_⟩
    rintro j ⟨rfl, rfl⟩
    simp

/-- A failed attempt shows its failure in its last step: no ready sink, the chosen sink's
refusal, or the error the sink returned. -/
theorem tryOnce_shown {f : Fault} (hf : (tryOnce sinks ev turns w).result = .error f) :
    failureShown (Step.check none :: (tryOnce sinks ev turns w).steps).getLast? = f := by
  obtain ⟨polled, hp, ⟨hr, h⟩ | ⟨i, hr, h⟩ | ⟨i, h⟩⟩ := tryOnce_cases sinks ev turns w
  · rw [h, failureShown_of_polls hp]
    rw [hr] at hf
    exact (Except.error.inj hf).symm ▸ rfl
  · rw [h, ← List.cons_append, List.getLast?_concat]
    rw [hr] at hf
    exact Except.error.inj hf
  · rw [h, hf, ← List.cons_append, List.getLast?_append]
    rfl

/-- An attempt added to the steps begins one attempt more. -/
theorem countP_starts_attempt (steps : List Step) :
    (steps ++ .check none :: (tryOnce sinks ev turns w).steps).countP Step.startsAttempt =
      steps.countP Step.startsAttempt + 1 := by
  simp [List.countP_append, List.countP_cons, tryOnce_starts, Step.startsAttempt]

/-- An attempt added to the steps adds its own deliveries. -/
theorem countP_delivers_attempt (steps : List Step) :
    (steps ++ .check none :: (tryOnce sinks ev turns w).steps).countP Step.delivers =
      steps.countP Step.delivers + (tryOnce sinks ev turns w).steps.countP Step.delivers := by
  simp [List.countP_append, Step.delivers]

end Attempt

/-! ### The attempts of a delivery -/

/-- Steps of failed attempts: the context was never found ended, no sink took the event,
each attempt handed the event over at most once, and `last` is the failure the last step
shows. -/
structure Failed (steps : List Step) (last : Fault) : Prop where
  /-- The context was never found ended. -/
  no_end : ∀ e, .check (some e) ∉ steps
  /-- No sink took the event. -/
  no_delivery : ∀ i, .deliver i (.ok ()) ∉ steps
  /-- At most one event was handed over per attempt. -/
  deliveries_le : steps.countP Step.delivers ≤ steps.countP Step.startsAttempt
  /-- The last step shows `last`. -/
  last_shown : failureShown steps.getLast? = last

theorem failed_nil : Failed [] (.named .noHealthySinks) := ⟨by simp, by simp, by simp, rfl⟩

/-- A failed attempt extends failed steps, its own failure now the last shown. -/
theorem Failed.attempt {steps : List Step} {last : Fault} (h : Failed steps last)
    (sinks : List (SinkCalls W)) (ev : Event) (turns : Nat) (w : W) {f : Fault}
    (hf : (tryOnce sinks ev turns w).result = .error f) :
    Failed (steps ++ .check none :: (tryOnce sinks ev turns w).steps) f := by
  have hnd : ∀ i, .deliver i (.ok ()) ∉ (tryOnce sinks ev turns w).steps := fun i hi => by
    have := (tryOnce_ok_iff sinks ev turns w).1.mpr ⟨i, hi⟩
    rw [hf] at this
    cases this
  have hd := tryOnce_deliveries_le sinks ev turns w
  have hdl := h.deliveries_le
  refine ⟨fun e => ?_, fun i => ?_, ?_, ?_⟩
  · simp [h.no_end e, tryOnce_no_check sinks ev turns w (some e)]
  · simp [h.no_delivery i, hnd i]
  · rw [countP_delivers_attempt, countP_starts_attempt]
    omega
  · -- the attempt's own steps end the record
    rw [List.getLast?_append, List.getLast?_cons, Option.some_or,
      ← tryOnce_shown sinks ev turns w hf, List.getLast?_cons]

/-- What a delivery allowed `n` attempts has done when it returns `r`. -/
structure Settled (ev : Event) (n : Nat) (r : Progress W) : Prop where
  /-- At most `n` attempts were made. -/
  attempts_le : r.steps.countP Step.startsAttempt ≤ n
  /-- The event was handed to a sink at most `n` times. -/
  deliveries_le : r.steps.countP Step.delivers ≤ n
  /-- The delivery succeeded exactly when a sink took the event. -/
  ok_iff : r.result = .ok () ↔ ∃ i, .deliver i (.ok ()) ∈ r.steps
  /-- A sink that took the event was the last one called. -/
  delivered_last : ∀ i, .deliver i (.ok ()) ∈ r.steps →
    r.steps.getLast? = some (.deliver i (.ok ()))
  /-- Once the context was found ended nothing else was done, and its error was returned
  as it is. -/
  ended_last : ∀ e, .check (some e) ∈ r.steps →
    r.steps.getLast? = some (.check (some e)) ∧ r.result = .error e
  /-- Otherwise all `n` attempts were made, and the failure wraps the last one's alone. -/
  exhausts : (∀ e, .check (some e) ∉ r.steps) → (∀ i, .deliver i (.ok ()) ∉ r.steps) →
    r.steps.countP Step.startsAttempt = n ∧
      r.result = .error (exhausted ev n (failureShown r.steps.getLast?))

section Settled

variable {ev : Event} {n turns : Nat} {w : W} {steps : List Step} {last : Fault}

/-- With no attempt left, the delivery fails with the last failure. -/
theorem Failed.settled_exhausted (h : Failed steps last)
    (hn : steps.countP Step.startsAttempt = n) :
    Settled ev n ⟨.error (exhausted ev n last), turns, w, steps⟩ := by
  refine ⟨hn.le, by simpa [hn] using h.deliveries_le, ?_, fun i hi => absurd hi (h.no_delivery i),
    fun e he => absurd he (h.no_end e), fun _ _ => ⟨hn, by rw [h.last_shown]⟩⟩
  simp only [reduceCtorEq, false_iff, not_exists]
  exact h.no_delivery

/-- A context found ended stops the delivery with its error. -/
theorem Failed.settled_ended (h : Failed steps last) (hn : steps.countP Step.startsAttempt ≤ n)
    (e : Fault) : Settled ev n ⟨.error e, turns, w, steps ++ [.check (some e)]⟩ := by
  have hdl := h.deliveries_le
  refine ⟨by simpa [Step.startsAttempt] using hn, by simp [Step.delivers]; omega, ?_, ?_, ?_, ?_⟩
  · simp [h.no_delivery]
  · intro i hi
    simp [h.no_delivery i] at hi
  · -- the context is found ended once, at the very end
    intro e' he'
    simp only [List.mem_append, h.no_end e', List.mem_singleton, Step.check.injEq,
      Option.some.injEq, false_or] at he'
    subst he'
    exact ⟨List.getLast?_concat, rfl⟩
  · intro hno
    exact absurd (List.mem_append_right _ (List.mem_singleton_self _)) (hno e)

/-- An attempt in which a sink took the event ends the delivery with success. -/
theorem Failed.settled_delivered (h : Failed steps last)
    (hn : steps.countP Step.startsAttempt < n) (sinks : List (SinkCalls W))
    (hr : (tryOnce sinks ev turns w).result = .ok ()) :
    Settled ev n ⟨.ok (), (tryOnce sinks ev turns w).turns, (tryOnce sinks ev turns w).world,
      steps ++ .check none :: (tryOnce sinks ev turns w).steps⟩ := by
  obtain ⟨hok, hlast⟩ := tryOnce_ok_iff sinks ev turns w
  obtain ⟨i, hi⟩ := hok.mp hr
  have hd := tryOnce_deliveries_le sinks ev turns w
  have hdl := h.deliveries_le
  -- the attempt's steps end the record, so what ends them ends it
  have hend : (steps ++ .check none :: (tryOnce sinks ev turns w).steps).getLast? =
      (tryOnce sinks ev turns w).steps.getLast? := by
    rw [hlast i hi, List.getLast?_append, List.getLast?_cons, hlast i hi]
    rfl
  refine ⟨?_, ?_, ?_, ?_, ?_, fun _ hno => absurd (by simp [hi]) (hno i)⟩
  · rw [countP_starts_attempt]
    omega
  · rw [countP_delivers_attempt]
    omega
  · simp only [true_iff]
    exact ⟨i, by simp [hi]⟩
  · intro j hj
    simp only [List.mem_append, h.no_delivery j, List.mem_cons, reduceCtorEq, false_or] at hj
    rw [hend, hlast j hj]
  · intro e he
    simp [h.no_end e, tryOnce_no_check sinks ev turns w (some e)] at he

end Settled

/-- **The attempts of a delivery**: from failed steps with `k` attempts left of `n`, the
delivery settles. -/
theorem attempt_settled (sinks : List (SinkCalls W)) (ctxErr : W → Option Fault) (ev : Event)
    (n : Nat) (k : Nat) :
    ∀ turns w last steps, Failed steps last → steps.countP Step.startsAttempt + k = n →
      Settled ev n (attempt sinks ctxErr ev n k turns w last steps) := by
  induction k with
  | zero =>
    intro turns w last steps h hn
    exact h.settled_exhausted hn
  | succ k ih =>
    intro turns w last steps h hn
    rw [Retry.attempt]
    cases he : ctxErr w with
    | some e =>
      refine h.settled_ended ?_ e
      omega
    | none =>
      dsimp only
      cases hr : (tryOnce sinks ev turns w).result with
      | ok u =>
        cases u
        refine h.settled_delivered ?_ sinks hr
        omega
      | error f =>
        -- the failed attempt joins the steps, one attempt fewer left
        refine ih _ _ _ _ (h.attempt sinks ev turns w hr) ?_
        rw [countP_starts_attempt]
        omega

/-- **A delivery over any sinks settles.** Whatever the sinks answer, however their
answers change them and wherever the context ends, a delivery allowed `maxAttempts`
attempts (three when fewer than one) makes at most that many attempts and hands the event
over at most that many times; it succeeds exactly when a sink took the event, which is then
the last call made; once it finds the context ended it returns the context's error as it is
and calls nothing more; and otherwise it makes every attempt and returns
`deliver event <id> after <n> attempts: <failure>` around the last attempt's failure
alone. -/
theorem deliver_settles (sinks : List (SinkCalls W)) (ctxErr : W → Option Fault)
    (maxAttempts : Int) (ev : Event) (turns : Nat) (w : W) :
    Settled ev (if maxAttempts < 1 then 3 else maxAttempts.toNat)
      (deliver sinks ctxErr (attemptsFor maxAttempts) ev turns w) :=
  attempt_settled sinks ctxErr ev _ _ turns w _ [] failed_nil (by simp [attemptsFor])

end Retry

end TopicBridge.Relay
