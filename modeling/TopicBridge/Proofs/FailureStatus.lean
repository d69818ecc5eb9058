import TopicBridge.Proofs.Publishing
import TopicBridge.Http.Server

/-!
# How a failed publish is reported

A failed publish is seen three ways: the **kind** of the failure handling returns, the
**status** of its journal row, which is read off the kind, and the **HTTP status** of the
reply, which asks whether the failure matches the named timeout fault anywhere in its tree.

The two readings agree on the node the failure itself is: a failure matches the named fault
of its own kind (`TopicBridge.Bridge.PublishFailure.matches_own`), so the reply is never a
`500`, and a failure of the timeout kind is always answered `504`. They part where the
failure's **cause** matches the timeout fault while the failure is of the other kind – a
publisher whose error wraps the timeout fault, or a publish failure of the timeout kind
inside one of the other – and then the reply is `504` over a row that says `failed`
(`TopicBridge.Bridge.wrapped_timeout_answers_gateway_timeout`). When the publisher's error
matches neither named fault, which is so of every error the broker session returns, the
three readings agree.

The main statement is `TopicBridge.Bridge.failure_status`.
-/

namespace TopicBridge.Bridge

open TopicBridge.Http TopicBridge.Time

/-! ### The named fault of a failure -/

/-- The named fault of a kind is one of the two publish faults, the timeout one exactly for
the timeout kind. -/
theorem FailureKind.sentinel_eq (k : FailureKind) :
    k.sentinel = if k = .timedOut then .publishTimedOut else .publishFailed := by
  cases k <;> simp [FailureKind.sentinel]

/-- A failure matches a named fault when it is the one of its kind, or its cause does. -/
theorem PublishFailure.matches_eq (p : PublishFailure) (t : Sentinel) :
    p.toFault.matches t = (p.kind.sentinel == t || Fault.causeMatches p.cause t) := by
  simp [PublishFailure.toFault, Fault.matches]

/-- **A failure matches the named fault of its own kind.** -/
theorem PublishFailure.matches_own (p : PublishFailure) : p.toFault.matches p.kind.sentinel = true := by
  simp [PublishFailure.matches_eq]

/-- A failure matches the timeout fault exactly when it is of the timeout kind or its
cause matches it. -/
theorem PublishFailure.matches_timedOut_iff (p : PublishFailure) :
    p.toFault.matches .publishTimedOut = true ↔
      p.kind = .timedOut ∨ Fault.causeMatches p.cause .publishTimedOut = true := by
  rw [PublishFailure.matches_eq, FailureKind.sentinel_eq]
  split <;> simp_all

mutual
/-- A publish failure found in a fault's tree matches there the named fault of its kind. -/
theorem Fault.matches_of_findPublish {p : PublishFailure} :
    ∀ f : Fault, f.findPublish = some p → f.matches p.kind.sentinel = true
  | .named _, h => by simp [Fault.findPublish] at h
  | .plain _, h => by simp [Fault.findPublish] at h
  | .reporting _ _, h => by simp [Fault.findPublish] at h
  | .wrap _ c _, h => by
    simp only [Fault.findPublish] at h
    simpa only [Fault.matches] using Fault.matches_of_findPublish c h
  | .ackTimeout _ c, h => by
    simp only [Fault.findPublish] at h
    simpa only [Fault.matches] using Fault.matches_of_findPublish c h
  | .publish k r t c, h => by
    simp only [Fault.findPublish, Option.some.injEq] at h
    subst h
    simp [Fault.matches]
  | .joined ps, h => by
    simp only [Fault.findPublish] at h
    simpa only [Fault.matches] using Fault.matches_of_firstPublish ps h

/-- The first publish failure among faults matches among them the named fault of its
kind. -/
theorem Fault.matches_of_firstPublish {p : PublishFailure} :
    ∀ ps : List Fault, Fault.firstPublish ps = some p → Fault.anyMatches ps p.kind.sentinel = true
  | [], h => by simp [Fault.firstPublish] at h
  | q :: qs, h => by
    simp only [Fault.firstPublish] at h
    simp only [Fault.anyMatches, Bool.or_eq_true]
    split at h
    · next hq =>
      cases h
      exact Or.inl (Fault.matches_of_findPublish q hq)
    · exact Or.inr (Fault.matches_of_firstPublish qs h)
end

/-- A fault that matches neither publish fault holds no publish failure, so classifying it
makes a new failure with the fault as its cause. -/
theorem classify_of_not_matches (route topic : String) {f : Fault}
    (ht : f.matches .publishTimedOut = false) (hp : f.matches .publishFailed = false) :
    classify route topic f =
      { kind := if f.isTimeout then .timedOut else .publishFailed, route, topic,
        cause := some f } := by
  have hnone : f.findPublish = none := by
    cases hf : f.findPublish with
    | none => rfl
    | some q =>
      have hm := Fault.matches_of_findPublish f hf
      rw [FailureKind.sentinel_eq] at hm
      split at hm <;> simp_all
  simp [classify, hnone]

/-! ### The reply and the row -/

/-- The status a failed publish is answered with: `504` when the failure matches the
timeout fault and `502` otherwise. The `500` of the last branch is never reached, since a
failure that does not match the timeout fault is of the other kind and matches its fault. -/
theorem publishRefusal_status (p : PublishFailure) :
    (publishRefusal p).1 = if p.toFault.matches .publishTimedOut then 504 else 502 := by
  unfold publishRefusal
  split
  · rfl
  · next ht =>
    have hk : p.kind ≠ .timedOut := fun hk => ht (p.matches_timedOut_iff.mpr (Or.inl hk))
    have hf : p.toFault.matches .publishFailed = true := by
      have hown := p.matches_own
      rwa [FailureKind.sentinel_eq, if_neg hk] at hown
    simp [hf]

/-- **How a failed publish is reported**, for every publisher's fault `f`. The failure
handling returns is journalled `timeout` exactly when it is of the timeout kind. It matches
the timeout fault exactly when it is of that kind or its cause matches it, and is answered
`504` exactly then and `502` otherwise, never `500`. When `f` matches neither publish
fault, the failure matches exactly one of them, and the answer is read off the kind just
as the row is: `504` with a `timeout` row, `502` with a `failed` one. -/
theorem failure_status (b : BridgeSetup) (id : String) (start : Instant) (route : Route)
    (req : InboundRequest) (cancelled : Bool)
    (publish : OutboundMessage → CallContext → Publication) (f : Fault)
    (hf : (publish (OutboundMessage.ofBody route.topic b.broker route.qos route.retained req.body)
      { timeout := b.publishTimeout, cancelled }).result = .error f) :
    let h := handle b id start route req cancelled publish
    ∃ p, h.result = .error p ∧
      (∀ row ∈ h.rows, row.status = if p.kind = .timedOut then .timeout else .failed) ∧
      (p.toFault.matches .publishTimedOut = true ↔
        p.kind = .timedOut ∨ Fault.causeMatches p.cause .publishTimedOut = true) ∧
      (publishRefusal p).1 = (if p.toFault.matches .publishTimedOut then 504 else 502) ∧
      (f.matches .publishTimedOut = false → f.matches .publishFailed = false →
        p.toFault.matches .publishTimedOut = !p.toFault.matches .publishFailed ∧
        (publishRefusal p).1 = if p.kind = .timedOut then 504 else 502) := by
  intro h
  refine ⟨classify route.name route.topic f,
    handle_result_of_error b id start route req cancelled publish hf,
    handle_rows_status_of_error b id start route req cancelled publish hf,
    PublishFailure.matches_timedOut_iff _, publishRefusal_status _, fun ht hp => ?_⟩
  -- the failure is a new one caused by `f`, so it matches only the fault of its kind
  rw [classify_of_not_matches route.name route.topic ht hp, publishRefusal_status]
  simp only [PublishFailure.matches_eq, Fault.causeMatches, ht, hp, Bool.or_false]
  split <;> simp [FailureKind.sentinel]

/-- A broker that refuses the message: the row says `failed` and the reply is `502`. -/
theorem refused_publish_answers_bad_gateway :
    let h := handle { journal := .accepting } "e1" {} {} {} false
      fun _ _ => { result := .error (.plain "refused") }
    ∃ p, h.result = .error p ∧ h.rows.map (·.status) = [.failed] ∧ (publishRefusal p).1 = 502 := by
  intro h
  obtain ⟨p, hp, -, -, -, hneither⟩ :=
    failure_status { journal := .accepting } "e1" {} {} {} false
      (fun _ _ => { result := .error (.plain "refused") }) (.plain "refused") rfl
  have hkind : p.kind = .publishFailed := by
    have hcl : h.result = .error (classify "" "" (.plain "refused")) := rfl
    rw [hcl] at hp
    cases hp
    decide
  refine ⟨p, hp, by decide, ?_⟩
  rw [(hneither rfl rfl).2, hkind]
  rfl

/-- **The two readings part.** A publisher whose error wraps the timeout fault gets a
failure of the other kind, journalled `failed`, which matches both publish faults and is
answered `504`. -/
theorem wrapped_timeout_answers_gateway_timeout :
    let h := handle { journal := .accepting } "e1" {} {} {} false
      fun _ _ => { result := .error (.wrap "x: " (.named .publishTimedOut) "") }
    h.rows.map (·.status) = [.failed] ∧
      ∃ p, h.result = .error p ∧ p.toFault.matches .publishTimedOut = true ∧
        p.toFault.matches .publishFailed = true ∧ (publishRefusal p).1 = 504 :=
  ⟨by decide, _, rfl, by decide, by decide, by decide⟩

end TopicBridge.Bridge
