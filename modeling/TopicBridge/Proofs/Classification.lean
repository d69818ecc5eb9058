import Mathlib
import TopicBridge.Proofs.Publishing
import TopicBridge.Broker.Session

/-!
# Classifying a publisher's fault

A fault is a tree, and the searches over it (`Fault.findPublish`, `Fault.matches`,
`Fault.timeoutReport`) each walk it depth first, a node before the faults it wraps and
these from first to last. This file writes that order down once, as the list of a fault's
**nodes** (`TopicBridge.Bridge.Fault.nodes`), and shows every search to be the plain
question about that list: the first node that is a publish failure, whether some node is
the named fault, the first answer of a node that reports on timeouts.

Read that way, classification says: the first publish failure among the nodes is returned
unchanged; when there is none, the fault becomes the cause of a new failure of the route,
which is a timeout exactly when the exceeded deadline is one of the nodes or the first node
that reports says yes (`TopicBridge.Bridge.Fault.failureOn`).

`TopicBridge.Bridge.publish_failure_classified` is the result for the bridge: handling a
request returns that failure for whatever fault the publisher answers, and with the broker
session as publisher a link that is down fails without a request, a failed token is
classified as its own error is, and a token that never completes is a timeout unless the
caller cancelled.
-/

namespace TopicBridge.Bridge

open TopicBridge.Broker TopicBridge.Time

/-! ### The nodes of a fault -/

mutual
/-- The nodes of a fault's tree, depth first: the fault itself, then the nodes of each
fault it wraps, from first to last. -/
def Fault.nodes : Fault → List Fault
  | .named s => [.named s]
  | .plain t => [.plain t]
  | .reporting t b => [.reporting t b]
  | .wrap b c a => .wrap b c a :: c.nodes
  | .ackTimeout t c => .ackTimeout t c :: c.nodes
  | .publish k r t c => .publish k r t c :: Fault.causeNodes c
  | .joined ps => .joined ps :: Fault.partNodes ps

/-- The nodes of a possibly absent cause. -/
def Fault.causeNodes : Option Fault → List Fault
  | some c => c.nodes
  | none => []

/-- The nodes of several faults, one after the other. -/
def Fault.partNodes : List Fault → List Fault
  | [] => []
  | p :: ps => p.nodes ++ Fault.partNodes ps
end

/-- The node as a publish failure, when it is one. -/
def Fault.asFailure : Fault → Option PublishFailure
  | .publish k r t c => some ⟨k, r, t, c⟩
  | _ => none

/-- Whether the node itself is the named fault: that fault, or a publish failure of the
kind that matches it. -/
def Fault.isSelf : Fault → Sentinel → Bool
  | .named s, t => s == t
  | .publish k _ _ _, t => k.sentinel == t
  | _, _ => false

/-- What the node itself says about timeouts, when it says anything: an exceeded deadline
and a missing acknowledgement say yes, a reporting fault says what it reports. -/
def Fault.ownReport : Fault → Option Bool
  | .named s => if s = .deadlineExceeded then some true else none
  | .reporting _ b => some b
  | .ackTimeout _ _ => some true
  | _ => none

/-- The publish failures among a fault's nodes, in order. -/
def Fault.failures (f : Fault) : List PublishFailure := f.nodes.filterMap Fault.asFailure

/-- The answers of the nodes that report on timeouts, in order. -/
def Fault.reports (f : Fault) : List Bool := f.nodes.filterMap Fault.ownReport

/-! ### Every search is a question about the nodes -/

mutual
/-- The publish failure a fault's search finds is the first one among its nodes. -/
theorem Fault.findPublish_eq : ∀ f : Fault, f.findPublish = f.failures.head?
  | .named _ => rfl
  | .plain _ => rfl
  | .reporting _ _ => rfl
  | .wrap _ c _ => by
    rw [Fault.failures, Fault.nodes, List.filterMap_cons_none rfl]
    exact Fault.findPublish_eq c
  | .ackTimeout _ c => by
    rw [Fault.failures, Fault.nodes, List.filterMap_cons_none rfl]
    exact Fault.findPublish_eq c
  | .publish _ _ _ _ => rfl
  | .joined ps => by
    rw [Fault.failures, Fault.nodes, List.filterMap_cons_none rfl]
    exact Fault.firstPublish_eq ps

theorem Fault.firstPublish_eq :
    ∀ ps : List Fault,
      Fault.firstPublish ps = ((Fault.partNodes ps).filterMap Fault.asFailure).head?
  | [] => rfl
  | p :: ps => by
    simp only [Fault.firstPublish, Fault.partNodes, List.filterMap_append, List.head?_append,
      Fault.findPublish_eq p, Fault.firstPublish_eq ps, Fault.failures]
    cases (p.nodes.filterMap Fault.asFailure).head? <;> rfl
end

mutual
/-- A fault matches a named fault exactly when one of its nodes is that fault. -/
theorem Fault.matches_eq : ∀ (f : Fault) (t : Sentinel), f.matches t = f.nodes.any (·.isSelf t)
  | .named _, _ => by simp [Fault.matches, Fault.nodes, Fault.isSelf]
  | .plain _, _ => rfl
  | .reporting _ _, _ => rfl
  | .wrap _ c _, t => by
    rw [Fault.nodes, List.any_cons]
    exact Fault.matches_eq c t
  | .ackTimeout _ c, t => by
    rw [Fault.nodes, List.any_cons]
    exact Fault.matches_eq c t
  | .publish _ _ _ c, t => by
    rw [Fault.nodes, List.any_cons, ← Fault.causeMatches_eq c t]
    rfl
  | .joined ps, t => by
    rw [Fault.nodes, List.any_cons]
    exact Fault.anyMatches_eq ps t

theorem Fault.causeMatches_eq :
    ∀ (c : Option Fault) (t : Sentinel),
      Fault.causeMatches c t = (Fault.causeNodes c).any (·.isSelf t)
  | some c, t => Fault.matches_eq c t
  | none, _ => rfl

theorem Fault.anyMatches_eq :
    ∀ (ps : List Fault) (t : Sentinel),
      Fault.anyMatches ps t = (Fault.partNodes ps).any (·.isSelf t)
  | [], _ => rfl
  | p :: ps, t => by
    rw [Fault.anyMatches, Fault.partNodes, List.any_append, Fault.matches_eq p t,
      Fault.anyMatches_eq ps t]
end

mutual
/-- The report a fault's search finds is the first answer among its nodes. -/
theorem Fault.timeoutReport_eq : ∀ f : Fault, f.timeoutReport = f.reports.head?
  | .named s => by cases s <;> rfl
  | .plain _ => rfl
  | .reporting _ _ => rfl
  | .wrap _ c _ => by
    rw [Fault.reports, Fault.nodes, List.filterMap_cons_none rfl]
    exact Fault.timeoutReport_eq c
  | .ackTimeout _ _ => rfl
  | .publish _ _ _ c => by
    rw [Fault.reports, Fault.nodes, List.filterMap_cons_none rfl]
    exact Fault.causeReport_eq c
  | .joined ps => by
    rw [Fault.reports, Fault.nodes, List.filterMap_cons_none rfl]
    exact Fault.firstReport_eq ps

theorem Fault.causeReport_eq :
    ∀ c : Option Fault, Fault.causeReport c = ((Fault.causeNodes c).filterMap Fault.ownReport).head?
  | some c => Fault.timeoutReport_eq c
  | none => rfl

theorem Fault.firstReport_eq :
    ∀ ps : List Fault, Fault.firstReport ps = ((Fault.partNodes ps).filterMap Fault.ownReport).head?
  | [] => rfl
  | p :: ps => by
    simp only [Fault.firstReport, Fault.partNodes, List.filterMap_append, List.head?_append,
      Fault.timeoutReport_eq p, Fault.firstReport_eq ps, Fault.reports]
    cases (p.nodes.filterMap Fault.ownReport).head? <;> rfl
end

/-! ### Timeouts -/

/-- A fault **times out** when the exceeded deadline is one of its nodes, or the first node
that reports on timeouts says yes. -/
def Fault.TimesOut (f : Fault) : Prop :=
  Fault.named .deadlineExceeded ∈ f.nodes ∨ f.reports.head? = some true

/-- The only node that is the exceeded deadline is that fault itself: no kind of publish
failure matches it. -/
theorem Fault.isSelf_deadlineExceeded (g : Fault) :
    g.isSelf .deadlineExceeded = true ↔ g = .named .deadlineExceeded := by
  cases g with
  | named s => simp [Fault.isSelf]
  | publish k _ _ _ => cases k <;> simp [Fault.isSelf, FailureKind.sentinel]
  | _ => simp [Fault.isSelf]

/-- **The timeout test is the one on the nodes.** -/
theorem Fault.isTimeout_iff (f : Fault) : f.isTimeout = true ↔ f.TimesOut := by
  simp [Fault.isTimeout, Fault.TimesOut, Fault.matches_eq, Fault.timeoutReport_eq,
    Fault.isSelf_deadlineExceeded]

instance : DecidablePred Fault.TimesOut := fun f => decidable_of_iff _ f.isTimeout_iff

/-! ### Classification -/

/-- The failure returned for a fault on a route and topic, read off the fault's nodes: the
first publish failure among them, unchanged, or else a new failure caused by the fault, of
the timeout kind exactly when the fault times out. -/
def Fault.failureOn (f : Fault) (route topic : String) : PublishFailure :=
  match f.failures with
  | p :: _ => p
  | [] =>
    { kind := if f.TimesOut then .timedOut else .publishFailed, route, topic, cause := some f }

/-- **Classification reads the nodes in order.** -/
theorem classify_eq_failureOn (route topic : String) (f : Fault) :
    classify route topic f = f.failureOn route topic := by
  unfold classify Fault.failureOn
  rw [Fault.findPublish_eq]
  cases f.failures with
  | cons p _ => rfl
  | nil =>
    by_cases ht : f.TimesOut
    · simp [ht, (Fault.isTimeout_iff f).mpr ht]
    · simp [ht, mt (Fault.isTimeout_iff f).mp ht]

/-- Text around a fault changes nothing of its classification but the cause. -/
theorem classify_wrap_kind (route topic before after : String) (c : Fault) :
    (classify route topic (.wrap before c after)).kind = (classify route topic c).kind := by
  simp only [classify, Fault.findPublish, Fault.isTimeout, Fault.matches, Fault.timeoutReport]
  cases c.findPublish <;> rfl

/-! ### Handling a request -/

/-- **How a failed publish is classified.** Whatever fault a publisher answers, handling
the request returns the first publish failure among the fault's nodes unchanged, or else a
new failure of the route caused by the fault, a timeout exactly when the fault times out.

With a broker session as the publisher, whatever its token: on a link that is down the
publish makes no request and fails as a plain publish failure; on a link that is up, a
token that fails with `t` gives a failure of the kind `t` itself would get, and a token
that never completes is a timeout on a missing acknowledgement, unless the caller had
cancelled, which is a plain publish failure. -/
theorem publish_failure_classified {H : Type} (b : BridgeSetup) (id : String) (start : Instant)
    (route : Route) (req : InboundRequest) (cancelled : Bool) (s : Session H) (tok : Token)
    (t : Fault) :
    let msg := OutboundMessage.ofBody route.topic b.broker route.qos route.retained req.body
    let ctx : CallContext := { timeout := b.publishTimeout, cancelled }
    let outcome := fun publish => (handle b id start route req cancelled publish).result
    (∀ publish e, (publish msg ctx).result = .error e →
        outcome publish = .error (e.failureOn route.name route.topic)) ∧
      ((s.linkUp false).publish msg ctx tok).calls = [] ∧
      outcome ((s.linkUp false).publisher tok) =
        .error ⟨.publishFailed, route.name, route.topic, some s.notConnectedFault⟩ ∧
      (∃ p, outcome ((s.linkUp true).publisher (.failed t)) = .error p ∧
        p.kind = (t.failureOn route.name route.topic).kind) ∧
      outcome ((s.linkUp true).publisher .pending) =
        .error (if cancelled then ⟨.publishFailed, route.name, route.topic, some (.named .canceled)⟩
          else ⟨.timedOut, route.name, route.topic,
            some (.ackTimeout route.topic (.named .deadlineExceeded))⟩) := by
  intro msg ctx outcome
  refine ⟨fun publish e he => ?_, rfl, ?_, ?_, ?_⟩
  · rw [← classify_eq_failureOn]
    exact handle_result_of_error b id start route req cancelled publish he
  · -- the session's own fault on a link that is down holds no failure and no timeout
    exact handle_result_of_error b id start route req cancelled
      ((s.linkUp false).publisher tok) rfl
  · refine ⟨_, handle_result_of_error b id start route req cancelled
      ((s.linkUp true).publisher (.failed t)) rfl, ?_⟩
    rw [classify_wrap_kind, classify_eq_failureOn]
  · refine (handle_result_of_error b id start route req cancelled
      ((s.linkUp true).publisher .pending) rfl).trans ?_
    cases cancelled <;> rfl

/-- A publisher whose fault joins one that reports no timeout and an exceeded deadline: the
deadline among the nodes makes the failure a timeout, though the first node to report says
no. -/
theorem deadline_among_nodes_times_out :
    let e : Fault := .joined [.reporting "slow" false, .named .deadlineExceeded]
    (handle {} "e1" {} { name := "r", topic := "t" } {} false
      fun _ _ => { result := .error e }).result = .error ⟨.timedOut, "r", "t", some e⟩ := by
  intro e
  obtain ⟨hany, -⟩ := publish_failure_classified {} "e1" {} { name := "r", topic := "t" } {} false
    ({ brokers := [] } : Session Unit) .done (.plain "")
  exact (hany (fun _ _ => { result := .error e }) e rfl).trans rfl

end TopicBridge.Bridge
