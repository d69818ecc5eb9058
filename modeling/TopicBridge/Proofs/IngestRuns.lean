import Mathlib
import TopicBridge.Proofs.LaneHistory

/-!
# Each record handled once, in partition order

`TopicBridge.Ingest.Lanes.lanes_handle_once`: in every run of the ingest lanes, at any
interleaving of the fetcher and the workers, whatever the fetches return and whenever the run
is cancelled,

* a failed fetch leads to no call at all;
* a record's `processOne` starts only after the one of every record of its partition fetched
  before it has committed (`TopicBridge.Ingest.Lanes.Inv.commit_before_start`);
* once the run has returned, the workers' calls about a record placed on a lane are its
  script (`TopicBridge.Ingest.Lanes.Inv.returned_script`): the start, then, when it has a
  value, one call to the bridge with the request of the record on the route and the answer,
  then one commit;
* from any point, once cancelled, the run can return
  (`TopicBridge.Ingest.Lanes.Inv.can_return`): the fetcher returns and each worker drains its
  closed lane.

The first three are read off the invariant `TopicBridge.Ingest.Lanes.Inv`. Partition order
holds because records of one partition share a lane, are placed on it in the order they are
fetched, and its worker runs their scripts one after the other. Returning needs a schedule:
the fetcher returns first, closing the lanes, then each worker in turn finishes its record,
takes and handles what is left in its lane, and returns.
-/

namespace TopicBridge.Ingest.Lanes

open TopicBridge.Bridge

/-! ### What a worker's log holds -/

section Scripts

variable {route : Route} {l : Nat}

theorem tag_of_mem_script {p : Nat × Record} {x : Effect} (hx : x ∈ script route l p) :
    x.tag = p.1 := by
  have h : ∀ y ∈ script route l p, y.tag = p.1 := by
    unfold script
    split <;> simp [Effect.tag]
  exact h x hx

theorem tag_of_mem_progress {w : Worker} {x : Effect} (hx : x ∈ progress route l w) :
    ∃ p ∈ w.current, x.tag = p.1 := by
  have h : ∀ y ∈ progress route l w, ∃ p ∈ w.current, y.tag = p.1 := by
    rcases w with _ | ⟨k, r, st⟩ | _
    · simp [progress]
    · cases st <;> simp [progress, Worker.current, Effect.tag]
    · simp [progress]
  exact h x hx

theorem filter_script_self (p : Nat × Record) :
    (script route l p).filter (fun x => x.tag == p.1) = script route l p :=
  List.filter_eq_self.2 fun x hx => by simp [tag_of_mem_script hx]

theorem filter_script_other {p : Nat × Record} {k : Nat} (hk : p.1 ≠ k) :
    (script route l p).filter (fun x => x.tag == k) = [] :=
  List.filter_eq_nil_iff.2 fun x hx => by simp [tag_of_mem_script hx, hk]

/-- Among records with distinct tags, the calls for one tag are its script. -/
theorem filter_flatMap_script {done : List (Nat × Record)} (hnd : (done.map Prod.fst).Nodup)
    {k : Nat} {r : Record} (hk : (k, r) ∈ done) :
    (done.flatMap (script route l)).filter (fun x => x.tag == k) = script route l (k, r) := by
  induction done with
  | nil => simp at hk
  | cons p ps ih =>
    rw [List.map_cons, List.nodup_cons] at hnd
    rw [List.flatMap_cons, List.filter_append]
    by_cases hp : p.1 = k
    · -- the record is the first one, and no later one has its tag
      have hnot : (k, r) ∉ ps := fun h => hnd.1 (hp ▸ List.mem_map_of_mem (f := Prod.fst) h)
      have hpk : p = (k, r) := by
        rcases List.mem_cons.1 hk with h | h
        · exact h.symm
        · exact absurd h hnot
      have hrest : (ps.flatMap (script route l)).filter (fun x => x.tag == k) = [] := by
        refine List.filter_eq_nil_iff.2 fun x hx => ?_
        obtain ⟨q, hq, hxq⟩ := List.mem_flatMap.1 hx
        have hqk : q.1 ≠ k := fun h => hnd.1 (hp ▸ h ▸ List.mem_map_of_mem hq)
        simp [tag_of_mem_script hxq, hqk]
      subst hpk
      rw [filter_script_self (k, r), hrest, List.append_nil]
    · rw [filter_script_other hp, List.nil_append]
      exact ih hnd.2 ((List.mem_cons.1 hk).resolve_left fun h => hp (h ▸ rfl))

/-- Where a worker started a record: the records before it in its lane are the ones whose
scripts come first in its log. -/
theorem start_split {done buf : List (Nat × Record)} {w : Worker} {k : Nat}
    (hs : .start l k ∈ done.flatMap (script route l) ++ progress route l w) :
    ∃ pre p post tail, done ++ w.current ++ buf = pre ++ p :: post ∧ p.1 = k ∧
      done.flatMap (script route l) ++ progress route l w =
        pre.flatMap (script route l) ++ .start l k :: tail := by
  rcases List.mem_append.1 hs with hs | hs
  · obtain ⟨p, hp, hsp⟩ := List.mem_flatMap.1 hs
    have hk : p.1 = k := (tag_of_mem_script hsp).symm
    obtain ⟨D1, D2, rfl⟩ := List.append_of_mem hp
    refine ⟨D1, p, D2 ++ w.current ++ buf,
      (script route l p).tail ++ D2.flatMap (script route l) ++ progress route l w, by simp, hk,
      ?_⟩
    simp [script, hk]
  · -- the record the worker holds: its progress starts with the start
    rcases w with _ | ⟨k', r, st⟩ | _
    · simp [progress] at hs
    · have hk : k' = k := by cases st <;> simpa [progress, eq_comm] using hs
      subst hk
      refine ⟨done, (k', r), buf, (progress route l (.busy k' r st)).tail,
        by simp [Worker.current], rfl, ?_⟩
      cases st <;> simp [progress]
    · simp [progress] at hs

end Scripts

/-! ### What every run satisfies -/

section Consequences

variable {route : Route} {s : System}

/-- Every call logged is about a fetched record of the lane it names. -/
theorem Inv.tag_record (hi : Inv route s) {x : Effect} (hx : x ∈ s.log) :
    ∃ r, s.fetched[x.tag]? = some (.record r) ∧ laneIndex s.lanes.length r = some x.lane := by
  have hl : x.lane < s.lanes.length := hi.log_lanes x hx
  obtain ⟨⟨done, hp, hw, hf⟩, -⟩ := hi.lanes x.lane _ (List.getElem?_eq_getElem hl)
  by_cases hwk : x.isWork = true
  · -- a worker's call: its record is one the worker is done with or holds
    have hxw : x ∈ workOn s.log x.lane := List.mem_filter.2 ⟨hx, by simp [hwk]⟩
    rw [hw] at hxw
    rcases List.mem_append.1 hxw with hxw | hxw
    · obtain ⟨p, hpd, hxp⟩ := List.mem_flatMap.1 hxw
      rw [tag_of_mem_script hxp]
      exact ⟨p.2, hf p (by simp [hpd])⟩
    · obtain ⟨p, hpc, hxp⟩ := tag_of_mem_progress hxw
      rw [hxp]
      exact ⟨p.2, hf p (by simp [hpc])⟩
  · -- a placement
    obtain ⟨l, k, rfl⟩ : ∃ l k, x = .place l k := by
      cases x <;> simp_all [Effect.isWork]
    have hk : k ∈ placesOn s.log l := mem_placesOn.2 hx
    simp only [Effect.lane, Effect.tag] at hp hf ⊢
    rw [hp, List.mem_map] at hk
    obtain ⟨p, hp', rfl⟩ := hk
    exact ⟨p.2, hf p hp'⟩

/-- A call about a fetched record is made by, or sent to, the record's lane. -/
theorem Inv.lane_of_mem (hi : Inv route s) {x : Effect} (hx : x ∈ s.log) {r : Record}
    (hr : s.fetched[x.tag]? = some (.record r)) : laneIndex s.lanes.length r = some x.lane := by
  obtain ⟨r', hr', hl⟩ := hi.tag_record hx
  rw [hr] at hr'
  cases hr'
  exact hl

/-- Records are placed in the order they are fetched. -/
theorem Inv.placed_of_lt (hi : Inv route s) {k₁ k₂ : Nat} {r₁ : Record} (hk : k₁ < k₂)
    (h₁ : s.fetched[k₁]? = some (.record r₁)) (h₂ : Placed s k₂) : Placed s k₁ := by
  have hlt := hi.placed_lt h₂
  have hf := hi.fetcher
  unfold FetcherInv at hf
  split at hf
  · exact hf k₁ r₁ h₁
  · exact hf k₁ r₁ h₁
  · -- the held record is the last fetched and is not placed, so `k₂` comes before it
    rename_i k r l hfe
    obtain ⟨hlen, -, -, hbefore, hnot⟩ := hf
    have hne : k₂ ≠ k := fun h => hnot (h ▸ h₂)
    exact hbefore k₁ r₁ (by omega) h₁
  · exact hf k₁ r₁ (by omega) h₁

/-- A placed record is placed on its own lane. -/
theorem Inv.placed_on (hi : Inv route s) {k l : Nat} {r : Record} (hp : Placed s k)
    (hr : s.fetched[k]? = some (.record r)) (hl : laneIndex s.lanes.length r = some l) :
    k ∈ placesOn s.log l := by
  obtain ⟨l', hmem⟩ := hp
  have hl' : laneIndex s.lanes.length r = some l' := hi.lane_of_mem hmem hr
  rw [hl] at hl'
  cases hl'
  exact mem_placesOn.2 hmem

theorem mem_left_of_lt {xs ys : List Nat} {x y : Nat} (h : (xs ++ y :: ys).Pairwise (· < ·))
    (hxy : x < y) (hx : x ∈ xs ++ y :: ys) : x ∈ xs := by
  rcases List.mem_append.1 hx with hx | hx
  · exact hx
  · have hy := (List.pairwise_append.1 h).2.1
    rcases List.mem_cons.1 hx with rfl | hx
    · exact absurd hxy (lt_irrefl _)
    · exact absurd hxy (not_lt.2 (List.rel_of_pairwise_cons hy hx).le)

/-- **Partition order.** A record's `processOne` starts only after every record of its
partition fetched before it has been committed. -/
theorem Inv.commit_before_start (hi : Inv route s) {k₁ k₂ l : Nat} {r₁ r₂ : Record}
    (hk : k₁ < k₂) (h₁ : s.fetched[k₁]? = some (.record r₁))
    (h₂ : s.fetched[k₂]? = some (.record r₂)) (hpart : r₁.partition = r₂.partition)
    (hs : .start l k₂ ∈ s.log) : List.Sublist [.commit l k₁, .start l k₂] s.log := by
  have hl : l < s.lanes.length := hi.log_lanes _ hs
  obtain ⟨⟨done, hp, hw, hf⟩, hord, -⟩ := hi.lanes l _ (List.getElem?_eq_getElem hl)
  have hsw : .start l k₂ ∈ workOn s.log l :=
    List.mem_filter.2 ⟨hs, by simp [Effect.isWork, Effect.lane]⟩
  rw [hw] at hsw
  obtain ⟨pre, p, post, tail, hsplit, hpk, hwsplit⟩ := start_split hsw
  -- the first record lies on the same lane, and was placed before the second
  have hl₂ : laneIndex s.lanes.length r₂ = some l := hi.lane_of_mem hs h₂
  have hl₁ : laneIndex s.lanes.length r₁ = some l := by
    rw [← hl₂]
    simp only [laneIndex, hpart]
  have hplaced₂ : Placed s k₂ := by
    refine ⟨l, mem_placesOn.1 ?_⟩
    rw [hp, hsplit]
    simp [hpk]
  have hmem₁ := hi.placed_on (hi.placed_of_lt hk h₁ hplaced₂) h₁ hl₁
  rw [hp, hsplit, List.map_append, List.map_cons, hpk] at hmem₁ hord
  obtain ⟨q, hq, hqk⟩ := List.mem_map.1 (mem_left_of_lt hord hk hmem₁)
  -- its commit is in its script, which comes before the second record's start
  have hc : .commit l k₁ ∈ pre.flatMap (script route l) :=
    List.mem_flatMap.2 ⟨q, hq, by simp [script, hqk]⟩
  have hsub : List.Sublist [.commit l k₁, .start l k₂] (workOn s.log l) := by
    rw [hw, hwsplit]
    exact (List.singleton_sublist.2 hc).append
      (List.singleton_sublist.2 (List.mem_cons_self ..))
  exact hsub.trans List.filter_sublist

theorem exited_of_returned (hret : s.returned = true) {l : Nat} (hl : l < s.lanes.length) :
    s.lanes[l].worker = .exited := by
  have h := List.all_eq_true.1 hret _ (List.getElem_mem hl)
  revert h
  cases s.lanes[l].worker <;> simp [Worker.isExited]

/-- **Exactly once.** When the run has returned, every record placed on a lane has been
handled by that lane's worker, once: the workers' calls for it are its script. -/
theorem Inv.returned_script (hi : Inv route s) (hret : s.returned = true) {k : Nat}
    {r : Record} (hr : s.fetched[k]? = some (.record r)) (hplaced : Placed s k) :
    ∃ l, laneIndex s.lanes.length r = some l ∧
      s.log.filter (fun x => x.isWork && x.tag == k) = script route l (k, r) := by
  obtain ⟨l, hmem⟩ := hplaced
  have hl : laneIndex s.lanes.length r = some l := hi.lane_of_mem hmem hr
  refine ⟨l, hl, ?_⟩
  have hln : l < s.lanes.length := hi.log_lanes _ hmem
  obtain ⟨⟨done, hp, hw, hf⟩, hord, -, -, hex⟩ :=
    hi.lanes l _ (List.getElem?_eq_getElem hln)
  -- the worker has returned: it holds nothing and its lane is empty
  have hx := exited_of_returned hret hln
  obtain ⟨-, hbuf⟩ := hex hx
  simp only [hx, hbuf, Worker.current, progress, List.append_nil] at hp hw hf
  have hk : k ∈ placesOn s.log l := mem_placesOn.2 hmem
  rw [hp] at hk hord
  obtain ⟨p, hpd, rfl⟩ := List.mem_map.1 hk
  have hpr : p = (p.1, r) := by
    have h := (hf p hpd).1
    rw [hr] at h
    cases h
    rfl
  -- a worker's call about the record is made by the record's lane
  have hfilter : s.log.filter (fun x => x.isWork && x.tag == p.1) =
      (workOn s.log l).filter (fun x => x.tag == p.1) := by
    rw [workOn, List.filter_filter]
    refine List.filter_congr fun x hx => ?_
    by_cases hxw : x.isWork = true
    · by_cases hxt : x.tag = p.1
      · have hxl : laneIndex s.lanes.length r = some x.lane :=
          hi.lane_of_mem hx (by rw [hxt]; exact hr)
        rw [hl] at hxl
        cases hxl
        simp [hxw, hxt]
      · have hb : (x.tag == p.1) = false := by simpa using hxt
        simp [hb]
    · simp [hxw]
  rw [hfilter, hw]
  exact filter_flatMap_script (hord.imp ne_of_lt) (hpr ▸ hpd)

end Consequences

/-! ### Returning after cancellation -/

theorem set_self_of_getElem? {α : Type} {xs : List α} {i : Nat} {a : α} (h : xs[i]? = some a) :
    xs.set i a = xs := by
  obtain ⟨hi, rfl⟩ := List.getElem?_eq_some_iff.1 h
  exact List.set_getElem_self hi

section Drain

variable {route : Route} {t : System} {l : Nat}

theorem exec_append (t : System) (es fs : List Event) :
    exec route t (es ++ fs) = (exec route t es).bind fun t' => exec route t' fs := by
  induction es generalizing t with
  | nil => rfl
  | cons e es ih =>
    simp only [List.cons_append, exec]
    cases step route t e with
    | none => rfl
    | some t₁ => exact ih t₁

theorem exec_cons_of_step {e : Event} {t₁ : System} (h : step route t e = some t₁)
    (es : List Event) : exec route t (e :: es) = exec route t₁ es := by
  simp [exec, h]

/-- The actions of a worker that has taken a record, up to the commit. -/
def handleEvents (l : Nat) (r : Record) : List Event :=
  if r.value.isSome then [.call l, .answer l, .commit l] else [.commit l]

/-- The actions that bring a worker back to waiting. -/
def finishEvents (l : Nat) : Worker → List Event
  | .busy _ r .taken => handleEvents l r
  | .busy _ _ .posting => [.answer l, .commit l]
  | .busy _ _ .posted => [.commit l]
  | _ => []

/-- The actions of a worker that drains its closed lane and returns. -/
def drainEvents (l : Nat) (L : Lane) : List Event :=
  match L.worker with
  | .exited => []
  | w =>
    finishEvents l w ++ L.buffer.flatMap (fun p => .take l :: handleEvents l p.2) ++ [.exit l]

/-- The actions of a fetcher that sees the cancellation and returns. -/
def stopEvents : Fetcher → List Event
  | .fetching => [.fetch (.failed "context canceled")]
  | .stopped => []
  | _ => [.quit]

section Steps

variable {b : List (Nat × Record)} {c : Bool} {k : Nat} {r : Record}

theorem step_take_eq {rest : List (Nat × Record)}
    (hL : t.lanes[l]? = some ⟨(k, r) :: rest, c, .idle⟩) :
    step route t (.take l) = some (t.work l ⟨rest, c, .busy k r .taken⟩ (.start l k)) := by
  simp [step, hL]

theorem step_call_eq (hL : t.lanes[l]? = some ⟨b, c, .busy k r .taken⟩)
    (hv : r.value.isSome) :
    step route t (.call l) =
      some (t.work l ⟨b, c, .busy k r .posting⟩ (.handle l k (r.request route))) := by
  simp [step, hL, hv]

theorem step_answer_eq (hL : t.lanes[l]? = some ⟨b, c, .busy k r .posting⟩) :
    step route t (.answer l) = some (t.work l ⟨b, c, .busy k r .posted⟩ (.handled l k)) := by
  simp [step, hL]

theorem step_commit_eq {st : Stage} (hL : t.lanes[l]? = some ⟨b, c, .busy k r st⟩)
    (hst : st = .posted ∨ (st = .taken ∧ r.value.isNone)) :
    step route t (.commit l) = some (t.work l ⟨b, c, .idle⟩ (.commit l k)) := by
  simp only [step, hL]
  rw [if_pos hst]

theorem step_exit_eq (hL : t.lanes[l]? = some ⟨[], true, .idle⟩) :
    step route t (.exit l) = some { t with lanes := t.lanes.set l ⟨[], true, .exited⟩ } := by
  simp [step, hL]

theorem work_getElem? {L : Lane} {e : Effect} (hl : l < t.lanes.length) :
    (t.work l L e).lanes[l]? = some L := by
  simp [System.work, hl]

end Steps

-- the schedules below are stated for a given route
variable (route)

/-- A worker that has taken a record handles it and waits again. -/
theorem exec_handle {b : List (Nat × Record)} {c : Bool} {k : Nat} {r : Record}
    (hL : t.lanes[l]? = some ⟨b, c, .busy k r .taken⟩) :
    ∃ t', exec route t (handleEvents l r) = some t' ∧
      t'.lanes = t.lanes.set l ⟨b, c, .idle⟩ := by
  have hl : l < t.lanes.length := (List.getElem?_eq_some_iff.1 hL).1
  unfold handleEvents
  split
  · rename_i hv
    refine ⟨?_, ?_, ?_⟩
    rotate_left
    · rw [exec_cons_of_step (step_call_eq hL hv),
        exec_cons_of_step (step_answer_eq (work_getElem? hl)),
        exec_cons_of_step (step_commit_eq (work_getElem? (by simpa using hl)) (.inl rfl))]
      rfl
    · simp [System.work, List.set_set]
  · rename_i hv
    refine ⟨?_, ?_, ?_⟩
    rotate_left
    · rw [exec_cons_of_step (step_commit_eq hL (.inr ⟨rfl, by simpa using hv⟩))]
      rfl
    · simp [System.work]

/-- A worker busy with a record finishes it, whatever its stage. -/
theorem exec_finish {b : List (Nat × Record)} {c : Bool} {k : Nat} {r : Record} {st : Stage}
    (hL : t.lanes[l]? = some ⟨b, c, .busy k r st⟩) (hv : st ≠ .taken → r.value.isSome) :
    ∃ t', exec route t (finishEvents l (.busy k r st)) = some t' ∧
      t'.lanes = t.lanes.set l ⟨b, c, .idle⟩ := by
  have hl : l < t.lanes.length := (List.getElem?_eq_some_iff.1 hL).1
  cases st with
  | taken => exact exec_handle route hL
  | posting =>
    refine ⟨?_, ?_, ?_⟩
    rotate_left
    · rw [finishEvents, exec_cons_of_step (step_answer_eq hL),
        exec_cons_of_step (step_commit_eq (work_getElem? hl) (.inl rfl))]
      rfl
    · simp [System.work, List.set_set]
  | posted =>
    refine ⟨?_, ?_, ?_⟩
    rotate_left
    · rw [finishEvents, exec_cons_of_step (step_commit_eq hL (.inl rfl))]
      rfl
    · simp [System.work]

/-- A waiting worker takes and handles every record left on its lane. -/
theorem exec_records {c : Bool} :
    ∀ (buf : List (Nat × Record)) (t : System), t.lanes[l]? = some ⟨buf, c, .idle⟩ →
      ∃ t', exec route t (buf.flatMap fun p => .take l :: handleEvents l p.2) = some t' ∧
        t'.lanes = t.lanes.set l ⟨[], c, .idle⟩
  | [], t, hL => ⟨t, rfl, (set_self_of_getElem? hL).symm⟩
  | (k, r) :: rest, t, hL => by
    have hl : l < t.lanes.length := (List.getElem?_eq_some_iff.1 hL).1
    -- take the head record, handle it, then the rest
    have hL' : (t.work l ⟨rest, c, .busy k r .taken⟩ (.start l k)).lanes[l]? =
        some ⟨rest, c, .busy k r .taken⟩ := work_getElem? hl
    obtain ⟨t₁, h₁, hlanes₁⟩ := exec_handle route hL'
    have hL₁ : t₁.lanes[l]? = some ⟨rest, c, .idle⟩ := by simp [hlanes₁, System.work, hl]
    obtain ⟨t₂, h₂, hlanes₂⟩ := exec_records rest t₁ hL₁
    refine ⟨t₂, ?_, ?_⟩
    · rw [List.flatMap_cons, List.cons_append, exec_cons_of_step (step_take_eq hL), exec_append,
        h₁]
      exact h₂
    · rw [hlanes₂, hlanes₁]
      simp [System.work, List.set_set]

/-- A waiting worker on a closed lane takes what is left, then returns. -/
theorem exec_empty_exit {b : List (Nat × Record)}
    (hL : t.lanes[l]? = some ⟨b, true, .idle⟩) :
    ∃ t', exec route t (b.flatMap (fun p => .take l :: handleEvents l p.2) ++ [.exit l]) =
      some t' ∧
      t'.lanes = t.lanes.set l ⟨[], true, .exited⟩ := by
  have hl : l < t.lanes.length := (List.getElem?_eq_some_iff.1 hL).1
  obtain ⟨t₁, h₁, hlanes₁⟩ := exec_records route b t hL
  have hL₁ : t₁.lanes[l]? = some ⟨[], true, .idle⟩ := by simp [hlanes₁, hl]
  refine ⟨?_, ?_, ?_⟩
  rotate_left
  · rw [exec_append, h₁, Option.bind_some, exec_cons_of_step (step_exit_eq hL₁)]
    rfl
  · simp [hlanes₁, List.set_set]

/-- A worker that waits or is busy drains its closed lane and returns. -/
theorem exec_drain_lane {L : Lane} (hL : t.lanes[l]? = some L) (hc : L.closed = true)
    (hv : ∀ k r st, L.worker = .busy k r st → st ≠ .taken → r.value.isSome) :
    ∃ t', exec route t (drainEvents l L) = some t' ∧
      ∃ L', t'.lanes = t.lanes.set l L' ∧ L'.worker = .exited := by
  obtain ⟨b, c, w⟩ := L
  simp only at hc
  subst hc
  have hl : l < t.lanes.length := (List.getElem?_eq_some_iff.1 hL).1
  rcases w with _ | ⟨k, r, st⟩ | _
  · obtain ⟨t', h', hlanes'⟩ := exec_empty_exit route hL
    exact ⟨t', by simpa [drainEvents, finishEvents] using h', ⟨[], true, .exited⟩, hlanes',
      rfl⟩
  · -- the record in hand first
    obtain ⟨t₁, h₁, hlanes₁⟩ := exec_finish route hL (hv k r st rfl)
    have hL₁ : t₁.lanes[l]? = some ⟨b, true, .idle⟩ := by simp [hlanes₁, hl]
    obtain ⟨t', h', hlanes'⟩ := exec_empty_exit route hL₁
    refine ⟨t', ?_, ⟨[], true, .exited⟩, ?_, rfl⟩
    · have hd : drainEvents l ⟨b, true, .busy k r st⟩ = finishEvents l (.busy k r st) ++
          (b.flatMap (fun p => .take l :: handleEvents l p.2) ++ [.exit l]) := by
        simp [drainEvents]
      rw [hd, exec_append, h₁, Option.bind_some]
      exact h'
    · rw [hlanes', hlanes₁, List.set_set]
  · exact ⟨t, rfl, ⟨b, true, .exited⟩, (set_self_of_getElem? hL).symm, rfl⟩

/-- The workers of the lanes `ls`, in turn, drain their closed lanes and return. -/
theorem exec_drain_lanes : ∀ (ls : List Nat) (t : System), ls.Nodup →
    (∀ l ∈ ls, ∃ L, t.lanes[l]? = some L ∧ L.closed = true ∧
      ∀ k r st, L.worker = .busy k r st → st ≠ .taken → r.value.isSome) →
    ∃ t', exec route t (ls.flatMap fun l => drainEvents l (t.lanes[l]?.getD {})) = some t' ∧
      (∀ l ∈ ls, ∃ L, t'.lanes[l]? = some L ∧ L.worker = .exited) ∧
      ∀ l ∉ ls, t'.lanes[l]? = t.lanes[l]?
  | [], t, _, _ => ⟨t, rfl, by simp, fun _ _ => rfl⟩
  | l :: ls, t, hnd, hok => by
    obtain ⟨L, hL, hc, hv⟩ := hok l List.mem_cons_self
    have hl : l < t.lanes.length := (List.getElem?_eq_some_iff.1 hL).1
    obtain ⟨t₁, h₁, L', hlanes₁, hex⟩ := exec_drain_lane route hL hc hv
    -- draining lane `l` leaves the other lanes as they were
    have hsame : ∀ l', l' ≠ l → t₁.lanes[l']? = t.lanes[l']? := by
      intro l' h
      rw [hlanes₁, List.getElem?_set_ne (Ne.symm h)]
    rw [List.nodup_cons] at hnd
    have hne : ∀ l' ∈ ls, l' ≠ l := fun l' hl' h => hnd.1 (h ▸ hl')
    obtain ⟨t₂, h₂, hex₂, hsame₂⟩ := exec_drain_lanes ls t₁ hnd.2 fun l' hl' => by
      rw [hsame l' (hne l' hl')]
      exact hok l' (List.mem_cons_of_mem _ hl')
    refine ⟨t₂, ?_, ?_, ?_⟩
    · have hevs : (ls.flatMap fun l' => drainEvents l' (t.lanes[l']?.getD {})) =
          ls.flatMap fun l' => drainEvents l' (t₁.lanes[l']?.getD {}) :=
        List.flatMap_congr fun l' hl' => by rw [hsame l' (hne l' hl')]
      rw [List.flatMap_cons, exec_append, hL, Option.getD_some, h₁, Option.bind_some, hevs]
      exact h₂
    · intro l' hl'
      rcases List.mem_cons.1 hl' with rfl | hl'
      · exact ⟨L', by rw [hsame₂ l' hnd.1, hlanes₁, List.getElem?_set_self hl], hex⟩
      · exact hex₂ l' hl'
    · intro l' hl'
      rw [List.mem_cons, not_or] at hl'
      rw [hsame₂ l' hl'.2, hsame l' hl'.1]

end Drain

/-- Once cancelled, the fetcher can return at once. -/
theorem exec_stop (route : Route) (s : System) :
    ∃ t, exec route s (.cancel :: stopEvents s.fetcher) = some t ∧ t.fetcher = .stopped := by
  cases hf : s.fetcher with
  | stopped => exact ⟨{ s with cancelled := true }, by simp [exec, step, stopEvents, hf], hf⟩
  | fetching =>
    refine ⟨{ s with
      cancelled := true, fetched := s.fetched ++ [Fetched.failed "context canceled"] }.stop, ?_,
      rfl⟩
    simp [exec, step, stopEvents, hf]
  | pausing =>
    exact ⟨{ s with cancelled := true }.stop, by simp [exec, step, stopEvents, hf], rfl⟩
  | sending k r l =>
    exact ⟨{ s with cancelled := true }.stop, by simp [exec, step, stopEvents, hf], rfl⟩

/-- **The run can return.** From any point of any run, once the run is cancelled, the
fetcher can return and every worker can drain its lane and return. -/
theorem Inv.can_return {route : Route} {s : System} (hi : Inv route s) :
    ∃ evs t, exec route s (.cancel :: evs) = some t ∧ t.returned = true := by
  obtain ⟨t₀, h₀, hst⟩ := exec_stop route s
  have hi₀ : Inv route t₀ := inv_exec hi h₀
  obtain ⟨t, h, hex, hsame⟩ :=
    exec_drain_lanes route (List.range t₀.lanes.length) t₀ List.nodup_range fun l hl => by
      have hl' : l < t₀.lanes.length := List.mem_range.1 hl
      refine ⟨_, List.getElem?_eq_getElem hl', hi₀.stopped hst _ (List.getElem_mem hl'), ?_⟩
      exact (hi₀.lanes l _ (List.getElem?_eq_getElem hl')).answered
  refine ⟨stopEvents s.fetcher ++ (List.range t₀.lanes.length).flatMap
    (fun l => drainEvents l (t₀.lanes[l]?.getD {})), t, ?_, ?_⟩
  · rw [← List.cons_append, exec_append, h₀, Option.bind_some]
    exact h
  · -- every lane of the result is one of the drained lanes
    refine List.all_eq_true.2 fun L hL => ?_
    obtain ⟨i, hi⟩ := List.mem_iff_getElem?.1 hL
    by_cases hin : i < t₀.lanes.length
    · obtain ⟨L', hL', hx⟩ := hex i (List.mem_range.2 hin)
      rw [hi] at hL'
      cases hL'
      simp [hx, Worker.isExited]
    · have hnone := hsame i (fun h => hin (List.mem_range.1 h))
      rw [hi, List.getElem?_eq_none (by omega)] at hnone
      cases hnone

/-- **The ingest run.** In every run of the lanes, at any interleaving of the fetcher and the
workers, whatever the fetches return and whenever the run is cancelled:
* a failed fetch leads to no call at all;
* a record's `processOne` starts only after the one of every record of its partition
  fetched before it has committed;
* once the run has returned, every record placed on a lane has been started and committed
  exactly once by that lane's worker: with no call to the bridge when it has no value, and
  otherwise with exactly one call, with the request of the record on the route, answered
  before the commit;
* and from any point, once the run is cancelled, it can return. -/
theorem lanes_handle_once (route : Route) (workers : Int) (evs : List Event) (s : System)
    (hrun : exec route (System.start workers) evs = some s) :
    (∀ k e, s.fetched[k]? = some (.failed e) → ∀ x ∈ s.log, x.tag ≠ k) ∧
    (∀ k₁ k₂ l r₁ r₂, k₁ < k₂ → s.fetched[k₁]? = some (.record r₁) →
      s.fetched[k₂]? = some (.record r₂) → r₁.partition = r₂.partition →
      .start l k₂ ∈ s.log → List.Sublist [.commit l k₁, .start l k₂] s.log) ∧
    (s.returned = true → ∀ k r, s.fetched[k]? = some (.record r) →
      (∃ l, .place l k ∈ s.log) →
      ∃ l, laneIndex s.lanes.length r = some l ∧
        (r.value = none →
          s.log.filter (fun x => x.isWork && x.tag == k) = [.start l k, .commit l k]) ∧
        (r.value.isSome →
          s.log.filter (fun x => x.isWork && x.tag == k) =
            [.start l k, .handle l k (r.request route), .handled l k, .commit l k])) ∧
    ∃ evs' t, exec route s (.cancel :: evs') = some t ∧ t.returned = true := by
  have hi := inv_of_exec hrun
  refine ⟨?_, ?_, ?_, hi.can_return⟩
  · intro k e hk x hx hxk
    obtain ⟨r, hr, -⟩ := hi.tag_record hx
    rw [hxk, hk] at hr
    cases hr
  · intro k₁ k₂ l r₁ r₂ hk h₁ h₂ hpart hs
    exact hi.commit_before_start hk h₁ h₂ hpart hs
  · intro hret k r hr hp
    obtain ⟨l, hl, hscript⟩ := hi.returned_script hret hr hp
    refine ⟨l, hl, fun hv => ?_, fun hv => ?_⟩
    · simp [hscript, script, hv]
    · obtain ⟨v, hv⟩ := Option.isSome_iff_exists.1 hv
      simp [hscript, script, hv]

/-- One lane: a record without a value is fetched, placed, taken and committed; then the run
is cancelled, a fetch fails and the worker returns. The record was committed without a call
to the bridge. -/
theorem tombstone_committed :
    let evs : List Event := [.fetch (.record {}), .send, .take 0, .commit 0, .cancel,
      .fetch (.failed "context canceled"), .exit 0]
    ∃ s, exec {} (System.start 1) evs = some s ∧ s.returned = true ∧
      s.log.filter (fun x => x.isWork && x.tag == 0) = [.start 0 0, .commit 0 0] := by
  intro evs
  refine ⟨_, rfl, rfl, ?_⟩
  obtain ⟨-, -, hdone, -⟩ := lanes_handle_once {} 1 evs _ rfl
  obtain ⟨l, hl, hnone, -⟩ := hdone rfl 0 {} rfl ⟨0, List.mem_cons_self⟩
  obtain rfl : l = 0 := (Option.some.inj (hl.symm.trans (rfl : _ = some 0)))
  exact hnone rfl

end TopicBridge.Ingest.Lanes
