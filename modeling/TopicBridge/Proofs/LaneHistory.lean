import Mathlib
import TopicBridge.Ingest.Lanes

/-!
# The history of a lane

What every run of the ingest lanes (`TopicBridge.Ingest.Lanes.exec`) keeps, whatever the
interleaving, the fetches and the cancellation: `TopicBridge.Ingest.Lanes.Inv`. It holds at
the start (`TopicBridge.Ingest.Lanes.inv_start`) and after every action
(`TopicBridge.Ingest.Lanes.inv_step`), hence after every run
(`TopicBridge.Ingest.Lanes.inv_of_exec`).

## The invariant

A lane is read off the log in two parts: the tags placed on it (`placesOn`) and the calls its
worker made (`workOn`). For every lane there is a list of records its worker is done with,
such that

* the tags placed on the lane are, in order, those records', then the one the worker holds,
  then the ones waiting in the lane;
* the worker's calls are the **scripts** of the records it is done with, one after the other,
  then the beginning of the script of the one it holds (`progress`);
* each of these records was fetched under its tag and belongs to the lane.

Tags are placed in increasing order. The fetcher has placed every record fetched so far but
the one it holds, or, once returned, possibly the last one (`FetcherInv`). A lane is closed
only once the fetcher has returned, and a worker returns only from a closed, empty lane.

## Proof

Each action moves one process. An inversion lemma per action says what it did
(`TopicBridge.Ingest.Lanes.step_take`, ...), and one lemma per action shows it keeps the
invariant (`TopicBridge.Ingest.Lanes.Inv.take`, ...). A worker's move changes its own lane and
part of the log only (`TopicBridge.Ingest.Lanes.Inv.work`); the fetcher's moves other than
sending change no lane's part (`TopicBridge.Ingest.Lanes.Inv.fetcherMove`).
-/

namespace TopicBridge.Ingest.Lanes

open TopicBridge.Bridge

/-! ### Reading the log -/

/-- The tags placed on lane `l`, in order. -/
def placesOn (log : List Effect) (l : Nat) : List Nat :=
  log.filterMap fun
    | .place l' k => if l' = l then some k else none
    | _ => none

/-- The calls lane `l`'s worker made, in order. -/
def workOn (log : List Effect) (l : Nat) : List Effect :=
  log.filter fun e => e.isWork && e.lane == l

/-- What a worker does for a record, as `processOne` does: it starts; a record with a
value goes to the bridge, which answers; it commits. -/
def script (route : Route) (l : Nat) (p : Nat × Record) : List Effect :=
  .start l p.1 ::
    ((match p.2.value with
      | some _ => [.handle l p.1 (p.2.request route), .handled l p.1]
      | none => []) ++ [.commit l p.1])

/-- The beginning of the script a worker has gone through for the record it holds. -/
def progress (route : Route) (l : Nat) : Worker → List Effect
  | .busy k _ .taken => [.start l k]
  | .busy k r .posting => [.start l k, .handle l k (r.request route)]
  | .busy k r .posted => [.start l k, .handle l k (r.request route), .handled l k]
  | _ => []

/-- The record a worker holds, if any. -/
def Worker.current : Worker → List (Nat × Record)
  | .busy k r _ => [(k, r)]
  | _ => []

@[simp] theorem placesOn_nil (l : Nat) : placesOn [] l = [] := rfl

@[simp] theorem placesOn_append (xs ys : List Effect) (l : Nat) :
    placesOn (xs ++ ys) l = placesOn xs l ++ placesOn ys l := List.filterMap_append

@[simp] theorem placesOn_place (l' k l : Nat) :
    placesOn [.place l' k] l = if l' = l then [k] else [] := by
  by_cases h : l' = l <;> simp [placesOn, h]

@[simp] theorem placesOn_work {e : Effect} (he : e.isWork = true) (l : Nat) :
    placesOn [e] l = [] := by
  cases e <;> simp_all [placesOn, Effect.isWork]

@[simp] theorem workOn_nil (l : Nat) : workOn [] l = [] := rfl

@[simp] theorem workOn_append (xs ys : List Effect) (l : Nat) :
    workOn (xs ++ ys) l = workOn xs l ++ workOn ys l := List.filter_append ..

@[simp] theorem workOn_singleton (e : Effect) (l : Nat) :
    workOn [e] l = if e.isWork ∧ e.lane = l then [e] else [] := by
  by_cases h : e.isWork ∧ e.lane = l <;> simp_all [workOn]

theorem placesOn_snoc_work (log : List Effect) {e : Effect} (he : e.isWork = true) (l : Nat) :
    placesOn (log ++ [e]) l = placesOn log l := by
  simp [placesOn_work he]

theorem workOn_snoc_self (log : List Effect) {e : Effect} (l : Nat) (he : e.isWork = true)
    (hl : e.lane = l) : workOn (log ++ [e]) l = workOn log l ++ [e] := by
  simp [he, hl]

theorem mem_placesOn {log : List Effect} {l k : Nat} :
    k ∈ placesOn log l ↔ .place l k ∈ log := by
  simp only [placesOn, List.mem_filterMap]
  constructor
  · rintro ⟨e, he, hk⟩
    cases e <;> simp_all
  · intro h
    exact ⟨_, h, by simp⟩

/-- The fetcher has put the record of tag `k` on some lane. -/
def Placed (s : System) (k : Nat) : Prop := ∃ l, .place l k ∈ s.log

/-- What the log says of lane `l`, whose state is `L`. -/
structure LaneInv (route : Route) (s : System) (l : Nat) (L : Lane) : Prop where
  /-- For some records the worker is done with, the lane's tags and calls are theirs, then the
  held record's, then the waiting ones'; every one of them was fetched and belongs here. -/
  history : ∃ done : List (Nat × Record),
    placesOn s.log l = (done ++ L.worker.current ++ L.buffer).map Prod.fst ∧
    workOn s.log l = done.flatMap (script route l) ++ progress route l L.worker ∧
    ∀ p ∈ done ++ L.worker.current ++ L.buffer,
      s.fetched[p.1]? = some (.record p.2) ∧ laneIndex s.lanes.length p.2 = some l
  /-- Tags are placed on the lane in increasing order. -/
  ordered : (placesOn s.log l).Pairwise (· < ·)
  /-- A worker past taking its record has called the bridge, so the record has a value. -/
  answered : ∀ k r st, L.worker = .busy k r st → st ≠ .taken → r.value.isSome
  /-- Only the fetcher closes a lane, when it returns. -/
  closed : L.closed = true → s.fetcher = .stopped
  /-- A worker returns only from a closed, empty lane. -/
  exited : L.worker = .exited → L.closed = true ∧ L.buffer = []

/-- Which fetched records the fetcher has placed: all of them while it fetches or pauses; all
but the one it holds, which is the last, while it sends; all but maybe the last once it has
returned. -/
def FetcherInv (s : System) : Prop :=
  match s.fetcher with
  | .fetching | .pausing => ∀ k r, s.fetched[k]? = some (.record r) → Placed s k
  | .sending k r l =>
    s.fetched.length = k + 1 ∧ s.fetched[k]? = some (.record r) ∧
      laneIndex s.lanes.length r = some l ∧
      (∀ k' r', k' < k → s.fetched[k']? = some (.record r') → Placed s k') ∧ ¬Placed s k
  | .stopped =>
    ∀ k r, k + 1 < s.fetched.length → s.fetched[k]? = some (.record r) → Placed s k

/-- The invariant of every run. -/
structure Inv (route : Route) (s : System) : Prop where
  /-- Each lane agrees with the log. -/
  lanes : ∀ l L, s.lanes[l]? = some L → LaneInv route s l L
  /-- The fetcher has placed what it fetched. -/
  fetcher : FetcherInv s
  /-- Once the fetcher has returned, every lane is closed. -/
  stopped : s.fetcher = .stopped → ∀ L ∈ s.lanes, L.closed = true
  /-- Every call is made by, or sent to, an existing lane. -/
  log_lanes : ∀ e ∈ s.log, e.lane < s.lanes.length

theorem inv_start (route : Route) (workers : Int) : Inv route (System.start workers) := by
  refine ⟨?_, ?_, ?_, ?_⟩
  · intro l L hL
    have hL' : L = {} := by
      simp only [System.start, List.getElem?_replicate] at hL
      split at hL <;> simp_all
    subst hL'
    refine ⟨⟨[], ?_, ?_, ?_⟩, ?_, ?_, ?_, ?_⟩ <;>
      simp [System.start, Worker.current, progress]
  · simp [FetcherInv, System.start]
  · simp [System.start]
  · simp [System.start]

@[simp] theorem System.work_log (s : System) (l : Nat) (L : Lane) (e : Effect) :
    (s.work l L e).log = s.log ++ [e] := rfl

@[simp] theorem System.work_fetched (s : System) (l : Nat) (L : Lane) (e : Effect) :
    (s.work l L e).fetched = s.fetched := rfl

@[simp] theorem System.work_fetcher (s : System) (l : Nat) (L : Lane) (e : Effect) :
    (s.work l L e).fetcher = s.fetcher := rfl

@[simp] theorem System.work_lanes_length (s : System) (l : Nat) (L : Lane) (e : Effect) :
    (s.work l L e).lanes.length = s.lanes.length := by
  simp [System.work]

/-! ### Frames -/

section Frame

variable {route : Route} {s s' : System}

/-- A lane stays as it was when its part of the log does, the fetches only grow, and a
stopped fetcher stays stopped. -/
theorem LaneInv.frame {l : Nat} {L : Lane} (h : LaneInv route s l L)
    (hlen : s'.lanes.length = s.lanes.length)
    (hfetched : ∀ (k : Nat) x, s.fetched[k]? = some x → s'.fetched[k]? = some x)
    (hplaces : placesOn s'.log l = placesOn s.log l) (hwork : workOn s'.log l = workOn s.log l)
    (hstop : s.fetcher = .stopped → s'.fetcher = .stopped) : LaneInv route s' l L := by
  obtain ⟨⟨done, hp, hw, hf⟩, hord, hans, hcl, hex⟩ := h
  refine ⟨⟨done, hplaces ▸ hp, hwork ▸ hw, ?_⟩, hplaces ▸ hord, hans,
    fun hc => hstop (hcl hc), hex⟩
  intro p hp
  obtain ⟨h1, h2⟩ := hf p hp
  exact ⟨hfetched _ _ h1, hlen ▸ h2⟩

theorem placed_mono (hlog : ∃ t, s'.log = s.log ++ t) {k : Nat} (h : Placed s k) :
    Placed s' k := by
  obtain ⟨t, ht⟩ := hlog
  obtain ⟨l, hl⟩ := h
  exact ⟨l, by simp [ht, hl]⟩

theorem FetcherInv.congr (h : FetcherInv s) (hf : s'.fetcher = s.fetcher)
    (hd : s'.fetched = s.fetched) (hn : s'.lanes.length = s.lanes.length)
    (hp : ∀ k, Placed s' k ↔ Placed s k) : FetcherInv s' := by
  unfold FetcherInv at *
  rw [hf, hd, hn]
  simp only [hp]
  exact h

theorem placed_work {l : Nat} {L : Lane} {e : Effect} (he : e.isWork = true) (k : Nat) :
    Placed (s.work l L e) k ↔ Placed s k := by
  simp only [Placed, System.work, List.mem_append, List.mem_singleton]
  constructor
  · rintro ⟨l', hl | rfl⟩
    · exact ⟨l', hl⟩
    · simp [Effect.isWork] at he
  · rintro ⟨l', hl⟩
    exact ⟨l', .inl hl⟩

/-- A worker's move keeps the invariant once its own lane is shown to. -/
theorem Inv.work (hi : Inv route s) {l : Nat} {L L' : Lane} (hL : s.lanes[l]? = some L)
    {e : Effect} (he : e.isWork = true) (hel : e.lane = l) (hclosed : L'.closed = L.closed)
    (hlane : LaneInv route (s.work l L' e) l L') : Inv route (s.work l L' e) := by
  have hl : l < s.lanes.length := (List.getElem?_eq_some_iff.1 hL).1
  have hlen : (s.work l L' e).lanes.length = s.lanes.length := by simp [System.work]
  refine ⟨?_, ?_, ?_, ?_⟩
  · intro l' L'' hL''
    by_cases hll : l' = l
    · subst hll
      have h' : L'' = L' := by
        simpa [System.work, List.getElem?_set_self hl] using hL''.symm
      exact h' ▸ hlane
    · have hL0 : s.lanes[l']? = some L'' := by
        simpa [System.work, List.getElem?_set_ne (Ne.symm hll)] using hL''
      refine (hi.lanes l' L'' hL0).frame hlen (fun _ _ h => h) ?_ ?_ id
      · simp [System.work, placesOn_work he]
      · simp [System.work, hel, Ne.symm hll]
  · exact hi.fetcher.congr rfl rfl hlen (placed_work he)
  · intro hst L'' hmem
    rcases List.mem_or_eq_of_mem_set hmem with hmem | rfl
    · exact hi.stopped hst L'' hmem
    · rw [hclosed]
      exact hi.stopped hst L (List.mem_of_getElem? hL)
  · intro x hx
    simp only [System.work, List.mem_append, List.mem_singleton] at hx
    rw [hlen]
    rcases hx with hx | rfl
    · exact hi.log_lanes x hx
    · exact hel ▸ hl

end Frame

/-! ### The workers' moves -/

section Workers

variable {route : Route} {s s' : System} {l : Nat}

theorem step_take (h : step route s (.take l) = some s') :
    ∃ k r rest closed, s.lanes[l]? = some ⟨(k, r) :: rest, closed, .idle⟩ ∧
      s' = s.work l ⟨rest, closed, .busy k r .taken⟩ (.start l k) := by
  simp only [step] at h
  split at h
  · rename_i k r rest closed hL
    exact ⟨k, r, rest, closed, hL, (Option.some.inj h).symm⟩
  · cases h

theorem Inv.take (hi : Inv route s) (h : step route s (.take l) = some s') : Inv route s' := by
  obtain ⟨k, r, rest, closed, hL, rfl⟩ := step_take h
  obtain ⟨⟨done, hp, hw, hf⟩, hord, -, hcl, -⟩ := hi.lanes l _ hL
  -- the record moves from the head of the buffer to the worker
  have hlist : done ++ Worker.current (.busy k r .taken) ++ rest =
      done ++ Worker.current .idle ++ (k, r) :: rest := by simp [Worker.current]
  refine hi.work hL rfl rfl rfl ⟨⟨done, ?_, ?_, ?_⟩, ?_, ?_, hcl, ?_⟩
  · rw [System.work_log, placesOn_snoc_work _ rfl, hp, hlist]
  · rw [System.work_log, workOn_snoc_self _ l rfl rfl, hw]
    simp [progress]
  · intro p hp'
    rw [hlist] at hp'
    simpa using hf p hp'
  · rwa [System.work_log, placesOn_snoc_work _ rfl]
  · intro k' r' st hw' hst
    cases hw'
    exact absurd rfl hst
  · intro hx
    cases hx

/-- A worker that moves on with the same record, logging `e`, keeps the invariant. -/
theorem Inv.advance (hi : Inv route s) {b : List (Nat × Record)} {c : Bool} {k : Nat}
    {r : Record} {st st' : Stage} (hL : s.lanes[l]? = some ⟨b, c, .busy k r st⟩) {e : Effect}
    (he : e.isWork = true) (hel : e.lane = l)
    (hprog : progress route l (.busy k r st') = progress route l (.busy k r st) ++ [e])
    (hst : st' ≠ .taken → r.value.isSome) :
    Inv route (s.work l ⟨b, c, .busy k r st'⟩ e) := by
  obtain ⟨⟨done, hp, hw, hf⟩, hord, -, hcl, -⟩ := hi.lanes l _ hL
  refine hi.work hL he hel rfl ⟨⟨done, ?_, ?_, fun p hp' => by simpa using hf p hp'⟩, ?_, ?_,
    hcl, ?_⟩
  · rw [System.work_log, placesOn_snoc_work _ he, hp]
    rfl
  · rw [System.work_log, workOn_snoc_self _ l he hel, hw, hprog, List.append_assoc]
  · rwa [System.work_log, placesOn_snoc_work _ he]
  · intro k' r' st'' hw' hst''
    cases hw'
    exact hst hst''
  · intro hx
    cases hx

theorem step_call (h : step route s (.call l) = some s') :
    ∃ b c k r, s.lanes[l]? = some ⟨b, c, .busy k r .taken⟩ ∧ r.value.isSome ∧
      s' = s.work l ⟨b, c, .busy k r .posting⟩ (.handle l k (r.request route)) := by
  simp only [step] at h
  split at h
  · rename_i b c k r hL
    split at h
    · exact ⟨b, c, k, r, hL, ‹_›, (Option.some.inj h).symm⟩
    · cases h
  · cases h

theorem Inv.call (hi : Inv route s) (h : step route s (.call l) = some s') : Inv route s' := by
  obtain ⟨b, c, k, r, hL, hv, rfl⟩ := step_call h
  exact hi.advance hL rfl rfl (by simp [progress]) (fun _ => hv)

theorem step_answer (h : step route s (.answer l) = some s') :
    ∃ b c k r, s.lanes[l]? = some ⟨b, c, .busy k r .posting⟩ ∧
      s' = s.work l ⟨b, c, .busy k r .posted⟩ (.handled l k) := by
  simp only [step] at h
  split at h
  · rename_i b c k r hL
    exact ⟨b, c, k, r, hL, (Option.some.inj h).symm⟩
  · cases h

theorem Inv.answer (hi : Inv route s) (h : step route s (.answer l) = some s') :
    Inv route s' := by
  obtain ⟨b, c, k, r, hL, rfl⟩ := step_answer h
  have hv : r.value.isSome := (hi.lanes l _ hL).answered k r .posting rfl (by decide)
  exact hi.advance hL rfl rfl (by simp [progress]) (fun _ => hv)

theorem step_commit (h : step route s (.commit l) = some s') :
    ∃ b c k r st, s.lanes[l]? = some ⟨b, c, .busy k r st⟩ ∧
      (st = .posted ∨ (st = .taken ∧ r.value.isNone)) ∧
      s' = s.work l ⟨b, c, .idle⟩ (.commit l k) := by
  simp only [step] at h
  split at h
  · rename_i b c k r st hL
    split at h
    · exact ⟨b, c, k, r, st, hL, ‹_›, (Option.some.inj h).symm⟩
    · cases h
  · cases h

/-- A commit ends the record's script: what the worker did for it so far, then the commit. -/
theorem progress_append_commit {k : Nat} {r : Record} {st : Stage}
    (hst : st = .posted ∨ (st = .taken ∧ r.value.isNone))
    (hv : st ≠ .taken → r.value.isSome) :
    progress route l (.busy k r st) ++ [.commit l k] = script route l (k, r) := by
  rcases hst with rfl | ⟨rfl, hn⟩
  · obtain ⟨v, hv⟩ := Option.isSome_iff_exists.1 (hv (by decide))
    simp [progress, script, hv]
  · simp [progress, script, Option.isNone_iff_eq_none.1 hn]

theorem Inv.commit (hi : Inv route s) (h : step route s (.commit l) = some s') :
    Inv route s' := by
  obtain ⟨b, c, k, r, st, hL, hst, rfl⟩ := step_commit h
  obtain ⟨⟨done, hp, hw, hf⟩, hord, hans, hcl, -⟩ := hi.lanes l _ hL
  -- the record joins the ones the worker is done with
  have hlist : done ++ [(k, r)] ++ Worker.current .idle ++ b =
      done ++ Worker.current (.busy k r st) ++ b := by simp [Worker.current]
  refine hi.work hL rfl rfl rfl ⟨⟨done ++ [(k, r)], ?_, ?_, ?_⟩, ?_, ?_, hcl, ?_⟩
  · rw [System.work_log, placesOn_snoc_work _ rfl, hp, hlist]
  · rw [System.work_log, workOn_snoc_self _ l rfl rfl, hw, List.append_assoc,
      progress_append_commit hst (hans k r st rfl)]
    simp [progress]
  · intro p hp'
    rw [hlist] at hp'
    simpa using hf p hp'
  · rwa [System.work_log, placesOn_snoc_work _ rfl]
  · intro k' r' st' hw'
    cases hw'
  · intro hx
    cases hx

end Workers

/-! ### The fetcher's moves -/

section Fetcher

variable {route : Route} {s s' : System}

/-- A placed tag is the tag of a fetched record. -/
theorem Inv.placed_record (hi : Inv route s) {k : Nat} (h : Placed s k) :
    ∃ r, s.fetched[k]? = some (.record r) := by
  obtain ⟨l, hmem⟩ := h
  have hl : l < s.lanes.length := hi.log_lanes _ hmem
  obtain ⟨⟨done, hp, -, hf⟩, -⟩ := hi.lanes l _ (List.getElem?_eq_getElem hl)
  have hk : k ∈ placesOn s.log l := mem_placesOn.2 hmem
  rw [hp, List.mem_map] at hk
  obtain ⟨p, hp', rfl⟩ := hk
  exact ⟨p.2, (hf p hp').1⟩

theorem Inv.placed_lt (hi : Inv route s) {k : Nat} (h : Placed s k) :
    k < s.fetched.length := by
  obtain ⟨r, hr⟩ := hi.placed_record h
  exact (List.getElem?_eq_some_iff.1 hr).1

/-- The fetcher's moves other than sending leave the log and the lanes' parts alone. -/
theorem Inv.fetcherMove (hi : Inv route s) (hlanes : s'.lanes = s.lanes)
    (hlog : s'.log = s.log) (hfetched : ∃ t, s'.fetched = s.fetched ++ t)
    (hstop : s.fetcher ≠ .stopped)
    (hnew : s'.fetcher ≠ .stopped) (hf : FetcherInv s') : Inv route s' := by
  obtain ⟨t, ht⟩ := hfetched
  refine ⟨?_, hf, fun h => absurd h hnew, ?_⟩
  · intro l L hL
    rw [hlanes] at hL
    refine (hi.lanes l L hL).frame (by rw [hlanes]) ?_ (by rw [hlog]) (by rw [hlog])
      (fun h => absurd h hstop)
    intro k x hk
    rw [ht, List.getElem?_append_left (List.getElem?_eq_some_iff.1 hk).1]
    exact hk
  · rw [hlog, hlanes]
    exact hi.log_lanes

theorem Inv.cancel (hi : Inv route s) : Inv route { s with cancelled := true } :=
  ⟨fun l L hL => (hi.lanes l L hL).frame rfl (fun _ _ h => h) rfl rfl id, hi.fetcher,
    hi.stopped, hi.log_lanes⟩

theorem step_resume (h : step route s .resume = some s') :
    s.fetcher = .pausing ∧ s' = { s with fetcher := .fetching } := by
  simp only [step] at h
  split at h
  · exact ⟨‹_›, (Option.some.inj h).symm⟩
  · cases h

theorem Inv.resume (hi : Inv route s) (h : step route s .resume = some s') : Inv route s' := by
  obtain ⟨hp, rfl⟩ := step_resume h
  have hf := hi.fetcher
  simp only [FetcherInv, hp] at hf
  exact hi.fetcherMove rfl rfl ⟨[], by simp⟩ (by simp [hp]) (by simp) hf

theorem LaneInv.stop {l : Nat} {L : Lane} (h : LaneInv route s l L) :
    LaneInv route s.stop l { L with closed := true } := by
  obtain ⟨⟨done, hp, hw, hf⟩, hord, hans, -, hex⟩ := h
  refine ⟨⟨done, hp, hw, ?_⟩, hord, hans, fun _ => rfl, fun hx => ⟨rfl, (hex hx).2⟩⟩
  intro p hp'
  simpa [System.stop] using hf p hp'

/-- Returning keeps the invariant when every record fetched before the last was placed. -/
theorem Inv.stop (hi : Inv route s)
    (hf : ∀ k r, k + 1 < s.fetched.length → s.fetched[k]? = some (.record r) → Placed s k) :
    Inv route s.stop := by
  refine ⟨?_, hf, ?_, ?_⟩
  · intro l L' hL'
    simp only [System.stop, List.getElem?_map, Option.map_eq_some_iff] at hL'
    obtain ⟨L, hL, rfl⟩ := hL'
    exact (hi.lanes l L hL).stop
  · intro _ L hL
    simp only [System.stop, List.mem_map] at hL
    obtain ⟨L, -, rfl⟩ := hL
    rfl
  · simpa [System.stop] using hi.log_lanes

theorem step_quit (h : step route s .quit = some s') :
    s.cancelled = true ∧ (s.fetcher = .pausing ∨ ∃ k r l, s.fetcher = .sending k r l) ∧
      s' = s.stop := by
  simp only [step] at h
  split at h
  · exact ⟨‹_›, .inl ‹_›, (Option.some.inj h).symm⟩
  · exact ⟨‹_›, .inr ⟨_, _, _, ‹_›⟩, (Option.some.inj h).symm⟩
  · cases h

theorem Inv.quit (hi : Inv route s) (h : step route s .quit = some s') : Inv route s' := by
  obtain ⟨-, hfe, rfl⟩ := step_quit h
  have hf := hi.fetcher
  apply hi.stop
  intro k r hk hr
  rcases hfe with hp | ⟨k', r', l', hp⟩
  · simp only [FetcherInv, hp] at hf
    exact hf k r hr
  · -- the held record is the last one fetched, and the ones before it were placed
    simp only [FetcherInv, hp] at hf
    exact hf.2.2.2.1 k r (by omega) hr

theorem step_fetch {item : Fetched} (h : step route s (.fetch item) = some s') :
    s.fetcher = .fetching ∧
      ((∃ r l, item = .record r ∧ laneIndex s.lanes.length r = some l ∧
          s' = { s with
            fetched := s.fetched ++ [item], fetcher := .sending s.fetched.length r l }) ∨
        (∃ e, item = .failed e ∧ s.cancelled = false ∧
          s' = { s with fetched := s.fetched ++ [item], fetcher := .pausing }) ∨
        (∃ e, item = .failed e ∧ s.cancelled = true ∧
          s' = { s with fetched := s.fetched ++ [item], fetcher := .pausing }.stop)) := by
  simp only [step] at h
  split at h
  · rename_i hfe
    refine ⟨hfe, ?_⟩
    cases item with
    | record r =>
      obtain ⟨l, hl, rfl⟩ := Option.map_eq_some_iff.1 h
      exact .inl ⟨r, l, rfl, hl, rfl⟩
    | failed e =>
      by_cases hc : s.cancelled
      · rw [if_pos hc, Option.some.injEq] at h
        exact .inr (.inr ⟨e, rfl, hc, h.symm⟩)
      · rw [if_neg hc, Option.some.injEq] at h
        exact .inr (.inl ⟨e, rfl, by simpa using hc, h.symm⟩)
  · cases h

/-- A failed fetch while the run goes on leads to a pause. -/
theorem Inv.fetchFailed (hi : Inv route s) (hfe : s.fetcher = .fetching) (e : String) :
    Inv route { s with fetched := s.fetched ++ [.failed e], fetcher := .pausing } := by
  have hf := hi.fetcher
  simp only [FetcherInv, hfe] at hf
  refine hi.fetcherMove rfl rfl ⟨_, rfl⟩ (by simp [hfe]) (by simp) ?_
  intro k r hr
  simp only [List.getElem?_append, List.getElem?_singleton] at hr
  split at hr
  · exact hf k r hr
  · split at hr <;> simp at hr

theorem Inv.fetch {item : Fetched} (hi : Inv route s)
    (h : step route s (.fetch item) = some s') : Inv route s' := by
  obtain ⟨hfe, ⟨r, l, rfl, hl, rfl⟩ | ⟨e, rfl, -, rfl⟩ | ⟨e, rfl, -, rfl⟩⟩ := step_fetch h
  · -- a record is held for its lane
    have hf := hi.fetcher
    simp only [FetcherInv, hfe] at hf
    refine hi.fetcherMove rfl rfl ⟨_, rfl⟩ (by simp [hfe]) (by simp) ?_
    simp only [FetcherInv]
    refine ⟨by simp, by simp, hl, ?_, ?_⟩
    · intro k' r' hk' hr'
      rw [List.getElem?_append_left hk'] at hr'
      exact hf k' r' hr'
    · intro hp
      exact absurd (hi.placed_lt hp) (lt_irrefl _)
  · exact hi.fetchFailed hfe e
  · -- a failed fetch after cancellation makes the fetcher return
    have hp := hi.fetchFailed hfe e
    apply hp.stop
    intro k r _ hr
    have hf := hp.fetcher
    simp only [FetcherInv] at hf
    exact hf k r hr

theorem step_send (h : step route s .send = some s') :
    ∃ k r l L, s.fetcher = .sending k r l ∧ s.lanes[l]? = some L ∧
      L.buffer.length < capacity ∧
      s' = { s.work l { L with buffer := L.buffer ++ [(k, r)] } (.place l k) with
        fetcher := .fetching } := by
  simp only [step] at h
  split at h
  · rename_i k r l hfe
    split at h
    · rename_i L hL
      split at h
      · exact ⟨k, r, l, L, hfe, hL, ‹_›, (Option.some.inj h).symm⟩
      · cases h
    · cases h
  · cases h

theorem Inv.send (hi : Inv route s) (h : step route s .send = some s') : Inv route s' := by
  obtain ⟨k, r, l, L, hfe, hL, -, rfl⟩ := step_send h
  have hf := hi.fetcher
  simp only [FetcherInv, hfe] at hf
  obtain ⟨hlen, hr, hlane, hbefore, hnot⟩ := hf
  have hl : l < s.lanes.length := (List.getElem?_eq_some_iff.1 hL).1
  have hstop : s.fetcher ≠ .stopped := by simp [hfe]
  -- a lane is closed only once the fetcher has returned
  have hopen : L.closed = false := by
    cases hc : L.closed
    · rfl
    · exact absurd ((hi.lanes l L hL).closed hc) hstop
  refine ⟨?_, ?_, by simp, ?_⟩
  · intro l' L' hL'
    by_cases hll : l' = l
    · subst hll
      have h' : L' = { L with buffer := L.buffer ++ [(k, r)] } := by
        simpa [System.work, List.getElem?_set_self hl] using hL'.symm
      subst h'
      obtain ⟨⟨done, hp, hw, hf⟩, hord, hans, -, hex⟩ := hi.lanes l' L hL
      refine ⟨⟨done, ?_, ?_, ?_⟩, ?_, hans, ?_, ?_⟩
      · simp [System.work, hp]
      · simp [System.work, hw, Effect.isWork]
      · -- the records already there, and the new one
        intro p hp'
        have hp'' : p ∈ done ++ L.worker.current ++ L.buffer ∨ p = (k, r) := by
          simpa [or_assoc] using hp'
        rcases hp'' with hp' | rfl
        · simpa [System.work] using hf p hp'
        · exact ⟨by simpa [System.work] using hr, by simpa [System.work] using hlane⟩
      · -- every tag placed so far is below the new one
        simp only [System.work, placesOn_append, placesOn_place, if_true]
        refine List.pairwise_append.2 ⟨hord, List.pairwise_singleton _ _, ?_⟩
        intro a ha b hb
        rw [List.mem_singleton] at hb
        rw [hb]
        have hpa : Placed s a := ⟨l', mem_placesOn.1 ha⟩
        have hlt : a < k + 1 := hlen ▸ hi.placed_lt hpa
        have hne : a ≠ k := fun hak => hnot (hak ▸ hpa)
        omega
      · intro hc
        simp [hopen] at hc
      · intro hx
        obtain ⟨hc, -⟩ := hex hx
        simp [hopen] at hc
    · have hL0 : s.lanes[l']? = some L' := by
        simpa [System.work, List.getElem?_set_ne (Ne.symm hll)] using hL'
      refine (hi.lanes l' L' hL0).frame (by simp [System.work]) (fun _ _ h => h) ?_ ?_
        (fun h => absurd h hstop)
      · simp [System.work, Ne.symm hll]
      · simp [System.work, Effect.isWork]
  · simp only [FetcherInv]
    intro k' r' hr'
    rcases Nat.lt_or_ge k' k with hk' | hk'
    · exact placed_mono ⟨_, rfl⟩ (hbefore k' r' hk' hr')
    · have hk : k' = k := by
        have := (List.getElem?_eq_some_iff.1 hr').1
        simp only [System.work] at this
        omega
      subst hk
      exact ⟨l, by simp [System.work]⟩
  · intro x hx
    simp only [System.work, List.mem_append, List.mem_singleton, List.length_set] at hx ⊢
    rcases hx with hx | rfl
    · exact hi.log_lanes x hx
    · exact hl

theorem step_exit {l : Nat} (h : step route s (.exit l) = some s') :
    s.lanes[l]? = some ⟨[], true, .idle⟩ ∧
      s' = { s with lanes := s.lanes.set l ⟨[], true, .exited⟩ } := by
  simp only [step] at h
  split at h
  · exact ⟨‹_›, (Option.some.inj h).symm⟩
  · cases h

theorem Inv.exit {l : Nat} (hi : Inv route s) (h : step route s (.exit l) = some s') :
    Inv route s' := by
  obtain ⟨hL, rfl⟩ := step_exit h
  have hl : l < s.lanes.length := (List.getElem?_eq_some_iff.1 hL).1
  obtain ⟨⟨done, hp, hw, hf⟩, hord, -, hcl, -⟩ := hi.lanes l _ hL
  refine ⟨?_, hi.fetcher.congr rfl rfl (by simp) (fun _ => Iff.rfl), ?_,
    by simpa using hi.log_lanes⟩
  · intro l' L' hL'
    by_cases hll : l' = l
    · subst hll
      have h' : L' = ⟨[], true, .exited⟩ := by
        simpa [List.getElem?_set_self hl] using hL'.symm
      subst h'
      refine ⟨⟨done, ?_, ?_, ?_⟩, hord, ?_, hcl, fun _ => ⟨rfl, rfl⟩⟩
      · simpa [Worker.current] using hp
      · simpa [progress] using hw
      · intro p hp'
        simpa using hf p (by simpa [Worker.current] using hp')
      · intro k r st hw'
        cases hw'
    · have hL0 : s.lanes[l']? = some L' := by
        simpa [List.getElem?_set_ne (Ne.symm hll)] using hL'
      exact (hi.lanes l' L' hL0).frame (by simp) (fun _ _ h => h) rfl rfl id
  · intro hst L' hmem
    rcases List.mem_or_eq_of_mem_set hmem with hmem | rfl
    · exact hi.stopped hst L' hmem
    · rfl

end Fetcher

/-! ### Runs -/

/-- **Every action keeps the invariant.** -/
theorem inv_step {route : Route} {s s' : System} (hi : Inv route s) {ev : Event}
    (h : step route s ev = some s') : Inv route s' := by
  cases ev with
  | cancel =>
    simp only [step, Option.some.injEq] at h
    exact h ▸ hi.cancel
  | fetch item => exact hi.fetch h
  | resume => exact hi.resume h
  | send => exact hi.send h
  | quit => exact hi.quit h
  | take l => exact hi.take h
  | call l => exact hi.call h
  | answer l => exact hi.answer h
  | commit l => exact hi.commit h
  | exit l => exact hi.exit h

theorem inv_exec {route : Route} {s s' : System} (hi : Inv route s) {evs : List Event}
    (h : exec route s evs = some s') : Inv route s' := by
  induction evs generalizing s with
  | nil =>
    simp only [exec, Option.some.injEq] at h
    exact h ▸ hi
  | cons ev evs ih =>
    simp only [exec, Option.bind_eq_some_iff] at h
    obtain ⟨s₁, h₁, h₂⟩ := h
    exact ih (inv_step hi h₁) h₂

/-- **The invariant holds after every run** from the start. -/
theorem inv_of_exec {route : Route} {workers : Int} {evs : List Event} {s : System}
    (h : exec route (System.start workers) evs = some s) : Inv route s :=
  inv_exec (inv_start route workers) h

end TopicBridge.Ingest.Lanes
