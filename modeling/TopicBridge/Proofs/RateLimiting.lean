import Mathlib
import TopicBridge.Http.Server
import TopicBridge.Proofs.RouteRegistration

/-!
# Fixed windows

The limiter (`TopicBridge.Http.Limiter.check`) counts each client's requests in a store,
under one key per client and window, with `INCR` and then `EXPIRE` after twice the window.
For the count under a key to be the number of the client's requests in that window, three
things have to hold.

* **One key per client and window.** A window number holds no colon, so a key splits at its
  last colon, and the keys of two clients differ whatever their windows
  (`TopicBridge.Http.Limiter.client_eq_of_key_eq`): the requests of other clients never
  touch a client's counter.
* **A counter outlives its window.** Each request sets the timeout of its key to twice the
  window, sent in whole seconds. When positive, that timeout is never shorter than the
  window (`TopicBridge.Http.Limiter.window_le_ttl`), so the counter is still there at the
  client's next request in the window, however the requests are spread over it.
* **The timeout is positive.** Twice the window is a 64-bit product. For windows of `2⁶²`
  nanoseconds or more it wraps around to a negative duration
  (`TopicBridge.Http.Limiter.ttl_nonpos`); `EXPIRE` then removes the counter after every
  request, and every request counts as the first of its window.

The store is any store that keeps Redis's `INCR` and `EXPIRE` as its client sends them
(`TopicBridge.Http.CounterOps.Lawful`); the in-process store is one
(`TopicBridge.Http.Counts.ops_lawful`). The proofs read a store only through those promises.

`TopicBridge.Http.fixed_window_limit`: for a limiter counting in such a store with a limit of
at least one request, and any run of requests from any clients in which the requests of one
known client all fall in one window, at or after the epoch, the client's `i`-th request in
the run passes exactly when `i ≤ rps`, or when the window is `2⁶²` nanoseconds or longer.
A refused request is told to retry after the rest of the window in seconds, rounded up:
at least one second, and at most the window's seconds, rounded up. With a window of `2⁶²`
nanoseconds nothing is refused (`TopicBridge.Http.long_window_never_limits`).
-/

namespace TopicBridge.Http

open TopicBridge.Time TopicBridge.Num

/-! ### A lawful store -/

namespace CounterOps

variable {S : Type} {stored : S → String → Option Counter} {ops : CounterOps S} {s : S}
  {key : String} {now : Int}

theorem live_of_stored {k : Counter} (h : stored s key = some k)
    (hk : k.expiresAt.all (now ≤ ·) = true) : live stored s key now = some k := by
  rw [live, h, Option.filter_some, if_pos hk]

theorem live_of_stored_none (h : stored s key = none) : live stored s key now = none := by
  rw [live, h, Option.filter_none]

/-- Right after `INCR` the key is there. -/
theorem Lawful.live_incr (hlaw : ops.Lawful stored) (s : S) (key : String) (now : Int) :
    live stored (ops.incr s key now).2 key now = some (bumped stored s key now) := by
  apply live_of_stored (by rw [hlaw.incr_stored, if_pos rfl])
  unfold bumped
  cases h : live stored s key now with
  | none => rfl
  | some k =>
    rw [live, Option.filter_eq_some_iff] at h
    exact h.2

end CounterOps

/-! ### The in-process store -/

namespace Counts

/-- The counter stored under a key, whether or not it is gone. -/
def get? (c : Counts) (key : String) : Option Counter := (c.find? (·.1 == key)).map (·.2)

theorem live_eq (c : Counts) (key : String) (now : Int) :
    c.live key now = CounterOps.live get? c key now := by
  unfold live CounterOps.live get?
  cases c.find? (·.1 == key) with
  | none => rfl
  | some e => simp only [Option.map_some, Option.filter_some]

theorem get?_put (c : Counts) (key key' : String) (k : Counter) :
    (c.put key k).get? key' = if key = key' then some k else c.get? key' := by
  unfold put get?
  split
  · -- the key is there: its entry is rewritten in place, and every entry keeps its key
    rename_i h
    have hkeys : ((fun x : String × Counter => x.1 == key') ∘
        fun e => if e.1 == key then (key, k) else e) = (·.1 == key') := by
      funext e
      by_cases he : e.1 = key <;> simp [he]
    rw [List.find?_map, hkeys]
    cases hf : c.find? (·.1 == key') with
    | none =>
      have hk : key ≠ key' := by
        rintro rfl
        obtain ⟨e, he, hek⟩ := List.any_eq_true.mp h
        exact List.find?_eq_none.mp hf e he hek
      simp [hk]
    | some f =>
      have hf1 : f.1 = key' := by simpa using List.find?_some hf
      by_cases hk : key = key'
      · simp [hk, hf1]
      · simp [hk, Ne.symm hk, hf1]
  · -- the key is not there: it is added at the end
    rename_i h
    have hnone : c.find? (·.1 == key) = none :=
      List.find?_eq_none.mpr fun e he hek => h (List.any_eq_true.mpr ⟨e, he, hek⟩)
    rw [List.find?_append]
    by_cases hk : key = key'
    · subst hk
      simp [hnone]
    · simp [hk]

theorem get?_erase (c : Counts) (key key' : String) :
    (c.erase key).get? key' = if key = key' then none else c.get? key' := by
  unfold erase get?
  by_cases hk : key = key'
  · subst hk
    have : (c.filter (·.1 != key)).find? (·.1 == key) = none := by
      rw [List.find?_eq_none]
      intro e he
      simp only [List.mem_filter, bne_iff_ne, ne_eq] at he
      simpa using he.2
    simp [this]
  · rw [if_neg hk, List.find?_filter]
    congr 2
    funext e
    by_cases he : e.1 = key'
    · simp [he, Ne.symm hk]
    · simp [he]

theorem incr_eq (c : Counts) (key : String) (now : Int) :
    c.incr key now = ((CounterOps.bumped get? c key now).count,
      c.put key (CounterOps.bumped get? c key now)) := by
  simp only [incr, CounterOps.bumped, live_eq]

theorem expire_get?_of_ne (c : Counts) {key key' : String} (h : key ≠ key') (secs now : Int) :
    (c.expire key secs now).get? key' = c.get? key' := by
  unfold expire
  split
  · rfl
  · split
    · rw [get?_erase, if_neg h]
    · rw [get?_put, if_neg h]

theorem expire_get?_of_live {c : Counts} {key : String} {now : Int} {k : Counter}
    (h : c.live key now = some k) (secs : Int) :
    (c.expire key secs now).get? key =
      if secs ≤ 0 then none
      else some { k with expiresAt := some (now + secs * nanosPerSecond) } := by
  unfold expire
  rw [h]
  dsimp only
  split
  · rw [get?_erase, if_pos rfl]
  · rw [get?_put, if_pos rfl]

/-- **The in-process store is lawful**: it keeps Redis's `INCR` and `EXPIRE`, the duration
sent in whole seconds. -/
theorem ops_lawful : ops.Lawful get? where
  incr_count c key now := by
    rw [show ops.incr c key now = c.incr key now from rfl, incr_eq]
  incr_stored c key now key' := by
    rw [show ops.incr c key now = c.incr key now from rfl, incr_eq, get?_put]
  expire_stored_of_ne c _ d now _ h := expire_get?_of_ne c h (timeoutSeconds d) now
  expire_stored_of_live _ _ d _ _ h := expire_get?_of_live (by rwa [live_eq]) (timeoutSeconds d)

end Counts

/-! ### Keys -/

theorem colon_not_mem_toString (z : Int) : ':' ∉ (toString z).toList := by
  have hdigits (n : Nat) : ':' ∉ n.repr.toList := by
    rw [Nat.toList_repr]
    intro h
    have := Nat.isDigit_of_mem_toDigits (by decide) (by decide) h
    revert this
    decide
  rw [Int.toString_eq_repr, Int.repr_eq_if]
  split
  · exact hdigits _
  · rw [String.toList_append]
    intro h
    rcases List.mem_append.mp h with h | h
    · revert h
      decide
    · exact hdigits _ h

/-- Keys of different clients differ, whatever their windows: the window number holds no
colon, so a key splits at its last colon. -/
theorem Limiter.client_eq_of_key_eq {l : Limiter} {a b : String} {s s' : Int}
    (h : l.key a s = l.key b s') : a = b := by
  have hcolon : ":".toList.reverse = [':'] := by decide
  have h' := congrArg (fun k => k.toList.reverse) h
  simp only [Limiter.key, String.toList_append, List.reverse_append, hcolon,
    List.singleton_append] at h'
  have hsep := (TopicBridge.Bridge.append_sep_inj
    (fun hm => colon_not_mem_toString s (List.mem_reverse.mp hm))
    (fun hm => colon_not_mem_toString s' (List.mem_reverse.mp hm))).mp h'
  have hab := List.append_cancel_right hsep.2
  exact String.toList_injective (List.reverse_injective hab)

/-! ### Timeouts and windows -/

theorem wrap64_of_ge (x : Int) (h0 : 9223372036854775808 ≤ x) (h1 : x < 18446744073709551616) :
    wrap64 x = x - 18446744073709551616 := by
  unfold wrap64
  have h2 : x % 18446744073709551616 = x := Int.emod_eq_of_lt (by omega) h1
  simp only [h2]
  split <;> omega

variable {l : Limiter}

theorem Limiter.windowLength_pos (l : Limiter) : 0 < l.windowLength := by
  unfold Limiter.windowLength nanosPerSecond
  split <;> omega

theorem Limiter.windowLength_le (hw : l.window ≤ maxInt64) : l.windowLength ≤ maxInt64 := by
  unfold Limiter.windowLength nanosPerSecond maxInt64 at *
  split <;> omega

/-- Twice a window under `2⁶²` nanoseconds is sent as a positive number of seconds, which
outlasts the window. -/
theorem Limiter.ttl_of_short (hW : l.windowLength < 4611686018427387904) :
    0 < l.ttl ∧ l.windowLength ≤ l.ttl * nanosPerSecond := by
  have hpos := l.windowLength_pos
  unfold Limiter.ttl Limiter.keyTimeout mul64
  rw [wrap64_small _ (by omega) (by omega)]
  unfold timeoutSeconds nanosPerSecond
  split
  · omega
  · rw [Int.tdiv_eq_ediv_of_nonneg (by omega)]
    omega

/-- For a window of `2⁶²` nanoseconds or more, twice the window wraps around to a negative
duration, sent as no seconds or fewer. -/
theorem Limiter.ttl_nonpos (hw : l.window ≤ maxInt64)
    (hW : 4611686018427387904 ≤ l.windowLength) : l.ttl ≤ 0 := by
  have hle := windowLength_le hw
  unfold maxInt64 at hle
  unfold Limiter.ttl Limiter.keyTimeout mul64
  rw [wrap64_of_ge _ (by omega) (by omega)]
  unfold timeoutSeconds nanosPerSecond
  rw [if_neg (by omega)]
  -- a negative duration truncates towards zero
  set d := l.windowLength * 2 - 18446744073709551616
  rw [show d = -(-d) by omega, Int.neg_tdiv]
  have := Int.tdiv_nonneg (show 0 ≤ -d by omega) (show (0 : Int) ≤ 1000000000 by decide)
  omega

/-- A key's timeout, when positive, outlasts its window. -/
theorem Limiter.window_le_ttl (hw : l.window ≤ maxInt64) (h : 0 < l.ttl) :
    l.windowLength ≤ l.ttl * nanosPerSecond := by
  have hW : l.windowLength < 4611686018427387904 := by
    by_contra hge
    have := ttl_nonpos hw (by omega)
    omega
  exact (ttl_of_short hW).2

/-- Two readings in one window are less than a window apart. -/
theorem Limiter.lt_add_window_of_slot {t t' : Int} (ht : 0 ≤ t) (ht' : 0 ≤ t')
    (h : t.tdiv l.windowLength = t'.tdiv l.windowLength) : t' < t + l.windowLength := by
  have hpos := l.windowLength_pos
  rw [Int.tdiv_eq_ediv_of_nonneg ht, Int.tdiv_eq_ediv_of_nonneg ht'] at h
  have h1 := Int.mul_ediv_add_emod t l.windowLength
  have h2 := Int.mul_ediv_add_emod t' l.windowLength
  have h3 := Int.emod_nonneg t (ne_of_gt hpos)
  have h4 := Int.emod_lt_of_pos t' hpos
  rw [h] at h1
  omega

/-- The rest of a window at a reading is never empty, and at most the window. -/
theorem Limiter.rest_bounds (t : Int) :
    0 < l.windowLength - t % l.windowLength ∧
      l.windowLength - t % l.windowLength ≤ l.windowLength := by
  have hpos := l.windowLength_pos
  have h3 := Int.emod_nonneg t (ne_of_gt hpos)
  have h4 := Int.emod_lt_of_pos t hpos
  omega

/-- The seconds left in the window of a reading, rounded up. -/
theorem Limiter.retryAfter_eq_ceil {t : Int} (ht : 0 ≤ t)
    (hW : l.windowLength < 4611686018427387904) :
    l.retryAfter t = ⌈((l.windowLength - t % l.windowLength : Int) : ℚ) / 1000000000⌉ := by
  have hrest := l.rest_bounds t
  have hcast : ((l.windowLength - t % l.windowLength : Int) : ℚ) / 1000000000 =
      ((l.windowLength - t % l.windowLength : Int) : ℚ) / ((1000000000 : Nat) : ℚ) := by
    norm_num
  rw [hcast, Rat.ceil_intCast_div_natCast]
  unfold Limiter.retryAfter nanosPerSecond
  dsimp only
  rw [Int.tmod_eq_emod_of_nonneg ht,
    wrap64_small (l.windowLength - t % l.windowLength) (by omega) (by omega),
    wrap64_small _ (by omega) (by omega), Int.tdiv_eq_ediv_of_nonneg (by omega)]
  omega

/-- The seconds to wait are at least one and at most the window's, rounded up. -/
theorem Limiter.retry_bounds (t : Int) :
    1 ≤ ⌈((l.windowLength - t % l.windowLength : Int) : ℚ) / 1000000000⌉ ∧
      ⌈((l.windowLength - t % l.windowLength : Int) : ℚ) / 1000000000⌉ ≤
        ⌈(l.windowLength : ℚ) / 1000000000⌉ := by
  obtain ⟨hpos, hle⟩ := l.rest_bounds t
  constructor
  · have hrest : (0 : ℚ) < ((l.windowLength - t % l.windowLength : Int) : ℚ) / 1000000000 := by
      apply div_pos _ (by norm_num)
      exact_mod_cast hpos
    exact Int.ceil_pos.mpr hrest
  · apply Int.ceil_le_ceil
    apply div_le_div_of_nonneg_right _ (by norm_num)
    exact_mod_cast hle

/-! ### One request -/

variable {S : Type} {stored : S → String → Option Counter} {ops : CounterOps S} {c : S}
  {now : Instant} {client : String}

/-- A request counted in a store: `INCR` and `EXPIRE` of its key, refused above the limit. -/
theorem check_counting (ops : CounterOps S) (c : S) (now : Instant) (hs : l.store = .counting)
    (hr : 0 < l.rps) (hc : client ≠ "") :
    let key := l.key client ((wrap64 now.nanos).tdiv l.windowLength)
    (l.check ops c now client).1 = (if ((ops.incr c key now.nanos).1 : Int) > l.rps then
        .limited (if l.retryAfterHint then some (l.retryAfter (wrap64 now.nanos)) else none)
      else .pass) ∧
      (l.check ops c now client).2 = ops.expire (ops.incr c key now.nanos).2 key l.keyTimeout
        now.nanos := by
  have he : client.isEmpty = false := by simp [hc]
  have hgo : (l.rps ≤ 0 || client.isEmpty) = false := by simp [he]; omega
  unfold Limiter.check
  rw [if_neg (by simp [hgo]), hs]
  dsimp only
  split_ifs <;> exact ⟨rfl, rfl⟩

/-- A request passes uncounted when no limit is set, when the store does not count, or
when the client is unknown. -/
theorem check_uncounted (h : ¬(l.store = .counting ∧ 0 < l.rps ∧ client ≠ "")) :
    l.check ops c now client = (.pass, c) := by
  unfold Limiter.check
  split
  · rfl
  · rename_i hgo
    cases hs : l.store with
    | absent => rfl
    | failing => rfl
    | counting =>
      -- a counting store is reached only with a limit and a known client
      simp only [Bool.or_eq_true, decide_eq_true_eq, String.isEmpty_iff, not_or, not_le] at hgo
      exact absurd ⟨hs, hgo.1, hgo.2⟩ h

/-- A request under another key leaves the counter under `K` as it was. -/
theorem check_stored_of_ne (hlaw : ops.Lawful stored) {K : String} (h : ∀ s, l.key client s ≠ K) :
    stored (l.check ops c now client).2 K = stored c K := by
  by_cases hgo : l.store = .counting ∧ 0 < l.rps ∧ client ≠ ""
  · obtain ⟨hs, hr, hc⟩ := hgo
    rw [(check_counting ops c now hs hr hc).2, hlaw.expire_stored_of_ne _ _ _ _ _ (h _),
      hlaw.incr_stored, if_neg (h _)]
  · rw [check_uncounted hgo]

/-! ### One window of one client -/

/-- A 64-bit clock reading, at or after the epoch, in window `k`. -/
def Limiter.InWindow (l : Limiter) (k t : Int) : Prop :=
  0 ≤ t ∧ t ≤ maxInt64 ∧ t.tdiv l.windowLength = k

/-- The counter under a client's key after `n` of its requests in one window, the last at
instant `last`: none before the first one, and none when a key does not outlive its
request; otherwise the count, gone a timeout after the last request. -/
def Limiter.counterAfter (l : Limiter) (n : Nat) (last : Int) : Option Counter :=
  if n = 0 ∨ l.ttl ≤ 0 then none
  else some { count := n, expiresAt := some (last + l.ttl * nanosPerSecond) }

/-- What the limiter decides for the `i`-th request of a client in one window, at an
instant: the first `rps` requests pass and the later ones are refused, unless a key does
not outlive its request, when all of them pass. -/
def Limiter.windowDecision (l : Limiter) (i : Nat) (now : Instant) : LimitDecision :=
  if (i : Int) ≤ l.rps ∨ l.ttl ≤ 0 then .pass
  else .limited (if l.retryAfterHint then some (l.retryAfter (wrap64 now.nanos)) else none)

/-- A reading in a window is its own 64-bit reading. -/
theorem Limiter.InWindow.wrap64_eq {k t : Int} (h : l.InWindow k t) : wrap64 t = t := by
  unfold Limiter.InWindow maxInt64 at h
  exact wrap64_small _ h.1 (by omega)

section Window

variable {id : String} {k : Int} {n : Nat} {last : Int}

/-- Before a client's next request in its window, its counter is the one it left, or a new
one: a timeout outlasts the window. -/
theorem bumped_in_window (hw : l.window ≤ maxInt64)
    (hc : stored c (l.key id k) = l.counterAfter n last) (hlast : n = 0 ∨ l.InWindow k last)
    (ht : l.InWindow k now.nanos) :
    CounterOps.bumped stored c (l.key id k) now.nanos =
      if n = 0 ∨ l.ttl ≤ 0 then { count := 1 }
      else { count := n + 1, expiresAt := some (last + l.ttl * nanosPerSecond) } := by
  unfold Limiter.counterAfter at hc
  unfold CounterOps.bumped
  split
  · rename_i hnone
    rw [CounterOps.live_of_stored_none (by rw [hc, if_pos hnone])]
    rfl
  · rename_i hsome
    have hn : n ≠ 0 := fun h => hsome (Or.inl h)
    have httl : 0 < l.ttl := by
      by_contra h
      exact hsome (Or.inr (by omega))
    -- the reading is within a window of the last one, and the timeout outlasts a window
    obtain ⟨hl0, -, hlk⟩ := hlast.resolve_left hn
    obtain ⟨ht0, -, htk⟩ := ht
    have hnear := l.lt_add_window_of_slot hl0 ht0 (hlk.trans htk.symm)
    have hcover := l.window_le_ttl hw httl
    rw [if_neg hsome] at hc
    rw [CounterOps.live_of_stored hc (by simp; omega)]
    rfl

/-- **One request in the window.** A client's request in its window is decided as its
place among the client's requests says, and leaves the counter of the window as expected. -/
theorem check_in_window (hlaw : ops.Lawful stored) (hs : l.store = .counting) (hr : 1 ≤ l.rps)
    (hw : l.window ≤ maxInt64) (hid : id ≠ "") (hc : stored c (l.key id k) = l.counterAfter n last)
    (hlast : n = 0 ∨ l.InWindow k last) (ht : l.InWindow k now.nanos) :
    (l.check ops c now id).1 = l.windowDecision (n + 1) now ∧
      stored (l.check ops c now id).2 (l.key id k) = l.counterAfter (n + 1) now.nanos := by
  have hkey : l.key id ((wrap64 now.nanos).tdiv l.windowLength) = l.key id k := by
    rw [ht.wrap64_eq, ht.2.2]
  obtain ⟨hdec, hstore⟩ := check_counting ops c now hs (by omega) hid
  rw [hkey] at hdec hstore
  have hb := bumped_in_window hw hc hlast ht
  refine ⟨?_, ?_⟩
  · -- the count is one more than the counter left, or one for a new counter
    have hcount : ((ops.incr c (l.key id k) now.nanos).1 : Int) =
        if n = 0 ∨ l.ttl ≤ 0 then 1 else (n : Int) + 1 := by
      rw [hlaw.incr_count, hb]
      split <;> simp
    rw [hdec, Limiter.windowDecision, hcount]
    split_ifs <;> first | rfl | (exfalso; omega)
  · -- `EXPIRE` finds the counter `INCR` left, and sends the key's timeout in seconds
    rw [hstore, hlaw.expire_stored_of_live _ _ _ _ _ (hlaw.live_incr c _ _),
      show timeoutSeconds l.keyTimeout = l.ttl from rfl, Limiter.counterAfter]
    by_cases httl : l.ttl ≤ 0
    · simp [httl]
    · rw [if_neg httl, if_neg (by omega), hb]
      split <;> rename_i hnone
      · rcases hnone with hn | h
        · simp [hn]
        · exact absurd h httl
      · rfl

theorem Limiter.run_cons (c : S) (r : Instant × String) (rs : List (Instant × String)) :
    (l.run ops c (r :: rs)).1 =
      (l.check ops c r.1 r.2).1 :: (l.run ops (l.check ops c r.1 r.2).2 rs).1 := rfl

/-- **A run.** Over any run of requests from any clients, each request of a client whose
requests all fall in one window is decided by its place among them, counting from the
`n` of its requests that came before the run. Other clients' requests, in any window, do
not touch its counter. -/
theorem run_in_window (hlaw : ops.Lawful stored) (hs : l.store = .counting) (hr : 1 ≤ l.rps)
    (hw : l.window ≤ maxInt64) (hid : id ≠ "") (rs : List (Instant × String))
    (hrs : ∀ r ∈ rs, r.2 = id → l.InWindow k r.1.nanos) :
    ∀ (n : Nat) (last : Int) (c : S), stored c (l.key id k) = l.counterAfter n last →
      (n = 0 ∨ l.InWindow k last) → ∀ j now, rs[j]? = some (now, id) →
        (l.run ops c rs).1[j]? =
          some (l.windowDecision (n + (rs.take (j + 1)).countP (·.2 == id)) now) := by
  induction rs with
  | nil => intro n last c _ _ j now h; simp at h
  | cons r rs ih =>
    intro n last c hc hlast j now hj
    have hrs' : ∀ r ∈ rs, r.2 = id → l.InWindow k r.1.nanos :=
      fun r' hr' => hrs r' (List.mem_cons_of_mem _ hr')
    -- the counter after the run's first request, and how many of the client's it counted
    obtain ⟨n', last', hc', hlast', hn'⟩ : ∃ n' last',
        stored (l.check ops c r.1 r.2).2 (l.key id k) = l.counterAfter n' last' ∧
          (n' = 0 ∨ l.InWindow k last') ∧ n' = n + (if r.2 == id then 1 else 0) := by
      by_cases hr2 : r.2 = id
      · have ht := hrs r (List.mem_cons_self ..) hr2
        obtain ⟨-, hstore⟩ := check_in_window hlaw hs hr hw hid hc hlast ht
        exact ⟨n + 1, r.1.nanos, hr2 ▸ hstore, Or.inr ht, by simp [hr2]⟩
      · have hne : ∀ s, l.key r.2 s ≠ l.key id k :=
          fun s h => hr2 (Limiter.client_eq_of_key_eq h)
        exact ⟨n, last, (check_stored_of_ne hlaw hne).trans hc, hlast, by simp [hr2]⟩
    rw [Limiter.run_cons]
    cases j with
    | zero =>
      -- the run's first request is the client's
      obtain rfl : r = (now, id) := by simpa using hj
      obtain ⟨hdec, -⟩ :=
        check_in_window hlaw hs hr hw hid hc hlast (hrs _ (List.mem_cons_self ..) rfl)
      simp [hdec]
    | succ j =>
      have hj' : rs[j]? = some (now, id) := by simpa using hj
      rw [List.getElem?_cons_succ, ih hrs' n' last' _ hc' hlast' j now hj', List.take_succ_cons,
        List.countP_cons, hn']
      congr 2
      split <;> omega

end Window

/-! ### Every run -/

theorem fixed_window_limit {S : Type} (ops : CounterOps S) (stored : S → String → Option Counter)
    (hlaw : ops.Lawful stored) (l : Limiter) (hs : l.store = .counting) (hr : 1 ≤ l.rps)
    (hw : l.window ≤ maxInt64) (id : String) (hid : id ≠ "") (k : Int) (c : S)
    (hc : stored c (l.key id k) = none) (rs : List (Instant × String))
    (hrs : ∀ r ∈ rs, r.2 = id →
      0 ≤ r.1.nanos ∧ r.1.nanos ≤ maxInt64 ∧ r.1.nanos.tdiv l.windowLength = k) :
    (∀ j now, rs[j]? = some (now, id) →
      (l.run ops c rs).1[j]? = some
        (if ((rs.take (j + 1)).countP (·.2 == id) : Int) ≤ l.rps ∨
            4611686018427387904 ≤ l.windowLength then .pass
          else .limited (if l.retryAfterHint then
            some ⌈((l.windowLength - now.nanos % l.windowLength : Int) : ℚ) / 1000000000⌉
            else none))) ∧
      ∀ t : Int, 1 ≤ ⌈((l.windowLength - t % l.windowLength : Int) : ℚ) / 1000000000⌉ ∧
        ⌈((l.windowLength - t % l.windowLength : Int) : ℚ) / 1000000000⌉ ≤
          ⌈(l.windowLength : ℚ) / 1000000000⌉ := by
  refine ⟨fun j now hj => ?_, l.retry_bounds⟩
  -- the client's counter is not in the store before the run
  have hc0 : stored c (l.key id k) = l.counterAfter 0 0 := by
    rw [hc, Limiter.counterAfter, if_pos (Or.inl rfl)]
  have ht : 0 ≤ now.nanos ∧ now.nanos ≤ maxInt64 ∧ _ := hrs _ (List.mem_of_getElem? hj) rfl
  rw [run_in_window hlaw hs hr hw hid rs hrs 0 0 c hc0 (Or.inl rfl) j now hj, Nat.zero_add,
    Limiter.windowDecision]
  by_cases hW : 4611686018427387904 ≤ l.windowLength
  · -- twice the window wraps around: the counter never outlives a request
    rw [if_pos (Or.inr (l.ttl_nonpos hw hW)), if_pos (Or.inr hW)]
  · have httl : ¬ l.ttl ≤ 0 := not_le.mpr (l.ttl_of_short (by omega)).1
    have hwrap : wrap64 now.nanos = now.nanos := Limiter.InWindow.wrap64_eq ht
    simp only [httl, hW, or_false, hwrap, l.retryAfter_eq_ceil ht.1 (by omega)]

/-- Two requests an hour that a client makes in one hour, with another client's request
between them, and a third: the third is refused at half past, and told to retry after the
half hour left. -/
theorem third_request_in_hour_limited :
    let l : Limiter := { store := .counting, rps := 2, window := 3600 * nanosPerSecond }
    let rs : List (Instant × String) :=
      [(⟨1714564800 * nanosPerSecond, 0⟩, "10.0.0.1"),
        (⟨1714565400 * nanosPerSecond, 0⟩, "10.0.0.2"),
        (⟨1714566000 * nanosPerSecond, 0⟩, "10.0.0.1"),
        (⟨1714566600 * nanosPerSecond, 0⟩, "10.0.0.1")]
    (∀ r ∈ rs, r.2 = "10.0.0.1" →
      0 ≤ r.1.nanos ∧ r.1.nanos ≤ maxInt64 ∧ r.1.nanos.tdiv l.windowLength = 476268) ∧
      (l.run Counts.ops [] rs).1[3]? = some (.limited (some 1800)) := by
  intro l rs
  have hrs : ∀ r ∈ rs, r.2 = "10.0.0.1" →
      0 ≤ r.1.nanos ∧ r.1.nanos ≤ maxInt64 ∧ r.1.nanos.tdiv l.windowLength = 476268 := by
    decide
  refine ⟨hrs, ?_⟩
  rw [(fixed_window_limit Counts.ops Counts.get? Counts.ops_lawful l rfl (by decide) (by decide)
    "10.0.0.1" (by decide) 476268 [] rfl rs hrs).1 3 _ rfl]
  decide +kernel

/-- With a window of `2⁶²` nanoseconds and a limit of one request, a client's second request
in the window passes: the counter was removed after the first. -/
theorem long_window_never_limits :
    (({ store := .counting, rps := 1, window := 4611686018427387904 } : Limiter).run Counts.ops []
      [(⟨0, 0⟩, "10.0.0.1"), (⟨1, 0⟩, "10.0.0.1")]).1 = [.pass, .pass] := by
  decide

end TopicBridge.Http
