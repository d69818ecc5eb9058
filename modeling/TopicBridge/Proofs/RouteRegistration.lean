import Mathlib
import TopicBridge.Bridge.RouteTable

/-!
# Registering routes

What the route table does with **any** list of routes. Building it runs one loop over the
list: each route has its method trimmed and uppercased, is validated, and joins the table
unless an earlier route took its binding or its name; the first route that fails stops the
loop with its error, and an empty table is refused at the end.

## The table a list gives

`TopicBridge.Bridge.RouteTable.build_eq_ok_iff`: the table is built exactly when the list
is not empty and its normalised routes are **registrable** – each valid, no two sharing a
binding (method and path) or a name – and it then holds the normalised routes in order.
`TopicBridge.Bridge.RouteTable.build_eq_error_iff`: otherwise the error is the one of the
first route that is **refused** by the routes before it
(`TopicBridge.Bridge.RouteTable.Refused`), or the empty table.

## Finding routes again

Both indices of the table are keyed on text: a route is found by the **key** method, a
space, path. A valid method holds no space, so two valid routes have the same key exactly
when they have the same binding (`TopicBridge.Bridge.Route.key_eq_iff`), and the keys of a
table are as distinct as its bindings. A lookup, however, joins the method it is given to
the path it is given: its method is not checked, and one that holds a space finds the
route whose path continues past the space
(`TopicBridge.Bridge.RouteTable.lookup_crosses_space`). What a lookup finds is the route
whose key is the joined text (`TopicBridge.Bridge.RouteTable.lookup_eq_some_iff`); for a
method without a space, that is the route with that method and path.
-/

namespace TopicBridge.Bridge

open TopicBridge.Text

/-! ### Splitting at a separator -/

/-- Two words joined around a separator split back at the first separator, when the left
words do not hold it. -/
theorem append_sep_inj {a a' b b' : List Char} {x : Char} (ha : x ∉ a) (ha' : x ∉ a') :
    a ++ x :: b = a' ++ x :: b' ↔ a = a' ∧ b = b' := by
  induction a generalizing a' with
  | nil =>
    cases a' with
    | nil => simp
    | cons c a' =>
      -- the separator would have to be the first letter of `a'`
      have hc : x ≠ c := fun h => ha' (h ▸ List.mem_cons_self)
      simp [hc]
  | cons c a ih =>
    cases a' with
    | nil =>
      have hc : x ≠ c := fun h => ha (h ▸ List.mem_cons_self)
      simp [Ne.symm hc]
    | cons c' a' =>
      simp only [List.mem_cons, not_or] at ha ha'
      simp [ih ha.2 ha'.2, and_assoc]

/-! ### Bindings and keys -/

/-- The binding of a route: its method and its path. -/
def Route.binding (r : Route) : String × String := (r.method, r.path)

-- a bare `rfl` would compare the normalised method with the old one and evaluate it
@[simp] theorem Route.normalize_name (r : Route) : r.normalize.name = r.name := by
  simp [Route.normalize]

@[simp] theorem Route.normalize_path (r : Route) : r.normalize.path = r.path := by
  simp [Route.normalize]

@[simp] theorem Route.normalize_method (r : Route) :
    r.normalize.method = toUpper (trimBlank r.method) := by
  simp [Route.normalize]

/-- The key of a route whose method holds no space is the joined text of a method and a
path exactly when the route has that method and path. -/
theorem Route.key_eq_iff {r : Route} {m p : String} (hr : ' ' ∉ r.method.toList)
    (hm : ' ' ∉ m.toList) : r.key = m ++ " " ++ p ↔ r.method = m ∧ r.path = p := by
  have h : r.method.toList ++ ' ' :: r.path.toList = m.toList ++ ' ' :: p.toList ↔ _ :=
    append_sep_inj hr hm
  simp only [Route.key, String.ext_iff, String.toList_append, List.append_assoc] at h ⊢
  simpa [String.toList_inj] using h

theorem space_not_mem_of_allowed {m : String} (h : m ∈ allowedMethods) : ' ' ∉ m.toList := by
  simp only [allowedMethods, List.mem_cons, List.not_mem_nil, or_false] at h
  rcases h with rfl | rfl | rfl | rfl | rfl <;> decide

/-! ### Validation -/

/-- A route is valid exactly when it passes every check of the validation. -/
theorem Route.validate_eq_ok_iff (r : Route) :
    r.validate = .ok () ↔
      isBlankText r.name = false ∧ r.method ∈ allowedMethods ∧ r.path.startsWith "/" = true ∧
        isReservedPath r.path = false ∧ checkTopic r.topic = .ok () ∧ r.qos ≤ 2 := by
  unfold Route.validate
  cases checkTopic r.topic <;> split_ifs <;> simp_all

theorem Route.method_mem_of_valid {r : Route} (h : r.validate = .ok ()) :
    r.method ∈ allowedMethods :=
  ((Route.validate_eq_ok_iff r).1 h).2.1

/-- The server's own paths, with or without one trailing slash, are reserved. -/
theorem isReservedPath_reserved :
    ∀ q ∈ reservedPaths, isReservedPath q = true ∧ isReservedPath (q ++ "/") = true := by
  decide +kernel

/-- A valid route binds none of the server's own paths, with or without a trailing slash. -/
theorem Route.path_not_reserved {r : Route} (h : r.validate = .ok ()) :
    ∀ q ∈ reservedPaths, r.path ≠ q ∧ r.path ≠ q ++ "/" := by
  have hr := ((Route.validate_eq_ok_iff r).1 h).2.2.2.1
  intro q hq
  obtain ⟨h1, h2⟩ := isReservedPath_reserved q hq
  constructor <;> intro he <;> simp_all

/-- Valid routes have the same key exactly when they have the same binding. -/
theorem Route.key_eq_key_iff {r s : Route} (hr : r.validate = .ok ()) (hs : s.validate = .ok ()) :
    r.key = s.key ↔ r.binding = s.binding := by
  rw [show s.key = s.method ++ " " ++ s.path from rfl,
    Route.key_eq_iff (space_not_mem_of_allowed (Route.method_mem_of_valid hr))
      (space_not_mem_of_allowed (Route.method_mem_of_valid hs))]
  simp [Route.binding]

/-- Among valid routes, distinct keys are distinct bindings. -/
theorem nodup_keys_iff {rs : List Route} (h : ∀ r ∈ rs, r.validate = .ok ()) :
    (rs.map Route.key).Nodup ↔ (rs.map Route.binding).Nodup := by
  have hk : rs.map Route.key = (rs.map Route.binding).map (fun b => b.1 ++ " " ++ b.2) := by
    simp [Function.comp_def, Route.key, Route.binding]
  rw [hk]
  refine ⟨List.Nodup.of_map _, fun hb => hb.map_on ?_⟩
  simp only [List.mem_map]
  rintro _ ⟨r, hr, rfl⟩ _ ⟨s, hs, rfl⟩ he
  exact (Route.key_eq_key_iff (h r hr) (h s hs)).1 he

/-! ### The registration loop -/

/-- Routes that can stand in one table: each is valid, and no two share a binding or a
name. -/
structure Registrable (rs : List Route) : Prop where
  /-- Every route is valid. -/
  valid : ∀ r ∈ rs, r.validate = .ok ()
  /-- No two routes share a method and path. -/
  bindings : (rs.map Route.binding).Nodup
  /-- No two routes share a name. -/
  names : (rs.map Route.name).Nodup

/-- Why a route cannot join the routes accepted before it, in the order the table checks:
first its validity, then its binding, then its name. -/
inductive RouteTable.Refused (acc : List Route) (r : Route) : TableError → Prop
  /-- The route is not valid. -/
  | invalid {e : RouteError} : r.validate = .error e → Refused acc r (.invalid e)
  /-- The route is valid and an earlier route has its binding. -/
  | binding : r.validate = .ok () → r.binding ∈ acc.map Route.binding →
      Refused acc r (.duplicateBinding r.name r.key)
  /-- The route is valid, its binding is new and an earlier route has its name. -/
  | name : r.validate = .ok () → r.binding ∉ acc.map Route.binding →
      r.name ∈ acc.map Route.name → Refused acc r (.duplicateName r.name)

/-- A valid route has a key taken by earlier valid routes exactly when it has a binding
taken by them. -/
theorem key_mem_iff {acc : List Route} {r : Route} (hacc : ∀ q ∈ acc, q.validate = .ok ())
    (hr : r.validate = .ok ()) : r.key ∈ acc.map Route.key ↔ r.binding ∈ acc.map Route.binding := by
  simp only [List.mem_map]
  constructor
  · rintro ⟨q, hq, he⟩
    exact ⟨q, hq, (Route.key_eq_key_iff (hacc q hq) hr).1 he⟩
  · rintro ⟨q, hq, he⟩
    exact ⟨q, hq, (Route.key_eq_key_iff (hacc q hq) hr).2 he⟩

/-- A route joins registrable routes exactly when it is valid and takes a new binding and a
new name. -/
theorem registrable_snoc {acc : List Route} {r : Route} :
    Registrable (acc ++ [r]) ↔
      Registrable acc ∧ r.validate = .ok () ∧ r.binding ∉ acc.map Route.binding ∧
        r.name ∉ acc.map Route.name := by
  constructor
  · rintro ⟨hv, hb, hn⟩
    simp only [List.map_append, List.map_cons, List.map_nil, List.nodup_append, List.nodup_cons,
      List.not_mem_nil, not_false_eq_true, List.nodup_nil, and_self, List.mem_cons, or_false,
      true_and] at hb hn
    refine ⟨⟨fun q hq => hv q (by simp [hq]), hb.1, hn.1⟩, hv r (by simp), ?_, ?_⟩
    · exact fun h => hb.2 _ h _ rfl rfl
    · exact fun h => hn.2 _ h _ rfl rfl
  · rintro ⟨hacc, hv, hb, hn⟩
    refine ⟨?_, ?_, ?_⟩
    · simpa [or_imp, forall_and] using ⟨hacc.valid, hv⟩
    · simpa [List.nodup_append] using ⟨hacc.bindings, fun q hq he => hb (he ▸ List.mem_map_of_mem hq)⟩
    · simpa [List.nodup_append] using ⟨hacc.names, fun q hq he => hn (he ▸ List.mem_map_of_mem hq)⟩

theorem Registrable.append_left {xs ys : List Route} (h : Registrable (xs ++ ys)) :
    Registrable xs := by
  obtain ⟨hv, hb, hn⟩ := h
  simp only [List.map_append, List.nodup_append] at hb hn
  exact ⟨fun r hr => hv r (List.mem_append_left _ hr), hb.1, hn.1⟩

namespace RouteTable

/-- A route is refused for one reason only. -/
theorem Refused.unique {acc : List Route} {r : Route} {e e' : TableError} (h : Refused acc r e)
    (h' : Refused acc r e') : e = e' := by
  cases h <;> cases h' <;> simp_all

/-- A route that can join is refused for no reason. -/
theorem not_refused_of_registrable {acc : List Route} {r : Route} {e : TableError}
    (h : Registrable (acc ++ [r])) : ¬Refused acc r e := by
  obtain ⟨-, hv, hb, hn⟩ := registrable_snoc.1 h
  rintro (⟨he⟩ | ⟨-, hb'⟩ | ⟨-, -, hn'⟩) <;> simp_all

/-- **One round of the loop**: after registrable routes, the next route, normalised, either
joins them and the loop goes on, or is refused and the loop stops with its error. -/
theorem addAll_cons_cases {acc : List Route} (hacc : Registrable acc) (r : Route)
    (rs : List Route) :
    (Registrable (acc ++ [r.normalize]) ∧ addAll acc (r :: rs) = addAll (acc ++ [r.normalize]) rs) ∨
      ∃ e, Refused acc r.normalize e ∧ addAll acc (r :: rs) = .error e ∧
        ¬Registrable (acc ++ [r.normalize]) := by
  rw [addAll]
  split
  · next e he =>
    exact .inr ⟨_, .invalid he, rfl, fun h => by simp_all [registrable_snoc]⟩
  · next hv =>
    have hnew := key_mem_iff hacc.valid hv
    split
    · next hk =>
      have hb : r.normalize.binding ∈ acc.map Route.binding := by
        rw [← hnew]
        simpa [List.any_eq_true] using hk
      exact .inr ⟨_, .binding hv hb, by simp, fun h => (registrable_snoc.1 h).2.2.1 hb⟩
    · next hk =>
      have hb : r.normalize.binding ∉ acc.map Route.binding := by
        rw [← hnew]
        simpa [List.any_eq_true] using hk
      split
      · next hn =>
        have hn' : r.normalize.name ∈ acc.map Route.name := by
          simpa [List.any_eq_true] using hn
        exact .inr ⟨_, .name hv hb hn', by simp, fun h => (registrable_snoc.1 h).2.2.2 hn'⟩
      · next hn =>
        have hn' : r.normalize.name ∉ acc.map Route.name := by
          simpa [List.any_eq_true] using hn
        exact .inl ⟨registrable_snoc.2 ⟨hacc, hv, hb, hn'⟩, rfl⟩

/-- **The loop accepts** routes after registrable ones exactly when, normalised, the whole
list stays registrable; it then returns that list. -/
theorem addAll_eq_ok_iff {acc : List Route} (hacc : Registrable acc) (rs out : List Route) :
    addAll acc rs = .ok out ↔
      out = acc ++ rs.map Route.normalize ∧ Registrable (acc ++ rs.map Route.normalize) := by
  induction rs generalizing acc with
  | nil => simp [addAll, hacc, eq_comm]
  | cons r rs ih =>
    have hsplit : acc ++ (r :: rs).map Route.normalize = acc ++ [r.normalize] ++ rs.map Route.normalize := by
      simp
    rw [hsplit]
    rcases addAll_cons_cases hacc r rs with ⟨hj, hrun⟩ | ⟨e, -, hrun, hj⟩
    · rw [hrun, ih hj]
    · -- a refused route makes every longer list unregistrable
      simp only [hrun, reduceCtorEq, false_iff, not_and]
      exact fun _ h => hj h.append_left

/-- **The loop refuses** routes after registrable ones exactly at the first route that the
routes before it refuse, with that route's error. -/
theorem addAll_eq_error_iff {acc : List Route} (hacc : Registrable acc) (rs : List Route)
    (e : TableError) :
    addAll acc rs = .error e ↔
      ∃ pre r post, rs = pre ++ r :: post ∧ Registrable (acc ++ pre.map Route.normalize) ∧
        Refused (acc ++ pre.map Route.normalize) r.normalize e := by
  induction rs generalizing acc with
  | nil => simp [addAll]
  | cons r rs ih =>
    -- the first refused route is this one, or one further on
    have hsplit : (∃ pre q post, r :: rs = pre ++ q :: post ∧ Registrable (acc ++ pre.map Route.normalize) ∧
        Refused (acc ++ pre.map Route.normalize) q.normalize e) ↔
        Refused acc r.normalize e ∨ ∃ pre q post, rs = pre ++ q :: post ∧
          Registrable (acc ++ [r.normalize] ++ pre.map Route.normalize) ∧
          Refused (acc ++ [r.normalize] ++ pre.map Route.normalize) q.normalize e := by
      constructor
      · rintro ⟨_ | ⟨p, pre⟩, q, post, hrs, hreg, href⟩
        · simp only [List.nil_append, List.cons.injEq] at hrs
          obtain ⟨rfl, -⟩ := hrs
          simpa using Or.inl href
        · simp only [List.cons_append, List.cons.injEq] at hrs
          obtain ⟨rfl, rfl⟩ := hrs
          exact .inr ⟨pre, q, post, rfl, by simpa using hreg, by simpa using href⟩
      · rintro (href | ⟨pre, q, post, rfl, hreg, href⟩)
        · exact ⟨[], r, rs, rfl, by simpa using hacc, by simpa using href⟩
        · exact ⟨r :: pre, q, post, rfl, by simpa using hreg, by simpa using href⟩
    rw [hsplit]
    rcases addAll_cons_cases hacc r rs with ⟨hj, hrun⟩ | ⟨e', href, hrun, hj⟩
    · rw [hrun, ih hj]
      simp [not_refused_of_registrable hj]
    · have hrest : ¬∃ pre q post, rs = pre ++ q :: post ∧
          Registrable (acc ++ [r.normalize] ++ pre.map Route.normalize) ∧
          Refused (acc ++ [r.normalize] ++ pre.map Route.normalize) q.normalize e :=
        fun ⟨_, _, _, _, hreg, _⟩ => hj hreg.append_left
      simp only [hrun, hrest, or_false, Except.error.injEq]
      exact ⟨fun h => h ▸ href, fun h => (href.unique h).symm ▸ rfl⟩

theorem registrable_nil : Registrable [] := ⟨by simp, by simp, by simp⟩

/-- **The table a list gives.** A list of routes forms a table exactly when it is not
empty and its normalised routes are registrable; the table holds them in order. -/
theorem build_eq_ok_iff (rs : List Route) (t : RouteTable) :
    build rs = .ok t ↔
      rs ≠ [] ∧ Registrable (rs.map Route.normalize) ∧ t.routes = rs.map Route.normalize := by
  have hok := addAll_eq_ok_iff registrable_nil rs
  simp only [List.nil_append] at hok
  unfold build
  cases h : addAll [] rs with
  | error e =>
    have hreg : ¬Registrable (rs.map Route.normalize) := fun hr => by
      simpa [h] using (hok (rs.map Route.normalize)).2 ⟨rfl, hr⟩
    simp [bind, Except.bind, hreg]
  | ok out =>
    obtain ⟨rfl, hreg⟩ := (hok out).1 h
    cases rs with
    | nil => simp [bind, Except.bind]
    | cons r rs =>
      simp only [bind, Except.bind, List.map_cons, List.isEmpty_cons, Bool.false_eq_true,
        if_false, ne_eq, reduceCtorEq, not_false_eq_true, true_and]
      exact ⟨fun h => by cases h; exact ⟨by simpa using hreg, rfl⟩,
        fun h => by cases t; simp_all [pure, Except.pure]⟩

/-- **The first refused route.** A list of routes fails to form a table exactly when it is
empty, with the empty-table error, or when some route is refused by the normalised routes
before it, which are registrable, with that route's error. -/
theorem build_eq_error_iff (rs : List Route) (e : TableError) :
    build rs = .error e ↔
      (rs = [] ∧ e = .empty) ∨
        ∃ pre r post, rs = pre ++ r :: post ∧ Registrable (pre.map Route.normalize) ∧
          Refused (pre.map Route.normalize) r.normalize e := by
  have herr := addAll_eq_error_iff registrable_nil rs e
  simp only [List.nil_append] at herr
  rw [← herr]
  unfold build
  cases h : addAll [] rs with
  | error e' =>
    -- the empty list is accepted by the loop, so it is not the one refused here
    have hne : rs ≠ [] := by rintro rfl; simp [addAll] at h
    simp [bind, Except.bind, hne]
  | ok out =>
    obtain ⟨rfl, -⟩ := (addAll_eq_ok_iff registrable_nil rs out).1 h
    cases rs with
    | nil => simp [bind, Except.bind, eq_comm]
    | cons r rs => simp [bind, Except.bind, pure, Except.pure]

/-- A find by a field whose values are distinct finds exactly the member with the value. -/
theorem find?_eq_some_iff_of_nodup {α β : Type} [DecidableEq β] {f : α → β} {l : List α}
    (hl : (l.map f).Nodup) {b : β} {a : α} :
    l.find? (fun x => decide (f x = b)) = some a ↔ a ∈ l ∧ f a = b := by
  constructor
  · intro h
    exact ⟨List.mem_of_find?_eq_some h, by simpa using List.find?_some h⟩
  · rintro ⟨ha, rfl⟩
    cases hf : l.find? (fun x => decide (f x = f a)) with
    | none => exact absurd (List.find?_eq_none.1 hf a ha) (by simp)
    | some a' =>
      -- the member found has the same value, so it is the same member
      have he : f a' = f a := by simpa using List.find?_some hf
      rw [List.inj_on_of_nodup_map hl (List.mem_of_find?_eq_some hf) ha he]

/-- A lookup finds exactly the route whose key is the method, uppercased, a space and the
path – whatever the method holds. -/
theorem lookup_eq_some_iff {t : RouteTable} (ht : Registrable t.routes) (m p : String)
    (r : Route) : t.lookup m p = some r ↔ r ∈ t.routes ∧ r.key = toUpper m ++ " " ++ p :=
  find?_eq_some_iff_of_nodup ((nodup_keys_iff ht.valid).2 ht.bindings)

/-- For a method without a space, a lookup finds exactly the route with that method,
uppercased, and that path. -/
theorem lookup_eq_some_iff_binding {t : RouteTable} (ht : Registrable t.routes) {m : String}
    (hm : ' ' ∉ (toUpper m).toList) (p : String) (r : Route) :
    t.lookup m p = some r ↔ r ∈ t.routes ∧ r.method = toUpper m ∧ r.path = p := by
  rw [lookup_eq_some_iff ht]
  constructor
  · rintro ⟨hr, hk⟩
    exact ⟨hr, (Route.key_eq_iff (space_not_mem_of_allowed
      (Route.method_mem_of_valid (ht.valid r hr))) hm).1 hk⟩
  · rintro ⟨hr, hkm⟩
    exact ⟨hr, (Route.key_eq_iff (space_not_mem_of_allowed
      (Route.method_mem_of_valid (ht.valid r hr))) hm).2 hkm⟩

/-- A find by name finds exactly the route of that name. -/
theorem byName_eq_some_iff {t : RouteTable} (ht : Registrable t.routes) (n : String) (r : Route) :
    t.byName n = some r ↔ r ∈ t.routes ∧ r.name = n :=
  find?_eq_some_iff_of_nodup ht.names

/-- **Registering routes.** For any list of routes: a table is built exactly when the list
is not empty and its normalised routes are registrable, and otherwise the error is the one
of the first route refused by the routes before it, or the empty table. A table that is
built holds the normalised routes in order; a lookup finds exactly the route whose key is
the uppercased method, a space and the path, which for a method without a space is the
route with that method and path; a find by name finds exactly the route of that name; and
no route binds one of the server's own paths, with or without a trailing slash. -/
theorem build_registers (rs : List Route) :
    ((∃ t, build rs = .ok t) ↔ rs ≠ [] ∧ Registrable (rs.map Route.normalize)) ∧
      (∀ e, build rs = .error e → (rs = [] ∧ e = .empty) ∨
        ∃ pre r post, rs = pre ++ r :: post ∧ Registrable (pre.map Route.normalize) ∧
          Refused (pre.map Route.normalize) r.normalize e) ∧
      ∀ t, build rs = .ok t →
        t.routes = rs.map Route.normalize ∧
        (∀ m p r, t.lookup m p = some r ↔ r ∈ t.routes ∧ r.key = toUpper m ++ " " ++ p) ∧
        (∀ m p r, ' ' ∉ (toUpper m).toList →
          (t.lookup m p = some r ↔ r ∈ t.routes ∧ r.method = toUpper m ∧ r.path = p)) ∧
        (∀ n r, t.byName n = some r ↔ r ∈ t.routes ∧ r.name = n) ∧
        ∀ r ∈ t.routes, ∀ q ∈ reservedPaths, r.path ≠ q ∧ r.path ≠ q ++ "/" := by
  refine ⟨⟨?_, ?_⟩, fun e => (build_eq_error_iff rs e).1, fun t ht => ?_⟩
  · rintro ⟨t, ht⟩
    exact ((build_eq_ok_iff rs t).1 ht).imp_right And.left
  · rintro ⟨hne, hreg⟩
    exact ⟨⟨rs.map Route.normalize⟩, (build_eq_ok_iff rs _).2 ⟨hne, hreg, rfl⟩⟩
  obtain ⟨-, hreg, hroutes⟩ := (build_eq_ok_iff rs t).1 ht
  rw [← hroutes] at hreg
  exact ⟨hroutes, lookup_eq_some_iff hreg, fun m p r hm => lookup_eq_some_iff_binding hreg hm p r,
    byName_eq_some_iff hreg, fun r hr => Route.path_not_reserved (hreg.valid r hr)⟩

/-- A lookup whose method holds a space finds a route of another method: the method
`POST /a` and the path `b` join to the key of the route `POST /A b`. -/
theorem lookup_crosses_space :
    build [{ name := "upload", method := "POST", path := "/A b", topic := "t" }] =
        .ok ⟨[{ name := "upload", method := "POST", path := "/A b", topic := "t" }]⟩ ∧
      (⟨[{ name := "upload", method := "POST", path := "/A b", topic := "t" }]⟩ : RouteTable).lookup
          "POST /a" "b" = some { name := "upload", method := "POST", path := "/A b", topic := "t" } ∧
      toUpper "POST /a" ≠ "POST" := by
  refine ⟨?_, ?_, ?_⟩ <;> decide +kernel

end RouteTable

end TopicBridge.Bridge
