import Mathlib
import TopicBridge.Ingest.Record

/-!
# The headers of a record

A record of the log carries header pairs, in order, and may repeat a key or spell it in
another case. The request made from a record (`TopicBridge.Ingest.Record.request`) carries
them as a header map: each pair is added in turn, under the canonical form of its key, and
adding appends to the values already there.

The one thing to know is what one addition does (`TopicBridge.Net.Headers.values_add`): it
appends the value to the values of the canonical key and leaves every other key alone. It
keeps the keys distinct (`TopicBridge.Net.Headers.names_nodup_add`), and with distinct keys it
adds exactly one value to the map (`TopicBridge.Net.Headers.allValues_add`). A record's map is
those additions one after another from the empty map, so by induction over the pairs:

* the values of a canonical key are the values of exactly the pairs whose key has that
  canonical form, in the record's order;
* the keys are distinct, and they are the canonical forms of the record's keys;
* all the values together are the record's values, none lost and none repeated.

`TopicBridge.Ingest.Record.request_carries_headers` puts these together with the other
fields of the request.
-/

namespace TopicBridge.Net.Headers

/-! ### One addition -/

/-- The names of a header map, in the order they were first added. -/
def names (h : Headers) : List String := h.entries.map (·.1)

/-- All the values of a header map, name after name. -/
def allValues (h : Headers) : List String := h.entries.flatMap (·.2)

theorem values_eq (h : Headers) (k : String) :
    h.values k = ((h.entries.find? (·.1 = k)).map Prod.snd).getD [] := by
  unfold values
  split <;> rename_i hfind <;> simp [hfind]

/-- Appending to the values of one name keeps every name where it is, so a search by name
finds the updated entry where it found the old one. -/
theorem find?_map_append (es : List (String × List String)) (c k v : String) :
    (es.map fun e => if e.1 = c then (e.1, e.2 ++ [v]) else e).find? (·.1 = k) =
      (es.find? (·.1 = k)).map fun e => if e.1 = c then (e.1, e.2 ++ [v]) else e := by
  rw [List.find?_map]
  congr 1
  apply List.find?_congr
  intro e _
  simp only [Function.comp_apply]
  split <;> rfl

theorem any_key_iff_mem_names (es : List (String × List String)) (c : String) :
    (es.any (·.1 = c)) = true ↔ c ∈ (⟨es⟩ : Headers).names := by
  simp [names]

/-- **Adding a value appends it to the values of the canonical name**, and leaves the
values of every other name as they were. -/
theorem values_add (h : Headers) (name value k : String) :
    (h.add name value).values k =
      if canonicalName name = k then h.values k ++ [value] else h.values k := by
  obtain ⟨es⟩ := h
  simp only [add, values_eq]
  split
  · rename_i hany
    rw [find?_map_append]
    cases hf : es.find? (·.1 = k) with
    | none =>
      -- the name has an entry and `k` has none, so the name is not `k`
      have hne : canonicalName name ≠ k := by
        rintro rfl
        obtain ⟨e, he, hek⟩ := List.any_eq_true.1 hany
        exact List.find?_eq_none.1 hf e he hek
      simp [hne]
    | some e =>
      have hk : e.1 = k := by simpa using List.find?_some hf
      by_cases hc : canonicalName name = k
      · simp [hk, hc]
      · simp [hk, hc, Ne.symm hc]
  · rename_i hany
    rw [List.find?_append]
    cases hf : es.find? (·.1 = k) with
    | none => by_cases hc : canonicalName name = k <;> simp [hc]
    | some e =>
      have hk : e.1 = k := by simpa using List.find?_some hf
      have hne : canonicalName name ≠ k := by
        rintro rfl
        exact hany (List.any_eq_true.2 ⟨e, List.mem_of_find?_eq_some hf, by simpa using hk⟩)
      simp [hne]

theorem names_add (h : Headers) (name value : String) :
    (h.add name value).names =
      if canonicalName name ∈ h.names then h.names else h.names ++ [canonicalName name] := by
  obtain ⟨es⟩ := h
  simp only [add]
  split
  · rename_i hany
    rw [if_pos ((any_key_iff_mem_names es _).1 hany)]
    simp only [names, List.map_map]
    apply List.map_congr_left
    intro e _
    simp only [Function.comp_apply]
    split <;> rfl
  · rename_i hany
    rw [if_neg (mt (any_key_iff_mem_names es _).2 hany)]
    simp [names]

theorem mem_names_add {h : Headers} {name value k : String} :
    k ∈ (h.add name value).names ↔ k ∈ h.names ∨ canonicalName name = k := by
  rw [names_add]
  split
  · rename_i hc
    exact ⟨Or.inl, fun hk => hk.elim id fun h => h ▸ hc⟩
  · simp [eq_comm]

theorem names_nodup_add {h : Headers} (hn : h.names.Nodup) (name value : String) :
    (h.add name value).names.Nodup := by
  rw [names_add]
  split
  · exact hn
  · rename_i hc
    have hfresh : ∀ a ∈ h.names, a ≠ canonicalName name := fun a ha hac => hc (hac ▸ ha)
    exact List.nodup_append.2 ⟨hn, List.nodup_singleton _, by simpa using hfresh⟩

/-- Appending to the one entry of a name adds the value to all the values, up to order. -/
theorem flatMap_map_append {es : List (String × List String)} {c : String}
    (hn : (es.map (·.1)).Nodup) (hc : c ∈ es.map (·.1)) (v : String) :
    List.Perm ((es.map fun e => if e.1 = c then (e.1, e.2 ++ [v]) else e).flatMap (·.2))
      (es.flatMap (·.2) ++ [v]) := by
  induction es with
  | nil => simp at hc
  | cons e es ih =>
    rw [List.map_cons, List.nodup_cons] at hn
    by_cases he : e.1 = c
    · -- the only entry of the name: the rest is left as it is
      have hrest : (es.map fun e => if e.1 = c then (e.1, e.2 ++ [v]) else e) = es := by
        refine (List.map_congr_left fun e' he' => ?_).trans (List.map_id es)
        have : e'.1 ≠ c := fun h => hn.1 (he ▸ h ▸ List.mem_map_of_mem he')
        simp [this]
      simp only [List.map_cons, he, if_true, List.flatMap_cons, hrest]
      rw [List.append_assoc, List.append_assoc]
      exact List.perm_append_comm.append_left e.2
    · have hc' : c ∈ es.map (·.1) := by
        simp only [List.map_cons, List.mem_cons] at hc
        exact hc.resolve_left fun h => he h.symm
      simp only [List.map_cons, he, if_false, List.flatMap_cons, List.append_assoc]
      exact (ih hn.2 hc').append_left e.2

/-- **With distinct names, an addition adds exactly its value** to the values of the map. -/
theorem allValues_add {h : Headers} (hn : h.names.Nodup) (name value : String) :
    List.Perm (h.add name value).allValues (h.allValues ++ [value]) := by
  obtain ⟨es⟩ := h
  simp only [add, allValues]
  split
  · exact flatMap_map_append hn ((any_key_iff_mem_names es _).1 ‹_›) value
  · simp

/-! ### Pairs added in order -/

/-- Adds header pairs in order, each value read as text. -/
def addPairs (h : Headers) (ps : List (String × ByteArray)) : Headers :=
  ps.foldl (fun h p => h.add p.1 (Text.ofBytes p.2)) h

@[simp] theorem addPairs_nil (h : Headers) : h.addPairs [] = h := rfl

theorem addPairs_cons (h : Headers) (p : String × ByteArray) (ps : List (String × ByteArray)) :
    h.addPairs (p :: ps) = (h.add p.1 (Text.ofBytes p.2)).addPairs ps := rfl

theorem values_addPairs (h : Headers) (ps : List (String × ByteArray)) (k : String) :
    (h.addPairs ps).values k =
      h.values k ++ (ps.filter fun p => canonicalName p.1 = k).map fun p => Text.ofBytes p.2 := by
  induction ps generalizing h with
  | nil => simp
  | cons p ps ih =>
    rw [addPairs_cons, ih, values_add]
    by_cases hp : canonicalName p.1 = k <;> simp [hp]

theorem names_nodup_addPairs {h : Headers} (hn : h.names.Nodup) (ps : List (String × ByteArray)) :
    (h.addPairs ps).names.Nodup := by
  induction ps generalizing h with
  | nil => exact hn
  | cons p ps ih => exact ih (names_nodup_add hn _ _)

theorem mem_names_addPairs (h : Headers) (ps : List (String × ByteArray)) (k : String) :
    k ∈ (h.addPairs ps).names ↔ k ∈ h.names ∨ ∃ p ∈ ps, canonicalName p.1 = k := by
  induction ps generalizing h with
  | nil => simp
  | cons p ps ih =>
    rw [addPairs_cons, ih, mem_names_add]
    simp only [List.mem_cons, exists_eq_or_imp]
    tauto

theorem allValues_addPairs {h : Headers} (hn : h.names.Nodup) (ps : List (String × ByteArray)) :
    List.Perm (h.addPairs ps).allValues (h.allValues ++ ps.map fun p => Text.ofBytes p.2) := by
  induction ps generalizing h with
  | nil => simp
  | cons p ps ih =>
    rw [addPairs_cons, List.map_cons, ← List.singleton_append, ← List.append_assoc]
    exact (ih (names_nodup_add hn _ _)).trans ((allValues_add hn _ _).append_right _)

end TopicBridge.Net.Headers

namespace TopicBridge.Ingest

open TopicBridge.Net TopicBridge.Bridge

/-! ### The request of a record -/

theorem Record.headerMap_eq (r : Record) : r.headerMap = ({} : Headers).addPairs r.headers := rfl

/-- **The request of a record carries its headers.** Under each canonical key stand the
values of exactly the record's pairs whose key has that canonical form, in the record's
order; the keys are distinct and are the canonical forms of the record's keys; all the
values together are the record's values, as many as it has pairs. The request has the
route's method and path, the id `topic/partition/offset`, the remote address `kafka`, and
the record's value as its body. -/
theorem Record.request_carries_headers (r : Record) (route : Route) :
    (∀ k, r.headerMap.values k =
        (r.headers.filter fun p => canonicalName p.1 = k).map fun p => Text.ofBytes p.2) ∧
      r.headerMap.names.Nodup ∧
      (∀ k, k ∈ r.headerMap.names ↔ ∃ p ∈ r.headers, canonicalName p.1 = k) ∧
      List.Perm r.headerMap.allValues (r.headers.map fun p => Text.ofBytes p.2) ∧
      r.headerMap.allValues.length = r.headers.length ∧
      (r.request route).headers = some r.headerMap ∧
      (r.request route).method = route.method ∧ (r.request route).path = route.path ∧
      (r.request route).requestId =
        r.topic ++ "/" ++ toString r.partition ++ "/" ++ toString r.offset ∧
      (r.request route).remoteAddr = "kafka" ∧ (r.request route).body = r.value := by
  have hnil : ({} : Headers).names.Nodup := List.nodup_nil
  have hperm := Headers.allValues_addPairs hnil r.headers
  rw [← Record.headerMap_eq] at hperm
  refine ⟨fun k => ?_, ?_, fun k => ?_, ?_, hperm.length_eq.trans (by simp [Headers.allValues]),
    rfl, rfl, rfl, rfl, rfl, rfl⟩
  · -- the empty map has no values, so only the record's pairs count
    rw [Record.headerMap_eq, Headers.values_addPairs]
    rfl
  · exact Headers.names_nodup_addPairs hnil r.headers
  · rw [Record.headerMap_eq, Headers.mem_names_addPairs]
    simp [Headers.names]
  · simpa [Headers.allValues] using hperm

/-- Keys that differ only in case are one key, and its values keep the record's order. -/
example : ({ headers := [("content-type", "application/json".toUTF8), ("x-trace", "a".toUTF8),
    ("X-TRACE", "b".toUTF8)] } : Record).headerMap.values "X-Trace" = ["a", "b"] := by
  decide +kernel

end TopicBridge.Ingest
