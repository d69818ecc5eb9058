import Mathlib
import TopicBridge.Proofs.RouteRegistration

/-!
# Twin names and the table of twin routes

Every twin adds one route, `POST /twins/<name>`, publishing to `<name>-to-real` and named
`<name>-int-virtual-real` cut to 63 bytes; its relay is named `<name>-int-real-virtual`, cut
the same way. A twin name is a label of at most 63 bytes, so the names derived from it are
cut only when the twin name is longer than 46 bytes.

## The table of twin routes

`TopicBridge.Bridge.twin_routes_table`: for names that are accepted and distinct once
trimmed, the settings give a table exactly when there is at least one twin and the derived
route names are distinct; the table then holds the twin routes in the order of the names.
Paths are always distinct, since the path holds the whole name. Route names are distinct
when every name is at most 46 bytes, and so are the relay names; but cutting can make two
accepted names give one derived name (`TopicBridge.Bridge.long_twin_names_collide`): a
name of 46 bytes and the same name followed by the 17 bytes of the suffix, which is again
a label, give the same route name, and the table is refused.

## Cutting ASCII text

Twin names and their suffixes are ASCII, where each character is one byte: cutting such a
text to `n` bytes keeps its first `n` characters (`TopicBridge.Text.truncateBytes_ascii`).
-/

namespace TopicBridge.Text

/-! ### Bytes of ASCII text -/

/-- The loop that lists a byte array has listed the bytes before `i`, reversed, into `r`. -/
theorem toList_loop_eq (bs : ByteArray) (i : Nat) (r : List UInt8) :
    ByteArray.toList.loop bs i r = r.reverse ++ bs.data.toList.drop i := by
  fun_induction ByteArray.toList.loop bs i r with
  | case1 i r h ih =>
    rw [ih]
    have hi : i < bs.data.toList.length := by simpa using h
    rw [List.drop_eq_getElem_cons hi]
    simp [ByteArray.get!, getElem!_pos bs.data i (by simpa using h)]
  | case2 i r h =>
    have hi : bs.data.toList.length ≤ i := by simpa using h
    simp [List.drop_eq_nil_of_le hi]

/-- The UTF-8 bytes of a text are the encodings of its characters, in order. -/
theorem toUTF8_toList (s : String) : s.toUTF8.toList = s.toList.flatMap String.utf8EncodeChar := by
  have h : s.toUTF8 = s.toList.utf8Encode := by
    rw [String.toUTF8_eq_toByteArray, ← String.toByteArray_ofList, String.ofList_toList]
  rw [ByteArray.toList, toList_loop_eq, h, List.utf8Encode]
  simp

section Ascii

variable {c : Char} {cs : List Char}

theorem utf8Size_ascii (h : c.toNat < 128) : c.utf8Size = 1 :=
  Char.utf8Size_eq_one_iff.2 (by rw [UInt32.le_iff_toNat_le]; exact Nat.le_of_lt_succ h)

theorem toNat_toUInt8_ascii (h : c.toNat < 128) : c.val.toUInt8.toNat = c.toNat := by
  rw [UInt32.toNat_toUInt8]
  exact Nat.mod_eq_of_lt (Nat.lt_trans h (by norm_num))

/-- ASCII characters are encoded as one byte each. -/
theorem flatMap_utf8EncodeChar_ascii (h : ∀ c ∈ cs, c.toNat < 128) :
    cs.flatMap String.utf8EncodeChar = cs.map fun c => c.val.toUInt8 := by
  induction cs with
  | nil => rfl
  | cons c cs ih =>
    rw [List.flatMap_cons, List.map_cons,
      String.utf8EncodeChar_eq_singleton (utf8Size_ascii (h c List.mem_cons_self)),
      ih (fun c hc => h c (List.mem_cons_of_mem _ hc))]
    rfl

/-- The bytes of ASCII characters read back as the same characters. -/
theorem decodeLenient_ascii (h : ∀ c ∈ cs, c.toNat < 128) :
    decodeLenient (cs.map fun c => c.val.toUInt8) = cs := by
  induction cs with
  | nil => simp [decodeLenient]
  | cons c cs ih =>
    have hc := h c List.mem_cons_self
    have hb : c.val.toUInt8 < 0x80 := by
      rw [UInt8.lt_iff_toNat_lt, toNat_toUInt8_ascii hc]
      simpa using hc
    rw [List.map_cons, decodeLenient.eq_def]
    simp only [hb, if_true, toNat_toUInt8_ascii hc, Char.ofNat_toNat,
      ih (fun c hc' => h c (List.mem_cons_of_mem _ hc'))]

theorem utf8Len_ascii (h : ∀ c ∈ cs, c.toNat < 128) : String.utf8Len cs = cs.length := by
  induction cs with
  | nil => rfl
  | cons c cs ih =>
    rw [String.utf8Len_cons, ih (fun c hc => h c (List.mem_cons_of_mem _ hc)),
      utf8Size_ascii (h c List.mem_cons_self), List.length_cons]

/-- An ASCII text has one byte per character. -/
theorem utf8ByteSize_ascii {s : String} (h : ∀ c ∈ s.toList, c.toNat < 128) :
    s.utf8ByteSize = s.toList.length := by
  rw [← utf8Len_ascii h, ← String.utf8ByteSize_ofList, String.ofList_toList]

/-- **Cutting ASCII text** to `n` bytes keeps its first `n` characters. -/
theorem truncateBytes_ascii {s : String} (h : ∀ c ∈ s.toList, c.toNat < 128) (n : Nat) :
    truncateBytes s n = String.ofList (s.toList.take n) := by
  unfold truncateBytes
  split
  · next hle =>
    rw [utf8ByteSize_ascii h] at hle
    rw [List.take_of_length_le hle, String.ofList_toList]
  · rw [toUTF8_toList, flatMap_utf8EncodeChar_ascii h, ← List.map_take,
      decodeLenient_ascii (fun c hc => h c (List.mem_of_mem_take hc))]

end Ascii

/-- A text of at most `n` bytes is not cut. -/
theorem truncateBytes_of_le {s : String} {n : Nat} (h : s.utf8ByteSize ≤ n) :
    truncateBytes s n = s := by
  simp [truncateBytes, h]

end TopicBridge.Text

namespace TopicBridge.Bridge

open TopicBridge.Text

/-! ### Labels -/

section Labels

variable {c : Char}

/-- A label character is a lower-case letter, a digit or `-`, by code point. -/
theorem isLabelChar_toNat (h : isLabelChar c = true) :
    (97 ≤ c.toNat ∧ c.toNat ≤ 122) ∨ (48 ≤ c.toNat ∧ c.toNat ≤ 57) ∨ c.toNat = 45 := by
  simp only [isLabelChar, isLabelEnd, Bool.or_eq_true, Bool.and_eq_true, decide_eq_true_eq,
    beq_iff_eq] at h
  rcases h with (⟨h1, h2⟩ | ⟨h1, h2⟩) | rfl
  · exact .inl ⟨h1, h2⟩
  · exact .inr (.inl ⟨h1, h2⟩)
  · exact .inr (.inr rfl)

theorem isLabelChar_ascii (h : isLabelChar c = true) : c.toNat < 128 := by
  have := isLabelChar_toNat h
  omega

/-- A letter or digit of a label, by code point. -/
theorem isLabelEnd_toNat (h : isLabelEnd c = true) :
    (97 ≤ c.toNat ∧ c.toNat ≤ 122) ∨ (48 ≤ c.toNat ∧ c.toNat ≤ 57) := by
  simp only [isLabelEnd, Bool.or_eq_true, Bool.and_eq_true, decide_eq_true_eq] at h
  rcases h with ⟨h1, h2⟩ | ⟨h1, h2⟩
  · exact .inl ⟨h1, h2⟩
  · exact .inr ⟨h1, h2⟩

theorem isLabelEnd_not_blank (h : isLabelEnd c = true) : isBlank c = false := by
  have hc := isLabelEnd_toNat h
  simp only [isBlank, Bool.or_eq_false_iff, Bool.and_eq_false_iff, beq_eq_false_iff_ne,
    decide_eq_false_iff_not, Nat.not_le]
  omega

theorem isLabelChar_not_wildcard (h : isLabelChar c = true) : isWildcardChar c = false := by
  have hc := isLabelChar_toNat h
  have h43 : c ≠ '+' := fun he => by subst he; simp at hc
  have h35 : c ≠ '#' := fun he => by subst he; simp at hc
  simp only [isWildcardChar, Bool.or_eq_false_iff, beq_eq_false_iff_ne]
  exact ⟨⟨h43, h35⟩, by omega⟩

/-- A label is its first character, a letter or digit, followed by label characters. -/
theorem isLabel_eq_true_iff {s : String} :
    isLabel s = true ↔ ∃ c rest, s.toList = c :: rest ∧ isLabelEnd c = true ∧
      rest.all isLabelChar = true ∧ rest.getLast?.all isLabelEnd = true := by
  unfold isLabel
  split <;> simp_all [and_assoc]

theorem label_chars {s : String} (h : isLabel s = true) : ∀ c ∈ s.toList, isLabelChar c = true := by
  obtain ⟨c, rest, hs, hc, hrest, -⟩ := isLabel_eq_true_iff.1 h
  rw [hs]
  intro d hd
  rcases List.mem_cons.1 hd with rfl | hd
  · simp [isLabelChar, hc]
  · exact List.all_eq_true.1 hrest d hd

/-- A twin name is accepted exactly when it is a label of at most 63 bytes. -/
theorem checkTwinName_eq_ok_iff {n : String} :
    checkTwinName n = .ok () ↔ n.utf8ByteSize ≤ 63 ∧ isLabel n = true := by
  unfold checkTwinName
  split_ifs <;> simp_all [maxNameBytes, isLabel]

end Labels

/-! ### The route of a twin -/

/-- The route of a twin whose (trimmed) name is accepted. -/
def twinRouteOf (name : String) : Route where
  name := truncateName (name ++ "-int-virtual-real")
  method := "POST"
  path := "/twins/" ++ name
  topic := name ++ "-to-real"
  log := { verbosity := .full, multiline := true }

theorem twinRoute_eq_ok_iff {raw : String} {r : Route} :
    twinRoute raw = .ok r ↔ checkTwinName (trimBlank raw) = .ok () ∧ r = twinRouteOf (trimBlank raw) := by
  unfold twinRoute
  cases h : checkTwinName (trimBlank raw) <;>
    simp [h, bind, Except.bind, pure, Except.pure, eq_comm, twinRouteOf]

/-- Labels and the suffixes added to them are ASCII. -/
theorem ascii_append_of_label {n : String} (h : isLabel n = true) (suffix : String)
    (hs : ∀ c ∈ suffix.toList, c.toNat < 128) : ∀ c ∈ (n ++ suffix).toList, c.toNat < 128 := by
  intro c hc
  rw [String.toList_append, List.mem_append] at hc
  rcases hc with hc | hc
  · exact isLabelChar_ascii (label_chars h c hc)
  · exact hs c hc

/-- The derived name of an accepted twin name begins with the name's first character, so
it is never blank. -/
theorem isBlankText_truncateName {n suffix : String} (h : isLabel n = true)
    (hs : ∀ c ∈ suffix.toList, c.toNat < 128) : isBlankText (truncateName (n ++ suffix)) = false := by
  obtain ⟨c, rest, hn, hc, -, -⟩ := isLabel_eq_true_iff.1 h
  rw [truncateName, truncateBytes_ascii (ascii_append_of_label h suffix hs), maxNameBytes,
    isBlankText, String.toList_ofList, String.toList_append, hn]
  simp [isLabelEnd_not_blank hc]

/-- The path of a twin route names none of the server's own paths: it begins with `/t`. -/
theorem isReservedPath_twins (n : String) : isReservedPath ("/twins/" ++ n) = false := by
  have hlen : 2 < ("/twins/" ++ n).toList.length := by
    simp [String.toList_append]
  have hpre : ("/twins/" ++ n).toList.take 2 = ['/', 't'] := by
    simp [String.toList_append]
  -- cutting a trailing slash keeps the first two characters
  have hcut : (dropTrailingSlash ("/twins/" ++ n)).toList.take 2 = ['/', 't'] := by
    unfold dropTrailingSlash
    split
    · rw [String.toList_ofList, List.dropLast_eq_take, List.take_take]
      rw [show min 2 (("/twins/" ++ n).toList.length - 1) = 2 by omega, hpre]
    · exact hpre
  unfold isReservedPath
  simp only [reservedPaths, List.contains_eq_any_beq, List.any_cons, List.any_nil, Bool.or_false,
    Bool.or_eq_false_iff, beq_eq_false_iff_ne]
  refine ⟨?_, ?_, ?_, ?_⟩ <;> intro he <;> rw [he] at hcut <;> exact absurd hcut (by decide)

/-- The topic of an accepted twin name can be published to. -/
theorem checkTopic_twins {n : String} (hn : n ≠ "") (h : isLabel n = true) :
    checkTopic (n ++ "-to-real") = .ok () := by
  have hne : n ++ "-to-real" ≠ "" := by
    intro he
    exact hn (String.ext (by simpa [String.toList_append] using congrArg String.toList he))
  have hw : n.toList.any isWildcardChar = false :=
    List.any_eq_false.2 fun c hc => by simp [isLabelChar_not_wildcard (label_chars h c hc)]
  have hsuffix : "-to-real".toList.any isWildcardChar = false := by decide
  rw [checkTopic, if_neg hne, String.toList_append, List.any_append, hw, hsuffix]
  rfl

/-- The route of an accepted twin name is valid. -/
theorem twinRouteOf_valid {n : String} (h : checkTwinName n = .ok ()) :
    (twinRouteOf n).validate = .ok () := by
  obtain ⟨-, hl⟩ := checkTwinName_eq_ok_iff.1 h
  have hn : n ≠ "" := by rintro rfl; simp [isLabel] at hl
  rw [Route.validate_eq_ok_iff]
  refine ⟨isBlankText_truncateName hl (by simp), by simp [twinRouteOf, allowedMethods],
    by simp [twinRouteOf], isReservedPath_twins n, checkTopic_twins hn hl, by simp [twinRouteOf]⟩

/-- A twin route is already normalised: its method is `POST`. -/
theorem twinRouteOf_normalize (n : String) : (twinRouteOf n).normalize = twinRouteOf n := by
  have h : toUpper (trimBlank "POST") = "POST" := by decide
  simp only [Route.normalize, twinRouteOf, h]

/-- Twin routes have the same binding only for the same name. -/
theorem twinRouteOf_binding_inj {a b : String}
    (h : (twinRouteOf a).binding = (twinRouteOf b).binding) : a = b := by
  simp only [twinRouteOf, Route.binding, Prod.mk.injEq, true_and] at h
  exact String.ext (by simpa [String.toList_append] using congrArg String.toList h)

/-! ### The table of twin routes -/

/-- The derived name of a twin route. -/
theorem twinRouteOf_name (n : String) :
    (twinRouteOf n).name = truncateName (n ++ "-int-virtual-real") := rfl

/-- Accepted names give their twin routes, in order. -/
theorem twinRoutes_eq_ok {names : List String} (hok : ∀ n ∈ names, ∃ r, twinRoute n = .ok r) :
    twinRoutes names = .ok (names.map fun n => twinRouteOf (trimBlank n)) := by
  induction names with
  | nil => rfl
  | cons n rest ih =>
    obtain ⟨r, hr⟩ := hok n List.mem_cons_self
    obtain ⟨-, rfl⟩ := twinRoute_eq_ok_iff.1 hr
    rw [twinRoutes, hr, ih (fun m hm => hok m (List.mem_cons_of_mem _ hm))]
    rfl

/-- The settings of twins alone give the table of their twin routes. -/
theorem ofSettings_twins {names : List String} (hok : ∀ n ∈ names, ∃ r, twinRoute n = .ok r) :
    RouteTable.ofSettings { twins := names } =
      (RouteTable.build (names.map fun n => twinRouteOf (trimBlank n))).mapError .table := by
  simp [RouteTable.ofSettings, routesOfSections, twinRoutes_eq_ok hok, bind, Except.bind]

/-- The twin routes of accepted names that are distinct once trimmed can stand in one
table exactly when their derived names are distinct. -/
theorem registrable_twinRoutes {names : List String} (hok : ∀ n ∈ names, ∃ r, twinRoute n = .ok r)
    (hdistinct : (names.map trimBlank).Nodup) :
    Registrable (names.map fun n => twinRouteOf (trimBlank n)) ↔
      (names.map fun n => truncateName (trimBlank n ++ "-int-virtual-real")).Nodup := by
  have hvalid : ∀ r ∈ names.map (fun n => twinRouteOf (trimBlank n)), r.validate = .ok () := by
    simp only [List.mem_map]
    rintro _ ⟨n, hn, rfl⟩
    obtain ⟨r, hr⟩ := hok n hn
    exact twinRouteOf_valid (twinRoute_eq_ok_iff.1 hr).1
  -- the paths hold the whole names, so the bindings are as distinct as the names
  have hbind : ((names.map fun n => twinRouteOf (trimBlank n)).map Route.binding).Nodup := by
    have h : (names.map fun n => twinRouteOf (trimBlank n)).map Route.binding =
        (names.map trimBlank).map fun n => (twinRouteOf n).binding := by
      simp [List.map_map, Function.comp_def]
    rw [h]
    exact hdistinct.map fun a b hab => twinRouteOf_binding_inj hab
  constructor
  · intro h
    simpa [List.map_map, Function.comp_def, twinRouteOf_name] using h.names
  · intro h
    exact ⟨hvalid, hbind, by simpa [List.map_map, Function.comp_def, twinRouteOf_name] using h⟩

/-! ### Names near the limit -/

theorem append_right_cancel {a b s : String} (h : a ++ s = b ++ s) : a = b := by
  have hl : a.toList ++ s.toList = b.toList ++ s.toList := by
    simpa [String.toList_append] using congrArg String.toList h
  exact String.ext (List.append_cancel_right hl)

/-- A name of at most 46 bytes is not cut when one of the 17-byte suffixes is added. -/
theorem truncateName_append_of_le {n suffix : String} (hn : n.utf8ByteSize ≤ 46)
    (hs : suffix.utf8ByteSize = 17) : truncateName (n ++ suffix) = n ++ suffix := by
  apply truncateBytes_of_le
  rw [String.utf8ByteSize_append, hs, maxNameBytes]
  omega

/-- On names of at most 46 bytes, adding a 17-byte suffix and cutting is one to one. -/
theorem truncateName_append_inj {a b suffix : String} (ha : a.utf8ByteSize ≤ 46)
    (hb : b.utf8ByteSize ≤ 46) (hs : suffix.utf8ByteSize = 17)
    (h : truncateName (a ++ suffix) = truncateName (b ++ suffix)) : a = b := by
  rw [truncateName_append_of_le ha hs, truncateName_append_of_le hb hs] at h
  exact append_right_cancel h

/-- Names of at most 46 bytes that are distinct once trimmed give distinct route names. -/
theorem nodup_routeNames_of_short {names : List String} (hdistinct : (names.map trimBlank).Nodup)
    (hshort : ∀ n ∈ names, (trimBlank n).utf8ByteSize ≤ 46) :
    (names.map fun n => truncateName (trimBlank n ++ "-int-virtual-real")).Nodup := by
  have h : (names.map fun n => truncateName (trimBlank n ++ "-int-virtual-real")) =
      (names.map trimBlank).map fun n => truncateName (n ++ "-int-virtual-real") := by
    simp [List.map_map, Function.comp_def]
  rw [h]
  refine hdistinct.map_on ?_
  simp only [List.mem_map]
  rintro _ ⟨x, hx, rfl⟩ _ ⟨y, hy, rfl⟩ he
  exact truncateName_append_inj (hshort x hx) (hshort y hy) (by decide) he

/-- **The table of twin routes.** For accepted twin names that are distinct once trimmed,
the settings of these twins give a table exactly when there is at least one twin and the
derived route names are distinct. The table then holds one twin route per name, in order
– path `/twins/<name>`, topic `<name>-to-real` – and its route names are distinct. The
derived route names are distinct when every name is at most 46 bytes, and names of at most
46 bytes have distinct relay names. -/
theorem twin_routes_table (names : List String) (hok : ∀ n ∈ names, ∃ r, twinRoute n = .ok r)
    (hdistinct : (names.map trimBlank).Nodup) :
    ((∃ t, RouteTable.ofSettings { twins := names } = .ok t) ↔
        names ≠ [] ∧ (names.map fun n => truncateName (trimBlank n ++ "-int-virtual-real")).Nodup) ∧
      (∀ t, RouteTable.ofSettings { twins := names } = .ok t →
        t.routes = names.map (fun n => twinRouteOf (trimBlank n)) ∧ (t.routes.map Route.name).Nodup) ∧
      ((∀ n ∈ names, (trimBlank n).utf8ByteSize ≤ 46) →
        (names.map fun n => truncateName (trimBlank n ++ "-int-virtual-real")).Nodup) ∧
      ∀ a b : String, a.utf8ByteSize ≤ 46 → b.utf8ByteSize ≤ 46 →
        twinRelayName a = twinRelayName b → a = b := by
  have hnorm : (names.map fun n => twinRouteOf (trimBlank n)).map Route.normalize =
      names.map fun n => twinRouteOf (trimBlank n) := by
    simp [List.map_map, Function.comp_def, twinRouteOf_normalize]
  -- the settings give a table exactly when the twin routes form one
  have htable : ∀ t, RouteTable.ofSettings { twins := names } = .ok t ↔
      names ≠ [] ∧ Registrable (names.map fun n => twinRouteOf (trimBlank n)) ∧
        t.routes = names.map fun n => twinRouteOf (trimBlank n) := by
    intro t
    rw [ofSettings_twins hok]
    cases hb : RouteTable.build (names.map fun n => twinRouteOf (trimBlank n)) with
    | error e =>
      have := (RouteTable.build_eq_ok_iff (names.map fun n => twinRouteOf (trimBlank n)) t).not.1
        (by simp [hb])
      simpa [Except.mapError, hnorm] using this
    | ok t' =>
      have := RouteTable.build_eq_ok_iff (names.map fun n => twinRouteOf (trimBlank n)) t
      simp only [hb, Except.ok.injEq, hnorm, ne_eq, List.map_eq_nil_iff] at this
      simpa [Except.mapError] using this
  refine ⟨⟨?_, ?_⟩, fun t ht => ?_, nodup_routeNames_of_short hdistinct, fun a b ha hb h =>
    truncateName_append_inj ha hb (by decide) h⟩
  · rintro ⟨t, ht⟩
    obtain ⟨hne, hreg, -⟩ := (htable t).1 ht
    exact ⟨hne, (registrable_twinRoutes hok hdistinct).1 hreg⟩
  · rintro ⟨hne, hnames⟩
    exact ⟨⟨_⟩, (htable _).2 ⟨hne, (registrable_twinRoutes hok hdistinct).2 hnames, rfl⟩⟩
  · obtain ⟨-, hreg, hroutes⟩ := (htable t).1 ht
    exact ⟨hroutes, hroutes ▸ hreg.names⟩

/-- Two twins, one given with blanks around its name, make a table of their two routes. -/
theorem boiler_and_pump_table :
    ∃ t, RouteTable.ofSettings { twins := ["boiler", " pump-1 "] } = .ok t ∧
      t.routes = [twinRouteOf "boiler", twinRouteOf "pump-1"] := by
  have h := twin_routes_table ["boiler", " pump-1 "]
    (by
      simp only [List.mem_cons, List.not_mem_nil, or_false, forall_eq_or_imp, forall_eq]
      exact ⟨⟨twinRouteOf "boiler", by decide +kernel⟩, ⟨twinRouteOf "pump-1", by decide +kernel⟩⟩)
    (by decide +kernel)
  obtain ⟨t, ht⟩ := h.1.2 ⟨by simp, by decide +kernel⟩
  refine ⟨t, ht, ?_⟩
  rw [(h.2.1 t ht).1]
  decide +kernel

/-- **Names near the limit collide.** The name of 46 `a`s and the same name followed by
`-int-virtual-real`, 63 bytes and again a label, are both accepted but give the same route
name, so their table is refused; likewise with `-int-real-virtual`, the two relay names
agree. -/
theorem long_twin_names_collide :
    checkTwinName (String.ofList (List.replicate 46 'a')) = .ok () ∧
      checkTwinName (String.ofList (List.replicate 46 'a') ++ "-int-virtual-real") = .ok () ∧
      RouteTable.ofSettings
          { twins := [String.ofList (List.replicate 46 'a'),
              String.ofList (List.replicate 46 'a') ++ "-int-virtual-real"] } =
        .error (.table (.duplicateName (String.ofList (List.replicate 46 'a') ++ "-int-virtual-real"))) ∧
      checkTwinName (String.ofList (List.replicate 46 'a') ++ "-int-real-virtual") = .ok () ∧
      twinRelayName (String.ofList (List.replicate 46 'a')) =
        twinRelayName (String.ofList (List.replicate 46 'a') ++ "-int-real-virtual") := by
  refine ⟨?_, ?_, ?_, ?_, ?_⟩ <;> decide +kernel

/-! ### Which names are accepted -/

/-- The class `[a-z0-9]`: a lower-case ASCII letter or a digit. -/
def Alnum (c : Char) : Prop := ('a' ≤ c ∧ c ≤ 'z') ∨ ('0' ≤ c ∧ c ≤ '9')

/-- The texts that the anchored pattern `^[a-z0-9]([-a-z0-9]*[a-z0-9])?$` matches: one
character of the class, alone or followed by a run of the class and `-` and one more
character of the class. -/
def LabelPattern (cs : List Char) : Prop :=
  ∃ c, Alnum c ∧
    (cs = [c] ∨ ∃ mid d, (∀ x ∈ mid, Alnum x ∨ x = '-') ∧ Alnum d ∧ cs = c :: mid ++ [d])

section Accepted

variable {c : Char} {rest cs : List Char}

theorem isLabelEnd_iff : isLabelEnd c = true ↔ Alnum c := by
  simp [isLabelEnd, Alnum]

theorem isLabelChar_iff : isLabelChar c = true ↔ Alnum c ∨ c = '-' := by
  simp [isLabelChar, isLabelEnd_iff]

/-- The last character of a text that starts with `c`. -/
theorem mem_getLast?_cons {x : Char} :
    x ∈ (c :: rest).getLast? ↔ x = rest.getLast?.getD c := by
  rw [List.getLast?_cons, Option.mem_def, Option.some_inj, eq_comm]

/-- The checks of a label, on its first character and the rest, in the words of its
character classes. -/
theorem label_checks_iff :
    (isLabelEnd c = true ∧ rest.all isLabelChar = true ∧ rest.getLast?.all isLabelEnd = true) ↔
      (∀ x ∈ c :: rest, Alnum x ∨ x = '-') ∧ Alnum c ∧ ∀ x ∈ (c :: rest).getLast?, Alnum x := by
  constructor
  · rintro ⟨hc, hrest, hlast⟩
    refine ⟨fun x hx => ?_, isLabelEnd_iff.1 hc, fun x hx => ?_⟩
    · rcases List.mem_cons.1 hx with rfl | hx
      · exact .inl (isLabelEnd_iff.1 hc)
      · exact isLabelChar_iff.1 (List.all_eq_true.1 hrest x hx)
    · rw [mem_getLast?_cons] at hx
      subst hx
      cases h : rest.getLast? with
      | none => exact isLabelEnd_iff.1 hc
      | some d =>
        rw [h] at hlast
        exact isLabelEnd_iff.1 hlast
  · rintro ⟨hall, hc, hlast⟩
    refine ⟨isLabelEnd_iff.2 hc,
      List.all_eq_true.2 fun x hx => isLabelChar_iff.2 (hall x (List.mem_cons_of_mem c hx)), ?_⟩
    cases h : rest.getLast? with
    | none => rfl
    | some d =>
      have hd := hlast d (mem_getLast?_cons.2 (by rw [h]; rfl))
      exact isLabelEnd_iff.2 hd

/-- **A label, in words**: a text of lower-case letters, digits and `-`, beginning and ending
with a letter or digit. -/
theorem isLabel_iff_chars {s : String} :
    isLabel s = true ↔ s ≠ "" ∧ (∀ c ∈ s.toList, Alnum c ∨ c = '-') ∧
      (∀ c ∈ s.toList.head?, Alnum c) ∧ ∀ c ∈ s.toList.getLast?, Alnum c := by
  rw [isLabel_eq_true_iff, ne_eq, ← String.toList_eq_nil_iff]
  cases s.toList with
  | nil => simp
  | cons c rest =>
    constructor
    · rintro ⟨c', rest', h, hchecks⟩
      obtain ⟨rfl, rfl⟩ := List.cons.inj h
      obtain ⟨hall, hc, hlast⟩ := label_checks_iff.1 hchecks
      exact ⟨List.cons_ne_nil c rest, hall, fun x hx => by rwa [← Option.some_inj.1 hx], hlast⟩
    · rintro ⟨-, hall, hhead, hlast⟩
      exact ⟨c, rest, rfl, label_checks_iff.2 ⟨hall, hhead c rfl, hlast⟩⟩

/-- The pattern's texts, in the words of their characters. -/
theorem labelPattern_iff :
    LabelPattern cs ↔ cs ≠ [] ∧ (∀ x ∈ cs, Alnum x ∨ x = '-') ∧ (∀ x ∈ cs.head?, Alnum x) ∧
      ∀ x ∈ cs.getLast?, Alnum x := by
  constructor
  · rintro ⟨c, hc, rfl | ⟨mid, d, hmid, hd, rfl⟩⟩
    · simp [hc]
    · refine ⟨by simp, fun x hx => ?_, by simpa using hc, fun x hx => ?_⟩
      · simp only [List.mem_append, List.mem_cons, List.not_mem_nil, or_false] at hx
        rcases hx with (rfl | hx) | rfl
        · exact .inl hc
        · exact hmid x hx
        · exact .inl hd
      · rw [List.getLast?_concat, Option.mem_def, Option.some_inj] at hx
        exact hx ▸ hd
  · rintro ⟨hne, hall, hhead, hlast⟩
    obtain ⟨c, rest, rfl⟩ := List.exists_cons_of_ne_nil hne
    refine ⟨c, hhead c rfl, ?_⟩
    -- one character, or a last character after a run
    rcases List.eq_nil_or_concat' rest with rfl | ⟨mid, d, rfl⟩
    · exact .inl rfl
    · refine .inr ⟨mid, d, fun x hx => hall x (by simp [hx]), hlast d ?_, rfl⟩
      rw [← List.cons_append, List.getLast?_concat]
      rfl

/-- A label is exactly a text that the anchored pattern matches. -/
theorem isLabel_iff_pattern {s : String} : isLabel s = true ↔ LabelPattern s.toList := by
  rw [isLabel_iff_chars, labelPattern_iff, ne_eq, ne_eq, String.toList_eq_nil_iff]

end Accepted

/-- A publish topic is non-empty and holds neither `+`, `#` nor NUL. -/
theorem checkTopic_eq_ok_iff {t : String} :
    checkTopic t = .ok () ↔ t ≠ "" ∧ ∀ c ∈ t.toList, c ≠ '+' ∧ c ≠ '#' ∧ c.toNat ≠ 0 := by
  unfold checkTopic
  by_cases he : t = ""
  · simp [he]
  · by_cases hw : t.toList.any isWildcardChar = true
    · obtain ⟨c, hc, hwc⟩ := List.any_eq_true.1 hw
      simp only [isWildcardChar, Bool.or_eq_true, beq_iff_eq] at hwc
      simp only [he, hw, if_false, if_true, reduceCtorEq, false_iff, not_and, not_forall]
      exact fun _ => ⟨c, hc, by tauto⟩
    · have hall : ∀ c ∈ t.toList, c ≠ '+' ∧ c ≠ '#' ∧ c.toNat ≠ 0 := fun c hc => by
        have := List.any_eq_false.1 (by simpa using hw) c hc
        simp only [isWildcardChar, Bool.or_eq_true, beq_iff_eq, not_or] at this
        exact ⟨this.1.1, this.1.2, this.2⟩
      simpa [he, hw] using hall

/-- A valid route whose method is already trimmed and upper-case makes a table alone. -/
theorem build_single {r : Route} (hv : r.validate = .ok ()) (hn : r.normalize = r) :
    RouteTable.build [r] = .ok ⟨[r]⟩ := by
  rw [RouteTable.build_eq_ok_iff]
  refine ⟨List.cons_ne_nil r [], ?_, by simp [hn]⟩
  rw [List.map_singleton, hn]
  exact ⟨by simpa using hv, by simp, by simp⟩

theorem twinIntegration_eq_ok_iff {raw : String} {i : TwinIntegration} :
    twinIntegration raw = .ok i ↔ ∃ r, twinRoute raw = .ok r ∧
      i = { toReal := r, relayName := twinRelayName (trimBlank raw),
            relayTopic := twinRelayTopic (trimBlank raw),
            eventType := twinEventType (trimBlank raw) } := by
  unfold twinIntegration
  cases h : twinRoute raw <;> simp [bind, Except.bind, pure, Except.pure, eq_comm]

/-- **Accepted twin names.** A twin name is accepted exactly when, once its blanks are cut,
it is non-empty, at most 63 bytes, made of lower-case letters, digits and `-`, and begins
and ends with a letter or digit, which is to say that the anchored pattern
`[a-z0-9]([-a-z0-9]*[a-z0-9])?` matches it. The route of an accepted name is valid: it binds
`POST /twins/<name>`, a path the server does not keep for itself, publishes to
`<name>-to-real`, a topic without `+`, `#` or NUL, with quality of service `0`, and it makes a
table alone. The integrations of a name are built exactly when its route is, with the relay
topic `<name>-to-virtual` and the event type `ktwin.real.<name>.generated`. -/
theorem twin_names_accepted (raw : String) :
    ((∃ r, twinRoute raw = .ok r) ↔
        trimBlank raw ≠ "" ∧ (trimBlank raw).utf8ByteSize ≤ 63 ∧
          (∀ c ∈ (trimBlank raw).toList, Alnum c ∨ c = '-') ∧
          (∀ c ∈ (trimBlank raw).toList.head?, Alnum c) ∧
          ∀ c ∈ (trimBlank raw).toList.getLast?, Alnum c) ∧
      ((∃ r, twinRoute raw = .ok r) ↔
        (trimBlank raw).utf8ByteSize ≤ 63 ∧ LabelPattern (trimBlank raw).toList) ∧
      (∀ r, twinRoute raw = .ok r →
        r.validate = .ok () ∧ r.method = "POST" ∧ r.path = "/twins/" ++ trimBlank raw ∧
          isReservedPath r.path = false ∧ r.topic = trimBlank raw ++ "-to-real" ∧
          (∀ c ∈ r.topic.toList, c ≠ '+' ∧ c ≠ '#' ∧ c.toNat ≠ 0) ∧ r.qos = 0 ∧
          RouteTable.build [r] = .ok ⟨[r]⟩) ∧
      ((∃ i, twinIntegration raw = .ok i) ↔ ∃ r, twinRoute raw = .ok r) ∧
      ∀ i, twinIntegration raw = .ok i →
        twinRoute raw = .ok i.toReal ∧ i.relayTopic = trimBlank raw ++ "-to-virtual" ∧
          i.eventType = "ktwin.real." ++ trimBlank raw ++ ".generated" := by
  set n := trimBlank raw
  have hok : (∃ r, twinRoute raw = .ok r) ↔ n.utf8ByteSize ≤ 63 ∧ isLabel n = true := by
    constructor
    · rintro ⟨r, hr⟩
      exact checkTwinName_eq_ok_iff.1 (twinRoute_eq_ok_iff.1 hr).1
    · intro h
      exact ⟨_, twinRoute_eq_ok_iff.2 ⟨checkTwinName_eq_ok_iff.2 h, rfl⟩⟩
  refine ⟨?_, by rw [hok, isLabel_iff_pattern], fun r hr => ?_, ?_, fun i hi => ?_⟩
  · rw [hok, isLabel_iff_chars]
    exact and_left_comm
  · obtain ⟨hcheck, rfl⟩ := twinRoute_eq_ok_iff.1 hr
    have hvalid := twinRouteOf_valid hcheck
    have htopic := ((Route.validate_eq_ok_iff _).1 hvalid).2.2.2.2.1
    refine ⟨hvalid, rfl, rfl, ?_, rfl, (checkTopic_eq_ok_iff.1 htopic).2, rfl, ?_⟩
    · exact isReservedPath_twins n
    · exact build_single hvalid (twinRouteOf_normalize n)
  · constructor
    · rintro ⟨i, hi⟩
      obtain ⟨r, hr, -⟩ := twinIntegration_eq_ok_iff.1 hi
      exact ⟨r, hr⟩
    · rintro ⟨r, hr⟩
      exact ⟨_, twinIntegration_eq_ok_iff.2 ⟨r, hr, rfl⟩⟩
  · obtain ⟨r, hr, rfl⟩ := twinIntegration_eq_ok_iff.1 hi
    exact ⟨hr, rfl, rfl⟩

end TopicBridge.Bridge
