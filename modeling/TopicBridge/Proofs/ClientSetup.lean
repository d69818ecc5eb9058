import Mathlib
import TopicBridge.Broker.Options

/-!
# Setting up a broker client

A broker client is set up from its options (`TopicBridge.Broker.BrokerOptions.setup`): the
broker list must not be empty, every broker must read, once its surrounding blanks are cut,
as a URL with a scheme and a host (`TopicBridge.Broker.BrokerOk`), and the TLS files, when
TLS is used, must load. The brokers are read one after another and the first one refused
stops the set-up, before TLS is looked at. So:

* the set-up fails exactly when the list is empty, some broker is refused, or the TLS files
  do not load (`TopicBridge.Broker.setup_error_iff`);
* a refused broker is reported by the first one in the list, as it was written, blanks
  included (`TopicBridge.Broker.setup_first_bad_broker`);
* a client that is set up lists every broker in its normal form, in order, and its broker is
  the first of them (`TopicBridge.Broker.setup_servers`, `TopicBridge.Broker.setup_broker`),
  as long as the client library keeps those URLs as they are.

The client library keeps the keep-alive in whole seconds
(`TopicBridge.Broker.ClientLibrary.Lawful`, which paho is: `TopicBridge.Broker.paho_lawful`).
A positive keep-alive below one second therefore becomes 0 s, which turns the keep-alive off,
while one that is not positive leaves the 30 s default (`TopicBridge.Broker.setup_keepAlive`,
`TopicBridge.Broker.half_second_keep_alive_off`).
-/

namespace TopicBridge.Broker

open TopicBridge.Net TopicBridge.Text

/-! ### Traversals that can fail -/

section Traverse

theorem exists_ok_of_toBool {ε α : Type} {x : Except ε α} (h : x.toBool = true) :
    ∃ a, x = .ok a := by
  cases x with
  | error e => cases h
  | ok a => exact ⟨a, rfl⟩

variable {α β ε : Type} (f : α → Except ε β)

theorem mapM_eq_ok_iff (xs : List α) (ys : List β) :
    xs.mapM f = .ok ys ↔ List.Forall₂ (fun x y => f x = .ok y) xs ys := by
  induction xs generalizing ys with
  | nil => cases ys <;> simp [pure, Except.pure]
  | cons x xs ih =>
    rw [List.mapM_cons]
    cases h : f x with
    | error e => cases ys <;> simp [bind, Except.bind, h]
    | ok y =>
      cases ht : xs.mapM f with
      | error e => cases ys <;> simp [bind, Except.bind, ← ih, ht, h]
      | ok zs => cases ys <;> simp [bind, Except.bind, pure, Except.pure, ← ih, ht, h]

/-- A traversal stops at the first failure, whatever comes after it. -/
theorem mapM_eq_error_of_first {pre : List α} {x : α} {e : ε}
    (hpre : ∀ a ∈ pre, ∃ y, f a = .ok y) (hx : f x = .error e) (post : List α) :
    (pre ++ x :: post).mapM f = .error e := by
  induction pre with
  | nil => simp [List.mapM_cons, hx, bind, Except.bind]
  | cons a pre ih =>
    obtain ⟨y, hy⟩ := hpre a List.mem_cons_self
    rw [List.cons_append, List.mapM_cons, hy, ih fun b hb => hpre b (List.mem_cons_of_mem a hb)]
    rfl

/-- A traversal succeeds exactly when every element does. -/
theorem mapM_isOk_iff (xs : List α) :
    (∃ ys, xs.mapM f = .ok ys) ↔ ∀ x ∈ xs, ∃ y, f x = .ok y := by
  simp only [mapM_eq_ok_iff]
  induction xs with
  | nil => simp
  | cons x xs ih =>
    simp only [List.forall₂_cons_left_iff, List.forall_mem_cons, ← ih]
    constructor
    · rintro ⟨ys, y, zs, hy, hzs, -⟩
      exact ⟨⟨y, hy⟩, zs, hzs⟩
    · rintro ⟨⟨y, hy⟩, zs, hzs⟩
      exact ⟨y :: zs, y, zs, hy, hzs, rfl⟩

end Traverse

/-! ### One broker -/

/-- A broker the options accept: its text, blanks cut, reads as a URL with a scheme and a
host. -/
def BrokerOk (b : String) : Prop :=
  ∃ u, Url.parse (trimBlank b) = .ok u ∧ u.scheme ≠ [] ∧ u.host ≠ []

theorem brokerUrl_eq_ok_iff {b s : String} :
    brokerUrl b = .ok s ↔
      ∃ u, Url.parse (trimBlank b) = .ok u ∧ u.scheme ≠ [] ∧ u.host ≠ [] ∧ s = u.render := by
  unfold brokerUrl
  split
  · rename_i u hu
    -- the URL read is `u`, so everything is a condition on `u`
    simp only [hu, Except.ok.injEq, exists_eq_left']
    split
    · rename_i hs
      simp only [Bool.or_eq_true, List.isEmpty_iff] at hs
      simp only [reduceCtorEq, false_iff]
      tauto
    · rename_i hs
      simp only [Bool.or_eq_true, List.isEmpty_iff, not_or] at hs
      simp [hs, eq_comm]
  · rename_i e he
    simp [he]

/-- A refused broker is named as it was written, blanks and all. -/
theorem brokerUrl_of_not_ok {b : String} (h : ¬BrokerOk b) :
    brokerUrl b = .error (.badBroker b) := by
  unfold brokerUrl
  split
  · rename_i u hu
    have hs : (u.scheme.isEmpty || u.host.isEmpty) = true := by
      by_contra hs
      simp only [Bool.not_eq_true, Bool.or_eq_false_iff, List.isEmpty_eq_false_iff] at hs
      exact h ⟨u, hu, hs.1, hs.2⟩
    simp [hs]
  · rfl

theorem brokerOk_iff {b : String} : BrokerOk b ↔ ∃ s, brokerUrl b = .ok s := by
  simp only [brokerUrl_eq_ok_iff]
  exact ⟨fun ⟨u, hu, hs, hh⟩ => ⟨_, u, hu, hs, hh, rfl⟩,
    fun ⟨_, u, hu, hs, hh, _⟩ => ⟨u, hu, hs, hh⟩⟩

theorem brokerOk_iff_toBool (b : String) : BrokerOk b ↔ (brokerUrl b).toBool = true := by
  rw [brokerOk_iff]
  cases brokerUrl b <;> simp [Except.toBool]

instance (b : String) : Decidable (BrokerOk b) :=
  decidable_of_iff _ (brokerOk_iff_toBool b).symm

/-! ### The client library -/

/-- Paho keeps the keep-alive as the set-up relies on. -/
theorem paho_lawful : paho.Lawful where
  keepAliveSeconds_of_pos _ hk := Int.tdiv_eq_ediv_of_nonneg hk.le
  defaultKeepAlive_eq := rfl

/-- A library that keeps the normal URL of every broker lists them all, in order. -/
theorem filterMap_addBroker {lib : ClientLibrary} {bs urls : List String}
    (hm : List.Forall₂ (fun b s => brokerUrl b = .ok s) bs urls)
    (hadd : ∀ b ∈ bs, ∀ s, brokerUrl b = .ok s → lib.addBroker s = some s) :
    urls.filterMap lib.addBroker = urls := by
  induction hm with
  | nil => rfl
  | cons hbs _ ih =>
    rw [List.filterMap_cons_some (hadd _ List.mem_cons_self _ hbs),
      ih fun b hb => hadd b (List.mem_cons_of_mem _ hb)]

/-- That a library keeps the normal URL of each of some brokers, checked broker by broker. -/
theorem keeps_of_all {lib : ClientLibrary} {bs : List String}
    (h : bs.all fun b => (brokerUrl b).toOption.bind lib.addBroker == (brokerUrl b).toOption) :
    ∀ b ∈ bs, ∀ s, brokerUrl b = .ok s → lib.addBroker s = some s := by
  intro b hb s hs
  simpa [hs, Except.toOption] using List.all_eq_true.1 h b hb

/-! ### The set-up, case by case -/

section Setup

variable {o : BrokerOptions} (lib : ClientLibrary) (fs : Host.Files) (fresh : String)

theorem setup_of_nil (h : o.brokers = []) : o.setup lib fs fresh = .error .noBroker := by
  simp [BrokerOptions.setup, h, throw, throwThe, MonadExceptOf.throw, bind, Except.bind]

theorem setup_of_brokers_error (hne : o.brokers ≠ []) {e : OptionsError}
    (hm : o.brokers.mapM brokerUrl = .error e) : o.setup lib fs fresh = .error e := by
  unfold BrokerOptions.setup
  simp [List.isEmpty_eq_false_iff.2 hne, hm, bind, Except.bind]

theorem setup_of_tls_error (hne : o.brokers ≠ []) {ss : List String}
    (hm : o.brokers.mapM brokerUrl = .ok ss) {t : TlsFiles} (ht : o.tls = some t) {e : String}
    (he : tlsSetup fs t = .error e) : o.setup lib fs fresh = .error (.tls e) := by
  unfold BrokerOptions.setup
  simp [List.isEmpty_eq_false_iff.2 hne, hm, ht, he, bind, Except.bind, throw, throwThe,
    MonadExceptOf.throw]

theorem setup_isOk (hne : o.brokers ≠ []) {ss : List String}
    (hm : o.brokers.mapM brokerUrl = .ok ss)
    (ht : ∀ t, o.tls = some t → ∃ s, tlsSetup fs t = .ok s) :
    ∃ c, o.setup lib fs fresh = .ok c := by
  unfold BrokerOptions.setup
  simp only [List.isEmpty_eq_false_iff.2 hne, Bool.false_eq_true, if_false, hm, bind, Except.bind]
  rcases htls : o.tls with _ | t
  · exact ⟨_, rfl⟩
  · obtain ⟨s, hs⟩ := ht t htls
    simp only [hs]
    exact ⟨_, rfl⟩

end Setup

theorem setup_eq_ok {o : BrokerOptions} {lib : ClientLibrary} {fs : Host.Files} {fresh : String}
    {c : ClientSetup} (h : o.setup lib fs fresh = .ok c) :
    o.brokers ≠ [] ∧ (∃ urls, o.brokers.mapM brokerUrl = .ok urls ∧
      c.servers = urls.filterMap lib.addBroker) ∧
      c.keepAliveSeconds =
        if 0 < o.keepAlive then lib.keepAliveSeconds o.keepAlive else lib.defaultKeepAlive := by
  have hne : o.brokers ≠ [] := by
    rintro hnil
    rw [setup_of_nil _ _ _ hnil] at h
    cases h
  unfold BrokerOptions.setup at h
  simp only [List.isEmpty_eq_false_iff.2 hne, Bool.false_eq_true, if_false] at h
  cases hm : o.brokers.mapM brokerUrl with
  | error e => simp [hm, bind, Except.bind] at h
  | ok ss =>
    simp only [hm, bind, Except.bind] at h
    -- whatever TLS gives, the servers and the keep-alive are set the same way
    rcases ht : o.tls with _ | t
    · simp only [ht, pure, Except.pure, Except.ok.injEq] at h
      subst h
      exact ⟨hne, ⟨ss, rfl, rfl⟩, rfl⟩
    · cases hts : tlsSetup fs t with
      | error e => simp [ht, hts, throw, throwThe, MonadExceptOf.throw] at h
      | ok s =>
        simp only [ht, hts, pure, Except.pure, Except.ok.injEq] at h
        subst h
        exact ⟨hne, ⟨ss, rfl, rfl⟩, rfl⟩

/-! ### What a set-up gives -/

section Outcomes

variable {o : BrokerOptions} (lib : ClientLibrary) (fs : Host.Files) (fresh : String)

/-- **Options fail exactly for a missing broker, a refused broker or unusable TLS files.** -/
theorem setup_error_iff :
    (∃ e, o.setup lib fs fresh = .error e) ↔
      o.brokers = [] ∨ (∃ b ∈ o.brokers, ¬BrokerOk b) ∨
        ∃ t, o.tls = some t ∧ ∃ e, tlsSetup fs t = .error e := by
  constructor
  · rintro ⟨e, he⟩
    by_contra hno
    simp only [not_or, not_exists, not_and, not_not] at hno
    obtain ⟨hne, hok, htls⟩ := hno
    obtain ⟨ss, hss⟩ := (mapM_isOk_iff brokerUrl _).2 fun b hb => brokerOk_iff.1 (hok b hb)
    -- with every broker accepted, only TLS could fail, and it does not
    have ht : ∀ t, o.tls = some t → ∃ s, tlsSetup fs t = .ok s := by
      intro t ht
      cases hts : tlsSetup fs t with
      | error e' => exact absurd hts (htls t ht e')
      | ok s => exact ⟨s, rfl⟩
    obtain ⟨c, hc⟩ := setup_isOk lib fs fresh hne hss ht
    rw [hc] at he
    cases he
  · rintro (hnil | ⟨b, hb, hbad⟩ | ⟨t, ht, e, he⟩)
    · exact ⟨_, setup_of_nil lib fs fresh hnil⟩
    · have hne : o.brokers ≠ [] := List.ne_nil_of_mem hb
      cases hm : o.brokers.mapM brokerUrl with
      | error e => exact ⟨e, setup_of_brokers_error lib fs fresh hne hm⟩
      | ok ss => exact absurd (brokerOk_iff.2 ((mapM_isOk_iff brokerUrl _).1 ⟨ss, hm⟩ b hb)) hbad
    · rcases eq_or_ne o.brokers [] with hnil | hne
      · exact ⟨_, setup_of_nil lib fs fresh hnil⟩
      cases hm : o.brokers.mapM brokerUrl with
      | error e' => exact ⟨e', setup_of_brokers_error lib fs fresh hne hm⟩
      | ok ss => exact ⟨_, setup_of_tls_error lib fs fresh hne hm ht he⟩

/-- **The first refused broker is the error**, whatever follows it and whatever TLS. -/
theorem setup_first_bad_broker {pre post : List String} {b : String}
    (hb : o.brokers = pre ++ b :: post) (hpre : ∀ a ∈ pre, BrokerOk a) (hbad : ¬BrokerOk b) :
    o.setup lib fs fresh = .error (.badBroker b) := by
  have hne : o.brokers ≠ [] := by simp [hb]
  apply setup_of_brokers_error lib fs fresh hne
  rw [hb]
  exact mapM_eq_error_of_first brokerUrl (fun a ha => brokerOk_iff.1 (hpre a ha))
    (brokerUrl_of_not_ok hbad) post

variable {lib} in
/-- With a library that keeps the brokers' normal URLs, the client lists them: the URL the
options read for each broker. -/
theorem setup_servers_eq
    (hadd : ∀ b ∈ o.brokers, ∀ s, brokerUrl b = .ok s → lib.addBroker s = some s)
    {c : ClientSetup} (h : o.setup lib fs fresh = .ok c) :
    o.brokers.mapM brokerUrl = .ok c.servers := by
  obtain ⟨-, ⟨urls, hm, hservers⟩, -⟩ := setup_eq_ok h
  rw [hservers, filterMap_addBroker ((mapM_eq_ok_iff brokerUrl _ _).1 hm) hadd]
  exact hm

variable {lib} in
/-- A set-up client lists each broker in its normal form, in order. -/
theorem setup_servers
    (hadd : ∀ b ∈ o.brokers, ∀ s, brokerUrl b = .ok s → lib.addBroker s = some s)
    {c : ClientSetup} (h : o.setup lib fs fresh = .ok c) :
    List.Forall₂ (fun b s => ∃ u, Url.parse (trimBlank b) = .ok u ∧ s = u.render) o.brokers
      c.servers :=
  ((mapM_eq_ok_iff brokerUrl _ _).1 (setup_servers_eq fs fresh hadd h)).imp fun _ _ hbs => by
    obtain ⟨u, hu, -, -, rfl⟩ := brokerUrl_eq_ok_iff.1 hbs
    exact ⟨u, hu, rfl⟩

variable {lib} in
/-- The broker of a set-up client is the first of its list. -/
theorem setup_broker {H : Type}
    (hadd : ∀ b ∈ o.brokers, ∀ s, brokerUrl b = .ok s → lib.addBroker s = some s)
    {c : ClientSetup} (h : o.setup lib fs fresh = .ok c) :
    ∃ s rest, c.servers = s :: rest ∧ (c.session : Session H).broker = s := by
  have hne := (setup_eq_ok h).1
  obtain ⟨b, bs, hb⟩ := List.exists_cons_of_ne_nil hne
  have h2 := (mapM_eq_ok_iff brokerUrl _ _).1 (setup_servers_eq fs fresh hadd h)
  rw [hb] at h2
  obtain ⟨s, rest, -, -, hcs⟩ := List.forall₂_cons_left_iff.1 h2
  exact ⟨s, rest, hcs, by simp [ClientSetup.session, Session.broker, hcs]⟩

/-- A keep-alive of a second or more is carried in whole seconds; one that is not positive
leaves the default of 30 s; a positive one below a second becomes 0 s, which turns the
keep-alive off. -/
theorem setup_keepAlive (hlib : lib.Lawful) {c : ClientSetup}
    (h : o.setup lib fs fresh = .ok c) :
    c.keepAliveSeconds = (if 0 < o.keepAlive then o.keepAlive / 1000000000 else 30) ∧
      (0 < c.keepAliveSeconds ↔ o.keepAlive ≤ 0 ∨ 1000000000 ≤ o.keepAlive) := by
  have hk : c.keepAliveSeconds = if 0 < o.keepAlive then o.keepAlive / 1000000000 else 30 := by
    rw [(setup_eq_ok h).2.2]
    split_ifs with hpos
    · exact hlib.keepAliveSeconds_of_pos _ hpos
    · exact hlib.defaultKeepAlive_eq
  refine ⟨hk, ?_⟩
  rw [hk]
  split_ifs <;> omega

end Outcomes

/-! ### The options as a whole -/

/-- **Setting up a broker client.** The set-up fails exactly when there is no broker, a
broker is refused, or the TLS files do not load; a refused broker is reported by the first
one in the list, as written, whatever follows it and whatever TLS. With a client library
that keeps the brokers' normal URLs as they are and the keep-alive as paho does, a client
that is set up has each broker in its normal form, in order, as its broker list, and the
first of them as its broker. Its keep-alive is the whole seconds of a positive keep-alive
and 30 s otherwise, so it is positive exactly when the keep-alive given is not positive or
at least a second. -/
theorem BrokerOptions.setup_normalizes_brokers {H : Type} (o : BrokerOptions)
    (lib : ClientLibrary) (hlib : lib.Lawful)
    (hadd : ∀ b ∈ o.brokers, ∀ s, brokerUrl b = .ok s → lib.addBroker s = some s)
    (fs : Host.Files) (fresh : String) :
    ((∃ e, o.setup lib fs fresh = .error e) ↔
      o.brokers = [] ∨ (∃ b ∈ o.brokers, ¬BrokerOk b) ∨
        ∃ t, o.tls = some t ∧ ∃ e, tlsSetup fs t = .error e) ∧
    (∀ pre b post, o.brokers = pre ++ b :: post → (∀ a ∈ pre, BrokerOk a) → ¬BrokerOk b →
      o.setup lib fs fresh = .error (.badBroker b) ∧
        (OptionsError.badBroker b).message = "invalid broker url " ++ Text.quote b) ∧
    ∀ c, o.setup lib fs fresh = .ok c →
      List.Forall₂ (fun b s => ∃ u, Url.parse (trimBlank b) = .ok u ∧ s = u.render) o.brokers
        c.servers ∧
      (c.session : Session H).brokers = c.servers ∧
      (∃ s rest, c.servers = s :: rest ∧ (c.session : Session H).broker = s) ∧
      c.keepAliveSeconds = (if 0 < o.keepAlive then o.keepAlive / 1000000000 else 30) ∧
      (0 < c.keepAliveSeconds ↔ o.keepAlive ≤ 0 ∨ 1000000000 ≤ o.keepAlive) :=
  ⟨setup_error_iff lib fs fresh,
    fun _ _ _ hb hpre hbad => ⟨setup_first_bad_broker lib fs fresh hb hpre hbad, rfl⟩,
    fun _ h => ⟨setup_servers fs fresh hadd h, rfl, setup_broker fs fresh hadd h,
      setup_keepAlive lib fs fresh hlib h⟩⟩

/-- Two brokers, the second written with blanks around it, give two normal URLs and the
first is the client's broker; a broker without a scheme stops a set-up before a missing CA
file is looked at. -/
theorem backup_broker_trimmed :
    let ok : BrokerOptions :=
      { brokers := ["tcp://mqtt-broker:1883", " tcp://backup:1883 "], keepAlive := 30000000000 }
    let bad : BrokerOptions :=
      { brokers := ["tcp://mqtt-broker:1883", "mqtt-broker", "::bad"],
        tls := some { caFile := "missing.pem" } }
    (∃ c, ok.setup paho {} "01HZX" = .ok c ∧ c.keepAliveSeconds = 30 ∧
      c.servers = ["tcp://mqtt-broker:1883", "tcp://backup:1883"] ∧
      (c.session : Session Unit).broker = "tcp://mqtt-broker:1883") ∧
    (BrokerOk "tcp://mqtt-broker:1883" ∧ ¬BrokerOk "mqtt-broker" ∧
      bad.setup paho {} "01HZX" = .error (.badBroker "mqtt-broker")) := by
  intro ok bad
  obtain ⟨c, hc⟩ :=
    exists_ok_of_toBool (by decide +kernel : (ok.setup paho {} "01HZX").toBool = true)
  have hspec := @BrokerOptions.setup_normalizes_brokers Unit ok paho paho_lawful
    (keeps_of_all (by decide +kernel)) {} "01HZX"
  obtain ⟨-, -, ⟨s, rest, hs, hb⟩, hk, -⟩ := hspec.2.2 c hc
  have hgood : BrokerOk "tcp://mqtt-broker:1883" := by decide +kernel
  have hbad : ¬BrokerOk "mqtt-broker" := by decide +kernel
  have hfirst := (@BrokerOptions.setup_normalizes_brokers Unit bad paho paho_lawful
    (keeps_of_all (by decide +kernel)) {} "01HZX").2.1
    ["tcp://mqtt-broker:1883"] "mqtt-broker" ["::bad"] rfl (by simpa using hgood) hbad
  have hservers : c.servers = ["tcp://mqtt-broker:1883", "tcp://backup:1883"] := by
    have h : (ok.setup paho {} "01HZX").toOption.map (·.servers) =
        some ["tcp://mqtt-broker:1883", "tcp://backup:1883"] := by decide +kernel
    simpa [hc, Except.toOption] using h
  rw [hservers, List.cons.injEq] at hs
  refine ⟨⟨c, hc, by rw [hk]; rfl, hservers, hb.trans hs.1.symm⟩, hgood, hbad, hfirst.1⟩

/-- A keep-alive of half a second becomes 0 s: the client sends no keep-alive at all. -/
theorem half_second_keep_alive_off :
    ∃ c, ({ brokers := ["tcp://mqtt-broker:1883"], clientId := "c", keepAlive := 500000000 } :
        BrokerOptions).setup paho {} "01HZX" = .ok c ∧ c.keepAliveSeconds = 0 := by
  obtain ⟨c, hc⟩ := exists_ok_of_toBool (by decide +kernel :
    (({ brokers := ["tcp://mqtt-broker:1883"], clientId := "c", keepAlive := 500000000 } :
        BrokerOptions).setup paho {} "01HZX").toBool = true)
  refine ⟨c, hc, ?_⟩
  rw [(setup_keepAlive paho {} "01HZX" paho_lawful hc).1]
  rfl

end TopicBridge.Broker
