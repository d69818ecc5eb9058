import Mathlib
import TopicBridge.Journal.Query
import TopicBridge.Http.Server

/-!
# The listing query

A journal listing runs one query. Its text has a placeholder `?` for each value, and the
values go along as arguments, to be put in the placeholders in turn
(`TopicBridge.Journal.fill`). Two things make this safe.

* **The values pair up with their placeholders.** The text has a clause `route = ?` when a
  route is asked for and a clause `status = ?` when a status is, and always ends in
  `LIMIT ? OFFSET ?`; the arguments are the route, the status, the limit and the offset, in
  that order and only when their clause is there (`TopicBridge.Journal.fill_query`). The
  limit is clamped into `1..1000`, 50 otherwise, and the offset to at least 0.
* **No value is ever part of the text.** The text depends only on whether a route and a
  status are asked for (`TopicBridge.Journal.query_text_congr`), so it is one of four.

The listing handler reads its filter from the request's query and refuses a status that is
not one of the three words, with 400 and before asking the journal
(`TopicBridge.Http.Server.listing_refused`). A filter it does accept already has its limit in
range and its offset at least 0, so the query clamps nothing, and the page the answer reports
is the page the query asks for (`TopicBridge.Http.Server.listing_accepted`).
-/

namespace TopicBridge.Journal

open TopicBridge.Bridge

/-! ### Placeholders -/

/-- A query text with its placeholders `?` filled in turn by the arguments, each written as
`render` writes it; none when there are more placeholders than arguments or more arguments
than placeholders. -/
def fill (render : QueryArg → String) : List Char → List QueryArg → Option (List Char)
  | [], [] => some []
  | [], _ :: _ => none
  | c :: cs, args =>
    if c = '?' then
      match args with
      | [] => none
      | a :: rest => (fill render cs rest).map ((render a).toList ++ ·)
    else (fill render cs args).map (c :: ·)

section Fill

variable (render : QueryArg → String)

/-- A text can be filled exactly when it has as many placeholders as there are arguments. -/
theorem fill_isSome_iff (cs : List Char) (args : List QueryArg) :
    (fill render cs args).isSome ↔ cs.count '?' = args.length := by
  induction cs generalizing args with
  | nil => cases args <;> simp [fill]
  | cons c cs ih =>
    by_cases hc : c = '?'
    · cases args with
      | nil => simp [fill, hc]
      | cons a rest => simp [fill, hc, ih]
    · simp [fill, hc, ih]

/-- Two texts one after the other are filled one after the other, the first taking as many
arguments as it has placeholders. -/
theorem fill_append {cs : List Char} {args : List QueryArg} (h : cs.count '?' = args.length)
    (ds : List Char) (more : List QueryArg) :
    fill render (cs ++ ds) (args ++ more) =
      (fill render cs args).bind fun p => (fill render ds more).map (p ++ ·) := by
  induction cs generalizing args with
  | nil =>
    cases args with
    | nil => simp [fill]
    | cons a rest => simp at h
  | cons c cs ih =>
    by_cases hc : c = '?'
    · subst hc
      cases args with
      | nil => simp at h
      | cons a rest =>
        simp only [List.cons_append, fill, if_true]
        rw [ih (by simpa using h)]
        cases fill render cs rest <;> cases fill render ds more <;> simp
    · simp only [List.cons_append, fill, hc, if_false]
      rw [ih (by simpa [List.count_cons, hc] using h)]
      cases fill render cs args <;> cases fill render ds more <;> simp

/-- Text without a placeholder is left as it is. -/
theorem fill_plain {cs : List Char} (h : '?' ∉ cs) : fill render cs [] = some cs := by
  induction cs with
  | nil => rfl
  | cons c cs ih =>
    have hc : c ≠ '?' := fun hc => h (hc ▸ List.mem_cons_self)
    simp [fill, hc, ih (fun hm => h (List.mem_cons_of_mem c hm))]

theorem fill_plain_append {cs : List Char} (h : '?' ∉ cs) (ds : List Char)
    (more : List QueryArg) :
    fill render (cs ++ ds) more = (fill render ds more).map (cs ++ ·) := by
  rw [← List.nil_append more, fill_append render (List.count_eq_zero.2 h), fill_plain render h]
  simp

end Fill

/-! ### The query of a filter -/

theorem query_eq (f : ExchangeFilter) :
    f.query =
      (listHead ++ (if f.route.isEmpty then "" else " AND route = ?") ++
          (if f.status.isEmpty then "" else " AND status = ?") ++
          " ORDER BY created_at DESC LIMIT ? OFFSET ?",
        (if f.route.isEmpty then [] else [QueryArg.text f.route]) ++
          (if f.status.isEmpty then [] else [QueryArg.text f.status]) ++
          [QueryArg.int f.page.1, QueryArg.int f.page.2]) := by
  unfold ExchangeFilter.query
  split_ifs <;> rfl

theorem page_fst (f : ExchangeFilter) :
    f.page.1 = if 0 < f.limit ∧ f.limit ≤ 1000 then f.limit else 50 := by
  unfold ExchangeFilter.page
  dsimp only
  split
  · rename_i h
    have hout : ¬(0 < f.limit ∧ f.limit ≤ 1000) := by simp [maxLimit] at h; omega
    rw [if_neg hout]
    rfl
  · rename_i h
    have hin : 0 < f.limit ∧ f.limit ≤ 1000 := by simp [maxLimit] at h; omega
    rw [if_pos hin]

theorem page_snd (f : ExchangeFilter) : f.page.2 = max f.offset 0 := rfl

/-- The page clamps nothing exactly when the limit is in range and the offset not negative. -/
theorem page_eq_self_iff (f : ExchangeFilter) :
    f.page = (f.limit, f.offset) ↔ 0 < f.limit ∧ f.limit ≤ 1000 ∧ 0 ≤ f.offset := by
  rw [Prod.ext_iff, page_fst, page_snd]
  constructor
  · rintro ⟨h1, h2⟩
    split_ifs at h1 with h
    · exact ⟨h.1, h.2, by omega⟩
    · omega
  · rintro ⟨h1, h2, h3⟩
    exact ⟨if_pos ⟨h1, h2⟩, by omega⟩

theorem listHead_plain : '?' ∉ listHead.toList := by
  decide +kernel

/-- **The values pair up with their placeholders**: filled in, the query reads the route in
its clause, the status in its, then the limit and the offset. -/
theorem fill_query (render : QueryArg → String) (f : ExchangeFilter) :
    fill render f.query.1.toList f.query.2 =
      some (listHead ++
        (if f.route.isEmpty then "" else " AND route = " ++ render (.text f.route)) ++
        (if f.status.isEmpty then "" else " AND status = " ++ render (.text f.status)) ++
        " ORDER BY created_at DESC LIMIT " ++ render (.int f.page.1) ++ " OFFSET " ++
        render (.int f.page.2)).toList := by
  rw [query_eq]
  simp only [String.toList_append, List.append_assoc, fill_plain_append render listHead_plain]
  -- the rest is short: fill it character by character, in each of the four shapes
  cases f.route.isEmpty <;> cases f.status.isEmpty <;> simp [fill]

theorem count_query (f : ExchangeFilter) : f.query.1.toList.count '?' = f.query.2.length :=
  (fill_isSome_iff (fun _ => "") _ _).1 (by rw [fill_query]; rfl)

/-- **No value is ever part of the text**: two filters that ask for a route alike and for a
status alike get the same text. -/
theorem query_text_congr {f g : ExchangeFilter} (hr : f.route.isEmpty = g.route.isEmpty)
    (hs : f.status.isEmpty = g.status.isEmpty) : f.query.1 = g.query.1 := by
  rw [query_eq, query_eq, hr, hs]

end TopicBridge.Journal

namespace TopicBridge.Http

open TopicBridge.Bridge TopicBridge.Text

/-! ### The listing handler -/

/-- The journal's filter that a listing's filter stands for: the status by its word, the
empty word for every status. -/
def ExchangeFilter.toJournal (f : ExchangeFilter) : Journal.ExchangeFilter :=
  { route := f.route, status := (f.status.map ExchangeStatus.label).getD "", limit := f.limit,
    offset := f.offset }

/-- The status a query asks for, blanks trimmed, is empty or one of the three words. -/
def StatusAccepted (q : Octets) : Prop :=
  (trimBlank (queryParam q "status")).isEmpty ∨
    (ExchangeStatus.ofLabel? (trimBlank (queryParam q "status"))).isSome

instance (q : Octets) : Decidable (StatusAccepted q) := instDecidableOr

theorem readLimit_mem (v : String) : 0 < readLimit v ∧ readLimit v ≤ 1000 := by
  unfold readLimit
  split
  · split_ifs with h
    · omega
    · decide
  · decide

theorem readFilter_eq (q : Octets) :
    readFilter q =
      if StatusAccepted q then
        .ok { limit := readLimit (queryParam q "limit"),
              offset := readOffset (queryParam q "offset"),
              route := trimBlank (queryParam q "route"),
              status := ExchangeStatus.ofLabel? (trimBlank (queryParam q "status")) }
      else .error "invalid status" := by
  unfold readFilter
  by_cases he : (trimBlank (queryParam q "status")).isEmpty
  · -- an empty status asks for every status, and no status has the empty word
    have hnone : ExchangeStatus.ofLabel? (trimBlank (queryParam q "status")) = none := by
      rw [String.isEmpty_iff.1 he]
      rfl
    have hacc : StatusAccepted q := Or.inl he
    simp [he, hnone, hacc]
  · cases ho : ExchangeStatus.ofLabel? (trimBlank (queryParam q "status")) with
    | none =>
      have hrej : ¬StatusAccepted q := by simp [StatusAccepted, he, ho]
      simp [he, ho, hrej]
    | some s =>
      have hacc : StatusAccepted q := Or.inr (by simp [ho])
      simp [he, ho, hacc]

/-- A filter the handler accepts clamps nothing. -/
theorem toJournal_page {f : ExchangeFilter} (hl : 0 < f.limit ∧ f.limit ≤ 1000) :
    f.toJournal.page = ((f.limit : Int), (f.offset : Int)) :=
  (Journal.page_eq_self_iff _).2 ⟨by simp only [ExchangeFilter.toJournal]; omega,
    by simp only [ExchangeFilter.toJournal]; omega, by simp only [ExchangeFilter.toJournal]; omega⟩

namespace Server

variable {srv : Server} {st : ServerState} {req : Incoming} {headers : Net.Headers}
  {list : ExchangeFilter → Except String (List Exchange)}

theorem listing_of_error (hj : srv.setup.journal = some list) {e : String}
    (h : readFilter req.url.rawQuery = .error e) :
    srv.listing st req headers = (.error 400 headers e, st) := by
  simp [listing, hj, h]

theorem listing_of_ok (hj : srv.setup.journal = some list) {f : ExchangeFilter}
    (h : readFilter req.url.rawQuery = .ok f) :
    srv.listing st req headers =
      ((match list f with
        | .error _ => .error 500 headers "query failed"
        | .ok rows => .json 200 headers (listingJson f rows)),
        { st with listings := st.listings ++ [f] }) := by
  simp only [listing, hj, h]
  cases list f <;> rfl

/-- **A refused status never reaches the journal**: the answer is 400 and nothing is
recorded, whatever the journal would answer. -/
theorem listing_refused (hj : srv.setup.journal = some list)
    (hrej : ¬StatusAccepted req.url.rawQuery) :
    srv.listing st req headers = (.error 400 headers "invalid status", st) :=
  listing_of_error hj (by rw [readFilter_eq, if_neg hrej])

/-- **The page reported is the page queried**: an accepted filter is handed to the journal
once, its query clamps nothing and binds the filter's own limit and offset last, and the
answer reports that filter. -/
theorem listing_accepted (hj : srv.setup.journal = some list)
    (hacc : StatusAccepted req.url.rawQuery) :
    ∃ f, readFilter req.url.rawQuery = .ok f ∧
      f.toJournal.page = (f.toJournal.limit, f.toJournal.offset) ∧
      (∃ pre, f.toJournal.query.2 =
        pre ++ [Journal.QueryArg.int f.limit, Journal.QueryArg.int f.offset]) ∧
      (srv.listing st req headers).2 = { st with listings := st.listings ++ [f] } ∧
      ∀ rows, list f = .ok rows →
        (srv.listing st req headers).1 = .json 200 headers (listingJson f rows) := by
  obtain ⟨f, hf, hl⟩ : ∃ f, readFilter req.url.rawQuery = .ok f ∧ 0 < f.limit ∧ f.limit ≤ 1000 := by
    rw [readFilter_eq, if_pos hacc]
    exact ⟨_, rfl, readLimit_mem _⟩
  have hpage := toJournal_page hl
  refine ⟨f, hf, hpage, ⟨_, by rw [Journal.query_eq, hpage]⟩, ?_, fun rows hrows => ?_⟩
  · rw [listing_of_ok hj hf]
  · rw [listing_of_ok hj hf, hrows]

end Server

/-- **The listing query.** Every filter's query has one placeholder per argument; its page is
the limit clamped into `1..1000` (50 otherwise) and the offset clamped to at least 0; its
arguments are the route, the status, the limit and the offset, each in its own clause and
the first two only when asked for; and its text depends on nothing but whether a route and a
status are asked for. The listing handler refuses a status that is not one of the three
words with 400 and leaves the journal alone; for every other query it hands the journal a
filter that the query clamps nothing of, and reports that filter's limit and offset. -/
theorem listing_query_binds_filter :
    (∀ f : Journal.ExchangeFilter,
      f.query.1.toList.count '?' = f.query.2.length ∧
      f.page = (if 0 < f.limit ∧ f.limit ≤ 1000 then f.limit else 50, max f.offset 0) ∧
      f.query.2 = (if f.route.isEmpty then [] else [Journal.QueryArg.text f.route]) ++
          (if f.status.isEmpty then [] else [Journal.QueryArg.text f.status]) ++
          [Journal.QueryArg.int f.page.1, Journal.QueryArg.int f.page.2] ∧
      (∀ render : Journal.QueryArg → String,
        Journal.fill render f.query.1.toList f.query.2 =
          some (Journal.listHead ++
            (if f.route.isEmpty then "" else " AND route = " ++ render (.text f.route)) ++
            (if f.status.isEmpty then "" else " AND status = " ++ render (.text f.status)) ++
            " ORDER BY created_at DESC LIMIT " ++ render (.int f.page.1) ++ " OFFSET " ++
            render (.int f.page.2)).toList) ∧
      ∀ g : Journal.ExchangeFilter, f.route.isEmpty = g.route.isEmpty →
        f.status.isEmpty = g.status.isEmpty → f.query.1 = g.query.1) ∧
    ∀ (srv : Server) (st : ServerState) (req : Incoming) (headers : Net.Headers)
      (list : ExchangeFilter → Except String (List Exchange)), srv.setup.journal = some list →
      (StatusAccepted req.url.rawQuery →
        ∃ f, readFilter req.url.rawQuery = .ok f ∧
          f.toJournal.page = (f.toJournal.limit, f.toJournal.offset) ∧
          (∃ pre, f.toJournal.query.2 =
            pre ++ [Journal.QueryArg.int f.limit, Journal.QueryArg.int f.offset]) ∧
          (srv.listing st req headers).2 = { st with listings := st.listings ++ [f] } ∧
          ∀ rows, list f = .ok rows →
            (srv.listing st req headers).1 = .json 200 headers (listingJson f rows)) ∧
      (¬StatusAccepted req.url.rawQuery →
        srv.listing st req headers = (.error 400 headers "invalid status", st)) :=
  ⟨fun f => ⟨Journal.count_query f, Prod.ext (Journal.page_fst f) (Journal.page_snd f),
      by rw [Journal.query_eq], fun render => Journal.fill_query render f,
      fun _ hr hs => Journal.query_text_congr hr hs⟩,
    fun _ _ _ _ _ hj => ⟨Server.listing_accepted hj, Server.listing_refused hj⟩⟩

/-- A listing asking for 5000 rows of timed-out exchanges is accepted, and the journal is
asked for 50. -/
theorem oversized_page_clamped :
    let srv : Server :=
      { setup := { routes := ⟨[]⟩, publish := fun _ _ _ => {}, journal := some fun _ => .ok [] },
        limit := none, router := {} }
    let req : Incoming :=
      { method := "GET", url := { rawQuery := "limit=5000&status=timeout".toList }, headers := {},
        body := .empty, declaredLength := none, remoteAddr := "192.0.2.1:1234" }
    srv.setup.journal = some (fun _ => .ok []) ∧ StatusAccepted req.url.rawQuery ∧
      ∃ f, readFilter req.url.rawQuery = .ok f ∧ f.limit = 50 ∧
        (srv.listing {} req {}).1 = .json 200 {} (listingJson f []) := by
  intro srv req
  have hj : srv.setup.journal = some (fun _ => .ok []) := rfl
  have hacc : StatusAccepted req.url.rawQuery := by decide +kernel
  obtain ⟨f, hf, -, -, -, hjson⟩ := (listing_query_binds_filter.2 srv {} req {} _ hj).1 hacc
  refine ⟨hj, hacc, f, hf, ?_, hjson [] rfl⟩
  rw [readFilter_eq, if_pos hacc] at hf
  cases hf
  decide +kernel

end TopicBridge.Http
