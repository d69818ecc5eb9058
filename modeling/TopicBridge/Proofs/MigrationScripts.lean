import Mathlib
import TopicBridge.Journal.Statements

/-!
# Splitting migration scripts

`TopicBridge.Journal.splitStatements` cuts a script at every `;`, drops the comment lines of
each piece and cuts the blanks around what is left. What it returns is already in the form
it produces (`TopicBridge.Journal.splitStatements_normal`):

* every statement is non-empty, has no blank at either end, holds no `;` and has no comment
  line;
* so the statements joined by `;` split again into themselves.

Whether a line is a comment depends only on the line without its blanks. The one fact that
needs care is that cutting the blanks around a statement never turns a kept line into a
comment line. Cutting only takes blanks off the ends of the text, so each line of the cut
statement stands between blanks in a kept line (`TopicBridge.Journal.lines_framed`), and
the two have the same trimmed form.
-/

namespace TopicBridge.Text

/-! ### Text between blanks -/

/-- `t` stands in `l` between blanks: `l` is `t` with blanks added at either end. -/
def Framed (t l : List Char) : Prop :=
  ∃ P S, (∀ c ∈ P, isBlank c = true) ∧ (∀ c ∈ S, isBlank c = true) ∧ l = P ++ t ++ S

namespace Framed

variable {t u l : List Char}

theorem refl (l : List Char) : Framed l l := ⟨[], [], by simp, by simp, by simp⟩

theorem trans (htu : Framed t u) (hul : Framed u l) : Framed t l := by
  obtain ⟨P, S, hP, hS, rfl⟩ := htu
  obtain ⟨P', S', hP', hS', rfl⟩ := hul
  refine ⟨P' ++ P, S ++ S', ?_, ?_, by simp⟩
  · simpa [or_imp, forall_and] using And.intro hP' hP
  · simpa [or_imp, forall_and] using And.intro hS hS'

theorem reverse (h : Framed t l) : Framed t.reverse l.reverse := by
  obtain ⟨P, S, hP, hS, rfl⟩ := h
  exact ⟨S.reverse, P.reverse, by simpa using hS, by simpa using hP, by simp⟩

theorem of_reverse (h : Framed t.reverse l.reverse) : Framed t l := by
  simpa using h.reverse

theorem isInfix (h : Framed t l) : t <:+: l := by
  obtain ⟨P, S, -, -, rfl⟩ := h
  exact ⟨P, S, rfl⟩

theorem cons_blank {c : Char} (hc : isBlank c = true) : Framed l (c :: l) :=
  ⟨[c], [], by simpa using hc, by simp, by simp⟩

end Framed

/-! ### Trimming -/

theorem dropBlanks_blank_append {P : List Char} (hP : ∀ c ∈ P, isBlank c = true)
    (t : List Char) : dropBlanks (P ++ t) = dropBlanks t := by
  simp [dropBlanks, List.dropWhile_append, List.dropWhile_eq_nil_iff.2 hP]

theorem not_blank_of_dropBlanks_eq_cons {l r : List Char} {c : Char}
    (h : dropBlanks l = c :: r) : isBlank c = false := by
  have hne : dropBlanks l ≠ [] := by simp [h]
  have hhead : ∀ (m : List Char) (hm : m ≠ []), m = c :: r → m.head hm = c := by
    rintro m hm rfl
    rfl
  have := List.head_dropWhile_not isBlank hne
  rwa [hhead (List.dropWhile isBlank l) hne h] at this

theorem trimBlankList_blank_append {P : List Char} (hP : ∀ c ∈ P, isBlank c = true)
    (t : List Char) : trimBlankList (P ++ t) = trimBlankList t := by
  rw [trimBlankList, dropBlanks_blank_append hP]
  rfl

theorem trimBlankList_append_blank {S : List Char} (hS : ∀ c ∈ S, isBlank c = true)
    (t : List Char) : trimBlankList (t ++ S) = trimBlankList t := by
  by_cases ht : dropBlanks t = []
  · -- `t` is all blanks, and so is `t ++ S`
    have hts : dropBlanks (t ++ S) = [] := by
      simp only [dropBlanks, List.dropWhile_eq_nil_iff] at ht ⊢
      simpa [or_imp, forall_and] using And.intro ht hS
    rw [trimBlankList, trimBlankList, hts, ht]
  · have hts : dropBlanks (t ++ S) = dropBlanks t ++ S := by
      simp only [dropBlanks] at ht ⊢
      simp [List.dropWhile_append, ht]
    rw [trimBlankList, trimBlankList, hts, List.reverse_append,
      dropBlanks_blank_append (by simpa using hS)]

/-- Text between blanks has the trimmed form of the text around it. -/
theorem trimBlankList_of_framed {t l : List Char} (h : Framed t l) :
    trimBlankList l = trimBlankList t := by
  obtain ⟨P, S, hP, hS, rfl⟩ := h
  rw [List.append_assoc, trimBlankList_blank_append hP, trimBlankList_append_blank hS]

/-- Trimming only takes blanks off the ends. -/
theorem framed_trimBlankList (l : List Char) : Framed (trimBlankList l) l := by
  refine ⟨l.takeWhile isBlank, (dropBlanks l).rtakeWhile isBlank, fun c hc => ?_,
    fun c hc => List.mem_rtakeWhile_imp hc, ?_⟩
  · exact List.mem_takeWhile_imp hc
  · change l = l.takeWhile isBlank ++ (dropBlanks l).rdropWhile isBlank ++
      (dropBlanks l).rtakeWhile isBlank
    rw [List.append_assoc, List.rdropWhile_append_rtakeWhile, dropBlanks,
      List.takeWhile_append_dropWhile]

/-- Trimming twice is trimming once. -/
theorem trimBlankList_trimBlankList (l : List Char) :
    trimBlankList (trimBlankList l) = trimBlankList l := by
  -- the trimmed text is a prefix of `dropBlanks l`, which begins with no blank
  have hfront : dropBlanks (trimBlankList l) = trimBlankList l := by
    obtain ⟨r, hr⟩ : trimBlankList l <+: dropBlanks l :=
      List.rdropWhile_prefix isBlank (dropBlanks l)
    cases htl : trimBlankList l with
    | nil => rfl
    | cons c cs =>
      rw [htl] at hr
      have hc := not_blank_of_dropBlanks_eq_cons hr.symm
      simp [dropBlanks, hc]
  change (dropBlanks (trimBlankList l)).rdropWhile isBlank = trimBlankList l
  rw [hfront]
  exact List.rdropWhile_idempotent isBlank (dropBlanks l)

end TopicBridge.Text

namespace TopicBridge.Journal

open TopicBridge.Text

/-! ### Lines -/

section Intercalate

variable {α : Type}

theorem intercalate_append_singleton (sep : List α) {ls : List (List α)} (h : ls ≠ [])
    (l : List α) : sep.intercalate (ls ++ [l]) = sep.intercalate ls ++ sep ++ l := by
  induction ls with
  | nil => contradiction
  | cons m ms ih =>
    cases ms with
    | nil => simp
    | cons m' ms =>
      have ih' := ih (List.cons_ne_nil m' ms)
      rw [List.cons_append] at ih'
      rw [List.cons_append, List.cons_append, List.intercalate_cons_cons, ih',
        List.intercalate_cons_cons]
      simp

theorem reverse_intercalate (a : α) (ls : List (List α)) :
    ([a].intercalate ls).reverse = [a].intercalate (ls.map List.reverse).reverse := by
  induction ls with
  | nil => rfl
  | cons l ls ih =>
    cases ls with
    | nil => simp
    | cons m ms =>
      have hmap : (l :: m :: ms).map List.reverse =
          l.reverse :: (m :: ms).map List.reverse := rfl
      rw [hmap, List.reverse_cons, intercalate_append_singleton _ (by simp), ← ih,
        List.intercalate_cons_cons]
      simp

/-- An element of the pieces joined by `a` is `a` or an element of one of the pieces. -/
theorem mem_intercalate_singleton {a c : α} :
    ∀ {ls : List (List α)}, c ∈ [a].intercalate ls → c = a ∨ ∃ l ∈ ls, c ∈ l
  | [], h => by simp at h
  | [l], h => .inr ⟨l, List.mem_singleton_self l, by simpa using h⟩
  | l :: m :: ms, h => by
    rw [List.intercalate_cons_cons] at h
    simp only [List.mem_append, List.mem_singleton] at h
    rcases h with (h | h) | h
    · exact .inr ⟨l, List.mem_cons_self, h⟩
    · exact .inl h
    · rcases mem_intercalate_singleton h with h | ⟨l', hl', h⟩
      · exact .inl h
      · exact .inr ⟨l', List.mem_cons_of_mem l hl', h⟩

end Intercalate

section Split

variable {α : Type} [BEq α] [LawfulBEq α]

/-- The pieces of a split are made of the list's elements other than the one split on. -/
theorem mem_of_mem_splitOn {a c : α} :
    ∀ {xs l : List α}, l ∈ xs.splitOn a → c ∈ l → c ∈ xs ∧ c ≠ a
  | [], l, hl, hc => by
    rw [List.splitOn_nil, List.mem_singleton] at hl
    simp [hl] at hc
  | x :: xs, l, hl, hc => by
    rw [List.splitOn_cons_eq_if_modifyHead] at hl
    split_ifs at hl with hx
    · rcases List.mem_cons.1 hl with rfl | hl
      · simp at hc
      · exact (mem_of_mem_splitOn hl hc).imp_left (List.mem_cons_of_mem x)
    · obtain ⟨r, rs, hr⟩ := List.exists_cons_of_ne_nil (List.splitOn_ne_nil a xs)
      rw [hr, List.modifyHead_cons] at hl
      rcases List.mem_cons.1 hl with rfl | hl
      · rcases List.mem_cons.1 hc with rfl | hc
        · exact ⟨List.mem_cons_self, fun h => hx (by simp [h])⟩
        · exact (mem_of_mem_splitOn (hr ▸ List.mem_cons_self) hc).imp_left
            (List.mem_cons_of_mem x)
      · exact (mem_of_mem_splitOn (hr ▸ List.mem_cons_of_mem r hl) hc).imp_left
          (List.mem_cons_of_mem x)

theorem not_mem_of_mem_splitOn {a : α} {xs l : List α} (hl : l ∈ xs.splitOn a) : a ∉ l :=
  fun ha => (mem_of_mem_splitOn hl ha).2 rfl

/-- Splitting the reversed list gives the reversed pieces, in reverse order. -/
theorem splitOn_reverse (a : α) (xs : List α) :
    xs.reverse.splitOn a = ((xs.splitOn a).map List.reverse).reverse := by
  have hx : [a].intercalate (xs.splitOn a) = xs := List.intercalate_splitOn a
  conv_lhs => rw [← hx]
  rw [reverse_intercalate]
  apply List.splitOn_intercalate
  · simp only [List.mem_reverse, List.mem_map]
    rintro _ ⟨l, hl, rfl⟩
    simpa using not_mem_of_mem_splitOn hl
  · simp

end Split

/-- Blanks put in front of a text lengthen its first line or make lines of their own:
every line of the text stands between blanks in a line of the longer text. -/
theorem lines_blank_append {P : List Char} (hP : ∀ c ∈ P, isBlank c = true) (X : List Char) :
    ∀ t ∈ X.splitOn '\n', ∃ l ∈ (P ++ X).splitOn '\n', Framed t l := by
  induction P with
  | nil => exact fun t ht => ⟨t, ht, Framed.refl t⟩
  | cons c P ih =>
    intro t ht
    obtain ⟨l, hl, htl⟩ := ih (fun d hd => hP d (List.mem_cons_of_mem c hd)) t ht
    rw [List.cons_append, List.splitOn_cons_eq_if_modifyHead]
    split_ifs
    · exact ⟨l, List.mem_cons_of_mem _ hl, htl⟩
    · -- `c` goes in front of the first line; the other lines stay
      obtain ⟨r, rs, hr⟩ := List.exists_cons_of_ne_nil (List.splitOn_ne_nil '\n' (P ++ X))
      rw [hr, List.modifyHead_cons]
      rw [hr] at hl
      rcases List.mem_cons.1 hl with rfl | hl
      · exact ⟨c :: l, List.mem_cons_self, htl.trans (Framed.cons_blank (hP c List.mem_cons_self))⟩
      · exact ⟨l, List.mem_cons_of_mem _ hl, htl⟩

/-- Blanks put after a text: every line of the text stands between blanks in a line of the
longer text. This is the mirror image of `lines_blank_append`. -/
theorem lines_append_blank {S : List Char} (hS : ∀ c ∈ S, isBlank c = true) (X : List Char) :
    ∀ t ∈ X.splitOn '\n', ∃ l ∈ (X ++ S).splitOn '\n', Framed t l := by
  intro t ht
  have hrev : t.reverse ∈ X.reverse.splitOn '\n' := by
    rw [splitOn_reverse, List.mem_reverse]
    exact List.mem_map_of_mem ht
  have hSrev : ∀ c ∈ S.reverse, isBlank c = true := by simpa using hS
  obtain ⟨l, hl, htl⟩ := lines_blank_append hSrev X.reverse t.reverse hrev
  rw [← List.reverse_append, splitOn_reverse] at hl
  simp only [List.mem_reverse, List.mem_map] at hl
  obtain ⟨m, hm, rfl⟩ := hl
  exact ⟨m, hm, Framed.of_reverse htl⟩

/-- **Lines between blanks.** Every line of a text that stands between blanks in another
stands between blanks in one of the other's lines. -/
theorem lines_framed {T J : List Char} (h : Framed T J) :
    ∀ t ∈ T.splitOn '\n', ∃ l ∈ J.splitOn '\n', Framed t l := by
  obtain ⟨P, S, hP, hS, rfl⟩ := h
  intro t ht
  obtain ⟨u, hu, htu⟩ := lines_append_blank hS T t ht
  obtain ⟨l, hl, hul⟩ := lines_blank_append hP (T ++ S) u hu
  exact ⟨l, by simpa [List.append_assoc] using hl, htu.trans hul⟩

/-! ### Statements -/

/-- A line is a comment exactly when the text it stands in between blanks is. -/
theorem isCommentLine_of_framed {t l : List Char} (h : Framed t l) :
    isCommentLine (String.ofList l) = isCommentLine (String.ofList t) := by
  simp only [isCommentLine, trimBlank, String.toList_ofList, trimBlankList_of_framed h]

/-- The characters of a cleaned statement: the kept lines joined by newlines, trimmed. -/
theorem cleanStatement_toList (raw : String) :
    (cleanStatement raw).toList = trimBlankList (['\n'].intercalate
      ((raw.toList.splitOn '\n').filter fun l => !isCommentLine (String.ofList l))) := by
  have hnl : "\n".toList = ['\n'] := rfl
  simp [cleanStatement, splitChar, trimBlank, String.toList_intercalate, hnl, List.filter_map,
    Function.comp_def]

/-- A cleaned statement has no comment line. -/
theorem lines_cleanStatement (raw : String) :
    ∀ t ∈ (cleanStatement raw).toList.splitOn '\n', isCommentLine (String.ofList t) = false := by
  intro t ht
  rw [cleanStatement_toList] at ht
  obtain ⟨l, hl, htl⟩ := lines_framed (framed_trimBlankList _) t ht
  have hnl : ∀ m ∈ (raw.toList.splitOn '\n').filter (fun l => !isCommentLine (String.ofList l)),
      '\n' ∉ m := fun m hm => not_mem_of_mem_splitOn (List.mem_filter.1 hm).1
  by_cases hkept : (raw.toList.splitOn '\n').filter (fun l => !isCommentLine (String.ofList l)) = []
  · -- nothing was kept: the one line is empty
    rw [hkept, List.intercalate_nil, List.splitOn_nil, List.mem_singleton] at hl
    subst hl
    have ht0 : t = [] := List.eq_nil_of_length_eq_zero (by simpa using htl.isInfix.length_le)
    subst ht0
    decide
  · rw [List.splitOn_intercalate '\n' hnl hkept] at hl
    rw [← isCommentLine_of_framed htl]
    simpa using (List.mem_filter.1 hl).2

/-- A cleaned statement holds a `;` only if the raw one did. -/
theorem semicolon_not_mem_cleanStatement {raw : String} (h : ';' ∉ raw.toList) :
    ';' ∉ (cleanStatement raw).toList := by
  rw [cleanStatement_toList]
  intro hm
  rcases mem_intercalate_singleton ((framed_trimBlankList _).isInfix.subset hm) with
    h' | ⟨l, hl, hc⟩
  · exact absurd h' (by decide)
  · exact h (mem_of_mem_splitOn (List.mem_filter.1 hl).1 hc).1

theorem trimBlank_cleanStatement (raw : String) :
    trimBlank (cleanStatement raw) = cleanStatement raw := by
  apply String.ext
  rw [trimBlank, String.toList_ofList, cleanStatement_toList, trimBlankList_trimBlankList]

/-- A trimmed statement without comment lines is its own cleaned form. -/
theorem cleanStatement_eq_self {t : String} (ht : trimBlank t = t)
    (hc : ∀ l ∈ splitChar t '\n', isCommentLine l = false) : cleanStatement t = t := by
  have hkeep : ((splitChar t '\n').filter fun l => !isCommentLine l) = splitChar t '\n' :=
    List.filter_eq_self.2 fun l hl => by simp [hc l hl]
  have hnl : "\n".toList = ['\n'] := rfl
  have hjoin : "\n".intercalate (splitChar t '\n') = t := by
    apply String.ext
    simp [String.toList_intercalate, splitChar, hnl, Function.comp_def]
  rw [cleanStatement, hkeep, hjoin, ht]

/-- Texts without the character joined by it split back into themselves. -/
theorem splitChar_intercalate {sep : String} {c : Char} (hsep : sep.toList = [c])
    {ls : List String} (h : ∀ s ∈ ls, c ∉ s.toList) (hne : ls ≠ []) :
    splitChar (sep.intercalate ls) c = ls := by
  have hpieces : ∀ l ∈ ls.map String.toList, c ∉ l := by
    simpa using h
  rw [splitChar, String.toList_intercalate, hsep,
    List.splitOn_intercalate c hpieces (by simpa using hne)]
  simp [Function.comp_def]

/-- Every statement of a script is non-empty and trimmed, holds no semicolon, and none of its
lines is a comment. -/
theorem statement_shape {script t : String} (ht : t ∈ splitStatements script) :
    t ≠ "" ∧ trimBlank t = t ∧ ';' ∉ t.toList ∧
      ∀ l ∈ splitChar t '\n', isCommentLine l = false := by
  simp only [splitStatements, List.mem_filter, List.mem_map] at ht
  obtain ⟨⟨raw, hraw, rfl⟩, hne⟩ := ht
  refine ⟨by simpa using hne, trimBlank_cleanStatement raw, ?_, ?_⟩
  · apply semicolon_not_mem_cleanStatement
    simp only [splitChar, List.mem_map] at hraw
    obtain ⟨r, hr, rfl⟩ := hraw
    simpa using not_mem_of_mem_splitOn hr
  · intro l hl
    simp only [splitChar, List.mem_map] at hl
    obtain ⟨m, hm, rfl⟩ := hl
    exact lines_cleanStatement raw m hm

/-- **Statements are split to a normal form.** Every statement of a script is non-empty,
has no blank at either end, holds no `;`, and has no line whose text starts with `--` once
its blanks are cut; so joining the statements by `;` and splitting again gives them back. -/
theorem splitStatements_normal (script : String) :
    (∀ t ∈ splitStatements script, t ≠ "" ∧ trimBlank t = t ∧ ';' ∉ t.toList ∧
        ∀ l ∈ splitChar t '\n', (trimBlank l).startsWith "--" = false) ∧
      splitStatements (";".intercalate (splitStatements script)) = splitStatements script := by
  have hshape := fun t (ht : t ∈ splitStatements script) => statement_shape ht
  refine ⟨hshape, ?_⟩
  set out := splitStatements script
  by_cases hnil : out = []
  · rw [hnil]
    decide
  -- the joined text splits back into the statements, each already clean and non-empty
  have hsplit : splitChar (";".intercalate out) ';' = out :=
    splitChar_intercalate rfl (fun s hs => (hshape s hs).2.2.1) hnil
  have hclean : out.map cleanStatement = out := by
    conv_rhs => rw [← List.map_id out]
    exact List.map_congr_left fun t ht =>
      cleanStatement_eq_self (hshape t ht).2.1 (hshape t ht).2.2.2
  conv_lhs => rw [splitStatements, hsplit, hclean]
  exact List.filter_eq_self.2 fun t ht => by simpa using (hshape t ht).1

end TopicBridge.Journal
