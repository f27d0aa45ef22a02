import CodeReview.Text.Line
import Mathlib.Data.List.DropRight

/-!
# Rows without blanks around them

`trimmedRows` gives what counts of a text for a reader of lines: the rows that are not blank,
without the blanks around them. A blank at either end of the text never changes them
(`trimmedRows_trimChars`), nor does it matter whether the text is cut into rows or into lines
(`trimmedRows_eq_lines`). Two texts with a line feed between them have the rows of both
(`trimmedRows_append`), and rows that are joined by line feeds are read back without the blanks
around them (`trimmedRows_intercalate_rows`).
-/

set_option autoImplicit false

namespace CodeReview.Text

/-! ## Trimming -/

theorem trimRight_concat (cs : List Char) (c : Char) :
    trimRight (cs ++ [c]) = if isBlank c then trimRight cs else cs ++ [c] :=
  List.rdropWhile_concat isBlank cs c

theorem trimLeft_cons (c : Char) (cs : List Char) :
    trimLeft (c :: cs) = if isBlank c then trimLeft cs else c :: cs :=
  List.dropWhile_cons

theorem trimChars_blank_cons {c : Char} (hc : isBlank c) (cs : List Char) :
    trimChars (c :: cs) = trimChars cs := by
  rw [trimChars, trimLeft_cons, if_pos hc, trimChars]

theorem trimChars_concat_blank {c : Char} (hc : isBlank c) (cs : List Char) :
    trimChars (cs ++ [c]) = trimChars cs := by
  rw [trimChars, trimChars, trimLeft, trimLeft, List.dropWhile_append]
  cases h : cs.dropWhile isBlank with
  | nil => simp [hc]
  | cons d ds =>
    rw [List.isEmpty_cons, if_neg Bool.false_ne_true, trimRight_concat, if_pos hc]

/-- What does not depend on a blank at either end does not depend on trimming. -/
theorem apply_trimChars {α : Type} {f : List Char → α}
    (hleft : ∀ c cs, isBlank c → f (c :: cs) = f cs)
    (hright : ∀ c cs, isBlank c → f (cs ++ [c]) = f cs) (cs : List Char) :
    f (trimChars cs) = f cs := by
  have hl : ∀ cs, f (trimLeft cs) = f cs := fun cs => by
    induction cs with
    | nil => rfl
    | cons c cs ih =>
      rw [trimLeft_cons]
      split
      · rename_i hc
        rw [ih, hleft c cs hc]
      · rfl
  have hr : ∀ cs, f (trimRight cs) = f cs := fun cs => by
    induction cs using List.reverseRecOn with
    | nil => rfl
    | append_singleton cs c ih =>
      rw [trimRight_concat]
      split
      · rename_i hc
        rw [ih, hright c cs hc]
      · rfl
  rw [trimChars, hr, hl]

theorem trimChars_trimChars (cs : List Char) : trimChars (trimChars cs) = trimChars cs :=
  apply_trimChars (fun _ cs hc => trimChars_blank_cons hc cs)
    (fun _ cs hc => trimChars_concat_blank hc cs) cs

theorem mem_of_mem_trimChars {c : Char} {cs : List Char} (h : c ∈ trimChars cs) : c ∈ cs :=
  (List.dropWhile_sublist _).mem ((List.rdropWhile_prefix isBlank _).sublist.mem h)

/-! ## Pieces -/

section
variable (sep : Char)

theorem splitChars_ne_nil (cs : List Char) : splitChars sep cs ≠ [] := by
  cases cs with
  | nil => exact List.cons_ne_nil _ _
  | cons c cs =>
    rw [splitChars]
    split
    · exact List.cons_ne_nil _ _
    · split <;> exact List.cons_ne_nil _ _

theorem splitChars_sep_cons (cs : List Char) :
    splitChars sep (sep :: cs) = [] :: splitChars sep cs := by
  obtain ⟨r, rs, h⟩ := List.exists_cons_of_ne_nil (splitChars_ne_nil sep cs)
  rw [splitChars, h]
  exact if_pos rfl

variable {sep}

theorem splitChars_cons {c : Char} {cs r : List Char} {rs : List (List Char)} (hc : c ≠ sep)
    (h : splitChars sep cs = r :: rs) : splitChars sep (c :: cs) = (c :: r) :: rs := by
  rw [splitChars, h]
  exact if_neg hc

theorem splitChars_of_not_mem {cs : List Char} (h : sep ∉ cs) : splitChars sep cs = [cs] := by
  induction cs with
  | nil => rfl
  | cons c cs ih =>
    rw [List.mem_cons, not_or] at h
    exact splitChars_cons (Ne.symm h.1) (ih h.2)

theorem splitChars_append (s t : List Char) :
    splitChars sep (s ++ sep :: t) = splitChars sep s ++ splitChars sep t := by
  induction s with
  | nil => exact splitChars_sep_cons sep t
  | cons c s ih =>
    by_cases hc : c = sep
    · subst hc
      rw [List.cons_append, splitChars_sep_cons, splitChars_sep_cons, ih, List.cons_append]
    · obtain ⟨r, rs, h⟩ := List.exists_cons_of_ne_nil (splitChars_ne_nil sep s)
      rw [List.cons_append, splitChars_cons hc h,
        splitChars_cons hc (by rw [ih, h, List.cons_append]), List.cons_append]

/-- A text without separators and what follows it are known from both, with a separator between. -/
theorem append_sep_inj {s s' t t' : List Char} (hs : sep ∉ s) (hs' : sep ∉ s')
    (h : s ++ sep :: t = s' ++ sep :: t') : s = s' ∧ t = t' := by
  have hpieces := congrArg (splitChars sep) h
  rw [splitChars_append, splitChars_append, splitChars_of_not_mem hs,
    splitChars_of_not_mem hs'] at hpieces
  obtain rfl := (List.cons.inj hpieces).1
  exact ⟨rfl, (List.cons.inj (List.append_cancel_left h)).2⟩

end

/-! ## Rows -/

/-- A text without a line feed is one row. -/
theorem rows_of_not_mem {cs : List Char} (h : '\n' ∉ cs) : rows cs = [cs] := splitChars_of_not_mem h

theorem rows_append (s t : List Char) : rows (s ++ '\n' :: t) = rows s ++ rows t :=
  splitChars_append s t

theorem rows_row_cons {r : List Char} (hr : '\n' ∉ r) (t : List Char) :
    rows (r ++ '\n' :: t) = r :: rows t := by
  rw [rows_append, rows_of_not_mem hr, List.singleton_append]

/-- A text is one row, or a row with a line feed and a text after it. -/
theorem row_induction {P : List Char → Prop} (row : ∀ r, '\n' ∉ r → P r)
    (cons : ∀ r t, '\n' ∉ r → P t → P (r ++ '\n' :: t)) (cs : List Char) : P cs := by
  have hall : ∀ r, '\n' ∉ r → P (r ++ cs) := by
    induction cs with
    | nil => exact fun r hr => by rw [List.append_nil]; exact row r hr
    | cons c cs ih =>
      intro r hr
      by_cases hc : c = '\n'
      · subst hc
        exact cons r cs hr (ih [] List.not_mem_nil)
      · rw [List.append_cons]
        exact ih (r ++ [c]) (by simp [hr, Ne.symm hc])
  exact hall [] List.not_mem_nil

/-- A text is one row, or two texts with a line feed between them. -/
theorem rows_induction {P : List Char → Prop} (row : ∀ r, '\n' ∉ r → P r)
    (append : ∀ s t, P s → P t → P (s ++ '\n' :: t)) (cs : List Char) : P cs :=
  row_induction row (fun r t hr ht => append r t (row r hr) ht) cs

theorem newline_not_mem_row {cs r : List Char} (h : r ∈ rows cs) : '\n' ∉ r := by
  induction cs using rows_induction with
  | row cs hcs =>
    rw [rows_of_not_mem hcs, List.mem_singleton] at h
    rwa [h]
  | append s t ihs iht =>
    rw [rows_append, List.mem_append] at h
    exact h.elim ihs iht

theorem mem_of_mem_row {cs r : List Char} {c : Char} (hr : r ∈ rows cs) (hc : c ∈ r) : c ∈ cs := by
  induction cs using rows_induction with
  | row cs hcs =>
    rw [rows_of_not_mem hcs, List.mem_singleton] at hr
    rwa [← hr]
  | append s t ihs iht =>
    rw [rows_append, List.mem_append] at hr
    rcases hr with hr | hr
    · exact List.mem_append_left _ (ihs hr)
    · exact List.mem_append_right _ (List.mem_cons_of_mem _ (iht hr))

/-- Rows that are joined by line feeds are read back. -/
theorem rows_intercalate {rs : List (List Char)} (hne : rs ≠ []) (h : ∀ r ∈ rs, '\n' ∉ r) :
    rows (['\n'].intercalate rs) = rs := by
  induction rs with
  | nil => exact absurd rfl hne
  | cons r rs ih =>
    rw [List.forall_mem_cons] at h
    cases rs with
    | nil => rw [List.intercalate_singleton, rows_of_not_mem h.1]
    | cons r' rs =>
      rw [List.intercalate_cons_cons, List.append_assoc, List.singleton_append,
        rows_row_cons h.1, ih (List.cons_ne_nil r' rs) h.2]

/-! ## Trimmed rows -/

/-- The rows that are not blank, without the blanks around them. -/
def trimmedRows (cs : List Char) : List (List Char) :=
  ((rows cs).map trimChars).filter fun l => !l.isEmpty

theorem trimmedRows_append (s t : List Char) :
    trimmedRows (s ++ '\n' :: t) = trimmedRows s ++ trimmedRows t := by
  simp only [trimmedRows, rows_append, List.map_append, List.filter_append]

theorem trimmedRows_of_not_mem {cs : List Char} (h : '\n' ∉ cs) :
    trimmedRows cs = [trimChars cs].filter fun l => !l.isEmpty := by
  rw [trimmedRows, rows_of_not_mem h, List.map_singleton]

theorem trimmedRows_nil : trimmedRows [] = [] := rfl

theorem trimmedRows_newline_cons (cs : List Char) : trimmedRows ('\n' :: cs) = trimmedRows cs :=
  trimmedRows_append [] cs

theorem trimmedRows_concat_newline (cs : List Char) : trimmedRows (cs ++ ['\n']) = trimmedRows cs := by
  rw [trimmedRows_append, trimmedRows_nil, List.append_nil]

theorem trimmedRows_blank_cons {c : Char} (hc : isBlank c) (cs : List Char) :
    trimmedRows (c :: cs) = trimmedRows cs := by
  induction cs using rows_induction with
  | row r hr =>
    by_cases hn : c = '\n'
    · rw [hn, trimmedRows_newline_cons]
    · rw [trimmedRows_of_not_mem (by simp [hr, Ne.symm hn]), trimmedRows_of_not_mem hr,
        trimChars_blank_cons hc]
  | append s t ihs _ =>
    rw [← List.cons_append, trimmedRows_append, trimmedRows_append, ihs]

theorem trimmedRows_concat_blank {c : Char} (hc : isBlank c) (cs : List Char) :
    trimmedRows (cs ++ [c]) = trimmedRows cs := by
  induction cs using rows_induction with
  | row r hr =>
    by_cases hn : c = '\n'
    · rw [hn, trimmedRows_concat_newline]
    · rw [trimmedRows_of_not_mem (by simp [hr, Ne.symm hn]), trimmedRows_of_not_mem hr,
        trimChars_concat_blank hc]
  | append s t _ iht =>
    rw [List.append_assoc, List.cons_append, trimmedRows_append, trimmedRows_append, iht]

/-- Blanks at the ends of a text do not matter. -/
theorem trimmedRows_trimChars (cs : List Char) : trimmedRows (trimChars cs) = trimmedRows cs :=
  apply_trimChars (fun _ cs hc => trimmedRows_blank_cons hc cs)
    (fun _ cs hc => trimmedRows_concat_blank hc cs) cs

/-! ## Lines -/

theorem dropReturn_cases (cs : List Char) : dropReturn cs = cs ∨ cs = dropReturn cs ++ ['\r'] := by
  rw [dropReturn]
  split
  · rename_i rest h
    right
    rw [← List.reverse_reverse cs, h, List.reverse_cons]
  · exact .inl rfl

theorem mem_of_mem_dropReturn {c : Char} {cs : List Char} (h : c ∈ dropReturn cs) : c ∈ cs := by
  rcases dropReturn_cases cs with hcs | hcs
  · rwa [hcs] at h
  · rw [hcs]
    exact List.mem_append_left _ h

/-- A line is a row, or a row without the carriage return at its end. -/
theorem exists_row_of_mem_linesOfRows {rs : List (List Char)} {l : List Char}
    (h : l ∈ linesOfRows rs) : ∃ r ∈ rs, l = r ∨ l = dropReturn r := by
  fun_induction linesOfRows rs with
  | case1 => exact absurd h List.not_mem_nil
  | case2 last he => exact absurd h List.not_mem_nil
  | case3 last he => exact ⟨last, List.mem_cons_self, .inl (List.mem_singleton.1 h)⟩
  | case4 row rest _ ih =>
    rcases List.mem_cons.1 h with rfl | h
    · exact ⟨row, List.mem_cons_self, .inr rfl⟩
    · obtain ⟨r, hr, hl⟩ := ih h
      exact ⟨r, List.mem_cons_of_mem row hr, hl⟩

/-- The characters of a line stand in the text. -/
theorem mem_of_mem_line {s line : String} {c : Char} (hl : line ∈ lines s) (hc : c ∈ line.toList) :
    c ∈ s.toList := by
  obtain ⟨l, hline, rfl⟩ := List.mem_map.1 hl
  rw [String.toList_ofList] at hc
  obtain ⟨r, hr, rfl | rfl⟩ := exists_row_of_mem_linesOfRows hline
  · exact mem_of_mem_row hr hc
  · exact mem_of_mem_row hr (mem_of_mem_dropReturn hc)

theorem newline_not_mem_line {s line : String} (hl : line ∈ lines s) : '\n' ∉ line.toList := by
  obtain ⟨l, hline, rfl⟩ := List.mem_map.1 hl
  rw [String.toList_ofList]
  obtain ⟨r, hr, rfl | rfl⟩ := exists_row_of_mem_linesOfRows hline
  · exact newline_not_mem_row hr
  · exact fun hn => newline_not_mem_row hr (mem_of_mem_dropReturn hn)

theorem trimChars_dropReturn (cs : List Char) : trimChars (dropReturn cs) = trimChars cs := by
  rcases dropReturn_cases cs with hcs | hcs
  · rw [hcs]
  · conv_rhs => rw [hcs, trimChars_concat_blank (by decide)]

/-- The lines of a text differ from its rows by what trimming removes, and by a last row that is
empty. -/
theorem trimmedRows_eq_lines (cs : List Char) :
    trimmedRows cs = ((lineChars cs).map trimChars).filter fun l => !l.isEmpty := by
  rw [trimmedRows, lineChars]
  fun_induction linesOfRows (rows cs) with
  | case1 => rfl
  | case2 last h =>
    obtain rfl := List.isEmpty_iff.1 h
    rfl
  | case3 last h => rfl
  | case4 row rest _ ih =>
    simp only [List.map_cons, List.filter_cons, trimChars_dropReturn, ih]

/-! ## Reading trimmed rows back -/

theorem mem_trimmedRows {cs l : List Char} (h : l ∈ trimmedRows cs) :
    l ≠ [] ∧ trimChars l = l ∧ '\n' ∉ l := by
  obtain ⟨hm, hne⟩ := List.mem_filter.1 h
  obtain ⟨r, hr, rfl⟩ := List.mem_map.1 hm
  refine ⟨by simpa using hne, trimChars_trimChars r, fun hn => ?_⟩
  exact newline_not_mem_row hr (mem_of_mem_trimChars hn)

/-- What counts of joined rows, if none of them is blank. -/
theorem trimmedRows_intercalate_rows {rs : List (List Char)}
    (h : ∀ r ∈ rs, '\n' ∉ r ∧ trimChars r ≠ []) :
    trimmedRows (['\n'].intercalate rs) = rs.map trimChars := by
  rcases eq_or_ne rs [] with rfl | hne
  · rfl
  · rw [trimmedRows, rows_intercalate hne fun r hr => (h r hr).1, List.filter_eq_self]
    intro l hl
    obtain ⟨r, hr, rfl⟩ := List.mem_map.1 hl
    simpa using (h r hr).2

/-- Trimmed rows that are joined by line feeds are read back. -/
theorem trimmedRows_intercalate {ls : List (List Char)}
    (h : ∀ l ∈ ls, l ≠ [] ∧ trimChars l = l ∧ '\n' ∉ l) :
    trimmedRows (['\n'].intercalate ls) = ls := by
  have hrows : ∀ l ∈ ls, '\n' ∉ l ∧ trimChars l ≠ [] := by
    intro l hl
    obtain ⟨hne, ht, hn⟩ := h l hl
    exact ⟨hn, ht.symm ▸ hne⟩
  rw [trimmedRows_intercalate_rows hrows]
  exact (List.map_congr_left fun l hl => (h l hl).2.1).trans (List.map_id' ls)

end CodeReview.Text
