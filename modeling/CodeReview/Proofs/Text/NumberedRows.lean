import CodeReview.Proofs.Text.TrimmedRows

/-!
# Rows and lines count alike

A text is cut at its line feeds in two ways: `rows` keeps every piece as it is, and `lines` drops an
empty last piece and the carriage return before a line feed. `LinesAreRows` says that both number
the pieces alike and what a line keeps of its row (`linesAreRows`).

A text without carriage returns has the same lines with one before each line feed
(`lines_withReturns`), and its lines with line feeds between them are the text again, up to a line
feed at its end (`join_lines`).
-/

set_option autoImplicit false

namespace CodeReview.Text

/-! ## Lines by number -/

/-- A row without the carriage return at its end, if there is one. -/
def WithoutReturn (row line : List Char) : Prop :=
  row = line ++ ['\r'] ∨ row = line ∧ row.getLast? ≠ some '\r'

theorem withoutReturn_dropReturn (row : List Char) : WithoutReturn row (dropReturn row) := by
  rcases List.eq_nil_or_concat' row with rfl | ⟨init, c, rfl⟩
  · exact .inr ⟨rfl, by simp⟩
  · by_cases hc : c = '\r'
    · subst hc
      exact .inl (by simp [dropReturn])
    · exact .inr (by simp [dropReturn, hc])

/-- Each row of a text but an empty last one is a line of the same number. A row that a line feed
ends loses a carriage return at its end, and the last row nothing. -/
structure LinesAreRows (text : String) : Prop where
  exists_iff : ∀ r, (∃ line, (lines text)[r]? = some line) ↔
    ∃ row, (rows text.toList)[r]? = some row ∧ ¬ (row = [] ∧ r + 1 = (rows text.toList).length)
  ended : ∀ r row line, (rows text.toList)[r]? = some row → (lines text)[r]? = some line →
    r + 1 < (rows text.toList).length → WithoutReturn row line.toList
  last : ∀ r row line, (rows text.toList)[r]? = some row → (lines text)[r]? = some line →
    r + 1 = (rows text.toList).length → row = line.toList

theorem getElem?_linesOfRows (rs : List (List Char)) (r : Nat) :
    (linesOfRows rs)[r]? = rs[r]?.bind fun row =>
      if r + 1 < rs.length then some (dropReturn row) else if row = [] then none else some row := by
  fun_induction linesOfRows rs generalizing r with
  | case1 => rfl
  | case2 last he =>
    obtain rfl := List.isEmpty_iff.1 he
    cases r <;> rfl
  | case3 last he =>
    cases r with
    | zero => simpa using he
    | succ r => rfl
  | case4 row rest hne ih =>
    have hlength : 0 < rest.length := List.length_pos_of_ne_nil hne
    cases r with
    | zero => simp [hlength]
    | succ r => simp [ih]

theorem getElem?_lines (text : String) (r : Nat) :
    (lines text)[r]? = (rows text.toList)[r]?.bind fun row =>
      if r + 1 < (rows text.toList).length then some (String.ofList (dropReturn row))
      else if row = [] then none else some (String.ofList row) := by
  rw [lines, List.getElem?_map, lineChars, getElem?_linesOfRows]
  cases (rows text.toList)[r]? with
  | none => rfl
  | some row =>
    simp only [Option.bind_some]
    split_ifs <;> rfl

theorem linesAreRows (text : String) : LinesAreRows text where
  exists_iff r := by
    rw [getElem?_lines]
    constructor
    · rintro ⟨line, hline⟩
      obtain ⟨row, hrow, hline⟩ := Option.bind_eq_some_iff.1 hline
      refine ⟨row, hrow, fun ⟨hnil, hlast⟩ => ?_⟩
      rw [if_neg (by omega), if_pos hnil] at hline
      cases hline
    · rintro ⟨row, hrow, hkept⟩
      have hr := (List.getElem?_eq_some_iff.1 hrow).1
      rw [hrow, Option.bind_some]
      by_cases hended : r + 1 < (rows text.toList).length
      · exact ⟨_, if_pos hended⟩
      · rw [if_neg hended, if_neg fun hnil => hkept ⟨hnil, by omega⟩]
        exact ⟨_, rfl⟩
  ended r row line hrow hline hended := by
    rw [getElem?_lines, hrow, Option.bind_some, if_pos hended] at hline
    rw [← Option.some.inj hline, String.toList_ofList]
    exact withoutReturn_dropReturn row
  last r row line hrow hline hlast := by
    rw [getElem?_lines, hrow, Option.bind_some, if_neg (by omega)] at hline
    split_ifs at hline
    rw [← Option.some.inj hline, String.toList_ofList]

/-! ## Carriage returns -/

/-- Some characters with a carriage return before each line feed. -/
def addReturns (cs : List Char) : List Char :=
  cs.flatMap fun c => if c = '\n' then ['\r', '\n'] else [c]

theorem addReturns_of_not_mem {r : List Char} (hr : '\n' ∉ r) : addReturns r = r := by
  have hself : ∀ c ∈ r, (if c = '\n' then ['\r', '\n'] else [c]) = [c] := by
    intro c hc
    rw [if_neg]
    rintro rfl
    exact hr hc
  rw [addReturns, List.flatMap_congr hself, List.flatMap_singleton']

theorem addReturns_row_cons {r : List Char} (hr : '\n' ∉ r) (t : List Char) :
    addReturns (r ++ '\n' :: t) = (r ++ ['\r']) ++ '\n' :: addReturns t := by
  rw [addReturns, List.flatMap_append, ← addReturns, addReturns_of_not_mem hr, List.append_assoc]
  rfl

theorem dropReturn_concat (cs : List Char) : dropReturn (cs ++ ['\r']) = cs := by
  simp [dropReturn]

theorem dropReturn_of_not_mem {cs : List Char} (h : '\r' ∉ cs) : dropReturn cs = cs := by
  refine (dropReturn_cases cs).resolve_right fun he => h ?_
  rw [he]
  exact List.mem_append_right _ List.mem_cons_self

theorem lineChars_of_not_mem {r : List Char} (hr : '\n' ∉ r) :
    lineChars r = if r.isEmpty then [] else [r] := by
  rw [lineChars, rows_of_not_mem hr, linesOfRows]

theorem lineChars_row_cons {r : List Char} (hr : '\n' ∉ r) (t : List Char) :
    lineChars (r ++ '\n' :: t) = dropReturn r :: lineChars t := by
  rw [lineChars, rows_row_cons hr, linesOfRows]
  · rfl
  · exact splitChars_ne_nil _ t

theorem lineChars_eq_nil_iff {cs : List Char} : lineChars cs = [] ↔ cs = [] := by
  constructor
  · intro h
    induction cs using row_induction with
    | row r hr => simpa [lineChars_of_not_mem hr] using h
    | cons r t hr => simp [lineChars_row_cons hr] at h
  · rintro rfl
    rfl

/-- Carriage returns before all line feeds are not seen in the lines. -/
theorem lineChars_addReturns {cs : List Char} (h : '\r' ∉ cs) :
    lineChars (addReturns cs) = lineChars cs := by
  induction cs using row_induction with
  | row r hr => rw [addReturns_of_not_mem hr]
  | cons r t hr ih =>
    rw [List.mem_append, List.mem_cons, not_or, not_or] at h
    have hreturned : '\n' ∉ r ++ ['\r'] := by simp [hr]
    rw [addReturns_row_cons hr, lineChars_row_cons hreturned, lineChars_row_cons hr,
      dropReturn_concat, dropReturn_of_not_mem h.1, ih h.2.2]

/-- A text with a carriage return before each line feed. -/
def withReturns (text : String) : String := String.ofList (addReturns text.toList)

theorem lines_withReturns {text : String} (h : '\r' ∉ text.toList) :
    lines (withReturns text) = lines text := by
  rw [lines, withReturns, String.toList_ofList, lineChars_addReturns h, lines]

/-! ## Lines with line feeds between them -/

/-- The line feed at the end of some characters, if there is one. -/
def finalNewline (cs : List Char) : List Char := if cs.getLast? = some '\n' then ['\n'] else []

theorem intercalate_lineChars {cs : List Char} (h : '\r' ∉ cs) :
    ['\n'].intercalate (lineChars cs) ++ finalNewline cs = cs := by
  induction cs using row_induction with
  | row r hr =>
    have hlast : finalNewline r = [] := if_neg fun hn => hr (List.mem_of_getLast? hn)
    rw [hlast, List.append_nil, lineChars_of_not_mem hr]
    split_ifs with hnil
    · exact (List.isEmpty_iff.1 hnil).symm
    · exact List.intercalate_singleton
  | cons r t hr ih =>
    rw [List.mem_append, List.mem_cons, not_or, not_or] at h
    rw [lineChars_row_cons hr, dropReturn_of_not_mem h.1]
    rcases eq_or_ne t [] with rfl | hne
    · rw [lineChars_eq_nil_iff.2 rfl, List.intercalate_singleton, finalNewline, if_pos (by simp)]
    · have hlast : finalNewline (r ++ '\n' :: t) = finalNewline t := by
        rw [finalNewline, finalNewline, List.append_cons, List.getLast?_append_of_ne_nil _ hne]
      rw [List.intercalate_cons_of_ne_nil (mt lineChars_eq_nil_iff.1 hne), List.append_assoc, hlast,
        ih h.2.2, List.append_assoc, List.singleton_append]

/-- Joined lines are the text again, up to a line feed at its end. -/
theorem join_lines {text : String} (h : '\r' ∉ text.toList) :
    join "\n" (lines text) ++ String.ofList (finalNewline text.toList) = text := by
  have hlines : (lines text).map String.toList = lineChars text.toList := by
    rw [lines, List.map_map]
    exact (List.map_congr_left fun l _ => String.toList_ofList).trans (List.map_id' _)
  rw [← String.toList_inj, String.toList_append, String.toList_ofList, join,
    String.toList_intercalate, hlines]
  exact intercalate_lineChars h

end CodeReview.Text
