import CodeReview.Proofs.Json.Numeral
import CodeReview.Proofs.Report.DroppedStyles
import CodeReview.Proofs.Review.CategorizedReport
import CodeReview.Proofs.Review.OutcomeRoundTrip

/-!
# Messages in the text of a report

The text of categorized messages, cut into rows, has one row for the legend, and for each category
that has an entry its name, its messages with their numbers, and an empty row (`entryRows`). The
entries are read back from these rows (`entries_inj`): the row of a message is never empty, so an
entry ends at its first empty row, and within an entry the number of a message is known from its
place. So the text is that of one result only, whatever the messages look like
(`categorized_text_lists`), as long as none of them goes over more than one line.
-/

set_option autoImplicit false

namespace CodeReview

open Text

/-! ## Entries -/

namespace Categorized

variable {r : Categorized}

theorem mem_toList {e : Category × List String} : e ∈ r.toList ↔ r.get? e.1 = some e.2 := by
  obtain ⟨c, ms⟩ := e
  simp only [toList, List.mem_filterMap, Option.map_eq_some_iff, Prod.mk.injEq]
  constructor
  · rintro ⟨d, -, ms', hget, rfl, rfl⟩
    exact hget
  · exact fun hget => ⟨c, mem_all c, ms, hget, rfl, rfl⟩

/-- A result is known from its entries in their order. -/
theorem toList_inj {s : Categorized} (h : r.toList = s.toList) : r = s := by
  refine ext_get? fun c => Option.ext fun ms => ?_
  rw [← mem_toList (e := (c, ms)), ← mem_toList (e := (c, ms)), h]

theorem map_fst_toList (r : Categorized) : r.toList.map (·.1) = Category.all.filter r.contains := by
  rw [toList]
  induction Category.all with
  | nil => rfl
  | cons c cs ih => cases h : r.get? c <;> simp [contains, h, ih]

/-- No message goes over more than one line. -/
def IsOneLined (r : Categorized) : Prop := ∀ m ∈ r.texts, '\n' ∉ m.toList

instance (r : Categorized) : Decidable r.IsOneLined := inferInstanceAs (Decidable (∀ _ ∈ _, _))

end Categorized

namespace Report

/-! ## Rows -/

/-- The row with the name of a category. -/
def headingRow (colors : Bool) (c : Category) : String :=
  Styled.shown colors (styledText [categoryStyle c, .bold] (c.name ++ ":"))

/-- The row of a message with its number. -/
def messageRow (message : String) (i : Nat) : String := "  " ++ toString i ++ ". " ++ message

/-- The rows of an entry: the name of its category, its messages numbered from one on, and an empty
row. -/
def entryRows (colors : Bool) (e : Category × List String) : List String :=
  headingRow colors e.1 :: (e.2.zipIdx 1).map (fun (m, i) => messageRow m i) ++ [""]

/-- The legend without the line feeds after it. -/
def legendLine : Styled :=
  Styled.join
    [styledText [.dim] "Legend:", plainText " ",
      Styled.join <| (Category.all.map fun c =>
        styledText [categoryStyle c] (c.name ++ " (" ++ c.legendColor ++ ")")).intersperse
          (plainText "  ")]

/-- The row of the legend. -/
def legendRow (colors : Bool) : String := Styled.shown colors legendLine

/-- The characters of a text in which each row ends with a line feed. -/
def endedRows (rs : List String) : List Char := rs.flatMap fun r => r.toList ++ ['\n']

theorem rows_endedRows {rs : List String} (h : ∀ r ∈ rs, '\n' ∉ r.toList) :
    rows (endedRows rs) = (rs ++ [""]).map String.toList := by
  induction rs with
  | nil => rfl
  | cons r rs ih =>
    rw [List.forall_mem_cons] at h
    rw [endedRows, List.flatMap_cons, List.append_assoc, List.singleton_append,
      rows_row_cons h.1, ← endedRows, ih h.2]
    rfl

theorem toList_shown_numbered (colors : Bool) (ms : List String) :
    (Styled.shown colors (numbered ms)).toList =
      endedRows ((ms.zipIdx 1).map fun (m, i) => messageRow m i) := by
  rw [numbered, toList_shown_flatMap, endedRows, List.flatMap_map]
  refine List.flatMap_congr fun entry _ => ?_
  obtain ⟨m, i⟩ := entry
  have htext : s!"  {i}. {m}\n" = messageRow m i ++ "\n" := rfl
  rw [toList_shown_plainText, htext, String.toList_append]
  rfl

theorem toList_shown_categorySection (colors : Bool) (e : Category × List String) :
    (Styled.shown colors (categorySection e)).toList = endedRows (entryRows colors e) := by
  have hsection : categorySection e =
      styledText [categoryStyle e.1, .bold] (e.1.name ++ ":") ++
        (plainText "\n" ++ (numbered e.2 ++ plainText "\n")) := by
    simp [categorySection, Styled.join]
  rw [hsection, toList_shown_append, toList_shown_append, toList_shown_append,
    toList_shown_plainText, toList_shown_numbered]
  simp [entryRows, endedRows, headingRow]

/-- The text of some entries is made of the row of the legend, an empty row and their rows. -/
theorem toList_render_of_entries (colors : Bool) {r : Categorized} (h : r.isEmpty = false) :
    (renderCategorized .text colors r).toList =
      endedRows (legendRow colors :: "" :: r.toList.flatMap (entryRows colors)) := by
  have hlegend : (Styled.shown colors legend).toList = endedRows [legendRow colors, ""] := by
    have hline : legend = legendLine ++ plainText "\n\n" := rfl
    rw [hline, toList_shown_append, toList_shown_plainText]
    simp [endedRows, legendRow]
  have hentries : (Styled.shown colors (r.toList.flatMap categorySection)).toList =
      endedRows (r.toList.flatMap (entryRows colors)) := by
    simp only [toList_shown_flatMap, toList_shown_categorySection, endedRows, List.flatMap_assoc]
  have hrender : renderCategorized .text colors r =
      Styled.shown colors (legend ++ r.toList.flatMap categorySection) := by
    rw [renderCategorized, categorizedText, h]
    rfl
  rw [hrender, toList_shown_append, hlegend, hentries, endedRows, endedRows, ← List.flatMap_append]
  rfl

theorem newline_not_mem_code (s : Style) : '\n' ∉ s.code.toList := by
  cases s with
  | shade index =>
    rw [Style.code, String.toList_append, List.mem_append, not_or]
    exact ⟨by decide, fun h => absurd ((Json.isDigits_nat _).isDigit _ h) (by decide)⟩
  | _ => decide

/-- No style writes a line feed. -/
theorem newline_not_mem_shown (colors : Bool) {s : Styled}
    (h : ∀ p ∈ s, '\n' ∉ p.text.toList) : '\n' ∉ (Styled.shown colors s).toList := by
  have hsequence : ∀ {code : String}, '\n' ∉ code.toList → '\n' ∉ Styled.sequence code := by
    intro code hcode
    simpa [Styled.sequence] using hcode
  cases colors with
  | false =>
    rw [Styled.shown, if_neg Bool.false_ne_true, Styled.plain, String.toList_ofList,
      Styled.plainChars, List.mem_flatMap]
    rintro ⟨p, hp, hn⟩
    exact h p hp hn
  | true =>
    rw [Styled.shown, if_pos rfl, Styled.colored, String.toList_ofList, Styled.coloredChars,
      List.mem_flatMap]
    rintro ⟨p, hp, hn⟩
    rw [Styled.coloredPiece, List.mem_append, List.mem_append, List.mem_flatMap] at hn
    rcases hn with (⟨style, -, hn⟩ | hn) | hn
    · exact hsequence (newline_not_mem_code style) hn
    · exact h p hp hn
    · split at hn
      · exact absurd hn List.not_mem_nil
      · exact hsequence (by decide) hn

theorem newline_not_mem_heading (colors : Bool) (c : Category) :
    '\n' ∉ (headingRow colors c).toList := by
  refine newline_not_mem_shown colors ?_
  cases c <;> decide

theorem newline_not_mem_legendRow (colors : Bool) : '\n' ∉ (legendRow colors).toList :=
  newline_not_mem_shown colors (by decide)

theorem newline_not_mem_messageRow {m : String} (h : '\n' ∉ m.toList) (i : Nat) :
    '\n' ∉ (messageRow m i).toList := by
  have hnumber : '\n' ∉ (toString i).toList := fun hm =>
    absurd ((Json.isDigits_nat i).isDigit _ hm) (by decide)
  simp only [messageRow, String.toList_append, List.mem_append, not_or]
  exact ⟨⟨⟨by decide, hnumber⟩, by decide⟩, h⟩

theorem newline_not_mem_entryRows {colors : Bool} {e : Category × List String}
    (h : ∀ m ∈ e.2, '\n' ∉ m.toList) : ∀ row ∈ entryRows colors e, '\n' ∉ row.toList := by
  intro row hrow
  simp only [entryRows, List.cons_append, List.mem_cons, List.mem_append, List.mem_map,
    List.not_mem_nil, or_false] at hrow
  rcases hrow with rfl | ⟨⟨m, i⟩, hm, rfl⟩ | rfl
  · exact newline_not_mem_heading colors e.1
  · exact newline_not_mem_messageRow (h m (List.fst_mem_of_mem_zipIdx hm)) i
  · decide

/-- The rows of the text of a result. -/
theorem rows_renderCategorized (colors : Bool) {r : Categorized} (hr : r.IsOneLined)
    (h : r.isEmpty = false) :
    rows (renderCategorized .text colors r).toList =
      (legendRow colors :: "" :: r.toList.flatMap (entryRows colors) ++ [""]).map
        String.toList := by
  rw [toList_render_of_entries colors h]
  refine rows_endedRows ?_
  rw [List.forall_mem_cons, List.forall_mem_cons, List.forall_mem_flatMap]
  refine ⟨newline_not_mem_legendRow colors, by decide, fun e he => ?_⟩
  exact newline_not_mem_entryRows fun m hm => hr m (List.mem_flatMap.2 ⟨e, he, hm⟩)

/-! ## Reading rows back -/

/-- Rows before an empty one are read back, if none of them is empty. -/
theorem rows_before_empty_inj {xs ys s t : List String} (hx : "" ∉ xs) (hy : "" ∉ ys)
    (h : xs ++ "" :: s = ys ++ "" :: t) : xs = ys ∧ s = t := by
  induction xs generalizing ys with
  | nil =>
    cases ys with
    | nil => exact ⟨rfl, (List.cons.inj h).2⟩
    | cons y ys => exact absurd (List.mem_cons.2 (.inl (List.cons.inj h).1)) hy
  | cons x xs ih =>
    cases ys with
    | nil => exact absurd (List.mem_cons.2 (.inl (List.cons.inj h).1.symm)) hx
    | cons y ys =>
      obtain ⟨rfl, hrest⟩ := List.cons.inj h
      obtain ⟨rfl, rfl⟩ :=
        ih (mt (List.mem_cons_of_mem x) hx) (mt (List.mem_cons_of_mem x) hy) hrest
      exact ⟨rfl, rfl⟩

theorem messageRow_inj {m m' : String} {i : Nat} (h : messageRow m i = messageRow m' i) :
    m = m' := by
  have hchars := congrArg String.toList h
  simp only [messageRow, String.toList_append] at hchars
  exact String.toList_injective (List.append_cancel_left hchars)

theorem messageRow_ne_empty (m : String) (i : Nat) : messageRow m i ≠ "" := by
  intro h
  have hchars := congrArg String.toList h
  simp [messageRow] at hchars

/-- Messages are read back from their rows. -/
theorem messages_inj {ms ms' : List String} {i : Nat}
    (h : (ms.zipIdx i).map (fun (m, i) => messageRow m i) =
      (ms'.zipIdx i).map (fun (m, i) => messageRow m i)) : ms = ms' := by
  induction ms generalizing ms' i with
  | nil => cases ms' with
    | nil => rfl
    | cons m' ms' => cases h
  | cons m ms ih => cases ms' with
    | nil => cases h
    | cons m' ms' =>
      rw [List.zipIdx_cons, List.zipIdx_cons, List.map_cons, List.map_cons] at h
      obtain ⟨hrow, hrest⟩ := List.cons.inj h
      rw [messageRow_inj hrow, ih hrest]

theorem headingRow_inj {colors : Bool} {c d : Category}
    (h : headingRow colors c = headingRow colors d) : c = d := by
  have hplain : ∀ c, headingRow false c = c.name ++ ":" := fun c => by
    simp [headingRow, Styled.shown, Styled.plain, Styled.plainChars, styledText]
  have hwords : ∀ c, withoutStyles (headingRow true c) = headingRow false c := fun c => by
    refine Styled.NoEscape.dropStyles_shown ?_
    rw [Styled.noEscape_styledText, noEscape_append]
    exact ⟨noEscape_name c, by decide⟩
  have hnames : c.name ++ ":" = d.name ++ ":" := by
    cases colors with
    | false => rw [← hplain, h, hplain]
    | true => rw [← hplain, ← hwords, h, hwords, hplain]
  have hname : c.name = d.name := (String.append_left_inj ":").1 hnames
  have hsome := (Category.ofName?_name c).symm.trans
    ((congrArg Category.ofName? hname).trans (Category.ofName?_name d))
  exact Option.some.inj hsome

/-- Entries are read back from their rows. -/
theorem entries_inj {colors : Bool} {es es' : List (Category × List String)}
    (h : es.flatMap (entryRows colors) = es'.flatMap (entryRows colors)) : es = es' := by
  have hfilled : ∀ ms : List String, "" ∉ (ms.zipIdx 1).map fun (m, i) => messageRow m i := by
    intro ms hm
    obtain ⟨⟨m, i⟩, -, hempty⟩ := List.mem_map.1 hm
    exact messageRow_ne_empty m i hempty
  induction es generalizing es' with
  | nil => cases es' with
    | nil => rfl
    | cons e' es' => cases h
  | cons e es ih => cases es' with
    | nil => cases h
    | cons e' es' =>
      simp only [List.flatMap_cons, entryRows, List.cons_append, List.append_assoc,
        List.nil_append] at h
      obtain ⟨hheading, hrows⟩ := List.cons.inj h
      obtain ⟨hmessages, hrest⟩ := rows_before_empty_inj (hfilled e.2) (hfilled e'.2) hrows
      rw [Prod.ext (headingRow_inj hheading) (messages_inj hmessages), ih hrest]

/-! ## Numbered rows -/

/-- Whether a row has a number: two blanks, digits, a point and a blank. -/
def isNumbered : List Char → Bool
  | ' ' :: ' ' :: rest =>
    !(rest.takeWhile Char.isDigit).isEmpty && ['.', ' '].isPrefixOf (rest.dropWhile Char.isDigit)
  | _ => false

theorem isNumbered_messageRow (m : String) (i : Nat) : isNumbered (messageRow m i).toList := by
  have hdigits := Json.isDigits_nat i
  have hrow : (messageRow m i).toList =
      ' ' :: ' ' :: ((toString i).toList ++ '.' :: ' ' :: m.toList) := by
    simp [messageRow]
  rw [hrow, isNumbered, List.takeWhile_append_of_pos hdigits.isDigit,
    List.dropWhile_append_of_pos hdigits.isDigit]
  simp

theorem not_isNumbered_of_head {cs : List Char} (h : cs.head? ≠ some ' ') :
    isNumbered cs = false := by
  unfold isNumbered
  split
  · exact absurd rfl h
  · rfl

/-- What comes first in a text that begins with a style. -/
theorem head?_shown (colors : Bool) (style : Style) (styles : List Style) (text : String)
    (s : Styled) (h : text ≠ "") :
    (Styled.shown colors (styledText (style :: styles) text ++ s)).toList.head? =
      if colors then some '\x1b' else text.toList.head? := by
  cases colors with
  | true =>
    simp [Styled.shown, Styled.colored, Styled.coloredChars, Styled.coloredPiece,
      Styled.sequence, styledText]
  | false =>
    obtain ⟨c, cs, hcs⟩ := List.exists_cons_of_ne_nil (mt String.toList_eq_nil_iff.1 h)
    simp [Styled.shown, Styled.plain, Styled.plainChars, styledText, hcs]

theorem head?_legendRow (colors : Bool) :
    (legendRow colors).toList.head? = if colors then some '\x1b' else some 'L' :=
  head?_shown colors .dim [] "Legend:" _ (by decide)

theorem not_isNumbered_legendRow (colors : Bool) :
    isNumbered (legendRow colors).toList = false := by
  refine not_isNumbered_of_head ?_
  rw [head?_legendRow]
  cases colors <;> decide

theorem not_isNumbered_heading (colors : Bool) (c : Category) :
    isNumbered (headingRow colors c).toList = false := by
  refine not_isNumbered_of_head ?_
  have hne : c.name ++ ":" ≠ "" := by cases c <;> decide
  have hhead := head?_shown colors (categoryStyle c) [.bold] (c.name ++ ":") [] hne
  rw [List.append_nil] at hhead
  rw [headingRow, hhead]
  cases colors <;> cases c <;> decide

theorem countP_entryRows (colors : Bool) (e : Category × List String) :
    (entryRows colors e).countP (fun row => isNumbered row.toList) = e.2.length := by
  have hmessages : ((e.2.zipIdx 1).map fun (m, i) => messageRow m i).countP
      (fun row => isNumbered row.toList) = e.2.length := by
    rw [List.countP_eq_length.2, List.length_map, List.length_zipIdx]
    intro row hrow
    obtain ⟨⟨m, i⟩, -, rfl⟩ := List.mem_map.1 hrow
    exact isNumbered_messageRow m i
  rw [entryRows, List.countP_append, List.countP_cons, hmessages, not_isNumbered_heading]
  rfl

/-- There are as many numbered rows as messages. -/
theorem countP_rows (colors : Bool) {r : Categorized} (hr : r.IsOneLined)
    (h : r.isEmpty = false) :
    (rows (renderCategorized .text colors r).toList).countP isNumbered = r.total := by
  have hempty : isNumbered [] = false := rfl
  rw [rows_renderCategorized colors hr h, List.countP_map, List.countP_append, List.countP_cons,
    List.countP_cons, List.countP_flatMap, Categorized.total, List.length_flatMap]
  simp [Function.comp_def, countP_entryRows, not_isNumbered_legendRow, hempty]

/-! ## The text of a result -/

/-- A result without entries has another text than one with entries. -/
theorem isEmpty_eq_of_render {colors : Bool} {a b : Categorized}
    (h : renderCategorized .text colors a = renderCategorized .text colors b)
    (ha : a.isEmpty = true) : b.isEmpty = true := by
  by_contra hne
  have hlegend := toList_render_of_entries colors (Bool.not_eq_true _ ▸ hne)
  have hnothing : renderCategorized .text colors a =
      Styled.shown colors (plainText "No categorizable issues found.\n") := by
    rw [renderCategorized, categorizedText, ha]
    rfl
  rw [← h, hnothing, toList_shown_plainText, endedRows, List.flatMap_cons] at hlegend
  have hhead := congrArg List.head? hlegend
  have hfirst : "No categorizable issues found.\n".toList.head? = some 'N' := by decide
  rw [List.append_assoc, List.head?_append, head?_legendRow, hfirst] at hhead
  cases colors <;> simp at hhead

/-- A result is known from its text. -/
theorem renderCategorized_inj {colors : Bool} {a b : Categorized} (ha : a.IsOneLined)
    (hb : b.IsOneLined)
    (h : renderCategorized .text colors a = renderCategorized .text colors b) : a = b := by
  refine Categorized.toList_inj ?_
  cases hempty : a.isEmpty with
  | true =>
    have hempty' : b.isEmpty = true := isEmpty_eq_of_render h hempty
    rw [List.isEmpty_iff.1 hempty, List.isEmpty_iff.1 hempty']
  | false =>
    have hempty' : b.isEmpty = false := by
      by_contra hne
      rw [isEmpty_eq_of_render h.symm (by simpa using hne)] at hempty
      cases hempty
    have hrows := (rows_renderCategorized colors ha hempty).symm.trans
      ((congrArg (fun text => rows text.toList) h).trans
        (rows_renderCategorized colors hb hempty'))
    have htexts := List.map_injective_iff.2 (fun _ _ => String.toList_injective) hrows
    simp only [List.cons_append, List.cons.injEq, true_and] at htexts
    exact entries_inj (List.append_cancel_right htexts)

/-- **The text of categorized messages loses nothing.** If no message goes over more than one line,
a result is known from its text, with colors or without. The text of a result with entries has the
legend, and then, for each category that has an entry, in the order of the categories, its name and
its messages in their order, each on a row with its number, from one on. So there are as many rows
with a number as messages. -/
theorem categorized_text_lists (colors : Bool) :
    (∀ a b : Categorized, a.IsOneLined → b.IsOneLined →
      renderCategorized .text colors a = renderCategorized .text colors b → a = b) ∧
    ∀ r : Categorized, r.IsOneLined → r.isEmpty = false →
      rows (renderCategorized .text colors r).toList =
        (legendRow colors :: "" :: r.toList.flatMap (entryRows colors) ++ [""]).map
          String.toList ∧
      r.toList.map (·.1) = Category.all.filter r.contains ∧
      (∀ e ∈ r.toList, r.get? e.1 = some e.2) ∧
      (rows (renderCategorized .text colors r).toList).countP isNumbered = r.total :=
  ⟨fun _ _ ha hb h => renderCategorized_inj ha hb h, fun r hr h =>
    ⟨rows_renderCategorized colors hr h, r.map_fst_toList, fun _ => Categorized.mem_toList.1,
      countP_rows colors hr h⟩⟩

/-- A message that looks like a heading, one that looks like a numbered row, and an entry without
messages. -/
def posingMessages : Categorized :=
  { style := some ["Bug:", "  2. naming"], bug := some [], modularity := some ["split it"] }

theorem categorized_text_lists_posing :
    posingMessages.IsOneLined ∧ posingMessages.isEmpty = false ∧
    (rows (renderCategorized .text true posingMessages).toList).countP isNumbered = 3 ∧
    rows (renderCategorized .text false posingMessages).toList =
      ["Legend: Security (red)  Style (green)  Bug (orange)  Documentation (blue)  " ++
          "Modularity (gray)", "", "Style:", "  1. Bug:", "  2.   2. naming", "", "Bug:", "",
        "Modularity:", "  1. split it", "", ""].map String.toList ∧
    ∀ b : Categorized, b.IsOneLined →
      renderCategorized .text true posingMessages = renderCategorized .text true b →
      b = posingMessages := by
  have hline : posingMessages.IsOneLined := by decide
  have hentries : posingMessages.isEmpty = false := rfl
  obtain ⟨hinj, hlists⟩ := categorized_text_lists true
  obtain ⟨hrows, -⟩ := (categorized_text_lists false).2 posingMessages hline hentries
  obtain ⟨-, -, -, hcount⟩ := hlists posingMessages hline hentries
  exact ⟨hline, hentries, hcount, hrows.trans (by decide +kernel),
    fun b hb h => (hinj posingMessages b hline hb h).symm⟩

end Report

end CodeReview
