import CodeReview.Duplicates
import CodeReview.Proofs.Python.DocumentOrder
import CodeReview.Proofs.Python.GrammarRows
import CodeReview.Proofs.Python.IndentReplay
import CodeReview.Proofs.Text.NumberedRows
import CodeReview.Rules.UnusedImport

/-!
# One numbering of lines

The parts of a review count lines in different ways: the rules and the windows of duplicate blocks
go by the lines of a unit, the grammar counts line feeds as it goes through the text
(`Python.advance`), and the check of the indentation takes the rows that the grammar gives from the
text itself. `line_views_agree` says that a number stands for the same line in all of them.

The rows of the grammar are those of the text (`Python.Scanner.Reached.standsIn`). The check of the
indentation takes every line without indentation (`Python.Blocks.Nested.step_unindented`), also the
empty row after the last line feed, so a fault that it finds is on a line
(`Python.exists_line_of_checkIndentation`). Nothing but the lines counts for rules and duplicate
blocks, so carriage returns before the line feeds are without effect on them.
-/

set_option autoImplicit false

namespace CodeReview

open Text

namespace Python

open Syntax

/-! ## The lines of faults -/

namespace Blocks.Nested

variable {bs : Blocks}

theorem closeTo_zero (h : bs.Nested) : bs.closeTo 0 = [(0, 0)] := by
  obtain ⟨b, rest, hc⟩ := (h.closeTo_nested 0).exists_cons
  have hnested : Blocks.Nested (b :: rest) := hc ▸ h.closeTo_nested 0
  have hwide : b.1 = 0 := by
    have hhead := List.head?_dropWhile_not (fun b : Nat × Nat => decide (0 < b.1)) bs
    rw [← h.closeTo_eq, hc] at hhead
    simpa using hhead
  rw [hc]
  cases rest with
  | nil => exact congrArg ([·]) (Option.some.inj hnested.base)
  | cons c rest =>
    have hlt := ((List.pairwise_cons.1 hnested.inner).1 c List.mem_cons_self).1
    omega

theorem step_unindented (h : bs.Nested) (count : Nat) : ∃ bs', bs.step ⟨0, 0, count⟩ = .ok bs' := by
  rcases h.step_cases ⟨0, 0, count⟩ with ⟨-, -, he⟩ | ⟨hlt, -, -⟩ | ⟨-, b, rest, hc, hb⟩
  · exact ⟨_, he⟩
  · exact absurd hlt (Nat.not_lt_zero _)
  · obtain ⟨rfl, -⟩ := List.cons.inj (h.closeTo_zero.symm.trans hc)
    rcases hb with ⟨hw, -⟩ | ⟨-, hn, -⟩ | ⟨-, -, he⟩
    · exact absurd rfl hw
    · exact absurd rfl hn
    · exact ⟨_, he⟩

end Blocks.Nested

theorem exists_of_checkLines_error {bs : Blocks} (h : bs.Nested) {ls : List MeasuredLine}
    {f : Fault} (hf : checkLines bs ls = .error f) :
    ∃ l ∈ ls, (l.wide, l.narrow) ≠ (0, 0) ∧ f.line = l.start.row + 1 ∧
      f.column = l.start.column + 1 := by
  induction ls generalizing bs with
  | nil => cases hf
  | cons l ls ih =>
    rw [checkLines] at hf
    cases hs : bs.step ⟨l.wide, l.narrow, l.start.column⟩ with
    | error cause =>
      rw [hs] at hf
      refine ⟨l, List.mem_cons_self, fun hzero => ?_, ?_⟩
      · obtain ⟨hw, hn⟩ := Prod.mk.inj hzero
        obtain ⟨bs', hok⟩ := h.step_unindented l.start.column
        rw [hw, hn, hok] at hs
        cases hs
      · cases hf
        exact ⟨rfl, rfl⟩
    | ok bs' =>
      rw [hs] at hf
      obtain ⟨k, hk, hfault⟩ := ih (h.step_ok hs).1 hf
      exact ⟨k, List.mem_cons_of_mem l hk, hfault⟩

theorem leadingBlanks_eq {row line : List Char} (h : WithoutReturn row line) :
    leadingBlanks row = leadingBlanks line := by
  rcases h with rfl | ⟨rfl, -⟩
  · rw [leadingBlanks, leadingBlanks, List.takeWhile_append]
    split_ifs with hall
    · have hreturn : ['\r'].takeWhile isIndentBlank = [] := rfl
      rw [hreturn, List.append_nil]
      exact ((List.takeWhile_prefix _).eq_of_length hall).symm
    · rfl
  · rfl

/-- A fault of the indentation is on a line, just after the blanks that the line starts with. -/
theorem exists_line_of_checkIndentation {text : String} {starts : List Position} {f : Fault}
    (hf : checkIndentation text.toList starts = .error f) :
    ∃ r line, (lines text)[r]? = some line ∧ f.line = r + 1 ∧
      f.column = (leadingBlanks line.toList).length + 1 := by
  rw [checkIndentation, checkStarts_eq] at hf
  obtain ⟨l, hl, hindented, hline, hcolumn⟩ := exists_of_checkLines_error nested_start hf
  obtain ⟨p, -, hp⟩ := List.mem_filterMap.1 hl
  obtain ⟨row, hrow, hstart, rfl⟩ := measuredLine?_eq_some_iff.1 hp
  have hfilled : row ≠ [] := by
    rintro rfl
    exact hindented rfl
  have hrows := linesAreRows text
  obtain ⟨line, hlines⟩ := (hrows.exists_iff p.row).2 ⟨row, hrow, fun hempty => hfilled hempty.1⟩
  refine ⟨p.row, line, hlines, hline, ?_⟩
  rw [hcolumn, hstart]
  by_cases hended : p.row + 1 < (rows text.toList).length
  · rw [leadingBlanks_eq (hrows.ended _ _ _ hrow hlines hended)]
  · have hr := (List.getElem?_eq_some_iff.1 hrow).1
    rw [hrows.last _ _ _ hrow hlines (by omega)]

end Python

/-! ## What depends on the lines alone -/

namespace SourceUnit

variable {u u' : SourceUnit}

theorem duplicates_congr (h : u'.lines = u.lines) (size : Nat) :
    u'.duplicates size = u.duplicates size := by
  rw [duplicates, duplicates, h]

theorem numberedLines_congr (h : u'.lines = u.lines) : u'.numberedLines = u.numberedLines := by
  rw [numberedLines, numberedLines, h]

theorem line?_congr (h : u'.lines = u.lines) (number : Nat) : u'.line? number = u.line? number := by
  cases number with
  | zero => rfl
  | succ n => rw [line?, line?, h]

end SourceUnit

namespace Rules

variable {u u' : SourceUnit}

theorem check_ofLines_congr (h : u'.lines = u.lines) (name description what : String) (c : Category)
    (flags : List Char → Bool) : (Rule.ofLines name description c what flags).check u' =
      (Rule.ofLines name description c what flags).check u := by
  simp only [Rule.ofLines, SourceUnit.numberedLines_congr h]

theorem checkImports_congr (h : u'.lines = u.lines) : checkImports u' = checkImports u := by
  have hfound : ∀ counts, unusedFinding? u' counts = unusedFinding? u counts := by
    intro counts
    funext i
    rw [unusedFinding?, unusedFinding?, SourceUnit.line?_congr h]
  rw [checkImports, checkImports, imports, imports, SourceUnit.numberedLines_congr h, h]
  simp only [hfound]

/-- The rules of the battery look at nothing but the lines. -/
theorem check_congr (h : u'.lines = u.lines) {r : Rule} (hr : r ∈ standard) :
    r.check u' = r.check u := by
  simp only [standard, List.mem_cons, List.not_mem_nil, or_false] at hr
  rcases hr with rfl | rfl | rfl | rfl
  · exact check_ofLines_congr h _ _ _ _ _
  · exact check_ofLines_congr h _ _ _ _ _
  · exact check_ofLines_congr h _ _ _ _ _
  · exact checkImports_congr h

end Rules

/-! ## All views -/

/-- **A number stands for the same line everywhere.** The rows of a text, but an empty last one, are
its lines with the same numbers, and the numbered lines of a unit are these lines, counted from one.
The grammar's row numbers are those of the rows of the text, wherever it comes to, and a fault of
the indentation names a line. If the text has no carriage return, then one before each line feed
changes neither the lines nor the duplicate blocks nor the findings of any rule of the battery,
whatever the trees, and the lines joined are the text up to a line feed at its end. -/
theorem line_views_agree (text : String) :
    LinesAreRows text ∧
    (∀ (frontEnd : FrontEnd) (u : SourceUnit), SourceUnit.ofText frontEnd text = .ok u →
      ∀ r, u.numberedLines[r]? = (lines text)[r]?.map fun line => (r + 1, line)) ∧
    (∀ s, Python.Scanner.Reached text.toList s → s.cursor.StandsIn text.toList) ∧
    (∀ starts f, Python.checkIndentation text.toList starts = .error f →
      ∃ r line, (lines text)[r]? = some line ∧ f.line = r + 1 ∧
        f.column = (Python.leadingBlanks line.toList).length + 1) ∧
    ('\r' ∉ text.toList →
      lines (withReturns text) = lines text ∧
      (∀ (frontEnd frontEnd' : FrontEnd) (u u' : SourceUnit),
        SourceUnit.ofText frontEnd text = .ok u →
        SourceUnit.ofText frontEnd' (withReturns text) = .ok u' →
        (∀ size, u'.duplicates size = u.duplicates size) ∧
        ∀ r ∈ Rules.standard, r.check u' = r.check u) ∧
      join "\n" (lines text) ++ String.ofList (finalNewline text.toList) = text) := by
  refine ⟨linesAreRows text, fun frontEnd u hu r => ?_, fun s hs => hs.standsIn,
    fun starts f hf => Python.exists_line_of_checkIndentation hf, fun hreturn => ?_⟩
  · rw [SourceUnit.getElem?_numberedLines, SourceUnit.lines_of_ofText hu]
  · refine ⟨lines_withReturns hreturn, fun frontEnd frontEnd' u u' hu hu' => ?_, join_lines hreturn⟩
    have hlines : u'.lines = u.lines := by
      rw [SourceUnit.lines_of_ofText hu, SourceUnit.lines_of_ofText hu', lines_withReturns hreturn]
    exact ⟨SourceUnit.duplicates_congr hlines, fun r hr => Rules.check_congr hlines hr⟩

/-- A call on two lines with either line end, the place after its first word, and a tab that stands
for eight spaces. -/
theorem line_views_agree_of_calls :
    let text := "exec(a)\nexec(a)\n"
    let afterWord := ((Python.Scanner.start text.toList).next {}).after
    let indented := "if a:\n\tb\n        c\n"
    '\r' ∉ text.toList ∧
      (∃ u u', SourceUnit.ofText .python text = .ok u ∧
        SourceUnit.ofText .python (withReturns text) = .ok u' ∧
        u.numberedLines[1]? = some (2, "exec(a)") ∧ u'.duplicates 1 = u.duplicates 1 ∧
        Rules.unsafeCall ∈ Rules.standard ∧ Rules.unsafeCall.check u' = Rules.unsafeCall.check u) ∧
      (Python.Scanner.Reached text.toList afterWord ∧
        afterWord.cursor.StandsIn text.toList) ∧
      Python.checkIndentation indented.toList [⟨0, 0⟩, ⟨1, 1⟩, ⟨2, 8⟩] =
        .error ⟨3, 9, .inconsistentTabs⟩ ∧
      ∃ r line, (lines indented)[r]? = some line ∧ 3 = r + 1 ∧
        9 = (Python.leadingBlanks line.toList).length + 1 := by
  intro text afterWord indented
  have hreturn : '\r' ∉ text.toList := by decide
  have hread : SourceUnit.ofText .python text =
      .ok ⟨"Python", lines text, Python.outline (Python.parse text.toList)⟩ :=
    Python.ofText_eq_ok text [⟨0, 0⟩, ⟨1, 0⟩] (by decide +kernel) (by decide) (by decide +kernel)
      (by decide +kernel) (by decide +kernel)
  have hread' : SourceUnit.ofText .python (withReturns text) = .ok ⟨"Python",
      lines (withReturns text), Python.outline (Python.parse (withReturns text).toList)⟩ :=
    Python.ofText_eq_ok (withReturns text) [⟨0, 0⟩, ⟨1, 0⟩] (by decide +kernel) (by decide)
      (by decide +kernel) (by decide +kernel) (by decide +kernel)
  have hfault : Python.checkIndentation indented.toList [⟨0, 0⟩, ⟨1, 1⟩, ⟨2, 8⟩] =
      .error ⟨3, 9, .inconsistentTabs⟩ := by decide
  have hmem : Rules.unsafeCall ∈ Rules.standard := by simp [Rules.standard]
  have hreached : Python.Scanner.Reached text.toList afterWord := .after {} true .start
  obtain ⟨-, hnumbered, hrows, -, hreturns⟩ := line_views_agree text
  obtain ⟨hduplicates, hcheck⟩ := (hreturns hreturn).2.1 _ _ _ _ hread hread'
  refine ⟨hreturn, ⟨_, _, hread, hread', ?_, hduplicates 1, hmem, hcheck _ hmem⟩,
    ⟨hreached, hrows _ hreached⟩, hfault, ?_⟩
  · rw [hnumbered _ _ hread 1]
    decide +kernel
  · exact (line_views_agree indented).2.2.2.1 _ _ hfault

end CodeReview
