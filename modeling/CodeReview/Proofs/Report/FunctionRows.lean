import CodeReview.Proofs.FunctionTable
import CodeReview.Proofs.Json.Numeral
import CodeReview.Proofs.Python.DocumentOrder
import CodeReview.Report.Format

/-!
# Lengths in the rows of functions

The row of a function takes the range from its span and the length from a metric that keeps one
number for a name, that of the last function of the name. So what a row shows is the length of that
function (`functionRow_shows_iff`), and the range beside it has as many lines just if the two
functions are equally long. A row cannot be read in another way, as the digits of a length end at
the first blank (`RowShows.length_eq`).
-/

set_option autoImplicit false

namespace CodeReview

namespace Report

/-! ## What a row shows -/

theorem toList_shown_around (colors : Bool) (before after : Styled) (text : String) :
    (Styled.shown colors (before ++ (plainText text ++ after))).toList =
      (Styled.shown colors before).toList ++
        (text.toList ++ (Styled.shown colors after).toList) := by
  rw [toList_shown_append, toList_shown_append, toList_shown_plainText]

/-- The length stands in a row after a text that depends on the span only, and a blank follows. -/
theorem exists_shown_functionRowOf (colors : Bool) (s : FunctionSpan) :
    ∃ before, ∀ length complexity, ∃ after,
      (Styled.shown colors (functionRowOf s length complexity)).toList =
        before ++ ((padRight 4 (toString length)).toList ++ ' ' :: after) := by
  let range := plainText ("  " ++ padRight 28 s.name ++ " ") ++
    styledText [.dim] s!"L{s.first}-{s.last}"
  refine ⟨(Styled.shown colors range).toList ++ "  length ".toList, fun length complexity => ?_⟩
  let rest := styledText (if complexityLimit < complexity then [.red] else [])
    s!"complexity {complexity}" ++ plainText "\n"
  refine ⟨(Styled.shown colors rest).toList, (toList_shown_around colors range rest
    ("  length " ++ padRight 4 (toString length) ++ " ")).trans ?_⟩
  rw [String.toList_append, String.toList_append]
  simp only [List.append_assoc]
  rfl

theorem padRight_nat_inj {width m n : Nat} {s t : List Char}
    (h : (padRight width (toString m)).toList ++ ' ' :: s =
      (padRight width (toString n)).toList ++ ' ' :: t) : m = n := by
  have hblank : ∀ k rest, Json.EndsDigits (List.replicate k ' ' ++ ' ' :: rest) := by
    intro k rest
    cases k <;> exact .cons _ rfl
  simp only [padRight, String.toList_append, String.toList_ofList, List.append_assoc] at h
  exact (Json.nat_append_inj (hblank _ s) (hblank _ t) h).1

/-- A row shows the range of a span and this length. -/
def RowShows (colors : Bool) (row : Styled) (s : FunctionSpan) (length : Nat) : Prop :=
  ∃ complexity,
    Styled.shown colors row = Styled.shown colors (functionRowOf s length complexity)

/-- A row shows one length only. -/
theorem RowShows.length_eq {colors : Bool} {row : Styled} {s : FunctionSpan} {m n : Nat}
    (hm : RowShows colors row s m) (hn : RowShows colors row s n) : m = n := by
  obtain ⟨c, hc⟩ := hm
  obtain ⟨d, hd⟩ := hn
  obtain ⟨before, hrow⟩ := exists_shown_functionRowOf colors s
  obtain ⟨after, hafter⟩ := hrow m c
  obtain ⟨after', hafter'⟩ := hrow n d
  have hsame := congrArg String.toList (hc.symm.trans hd)
  rw [hafter, hafter'] at hsame
  exact padRight_nat_inj (List.append_cancel_left hsame)

theorem Styled.join_eq_append (before before' s : Styled) (rest : List Styled) :
    Styled.join (before :: before' :: s :: rest) = before ++ before' ++ s ++ Styled.join rest := by
  simp [Styled.join]

/-- The rows of all functions stand in the text of the metrics. -/
theorem exists_metricsText_eq (r : MetricsReport) : ∃ before after,
    metricsText r = before ++ r.functions.flatMap (functionRow r) ++ after :=
  ⟨_, _, Styled.join_eq_append _ _ _ _⟩

end Report

/-! ## Functions of one name -/

namespace SourceUnit

open Report

variable (u : SourceUnit)

/-- The last function of a name. -/
def lastNamed (name : String) : Option FunctionSpan :=
  (u.functionSpans.filter fun s => s.name == name).getLast?

theorem exists_lastNamed {s : FunctionSpan} (hs : s ∈ u.functionSpans) :
    ∃ t ∈ u.functionSpans, t.name = s.name ∧ u.lastNamed s.name = some t := by
  have hmem : s ∈ u.functionSpans.filter fun t => t.name == s.name :=
    List.mem_filter.2 ⟨hs, beq_self_eq_true s.name⟩
  obtain ⟨t, ht⟩ := Option.ne_none_iff_exists'.1
    (mt List.getLast?_eq_none_iff.1 (List.ne_nil_of_mem hmem))
  obtain ⟨hmem, hname⟩ := List.mem_filter.1 (List.mem_of_getLast? ht)
  exact ⟨t, hmem, eq_of_beq hname, ht⟩

variable {u}
variable {window : Nat} {r : MetricsReport} (h : u.measure window = .ok r) (colors : Bool)
include h

theorem metrics_of_measure : r.functions = u.functionSpans ∧ r.lengths = u.functionLengths := by
  rw [measure] at h
  cases hd : u.duplicates window with
  | error e =>
    rw [hd] at h
    cases h
  | ok blocks =>
    rw [hd] at h
    cases h
    exact ⟨rfl, rfl⟩

/-- A row shows the length of the last function of the name. -/
theorem functionRow_shows_iff {s t : FunctionSpan} (hs : s ∈ u.functionSpans)
    (ht : u.lastNamed s.name = some t) (n : Nat) :
    RowShows colors (functionRow r s) s n ↔ n = t.lineCount := by
  obtain ⟨hfunctions, hlengths⟩ := metrics_of_measure h
  obtain ⟨length, complexity, hlength, -, -, -, hrow⟩ :=
    showsMeasures h s (hfunctions ▸ hs)
  rw [hlengths, get?_functionLengths, ← lastNamed, ht, Option.map_some, Option.some.injEq]
    at hlength
  have hshows : RowShows colors (functionRow r s) s t.lineCount :=
    ⟨complexity, by rw [hrow, hlength]⟩
  exact ⟨fun hn => hn.length_eq hshows, fun hn => hn ▸ hshows⟩

/-- Every row shows the length of its own function just if functions of one name are equally
long. -/
theorem functionRows_show_own_iff :
    (∀ s ∈ u.functionSpans, RowShows colors (functionRow r s) s s.lineCount) ↔
      ∀ s ∈ u.functionSpans, ∀ t ∈ u.functionSpans, s.name = t.name →
        s.lineCount = t.lineCount := by
  have hshows : ∀ s ∈ u.functionSpans, ∀ t, u.lastNamed s.name = some t →
      (RowShows colors (functionRow r s) s s.lineCount ↔ s.lineCount = t.lineCount) :=
    fun s hs t ht => functionRow_shows_iff h colors hs ht s.lineCount
  constructor
  · intro hown s hs t ht hname
    obtain ⟨l, -, -, hl⟩ := u.exists_lastNamed hs
    rw [(hshows s hs l hl).1 (hown s hs), (hshows t ht l (hname ▸ hl)).1 (hown t ht)]
  · intro hequal s hs
    obtain ⟨t, ht, hname, hlast⟩ := u.exists_lastNamed hs
    exact (hshows s hs t hlast).2 (hequal s hs t ht hname.symm)

end SourceUnit

/-- **The length in a row is that of the last function of the name.** The text of the metrics has
one row for each span, with the range of the span. The length in it is that of the last span of the
name, and no other, so all rows have as many lines in their ranges as they say just if functions of
one name are equally long. -/
theorem function_rows (u : SourceUnit) (window : Nat) (hwindow : 1 ≤ window) (colors : Bool) :
    ∃ r, u.measure window = .ok r ∧
      (∃ before after, Report.metricsText r =
        before ++ u.functionSpans.flatMap (Report.functionRow r) ++ after) ∧
      (∀ s ∈ u.functionSpans, ∃ t, u.lastNamed s.name = some t ∧ ∀ n,
        Report.RowShows colors (Report.functionRow r s) s n ↔ n = t.lineCount) ∧
      ((∀ s ∈ u.functionSpans,
          Report.RowShows colors (Report.functionRow r s) s s.lineCount) ↔
        ∀ s ∈ u.functionSpans, ∀ t ∈ u.functionSpans, s.name = t.name →
          s.lineCount = t.lineCount) := by
  have hmeasure := u.measure_of_pos hwindow
  refine ⟨_, hmeasure, ?_, fun s hs => ?_, SourceUnit.functionRows_show_own_iff hmeasure colors⟩
  · exact Report.exists_metricsText_eq _
  · obtain ⟨t, -, -, ht⟩ := u.exists_lastNamed hs
    exact ⟨t, ht, SourceUnit.functionRow_shows_iff hmeasure colors hs ht⟩

/-- Two functions of one name, two lines long and three. -/
theorem function_rows_of_namesakes :
    let u : SourceUnit := ⟨"Python", [], .mk .other none 1
      [.mk .function (some "f") 1 [.mk .other none 2 []],
        .mk .function (some "f") 4 [.mk .other none 5 [], .mk .other none 6 []]]⟩
    1 ≤ 3 ∧ ∃ r, u.measure 3 = .ok r ∧
      ∀ n, Report.RowShows false (Report.functionRow r ⟨"f", 1, 2⟩) ⟨"f", 1, 2⟩ n ↔ n = 3 := by
  intro u
  obtain ⟨r, hr, -, hrows, -⟩ := function_rows u 3 (by decide) false
  obtain ⟨t, ht, hshows⟩ := hrows ⟨"f", 1, 2⟩ (by decide +kernel)
  have hlast : u.lastNamed "f" = some ⟨"f", 4, 6⟩ := by decide +kernel
  obtain rfl := Option.some.inj (ht.symm.trans hlast)
  exact ⟨by decide, r, hr, hshows⟩

/-- The row of a function that another one of its name follows can give a length that is not that
of its range. -/
theorem range_disagrees_with_length :
    ∃ u, SourceUnit.ofText .python
        "def f():\n    pass\n\ndef f():\n    a = 1\n    b = 2\n" = .ok u ∧
      ¬ ∀ r, u.measure 3 = .ok r → ∀ s ∈ u.functionSpans,
        Report.RowShows false (Report.functionRow r s) s s.lineCount := by
  generalize htext : "def f():\n    pass\n\ndef f():\n    a = 1\n    b = 2\n" = text
  have hread : SourceUnit.ofText .python text =
      .ok ⟨"Python", Text.lines text, Python.outline (Python.parse text.toList)⟩ := by
    subst htext
    exact Python.ofText_eq_ok _ [⟨0, 0⟩, ⟨1, 4⟩, ⟨3, 0⟩, ⟨4, 4⟩, ⟨5, 4⟩] (by decide +kernel)
      (by decide) (by decide +kernel) (by decide +kernel) (by decide +kernel)
  let u : SourceUnit := ⟨"Python", Text.lines text, Python.outline (Python.parse text.toList)⟩
  have hspans : u.functionSpans = [⟨"f", 1, 2⟩, ⟨"f", 4, 6⟩] := by
    subst htext
    decide +kernel
  refine ⟨u, hread, fun hown => ?_⟩
  have hmeasure := u.measure_of_pos (show 1 ≤ 3 by decide)
  have hequal := (SourceUnit.functionRows_show_own_iff hmeasure false).1 (hown _ hmeasure)
    ⟨"f", 1, 2⟩ (by rw [hspans]; decide) ⟨"f", 4, 6⟩ (by rw [hspans]; decide) rfl
  exact absurd hequal (by decide)

end CodeReview
