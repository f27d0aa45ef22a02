import CodeReview.Proofs.Python.DocumentOrder
import CodeReview.Proofs.Python.IndentReplay
import CodeReview.Python.Statement

/-!
# Statements on continued lines

A backslash at the end of a row continues the line, so the next row is no line of its own. The check
measures a statement all the same if it is the first thing on such a row. `checkIndentation_continued`
says when this does no harm: the verdict is the one without the statements on continued rows if each
of them that is measured is as wide as the innermost block open there. Any other changes the verdict
for some lines after it, as it is refused, opens a block or closes some.

`Blocks.step_top` is the reason for the first half and `Blocks.Nested.same_verdicts_iff` the second:
two stacks of blocks are told apart by a line that opens a block in the larger one of them and a
line that closes it again (`probe`).
-/

set_option autoImplicit false

namespace CodeReview.Python

open Syntax

/-! ## Level lines -/

namespace Blocks

variable {bs : Blocks}

theorem closeTo_of_top_le {w : Nat} (h : bs.top.1 ≤ w) : bs.closeTo w = bs := by
  rcases bs with _ | ⟨b, _ | ⟨c, rest⟩⟩
  · rfl
  · rfl
  · exact if_neg (Nat.not_lt.2 h)

theorem closeTo_cons (hne : bs ≠ []) {b : Nat × Nat} {w : Nat} (h : w < b.1) :
    Blocks.closeTo w (b :: bs) = bs.closeTo w := by
  rcases bs with _ | ⟨c, rest⟩
  · exact absurd rfl hne
  · exact if_pos h

/-- A line that is as wide as the innermost block leaves the blocks as they are. -/
theorem step_top (bs : Blocks) (count : Nat) :
    bs.step ⟨bs.top.1, bs.top.2, count⟩ = .ok bs := by
  simp only [step, Nat.lt_irrefl, closeTo_of_top_le (Nat.le_refl _), ne_eq, not_true_eq_false,
    ↓reduceIte]

end Blocks

theorem checkLines_level {bs : Blocks} {l : MeasuredLine} (h : (l.wide, l.narrow) = bs.top)
    (ls : List MeasuredLine) : checkLines bs (l :: ls) = checkLines bs ls := by
  have hstep := bs.step_top l.start.column
  rw [← h] at hstep
  rw [checkLines, hstep]

/-! ## Telling blocks apart -/

/-- A line that opens a block within one of the given widths, and one that closes it. -/
def probe (wide narrow : Nat) : List MeasuredLine :=
  [⟨⟨0, 0⟩, wide + 1, narrow + 1⟩, ⟨⟨0, 0⟩, wide, narrow⟩]

namespace Blocks.Nested

variable {bs : Blocks}

/-- A probe passes just in a block of its widths. -/
theorem checkLines_probe_iff (h : bs.Nested) {wide narrow : Nat} (hw : bs.top.1 ≤ wide)
    (hn : bs.top.2 ≤ narrow) :
    checkLines bs (probe wide narrow) = .ok () ↔ (wide, narrow) = bs.top := by
  have hne : bs ≠ [] := by
    obtain ⟨b, rest, rfl⟩ := h.exists_cons
    exact List.cons_ne_nil b rest
  have hopen : bs.step ⟨wide + 1, narrow + 1, 0⟩ = .ok ((wide + 1, narrow + 1) :: bs) := by
    rw [step, if_pos (Nat.lt_succ_of_le hw), if_neg (Nat.not_le.2 (Nat.lt_succ_of_le hn))]
  have hback : Blocks.step ((wide + 1, narrow + 1) :: bs) ⟨wide, narrow, 0⟩ =
      if wide ≠ bs.top.1 then .error .unmatchedUnindent
      else if narrow ≠ bs.top.2 then .error .inconsistentTabs else .ok bs := by
    rw [step, if_neg (by simp [top])]
    simp only [closeTo_cons hne (show wide < (wide + 1, narrow + 1).1 from Nat.lt_succ_self wide),
      closeTo_of_top_le hw]
  simp only [probe, checkLines, hopen, hback, Prod.ext_iff]
  split_ifs with hwide hnarrow <;> simp_all

/-- A line never matters for the verdict just if it is as wide as the innermost block. -/
theorem same_verdicts_iff (h : bs.Nested) (l : MeasuredLine) :
    (l.wide, l.narrow) = bs.top ↔ ∀ ls, checkLines bs (l :: ls) = checkLines bs ls := by
  refine ⟨checkLines_level, fun hsame => ?_⟩
  have hrefused : ∀ cause, bs.step ⟨l.wide, l.narrow, l.start.column⟩ ≠ .error cause := by
    intro cause he
    have hnil := hsame []
    simp only [checkLines, he, reduceCtorEq] at hnil
  have hok : ∀ bs', bs.step ⟨l.wide, l.narrow, l.start.column⟩ = .ok bs' →
      ∀ ls, checkLines bs' ls = checkLines bs ls := by
    intro bs' he ls
    simpa only [checkLines, he] using hsame ls
  rcases h.step_cases ⟨l.wide, l.narrow, l.start.column⟩ with
    ⟨hw, hn, he⟩ | ⟨-, -, he⟩ | ⟨ht, b, rest, hc, ⟨-, he⟩ | ⟨-, -, he⟩ | ⟨hw, hn, he⟩⟩
  · -- a block of the line's own widths is open after it, but was not before
    have hprobe : checkLines ((l.wide, l.narrow) :: bs) (probe l.wide l.narrow) = .ok () :=
      ((h.push hw hn).checkLines_probe_iff (Nat.le_refl l.wide) (Nat.le_refl l.narrow)).2 rfl
    rw [hok _ he] at hprobe
    exact (h.checkLines_probe_iff hw.le hn.le).1 hprobe
  · exact absurd he (hrefused _)
  · exact absurd he (hrefused _)
  · exact absurd he (hrefused _)
  · -- the innermost block before it is still open, so it is the one that the line gets back to
    have hprobe := (h.checkLines_probe_iff (Nat.le_refl _) (Nat.le_refl _)).2 rfl
    rw [← hok _ he] at hprobe
    have hnested : Blocks.Nested (b :: rest) := hc ▸ h.closeTo_nested _
    have hmem : b ∈ bs := (hc ▸ h.closeTo_suffix _ : b :: rest <:+ bs).subset List.mem_cons_self
    have htop := (hnested.checkLines_probe_iff (show b.1 ≤ bs.top.1 by omega)
      (h.snd_le_top hmem)).1 hprobe
    rw [show bs.top = b from htop]
    exact Prod.ext hw hn

end Blocks.Nested

/-! ## Blocks after some lines -/

/-- The blocks that are open after some lines, if all of them are taken. -/
def blocksAfter : Blocks → List MeasuredLine → Option Blocks
  | bs, [] => some bs
  | bs, l :: ls =>
    match bs.step ⟨l.wide, l.narrow, l.start.column⟩ with
    | .error _ => none
    | .ok bs' => blocksAfter bs' ls

theorem Blocks.Nested.blocksAfter {bs bs' : Blocks} (h : bs.Nested) {ls : List MeasuredLine}
    (hls : blocksAfter bs ls = some bs') : bs'.Nested := by
  induction ls generalizing bs with
  | nil => exact Option.some.inj hls ▸ h
  | cons l ls ih =>
    rw [Python.blocksAfter] at hls
    split at hls
    · cases hls
    · rename_i bs₁ hs
      exact ih (h.step_ok hs).1 hls

theorem blocksAfter_level {bs : Blocks} {l : MeasuredLine} (h : (l.wide, l.narrow) = bs.top)
    (ls : List MeasuredLine) : blocksAfter bs (l :: ls) = blocksAfter bs ls := by
  have hstep := bs.step_top l.start.column
  rw [← h] at hstep
  rw [blocksAfter, hstep]

/-- The verdict does not depend on statements that are not measured or as wide as the innermost
block open before them. -/
theorem checkLines_filter (rows : List (List Char)) (ignored : Position → Bool) {bs : Blocks}
    {starts : List Position}
    (h : ∀ (k : Nat) p l bs', starts[k]? = some p → ignored p = true →
      measuredLine? rows p = some l →
      blocksAfter bs ((starts.take k).filterMap (measuredLine? rows)) = some bs' →
      (l.wide, l.narrow) = bs'.top) :
    checkLines bs (starts.filterMap (measuredLine? rows)) =
      checkLines bs ((starts.filter (!ignored ·)).filterMap (measuredLine? rows)) := by
  induction starts generalizing bs with
  | nil => rfl
  | cons p ps ih =>
    cases hm : measuredLine? rows p with
    | none =>
      have hps := ih fun k q l bs' hk hq hl hbs => h (k + 1) q l bs' hk hq hl <| by
        rwa [List.take_succ_cons, List.filterMap_cons_none hm]
      rw [List.filterMap_cons_none hm, hps]
      cases hp : ignored p with
      | true => rw [List.filter_cons_of_neg (by simp [hp])]
      | false => rw [List.filter_cons_of_pos (by simp [hp]), List.filterMap_cons_none hm]
    | some l =>
      have hcons (k : Nat) : ((p :: ps).take (k + 1)).filterMap (measuredLine? rows) =
          l :: (ps.take k).filterMap (measuredLine? rows) := by
        rw [List.take_succ_cons, List.filterMap_cons_some hm]
      rw [List.filterMap_cons_some hm]
      cases hp : ignored p with
      | true =>
        have hlevel : (l.wide, l.narrow) = bs.top := h 0 p l bs rfl hp hm rfl
        rw [List.filter_cons_of_neg (by simp [hp]), checkLines_level hlevel]
        exact ih fun k q l' bs' hk hq hl hbs => h (k + 1) q l' bs' hk hq hl <| by
          rwa [hcons, blocksAfter_level hlevel]
      | false =>
        rw [List.filter_cons_of_pos (by simp [hp]), List.filterMap_cons_some hm, checkLines,
          checkLines]
        cases hs : bs.step ⟨l.wide, l.narrow, l.start.column⟩ with
        | error cause => rfl
        | ok bs₁ =>
          exact ih fun k q l' bs' hk hq hl hbs => h (k + 1) q l' bs' hk hq hl <| by
            simpa only [hcons, blocksAfter, hs] using hbs

/-! ## Continued lines -/

/-- The rows that a backslash at the end of the row before continues. -/
def continuedRows (t : ParseTree) : List Nat :=
  ((documentOrder t).filter fun v => v.node.is .lineContinuation).map fun v =>
    v.node.start.row + 1

/-- The statement starts on rows that begin a line. -/
def headStarts (t : ParseTree) (starts : List Position) : List Position :=
  starts.filter fun p => !(continuedRows t).contains p.row

/-- The statement with the number `k` is the first thing on a continued row. It is measured as `l`,
and `bs` are the blocks open before it. -/
structure ContinuedAt (text : List Char) (starts : List Position) (k : Nat) (l : MeasuredLine)
    (bs : Blocks) : Prop where
  start : starts[k]? = some l.start
  continued : l.start.row ∈ continuedRows (parse text)
  measured : measuredLine? (Text.rows text) l.start = some l
  blocks : blocksAfter [(0, 0)] (measuredLines text (starts.take k)) = some bs

theorem start_of_measuredLine? {rows : List (List Char)} {p : Position} {l : MeasuredLine}
    (h : measuredLine? rows p = some l) : l.start = p := by
  obtain ⟨-, -, -, rfl⟩ := measuredLine?_eq_some_iff.1 h
  rfl

/-- **Continued lines count as lines of their own.** The verdict on a text is the one without the
statements on continued rows if each of these that is measured is as wide as the innermost block
open there. No other width will do whatever lines come after it. -/
theorem checkIndentation_continued (text : String) (starts : List Position) :
    ((∀ k l bs, ContinuedAt text.toList starts k l bs → (l.wide, l.narrow) = bs.top) →
      checkIndentation text.toList starts =
        checkIndentation text.toList (headStarts (parse text.toList) starts)) ∧
    ∀ k l bs, ContinuedAt text.toList starts k l bs →
      ((l.wide, l.narrow) = bs.top ↔
        ∀ ls, checkLines bs (l :: ls) = checkLines bs ls) := by
  refine ⟨fun h => ?_, fun k l bs h =>
    (nested_start.blocksAfter h.blocks).same_verdicts_iff l⟩
  rw [checkIndentation, checkIndentation, checkStarts_eq, checkStarts_eq]
  refine checkLines_filter _ (fun p => (continuedRows (parse text.toList)).contains p.row)
    fun k p l bs hk hp hl hbs => ?_
  obtain rfl := start_of_measuredLine? hl
  exact h k l bs ⟨hk, List.contains_iff_mem.1 hp, hl, hbs⟩

/-- The second statement of a line goes on at the same width in the next row. -/
theorem checkIndentation_continued_level :
    let text := "if x:\n    a = 1; \\\n    b = 2\n"
    let starts : List Position := [⟨0, 0⟩, ⟨1, 4⟩, ⟨1, 11⟩, ⟨2, 4⟩]
    (∀ k l bs, ContinuedAt text.toList starts k l bs → (l.wide, l.narrow) = bs.top) ∧
      checkIndentation text.toList starts =
        checkIndentation text.toList (headStarts (parse text.toList) starts) := by
  intro text starts
  have hrows : continuedRows (parse text.toList) = [2] := by decide +kernel
  have hlevel : ∀ k l bs, ContinuedAt text.toList starts k l bs → (l.wide, l.narrow) = bs.top := by
    rintro k l bs ⟨hstart, hrow, hmeasured, hblocks⟩
    rw [hrows, List.mem_singleton] at hrow
    -- only the last statement is on the continued row
    obtain ⟨rfl, hl⟩ : k = 3 ∧ l.start = ⟨2, 4⟩ := by
      rcases k with _ | _ | _ | _ | k <;> simp [starts, eq_comm] at hstart <;>
        simp_all
    have hmeasure : measuredLine? (Text.rows text.toList) ⟨2, 4⟩ = some ⟨⟨2, 4⟩, 4, 4⟩ := by
      decide +kernel
    have hopen : blocksAfter [(0, 0)] (measuredLines text.toList (starts.take 3)) =
        some [(4, 4), (0, 0)] := by decide +kernel
    rw [hl, hmeasure] at hmeasured
    rw [hopen] at hblocks
    rw [← Option.some.inj hmeasured, ← Option.some.inj hblocks]
    rfl
  exact ⟨hlevel, (checkIndentation_continued text starts).1 hlevel⟩

/-- A statement on a continued row is refused for its width, though the text passes without it. -/
theorem continued_statement_unmatched :
    let text := "if x:\n    a = 1; \\\n  b = 2\n".toList
    let starts : List Position := [⟨0, 0⟩, ⟨1, 4⟩, ⟨1, 11⟩, ⟨2, 2⟩]
    check (parse text) = .ok starts ∧ continuedRows (parse text) = [2] ∧
      checkIndentation text starts = .error ⟨3, 3, .unmatchedUnindent⟩ ∧
      checkIndentation text (headStarts (parse text) starts) = .ok () :=
  ⟨check_eq_ok (by decide +kernel) (by decide) (by decide +kernel) (by decide +kernel),
    by decide +kernel, by decide +kernel, by decide +kernel⟩

end CodeReview.Python
