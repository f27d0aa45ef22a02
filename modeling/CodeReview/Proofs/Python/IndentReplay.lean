import CodeReview.Python.Indentation
import Mathlib.Data.List.TakeWhile

/-!
# Indentation as two replays

`Blocks.step` keeps one stack of pairs of widths and looks at the narrow width only after the wide
one has decided what a line does. `checkIndentation_iff` says what that comes to: the wide widths
and the narrow widths are each replayed on a stack of their own (`replay`), and the text passes iff
both replays succeed with the same moves.

The link between the stacks is `Blocks.Nested`: both widths of a block are larger than those of the
block around it, so dropping the blocks that are too wide drops equally many too narrow ones
(`Nested.step_ok`, `Nested.step_error`).
-/

set_option autoImplicit false

namespace CodeReview.Python

open Syntax

/-! ## Measures of a line -/

/-- The characters that indentation is made of. -/
def isIndentBlank (c : Char) : Bool := c == ' ' || c == '\t' || c == '\x0c'

/-- The blanks that a line starts with. -/
def leadingBlanks (line : List Char) : List Char := line.takeWhile isIndentBlank

/-- The width of some blanks after the width `w`, where a tab moves on from one width to another. A
form feed starts afresh. -/
def blankWidth (tab : Nat → Nat) (w : Nat) (blanks : List Char) : Nat :=
  blanks.foldl (fun w c => if c = '\t' then tab w else if c = '\x0c' then 0 else w + 1) w

/-- The width of a line's indentation with a tab stop at every multiple of eight. -/
def wideWidth (line : List Char) : Nat :=
  blankWidth (fun w => (w / 8 + 1) * 8) 0 (leadingBlanks line)

/-- The width of a line's indentation with tabs as wide as a space. -/
def narrowWidth (line : List Char) : Nat := blankWidth (· + 1) 0 (leadingBlanks line)

theorem extend_eq (i : Indent) (line : List Char) :
    i.extend line = ⟨blankWidth (fun w => (w / 8 + 1) * 8) i.wide (leadingBlanks line),
      blankWidth (· + 1) i.narrow (leadingBlanks line), i.count + (leadingBlanks line).length⟩ := by
  induction line generalizing i with
  | nil => rfl
  | cons c cs ih =>
    by_cases h : c = ' ' ∨ c = '\t' ∨ c = '\x0c'
    · rcases h with rfl | rfl | rfl <;>
        simp [Indent.extend, ih, leadingBlanks, isIndentBlank, blankWidth] <;> omega
    · simp only [not_or] at h
      simp [Indent.extend, leadingBlanks, isIndentBlank, blankWidth, h]

theorem ofLine_eq (line : List Char) :
    Indent.ofLine line = ⟨wideWidth line, narrowWidth line, (leadingBlanks line).length⟩ := by
  rw [Indent.ofLine, extend_eq]
  simp [wideWidth, narrowWidth]

/-! ## Measured lines -/

/-- A statement that begins its line, with the widths of the blanks before it. -/
structure MeasuredLine where
  start : Position
  wide : Nat
  narrow : Nat
deriving DecidableEq, Repr

/-- The line that a statement begins. There is none if other text precedes it, or if the text has
no such row. -/
def measuredLine? (rows : List (List Char)) (p : Position) : Option MeasuredLine :=
  match rows[p.row]? with
  | none => none
  | some line =>
    if p.column = (leadingBlanks line).length then
      some ⟨p, wideWidth line, narrowWidth line⟩
    else none

theorem measuredLine?_eq_some_iff {rows : List (List Char)} {p : Position} {l : MeasuredLine} :
    measuredLine? rows p = some l ↔ ∃ line, rows[p.row]? = some line ∧
      p.column = (leadingBlanks line).length ∧ l = ⟨p, wideWidth line, narrowWidth line⟩ := by
  rw [measuredLine?]
  cases rows[p.row]? with
  | none => simp
  | some line => simp [eq_comm]

/-- The lines that the statements at the given places begin. -/
def measuredLines (text : List Char) (starts : List Position) : List MeasuredLine :=
  starts.filterMap (measuredLine? (Text.rows text))

/-! ## Replays -/

/-- What a line does to the open blocks. -/
inductive Move
  | indent
  | level
  | dedent (levels : Nat)
deriving DecidableEq, Repr

/-- The move that closes some blocks and opens none. -/
def Move.closing : Nat → Move
  | 0 => .level
  | n + 1 => .dedent (n + 1)

/-- The move of a line of width `w` and the widths of the blocks open after it, innermost first. A
line wider than the innermost block opens one; any other closes the wider blocks and must be as
wide as the block it gets back to. -/
def replayLine (stack : List Nat) (w : Nat) : Option (Move × List Nat) :=
  if stack.headD 0 < w then some (.indent, w :: stack)
  else
    let kept := stack.dropWhile (w < ·)
    if kept.head? = some w then some (.closing (stack.length - kept.length), kept) else none

/-- The moves of lines of the given widths, from some open blocks on. -/
def replayFrom : List Nat → List Nat → Option (List Move)
  | _, [] => some []
  | stack, w :: ws =>
    match replayLine stack w with
    | none => none
    | some (m, stack') => (replayFrom stack' ws).map (m :: ·)

/-- The moves of lines of the given widths, from the start of a text on. -/
def replay (ws : List Nat) : Option (List Move) := replayFrom [0] ws

/-- Both widths of the lines can be replayed, with the same moves. -/
def Consistent (ls : List MeasuredLine) : Prop :=
  ∃ ms, replay (ls.map (·.wide)) = some ms ∧ replay (ls.map (·.narrow)) = some ms

/-! ### Moves -/

theorem closing_inj {m n : Nat} (h : Move.closing m = .closing n) : m = n := by
  cases m <;> cases n <;> simp_all [Move.closing]

theorem closing_ne_indent (n : Nat) : Move.closing n ≠ .indent := by
  cases n <;> simp [Move.closing]

theorem replayLine_wider {stack : List Nat} {w : Nat} (h : stack.headD 0 < w) :
    replayLine stack w = some (.indent, w :: stack) := by
  simp only [replayLine, h, ↓reduceIte]

/-- What a line does that opens no block. -/
theorem replayLine_closing_iff {stack t : List Nat} {w : Nat} {m : Move}
    (h : ¬ stack.headD 0 < w) :
    replayLine stack w = some (m, t) ↔
      t = stack.dropWhile (w < ·) ∧ t.head? = some w ∧ m = .closing (stack.length - t.length) := by
  simp only [replayLine, h, ↓reduceIte, Option.ite_none_right_eq_some, Option.some.injEq,
    Prod.mk.injEq]
  constructor
  · rintro ⟨hw, rfl, rfl⟩
    exact ⟨rfl, hw, rfl⟩
  · rintro ⟨rfl, hw, rfl⟩
    exact ⟨hw, rfl, rfl⟩

/-! ## Nested blocks -/

/-- The outermost block is never wider than a line, so it needs no protection from being closed. -/
theorem closeTo_eq_dropWhile {bs : Blocks} (h : bs.getLast? = some (0, 0)) (w : Nat) :
    bs.closeTo w = bs.dropWhile fun b => decide (w < b.1) := by
  induction bs with
  | nil => simp at h
  | cons b rest ih =>
    cases rest with
    | nil =>
      obtain rfl : b = (0, 0) := by simpa using h
      rfl
    | cons c rest =>
      rw [Blocks.closeTo, List.dropWhile_cons, ih (by simpa using h)]
      simp only [decide_eq_true_eq]

/-- Both widths of a block are larger than those of the block around it; the outermost block has
the widths zero. -/
structure Blocks.Nested (bs : Blocks) : Prop where
  inner : bs.Pairwise fun b c => c.1 < b.1 ∧ c.2 < b.2
  base : bs.getLast? = some (0, 0)

theorem nested_start : Blocks.Nested [(0, 0)] := ⟨by simp, rfl⟩

namespace Blocks.Nested

variable {bs : Blocks}

theorem exists_cons (h : bs.Nested) : ∃ b rest, bs = b :: rest := by
  cases bs with
  | nil => exact absurd h.base (by simp)
  | cons b rest => exact ⟨b, rest, rfl⟩

theorem suffix (h : bs.Nested) {bs' : Blocks} (hs : bs' <:+ bs) (hne : bs' ≠ []) :
    bs'.Nested := by
  obtain ⟨before, rfl⟩ := hs
  refine ⟨(List.pairwise_append.1 h.inner).2.1, ?_⟩
  rw [← h.base, List.getLast?_append, List.getLast?_eq_some_getLast hne, Option.some_or]

theorem push (h : bs.Nested) {b : Nat × Nat} (hw : bs.top.1 < b.1) (hn : bs.top.2 < b.2) :
    Blocks.Nested (b :: bs) := by
  obtain ⟨c, rest, rfl⟩ := h.exists_cons
  refine ⟨List.pairwise_cons.2 ⟨fun d hd => ?_, h.inner⟩, by simpa using h.base⟩
  simp only [Blocks.top, List.headD_cons] at hw hn
  rcases List.mem_cons.1 hd with rfl | hd
  · exact ⟨hw, hn⟩
  · have := (List.pairwise_cons.1 h.inner).1 d hd
    omega

theorem closeTo_eq (h : bs.Nested) (w : Nat) :
    bs.closeTo w = bs.dropWhile fun b => decide (w < b.1) := closeTo_eq_dropWhile h.base w

theorem closeTo_ne_nil (h : bs.Nested) (w : Nat) : bs.closeTo w ≠ [] := by
  rw [h.closeTo_eq]
  intro hn
  have := (List.dropWhile_eq_nil_iff.1 hn) (0, 0) (List.mem_of_getLast? h.base)
  simp at this

theorem closeTo_suffix (h : bs.Nested) (w : Nat) : bs.closeTo w <:+ bs :=
  h.closeTo_eq w ▸ List.dropWhile_suffix _

theorem closeTo_nested (h : bs.Nested) (w : Nat) : (bs.closeTo w).Nested :=
  h.suffix (h.closeTo_suffix w) (h.closeTo_ne_nil w)

theorem headD_wide (h : bs.Nested) : (bs.map Prod.fst).headD 0 = bs.top.1 := by
  obtain ⟨b, rest, rfl⟩ := h.exists_cons
  rfl

theorem headD_narrow (h : bs.Nested) : (bs.map Prod.snd).headD 0 = bs.top.2 := by
  obtain ⟨b, rest, rfl⟩ := h.exists_cons
  rfl

theorem snd_le_top (h : bs.Nested) {b : Nat × Nat} (hb : b ∈ bs) : b.2 ≤ bs.top.2 := by
  obtain ⟨c, rest, rfl⟩ := h.exists_cons
  rcases List.mem_cons.1 hb with rfl | hb
  · exact Nat.le_refl _
  · exact Nat.le_of_lt ((List.pairwise_cons.1 h.inner).1 b hb).2

/-- The blocks closed by a line are too narrow for the block it gets back to, by either width. -/
theorem dropWhile_narrow (h : bs.Nested) {w : Nat} {b : Nat × Nat} {rest : Blocks}
    (hc : bs.closeTo w = b :: rest) :
    (bs.map Prod.snd).dropWhile (b.2 < ·) = (b :: rest).map Prod.snd := by
  rw [h.closeTo_eq] at hc
  have hbs : bs = bs.takeWhile (fun b => decide (w < b.1)) ++ b :: rest := by
    rw [← hc, List.takeWhile_append_dropWhile]
  have hin := h.inner
  rw [hbs] at hin ⊢
  rw [List.map_append, List.dropWhile_append_of_pos]
  · simp
  · intro n hn
    obtain ⟨c, hcm, rfl⟩ := List.mem_map.1 hn
    have := (List.pairwise_append.1 hin).2.2 c hcm b (by simp)
    simpa using this.2

theorem dropWhile_wide (h : bs.Nested) (w : Nat) :
    (bs.map Prod.fst).dropWhile (w < ·) = (bs.closeTo w).map Prod.fst := by
  rw [h.closeTo_eq, List.dropWhile_map]
  rfl

/-! ### What a line does -/

/-- The move by the wide width of a line that opens no block. -/
theorem replayLine_wide_iff (h : bs.Nested) {w : Nat} {b : Nat × Nat} {rest : Blocks}
    (ht : ¬ bs.top.1 < w) (hc : bs.closeTo w = b :: rest) {m : Move} {s : List Nat} :
    replayLine (bs.map Prod.fst) w = some (m, s) ↔
      w = b.1 ∧ s = (b :: rest).map Prod.fst ∧
        m = .closing (bs.length - (b :: rest).length) := by
  rw [replayLine_closing_iff (by rwa [h.headD_wide]), h.dropWhile_wide, hc]
  constructor
  · rintro ⟨rfl, hb, rfl⟩
    exact ⟨by simpa using hb.symm, rfl, by simp⟩
  · rintro ⟨rfl, rfl, rfl⟩
    exact ⟨rfl, rfl, by simp⟩

/-- By the narrow width a line closes as many blocks as by the wide one iff it is as wide as the
block it gets back to: what is left of the stack after equally many blocks is the same. -/
theorem replayLine_narrow_iff (h : bs.Nested) {w n : Nat} {b : Nat × Nat} {rest : Blocks}
    (hc : bs.closeTo w = b :: rest) {t : List Nat} :
    replayLine (bs.map Prod.snd) n = some (.closing (bs.length - (b :: rest).length), t) ↔
      n = b.2 ∧ t = (b :: rest).map Prod.snd := by
  have hsuf : b :: rest <:+ bs := hc ▸ h.closeTo_suffix w
  constructor
  · intro hr
    have hlt : ¬ (bs.map Prod.snd).headD 0 < n := by
      intro hlt
      rw [replayLine_wider hlt] at hr
      simp only [Option.some.injEq, Prod.mk.injEq] at hr
      exact closing_ne_indent _ hr.1.symm
    obtain ⟨htd, hth, hm⟩ := (replayLine_closing_iff hlt).1 hr
    have hts : t <:+ bs.map Prod.snd := htd ▸ List.dropWhile_suffix _
    have hlen : t.length = ((b :: rest).map Prod.snd).length := by
      have h1 := closing_inj hm
      have h2 := hts.length_le
      have h3 := hsuf.length_le
      simp only [List.length_map] at h1 h2 ⊢
      omega
    have heq : t = (b :: rest).map Prod.snd :=
      (List.suffix_of_suffix_length_le hts (hsuf.map Prod.snd) hlen.le).eq_of_length hlen
    rw [heq] at hth
    exact ⟨by simpa using hth.symm, heq⟩
  · rintro ⟨rfl, rfl⟩
    have hle : b.2 ≤ bs.top.2 := h.snd_le_top (hsuf.subset List.mem_cons_self)
    rw [replayLine_closing_iff (by rw [h.headD_narrow]; omega)]
    exact ⟨(h.dropWhile_narrow hc).symm, rfl, by simp⟩

/-- Every way to take or refuse a line. -/
theorem step_cases (h : bs.Nested) (i : Indent) :
    (bs.top.1 < i.wide ∧ bs.top.2 < i.narrow ∧ bs.step i = .ok ((i.wide, i.narrow) :: bs)) ∨
    (bs.top.1 < i.wide ∧ i.narrow ≤ bs.top.2 ∧ bs.step i = .error .inconsistentTabs) ∨
    (¬ bs.top.1 < i.wide ∧ ∃ b rest, bs.closeTo i.wide = b :: rest ∧
      ((i.wide ≠ b.1 ∧ bs.step i = .error .unmatchedUnindent) ∨
       (i.wide = b.1 ∧ i.narrow ≠ b.2 ∧ bs.step i = .error .inconsistentTabs) ∨
       (i.wide = b.1 ∧ i.narrow = b.2 ∧ bs.step i = .ok (b :: rest)))) := by
  obtain ⟨b, rest, hc⟩ := (h.closeTo_nested i.wide).exists_cons
  by_cases ht : bs.top.1 < i.wide
  · by_cases hn : i.narrow ≤ bs.top.2
    · exact .inr (.inl ⟨ht, hn, by simp [Blocks.step, ht, hn]⟩)
    · exact .inl ⟨ht, by omega, by simp [Blocks.step, ht, hn]⟩
  · refine .inr (.inr ⟨ht, b, rest, hc, ?_⟩)
    have hstep : bs.step i = if i.wide ≠ b.1 then .error .unmatchedUnindent
        else if i.narrow ≠ b.2 then .error .inconsistentTabs else .ok (b :: rest) := by
      simp only [Blocks.step, ht, hc, ↓reduceIte]
      rfl
    by_cases hw : i.wide = b.1
    · by_cases hn : i.narrow = b.2
      · exact .inr (.inr ⟨hw, hn, by simp [hstep, hw, hn]⟩)
      · exact .inr (.inl ⟨hw, hn, by simp [hstep, hw, hn]⟩)
    · exact .inl ⟨hw, by simp [hstep, hw]⟩

/-- A line that is taken makes the same move by either width, and both stacks follow. -/
theorem step_ok (h : bs.Nested) {i : Indent} {bs' : Blocks} (hs : bs.step i = .ok bs') :
    bs'.Nested ∧ ∃ m, replayLine (bs.map Prod.fst) i.wide = some (m, bs'.map Prod.fst) ∧
      replayLine (bs.map Prod.snd) i.narrow = some (m, bs'.map Prod.snd) := by
  rcases h.step_cases i with ⟨hw, hn, he⟩ | ⟨-, -, he⟩ | ⟨ht, b, rest, hc, hb⟩
  · rw [he] at hs
    cases hs
    exact ⟨h.push hw hn, .indent, replayLine_wider (by rwa [h.headD_wide]),
      replayLine_wider (by rwa [h.headD_narrow])⟩
  · rw [he] at hs
    cases hs
  · rcases hb with ⟨-, he⟩ | ⟨-, -, he⟩ | ⟨hw, hn, he⟩
    · rw [he] at hs
      cases hs
    · rw [he] at hs
      cases hs
    · rw [he] at hs
      cases hs
      exact ⟨hc ▸ h.closeTo_nested i.wide, .closing (bs.length - (b :: rest).length),
        (h.replayLine_wide_iff ht hc).2 ⟨hw, rfl, rfl⟩,
        (h.replayLine_narrow_iff hc).2 ⟨hn, rfl⟩⟩

/-- A line that is refused makes no move by one of the widths, or different moves; the cause tells
whether it makes one by the wide width. -/
theorem step_error (h : bs.Nested) {i : Indent} {cause : FaultCause}
    (hs : bs.step i = .error cause) :
    (∀ m s t, replayLine (bs.map Prod.fst) i.wide = some (m, s) →
      replayLine (bs.map Prod.snd) i.narrow ≠ some (m, t)) ∧
    cause = if (replayLine (bs.map Prod.fst) i.wide).isSome then .inconsistentTabs
      else .unmatchedUnindent := by
  rcases h.step_cases i with ⟨-, -, he⟩ | ⟨hw, hn, he⟩ | ⟨ht, b, rest, hc, hb⟩
  · rw [he] at hs
    cases hs
  · rw [he] at hs
    cases hs
    rw [replayLine_wider (by rwa [h.headD_wide])]
    refine ⟨fun m s t hm hm' => ?_, rfl⟩
    simp only [Option.some.injEq, Prod.mk.injEq] at hm
    rw [← hm.1, replayLine_closing_iff (by rw [h.headD_narrow]; omega)] at hm'
    exact closing_ne_indent _ hm'.2.2.symm
  · rcases hb with ⟨hw, he⟩ | ⟨hw, hn, he⟩ | ⟨-, -, he⟩
    · rw [he] at hs
      cases hs
      have hnone : replayLine (bs.map Prod.fst) i.wide = none := by
        rw [Option.eq_none_iff_forall_ne_some]
        rintro ⟨m, s⟩ hm
        exact hw ((h.replayLine_wide_iff ht hc).1 hm).1
      rw [hnone]
      exact ⟨by simp, rfl⟩
    · rw [he] at hs
      cases hs
      refine ⟨fun m s t hm hm' => ?_, ?_⟩
      · obtain ⟨-, -, rfl⟩ := (h.replayLine_wide_iff ht hc).1 hm
        exact hn ((h.replayLine_narrow_iff hc).1 hm').1
      · rw [(h.replayLine_wide_iff ht hc).2 ⟨hw, rfl, rfl⟩]
        rfl
    · rw [he] at hs
      cases hs

end Blocks.Nested

/-! ## Runs -/

/-- Both widths of the lines can be replayed from the given stacks on, with the same moves. -/
def ConsistentFrom (s t : List Nat) (ls : List MeasuredLine) : Prop :=
  ∃ ms, replayFrom s (ls.map (·.wide)) = some ms ∧ replayFrom t (ls.map (·.narrow)) = some ms

theorem consistentFrom_nil (s t : List Nat) : ConsistentFrom s t [] := ⟨[], rfl, rfl⟩

theorem consistentFrom_cons {s t s' t' : List Nat} {l : MeasuredLine} {ls : List MeasuredLine}
    {m : Move} (hw : replayLine s l.wide = some (m, s')) (hn : replayLine t l.narrow = some (m, t')) :
    ConsistentFrom s t (l :: ls) ↔ ConsistentFrom s' t' ls := by
  simp only [ConsistentFrom, List.map_cons, replayFrom, hw, hn, Option.map_eq_some_iff]
  constructor
  · rintro ⟨_, ⟨ms, hms, rfl⟩, ms', hms', he⟩
    obtain rfl : ms' = ms := by simpa using he
    exact ⟨ms', hms, hms'⟩
  · rintro ⟨ms, hms, hms'⟩
    exact ⟨m :: ms, ⟨ms, hms, rfl⟩, ms, hms', rfl⟩

theorem not_consistentFrom_cons {s t : List Nat} {l : MeasuredLine} {ls : List MeasuredLine}
    (h : ∀ m s' t', replayLine s l.wide = some (m, s') → replayLine t l.narrow ≠ some (m, t')) :
    ¬ ConsistentFrom s t (l :: ls) := by
  rintro ⟨ms, hw, hn⟩
  simp only [List.map_cons, replayFrom] at hw hn
  split at hw
  · cases hw
  · rename_i m s' hs
    split at hn
    · cases hn
    · rename_i m' t' ht
      obtain ⟨_, -, rfl⟩ := Option.map_eq_some_iff.1 hw
      obtain ⟨_, -, he⟩ := Option.map_eq_some_iff.1 hn
      obtain rfl : m' = m := by simpa using (List.cons.inj he).1
      exact h m' s' t' hs ht

/-- Why the last of some lines breaks the replays: the narrow width is to blame unless the wide
widths cannot be replayed themselves. -/
def breakCause (s : List Nat) (ls : List MeasuredLine) : FaultCause :=
  if (replayFrom s (ls.map (·.wide))).isSome then .inconsistentTabs else .unmatchedUnindent

theorem breakCause_message (s : List Nat) (ls : List MeasuredLine) :
    (breakCause s ls).message =
      if (replayFrom s (ls.map (·.wide))).isSome then
        "inconsistent use of tabs and spaces in indentation"
      else "unindent does not match any outer indentation level" := by
  unfold breakCause
  split <;> rfl

/-- The fault at the first line after which the replays from the given stacks no longer agree. -/
def FirstBreak (s t : List Nat) (ls : List MeasuredLine) (f : Fault) : Prop :=
  ∃ before l after, ls = before ++ l :: after ∧ ConsistentFrom s t before ∧
    ¬ ConsistentFrom s t (before ++ [l]) ∧
    f = ⟨l.start.row + 1, l.start.column + 1, breakCause s (before ++ [l])⟩

theorem not_firstBreak_nil (s t : List Nat) (f : Fault) : ¬ FirstBreak s t [] f := by
  rintro ⟨before, l, after, h, -⟩
  simp at h

theorem firstBreak_cons {s t s' t' : List Nat} {l : MeasuredLine} {ls : List MeasuredLine}
    {f : Fault} {m : Move} (hw : replayLine s l.wide = some (m, s'))
    (hn : replayLine t l.narrow = some (m, t')) :
    FirstBreak s t (l :: ls) f ↔ FirstBreak s' t' ls f := by
  have hcause : ∀ ls, breakCause s (l :: ls) = breakCause s' ls := by
    intro ls
    simp [breakCause, replayFrom, hw]
  constructor
  · rintro ⟨before, k, after, he, hb, hk, hf⟩
    cases before with
    | nil =>
      obtain ⟨rfl, rfl⟩ := List.cons.inj he
      exact absurd ((consistentFrom_cons hw hn).2 (consistentFrom_nil s' t')) hk
    | cons l' before =>
      obtain ⟨rfl, rfl⟩ := List.cons.inj he
      rw [consistentFrom_cons hw hn] at hb
      rw [List.cons_append, consistentFrom_cons hw hn] at hk
      rw [List.cons_append, hcause] at hf
      exact ⟨before, k, after, rfl, hb, hk, hf⟩
  · rintro ⟨before, k, after, rfl, hb, hk, hf⟩
    refine ⟨l :: before, k, after, rfl, (consistentFrom_cons hw hn).2 hb, ?_, ?_⟩
    · rwa [List.cons_append, consistentFrom_cons hw hn]
    · rwa [List.cons_append, hcause]

/-- Where the widths of the first line make no common move, nothing after it matters. -/
theorem firstBreak_head {s t : List Nat} {l : MeasuredLine} {ls : List MeasuredLine} {f : Fault}
    (h : ∀ m s' t', replayLine s l.wide = some (m, s') → replayLine t l.narrow ≠ some (m, t')) :
    FirstBreak s t (l :: ls) f ↔
      f = ⟨l.start.row + 1, l.start.column + 1,
        if (replayLine s l.wide).isSome then .inconsistentTabs else .unmatchedUnindent⟩ := by
  have hcause : breakCause s [l] =
      if (replayLine s l.wide).isSome then .inconsistentTabs else .unmatchedUnindent := by
    cases hr : replayLine s l.wide <;> simp [breakCause, replayFrom, hr]
  rw [← hcause]
  constructor
  · rintro ⟨before, k, after, he, hb, -, hf⟩
    cases before with
    | nil =>
      obtain ⟨rfl, rfl⟩ := List.cons.inj he
      exact hf
    | cons l' before =>
      obtain ⟨rfl, rfl⟩ := List.cons.inj he
      exact absurd hb (not_consistentFrom_cons h)
  · rintro rfl
    exact ⟨[], l, ls, rfl, consistentFrom_nil s t, not_consistentFrom_cons h, rfl⟩

/-- Checks measured lines; the text and its other statements play no part. -/
def checkLines : Blocks → List MeasuredLine → Except Fault Unit
  | _, [] => .ok ()
  | bs, l :: ls =>
    match bs.step ⟨l.wide, l.narrow, l.start.column⟩ with
    | .error cause => .error ⟨l.start.row + 1, l.start.column + 1, cause⟩
    | .ok bs' => checkLines bs' ls

theorem checkStarts_eq (rows : List (List Char)) (bs : Blocks) (starts : List Position) :
    checkStarts rows.toArray bs starts =
      checkLines bs (starts.filterMap (measuredLine? rows)) := by
  induction starts generalizing bs with
  | nil => rfl
  | cons p ps ih =>
    simp only [checkStarts, List.getElem?_toArray, ofLine_eq, measuredLine?, ih,
      List.filterMap_cons]
    cases rows[p.row]? with
    | none => rfl
    | some line =>
      by_cases hc : p.column = (leadingBlanks line).length
      · cases hs : bs.step ⟨wideWidth line, narrowWidth line, (leadingBlanks line).length⟩ <;>
          simp [hc, hs, checkLines]
      · simp [hc]

/-- What one line decides, a run of lines decides: see `Blocks.Nested.step_ok` and
`Blocks.Nested.step_error`. -/
theorem checkLines_iff {bs : Blocks} (h : bs.Nested) (ls : List MeasuredLine) :
    (checkLines bs ls = .ok () ↔ ConsistentFrom (bs.map Prod.fst) (bs.map Prod.snd) ls) ∧
    ∀ f, checkLines bs ls = .error f ↔
      FirstBreak (bs.map Prod.fst) (bs.map Prod.snd) ls f := by
  induction ls generalizing bs with
  | nil =>
    refine ⟨⟨fun _ => consistentFrom_nil _ _, fun _ => rfl⟩, fun f => ?_⟩
    simp only [checkLines, not_firstBreak_nil, reduceCtorEq]
  | cons l ls ih =>
    rw [checkLines]
    cases hs : bs.step ⟨l.wide, l.narrow, l.start.column⟩ with
    | ok bs' =>
      obtain ⟨h', m, hw, hn⟩ := h.step_ok hs
      refine ⟨?_, fun f => ?_⟩
      · rw [consistentFrom_cons hw hn]
        exact (ih h').1
      · rw [firstBreak_cons hw hn]
        exact (ih h').2 f
    | error cause =>
      obtain ⟨hno, rfl⟩ := h.step_error hs
      refine ⟨?_, fun f => ?_⟩
      · simp [not_consistentFrom_cons hno]
      · rw [firstBreak_head hno, Except.error.injEq]
        exact eq_comm

/-- **The two replays decide.** A text passes iff the wide and the narrow widths of its statement
lines can be replayed with the same moves; otherwise the fault is at the first line that breaks
this, and its text tells whether the wide widths alone cannot be replayed. -/
theorem checkIndentation_iff (text : List Char) (starts : List Position) :
    (checkIndentation text starts = .ok () ↔ Consistent (measuredLines text starts)) ∧
    ∀ f, checkIndentation text starts = .error f ↔
      ∃ before l after, measuredLines text starts = before ++ l :: after ∧
        Consistent before ∧ ¬ Consistent (before ++ [l]) ∧
        f = ⟨l.start.row + 1, l.start.column + 1,
          if (replay ((before ++ [l]).map (·.wide))).isSome then .inconsistentTabs
          else .unmatchedUnindent⟩ ∧
        f.cause.message =
          if (replay ((before ++ [l]).map (·.wide))).isSome then
            "inconsistent use of tabs and spaces in indentation"
          else "unindent does not match any outer indentation level" := by
  have hrun := checkLines_iff nested_start (measuredLines text starts)
  rw [checkIndentation, checkStarts_eq]
  refine ⟨hrun.1, fun f => (hrun.2 f).trans ?_⟩
  constructor
  · rintro ⟨before, l, after, hls, hb, hl, rfl⟩
    exact ⟨before, l, after, hls, hb, hl, rfl, breakCause_message _ _⟩
  · rintro ⟨before, l, after, hls, hb, hl, hf, -⟩
    exact ⟨before, l, after, hls, hb, hl, hf⟩

example : checkIndentation "def f():\n\treturn 1\n        return 2\n".toList
    [⟨0, 0⟩, ⟨1, 1⟩, ⟨2, 8⟩] = .error ⟨3, 9, .inconsistentTabs⟩ := by decide

end CodeReview.Python
