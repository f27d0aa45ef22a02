import CodeReview.Proofs.DuplicateBlocks
import CodeReview.Proofs.Python.DocumentOrder
import CodeReview.Proofs.Text.TrimmedRows
import Mathlib.Algebra.Ring.Nat

/-!
# Windows that are shifted views of the same code

Windows overlap, and they are compared without the blanks at their ends. So a run of code with blank
lines around it makes up a block with itself if a window can move over it and only blank lines leave
and enter that window. `duplicates_shifts` says that this is the only way: two windows of a block
start with the same line of code just if one is such a shift of the other (`IsShift`). The reason is
that trimming keeps the number of characters that are not blank (`codeSize_trim`): if two windows of
the same size have the same trimmed text and no code is in the lines that leave, none is in the
lines that enter.
-/

set_option autoImplicit false

namespace CodeReview

open Text

/-! ## Blank lines -/

/-- Whether a line has blanks only. -/
def isBlankLine (line : String) : Bool := line.toList.all isBlank

/-- Whether a line has anything else. -/
def hasCode (line : String) : Bool := !isBlankLine line

/-- The number of characters of a text that are not blank. -/
def codeSize (text : String) : Nat := text.toList.countP fun c => !isBlank c

theorem codeSize_trim (text : String) : codeSize (trim text) = codeSize text := by
  rw [codeSize, codeSize, trim, String.toList_ofList]
  refine apply_trimChars (fun c cs hc => ?_) (fun c cs hc => ?_) text.toList
  · rw [List.countP_cons_of_neg (by simp [hc])]
  · rw [List.countP_append, List.countP_singleton, if_neg (by simp [hc]), Nat.add_zero]

theorem codeSize_eq_zero_iff (text : String) : codeSize text = 0 ↔ isBlankLine text = true := by
  simp [codeSize, isBlankLine, List.countP_eq_zero]

/-! ## Joined lines -/

theorem join_singleton (l : String) : join "\n" [l] = l := by
  rw [← String.toList_inj, join, String.toList_intercalate, List.map_singleton,
    List.intercalate_singleton]

theorem toList_join_cons (l : String) {ls : List String} (h : ls ≠ []) :
    (join "\n" (l :: ls)).toList = l.toList ++ '\n' :: (join "\n" ls).toList := by
  rw [join, String.toList_intercalate, List.map_cons,
    List.intercalate_cons_of_ne_nil (by simpa using h), join, String.toList_intercalate,
    List.append_assoc]
  rfl

theorem toList_join_append {ls ms : List String} (hl : ls ≠ []) (hm : ms ≠ []) :
    (join "\n" (ls ++ ms)).toList = (join "\n" ls).toList ++ '\n' :: (join "\n" ms).toList := by
  induction ls with
  | nil => exact absurd rfl hl
  | cons l ls ih =>
    rcases eq_or_ne ls [] with rfl | hne
    · rw [join_singleton, List.singleton_append, toList_join_cons l hm]
    · rw [List.cons_append, toList_join_cons l (List.append_ne_nil_of_left_ne_nil hne ms),
        toList_join_cons l hne, ih hne, List.append_assoc, List.cons_append]

theorem codeSize_join (ls : List String) : codeSize (join "\n" ls) = (ls.map codeSize).sum := by
  induction ls with
  | nil => rfl
  | cons l ls ih =>
    rcases eq_or_ne ls [] with rfl | hne
    · rw [join_singleton, List.map_singleton, List.sum_singleton]
    · rw [codeSize, toList_join_cons l hne, List.countP_append, List.countP_cons_of_neg (by decide),
        List.map_cons, List.sum_cons, ← ih, codeSize, codeSize]

theorem codeSize_join_append (ls ms : List String) : codeSize (join "\n" (ls ++ ms)) =
    codeSize (join "\n" ls) + codeSize (join "\n" ms) := by
  simp only [codeSize_join, List.map_append, List.sum_append]

/-- Joined lines are blank just if all of them are. -/
theorem isBlankLine_join_iff (ls : List String) :
    isBlankLine (join "\n" ls) = true ↔ ∀ l ∈ ls, isBlankLine l = true := by
  simp only [← codeSize_eq_zero_iff, codeSize_join, List.sum_eq_zero_iff_forall_eq_nat,
    List.forall_mem_map]

/-! ## Trimmed texts -/

theorem trimChars_blank_append {bs : List Char} (h : bs.all isBlank = true) (cs : List Char) :
    trimChars (bs ++ cs) = trimChars cs := by
  induction bs with
  | nil => rfl
  | cons b bs ih =>
    rw [List.all_cons, Bool.and_eq_true] at h
    rw [List.cons_append, trimChars_blank_cons h.1, ih h.2]

theorem trimChars_append_blank (cs : List Char) {bs : List Char} (h : bs.all isBlank = true) :
    trimChars (cs ++ bs) = trimChars cs := by
  induction bs using List.reverseRecOn with
  | nil => rw [List.append_nil]
  | append_singleton bs b ih =>
    rw [List.all_append, List.all_cons, List.all_nil, Bool.and_true, Bool.and_eq_true] at h
    rw [← List.append_assoc, trimChars_concat_blank h.2, ih h.1]

theorem trim_eq_empty_iff (text : String) : trim text = "" ↔ isBlankLine text = true := by
  constructor
  · intro h
    rw [← codeSize_eq_zero_iff, ← codeSize_trim, h]
    rfl
  · intro h
    rw [trim, ← List.append_nil text.toList, trimChars_blank_append h]
    rfl

/-- Blank lines before others do not change the text without the blanks around it. -/
theorem trim_join_blank_append {bs ls : List String} (hb : ∀ l ∈ bs, isBlankLine l = true)
    (hl : ls ≠ []) : trim (join "\n" (bs ++ ls)) = trim (join "\n" ls) := by
  rcases eq_or_ne bs [] with rfl | hne
  · rfl
  · have hblank := (isBlankLine_join_iff bs).2 hb
    rw [trim, toList_join_append hne hl, trimChars_blank_append hblank,
      trimChars_blank_cons (by decide), trim]

theorem trim_join_append_blank {bs ls : List String} (hl : ls ≠ [])
    (hb : ∀ l ∈ bs, isBlankLine l = true) : trim (join "\n" (ls ++ bs)) = trim (join "\n" ls) := by
  rcases eq_or_ne bs [] with rfl | hne
  · rw [List.append_nil]
  · have hblank := (isBlankLine_join_iff bs).2 hb
    have hall : ('\n' :: (join "\n" bs).toList).all isBlank = true :=
      List.all_cons.trans ((Bool.true_and _).trans hblank)
    rw [trim, toList_join_append hl hne, trimChars_append_blank _ hall, trim]

/-! ## Windows -/

/-- Some lines, from the one with the given number on. -/
def linesFrom (lines : List String) (i n : Nat) : List String := (lines.drop (i - 1)).take n

/-- The number of the first line with code in the window that starts on line `i`. -/
def firstCode? (size : Nat) (lines : List String) (i : Nat) : Option Nat :=
  ((linesFrom lines i size).findIdx? hasCode).map (i + ·)

/-- Only blank lines leave and enter a window that moves from one line to a later one. -/
def IsShift (size : Nat) (lines : List String) (i j : Nat) : Prop :=
  (∀ l ∈ linesFrom lines i (j - i), isBlankLine l = true) ∧
    ∀ l ∈ linesFrom lines (i + size) (j - i), isBlankLine l = true

section
variable (size : Nat) (lines : List String) {i j : Nat}

theorem linesFrom_add (hi : 1 ≤ i) (m n : Nat) :
    linesFrom lines i (m + n) = linesFrom lines i m ++ linesFrom lines (i + m) n := by
  rw [linesFrom, List.take_add, List.drop_drop, linesFrom, linesFrom,
    show i - 1 + m = i + m - 1 by omega]

/-- The lines that leave a window with the lines of the later one are the lines of the earlier one
with those that enter. -/
theorem linesFrom_append (hi : 1 ≤ i) (hij : i ≤ j) :
    linesFrom lines i (j - i) ++ linesFrom lines j size =
      linesFrom lines i size ++ linesFrom lines (i + size) (j - i) := by
  have h := linesFrom_add lines hi (j - i) size
  rwa [Nat.add_comm (j - i) size, linesFrom_add lines hi, show i + (j - i) = j by omega,
    eq_comm] at h

variable {size lines}

theorem length_linesFrom {n : Nat} (hi : 1 ≤ i) (h : i + n ≤ lines.length + 1) :
    (linesFrom lines i n).length = n := by
  rw [linesFrom, List.length_take, List.length_drop]
  omega

theorem mem_windowStarts_iff :
    i ∈ windowStarts size lines ↔ 1 ≤ i ∧ i + size ≤ lines.length + 1 := by
  rw [windowStarts, List.mem_range'_1]
  omega

/-- A window that is not blank has a first line with code. -/
theorem exists_findIdx? (h : trim (windowText size lines i) ≠ "") :
    ∃ n, (linesFrom lines i size).findIdx? hasCode = some n := by
  rw [← Option.ne_none_iff_exists']
  intro hnone
  refine h ((trim_eq_empty_iff _).2 ((isBlankLine_join_iff _).2 fun l hl => ?_))
  simpa [hasCode] using List.findIdx?_eq_none_iff.1 hnone l hl

variable (hi : i ∈ windowStarts size lines) (hj : j ∈ windowStarts size lines) (hij : i < j)
include hi hj hij

theorem trim_eq_of_isShift (hsize : 1 ≤ size) (h : IsShift size lines i j) :
    trim (windowText size lines i) = trim (windowText size lines j) := by
  rw [mem_windowStarts_iff] at hi hj
  have hne : ∀ {k}, 1 ≤ k ∧ k + size ≤ lines.length + 1 → linesFrom lines k size ≠ [] :=
    fun hk => List.ne_nil_of_length_pos (by rw [length_linesFrom hk.1 hk.2]; exact hsize)
  calc trim (windowText size lines i)
      = trim (join "\n" (linesFrom lines i size ++ linesFrom lines (i + size) (j - i))) :=
        (trim_join_append_blank (hne hi) h.2).symm
    _ = trim (join "\n" (linesFrom lines i (j - i) ++ linesFrom lines j size)) := by
        rw [linesFrom_append size lines hi.1 hij.le]
    _ = trim (windowText size lines j) := trim_join_blank_append h.1 (hne hj)

/-- Of two windows that start with the same line of code one is a shift of the other. -/
theorem isShift_of_findIdx? {n m : Nat}
    (ht : trim (windowText size lines i) = trim (windowText size lines j))
    (hn : (linesFrom lines i size).findIdx? hasCode = some n) (hnm : i + n = j + m) :
    IsShift size lines i j := by
  rw [mem_windowStarts_iff] at hi hj
  have happend := linesFrom_append size lines hi.1 hij.le
  have hleave : ∀ l ∈ linesFrom lines i (j - i), isBlankLine l = true := by
    have hfind := congrArg (List.findIdx? hasCode) happend
    rw [List.findIdx?_append, List.findIdx?_append, hn, Option.some_or] at hfind
    cases hfirst : (linesFrom lines i (j - i)).findIdx? hasCode with
    | none => simpa [hasCode] using hfirst
    | some p =>
      -- the code would start before the later window does
      rw [hfirst, Option.some_or, Option.some.injEq] at hfind
      obtain ⟨hlt, -⟩ := List.findIdx?_eq_some_iff_getElem.1 hfirst
      rw [length_linesFrom hi.1 (by omega)] at hlt
      omega
  have hleaves : codeSize (join "\n" (linesFrom lines i (j - i))) = 0 :=
    (codeSize_eq_zero_iff _).2 ((isBlankLine_join_iff _).2 hleave)
  have hsizes := congrArg (fun ls => codeSize (join "\n" ls)) happend
  simp only [codeSize_join_append] at hsizes
  have hwindows : codeSize (join "\n" (linesFrom lines i size)) =
      codeSize (join "\n" (linesFrom lines j size)) := by
    rw [← codeSize_trim, show trim (join "\n" (linesFrom lines i size)) = _ from ht, codeSize_trim]
    rfl
  have henters : codeSize (join "\n" (linesFrom lines (i + size) (j - i))) = 0 := by omega
  exact ⟨hleave, (isBlankLine_join_iff _).1 ((codeSize_eq_zero_iff _).1 henters)⟩

/-- Two windows with the same text both have a first line with code, and it is the same one just if
one window is a shift of the other. -/
theorem exists_firstCode? (ht : trim (windowText size lines i) = trim (windowText size lines j))
    (hne : trim (windowText size lines i) ≠ "") :
    ∃ k l, firstCode? size lines i = some k ∧ firstCode? size lines j = some l ∧
      (k = l ↔ IsShift size lines i j) := by
  obtain ⟨n, hn⟩ := exists_findIdx? hne
  obtain ⟨m, hm⟩ := exists_findIdx? (ht ▸ hne)
  refine ⟨i + n, j + m, by rw [firstCode?, hn, Option.map_some],
    by rw [firstCode?, hm, Option.map_some], isShift_of_findIdx? hi hj hij ht hn, fun h => ?_⟩
  rw [mem_windowStarts_iff] at hi hj
  have hnone : (linesFrom lines i (j - i)).findIdx? hasCode = none := by
    simpa [hasCode] using h.1
  have hfind := congrArg (List.findIdx? hasCode) (linesFrom_append size lines hi.1 hij.le)
  rw [List.findIdx?_append, List.findIdx?_append, hn, hm, hnone, Option.some_or, Option.none_or,
    Option.map_some, Option.some.injEq, length_linesFrom hi.1 (by omega)] at hfind
  omega

end

/-! ## Blocks -/

/-- **A block that lists one run of code twice lists a shift.** Take two windows of a block with
code whose texts are those of the block, up to blanks at the ends. Both have a first line with code,
and it is the same line of the unit just if only blank lines leave and enter the window between
them. Two windows for which this is so are always in one block. -/
theorem duplicates_shifts (u : SourceUnit) (size : Nat) (hsize : 1 ≤ size) :
    ∃ blocks, u.duplicates size = .ok blocks ∧
      (∀ b ∈ blocks, trim b.text ≠ "" → ∀ i ∈ b.lines, ∀ j ∈ b.lines, i < j →
        trim (windowText size u.lines i) = trim b.text →
        trim (windowText size u.lines j) = trim b.text →
        ∃ k l, firstCode? size u.lines i = some k ∧ firstCode? size u.lines j = some l ∧
          (k = l ↔ IsShift size u.lines i j)) ∧
      ∀ i ∈ windowStarts size u.lines, ∀ j ∈ windowStarts size u.lines, i < j →
        IsShift size u.lines i j → ∃ b ∈ blocks, i ∈ b.lines ∧ j ∈ b.lines := by
  refine ⟨repeatedBlocks size u.lines, ?_, fun b hb hne i hi j hj hij hti htj => ?_,
    fun i hi j hj hij hshift => ?_⟩
  · rw [SourceUnit.duplicates, checkWindow_of_pos hsize]
    rfl
  · rw [(block_spec hb).1] at hi hj
    exact exists_firstCode? (mem_startsWithDigest.1 hi).1 (mem_startsWithDigest.1 hj).1 hij
      (hti.trans htj.symm) (hti ▸ hne)
  · exact exists_common_block hi hj hij.ne (trim_eq_of_isShift hi hj hij hsize hshift)

/-- A function with a blank line before it and one after it, in windows of four lines. -/
theorem duplicates_shifts_of_function :
    let u : SourceUnit := ⟨"Python", ["a = 1", "", "def f():", "    x = 1", "    return x", ""],
      default⟩
    1 ≤ 4 ∧ ∃ blocks, u.duplicates 4 = .ok blocks ∧ ∃ b ∈ blocks, 2 ∈ b.lines ∧ 3 ∈ b.lines := by
  intro u
  obtain ⟨blocks, hok, -, hshift⟩ := duplicates_shifts u 4 (by decide)
  exact ⟨by decide, blocks, hok, hshift 2 (by decide) 3 (by decide) (by decide)
    ⟨by decide, by decide⟩⟩

/-- The lines of a module with one function between blank lines. -/
def loneFunction : List String := ["a = 1", "", "", "def f():", "    return 1", "", "", "b = 2"]

theorem exists_block_loneFunction : ∃ b ∈ repeatedBlocks 3 loneFunction,
    trim b.text ≠ "" ∧ 3 ∈ b.lines ∧ 4 ∈ b.lines := by
  have hcode : ∀ i ∈ windowStarts 3 loneFunction, trim (windowText 3 loneFunction i) ≠ "" := by
    decide +kernel
  have h3 : 3 ∈ windowStarts 3 loneFunction := by decide
  have h4 : 4 ∈ windowStarts 3 loneFunction := by decide
  obtain ⟨b, hb, hb3, hb4⟩ := exists_common_block h3 h4 (by decide) (by decide +kernel)
  obtain ⟨i, hi, htext⟩ := exists_windowText hb
  exact ⟨b, hb, htext ▸ hcode i hi, hb3, hb4⟩

/-- A function that is written once, with two blank lines before it and after it, is a duplicate of
itself in windows of three lines. -/
theorem function_duplicates_itself :
    ∃ u, SourceUnit.ofText .python "a = 1\n\n\ndef f():\n    return 1\n\n\nb = 2\n" = .ok u ∧
      ¬ ∀ blocks, u.duplicates 3 = .ok blocks → ∀ b ∈ blocks, trim b.text ≠ "" →
        ∀ i ∈ b.lines, ∀ j ∈ b.lines, i < j →
          firstCode? 3 u.lines i ≠ firstCode? 3 u.lines j := by
  generalize htext : "a = 1\n\n\ndef f():\n    return 1\n\n\nb = 2\n" = text
  have hcheck : Python.check (Python.parse text.toList) =
      .ok [⟨0, 0⟩, ⟨3, 0⟩, ⟨4, 4⟩, ⟨7, 0⟩] := by
    subst htext
    exact Python.check_eq_ok (by decide +kernel) (by decide) (by decide +kernel)
      (by decide +kernel)
  have hread := Python.read_eq_ok hcheck (by subst htext; decide +kernel)
  have hlines : lines text = loneFunction := by
    subst htext
    decide +kernel
  have hsame : firstCode? 3 loneFunction 3 = firstCode? 3 loneFunction 4 := by decide +kernel
  obtain ⟨b, hb, hne, h3, h4⟩ := exists_block_loneFunction
  refine ⟨⟨"Python", lines text, Python.outline (Python.parse text.toList)⟩,
    congrArg (Except.map _) hread, ?_⟩
  rw [hlines]
  exact fun h => h _ rfl b hb hne 3 h3 4 h4 (by decide) hsame

end CodeReview
