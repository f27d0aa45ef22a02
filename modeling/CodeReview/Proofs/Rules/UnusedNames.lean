import CodeReview.Proofs.Text.Runs
import Mathlib.Algebra.Order.BigOperators.Group.List
import Mathlib.Algebra.Order.Ring.Nat

/-!
# Imported names that nothing else uses

The rule on unused imports counts words: those of the whole unit and those of the line of the
import. `UsedElsewhere u n name` looks at the lines themselves: a line with another number than `n`
has the word `name`. Since the words of a unit are those of its lines (`getD_countWords`), the two
agree (`isUnused_iff`), and each imported name gets its finding or none by the other lines alone
(`check_unusedImport`).
-/

set_option autoImplicit false

namespace CodeReview

namespace Rules

open Text

/-! ## Counting words -/

theorem mem_wordsOf_iff {word line : String} :
    word ∈ wordsOf line ↔ IsRun isWord word.toList line.toList := by
  rw [wordsOf, List.mem_map, ← mem_runs_iff]
  constructor
  · rintro ⟨r, hr, rfl⟩
    rwa [String.toList_ofList]
  · intro h
    exact ⟨word.toList, h, String.ofList_toList⟩

theorem getD_foldl_insert (words : List String) (counts : Std.HashMap String Nat) (name : String) :
    (words.foldl (fun m w => m.insert w (m.getD w 0 + 1)) counts).getD name 0 =
      counts.getD name 0 + words.count name := by
  induction words generalizing counts with
  | nil => rfl
  | cons w words ih =>
    rw [List.foldl_cons, ih, Std.HashMap.getD_insert, List.count_cons]
    by_cases h : w = name
    · subst h
      rw [if_pos (beq_self_eq_true w), if_pos (beq_self_eq_true w)]
      omega
    · simp [h]

/-- The words of a unit are those of its lines. -/
theorem getD_countWords (lines : List String) (name : String) :
    (countWords lines).getD name 0 = (lines.map fun l => (wordsOf l).count name).sum := by
  have hfold : ∀ counts : Std.HashMap String Nat,
      (lines.foldl (fun m line =>
        (wordsOf line).foldl (fun m w => m.insert w (m.getD w 0 + 1)) m) counts).getD name 0 =
        counts.getD name 0 + (lines.map fun l => (wordsOf l).count name).sum := by
    induction lines with
    | nil => exact fun counts => rfl
    | cons line lines ih =>
      intro counts
      rw [List.foldl_cons, ih, getD_foldl_insert, List.map_cons, List.sum_cons, Nat.add_assoc]
  rw [countWords, hfold, Std.HashMap.getD_empty, Nat.zero_add]

/-! ## Uses -/

/-- A line with another number than the given one has a name as a word. -/
def UsedElsewhere (u : SourceUnit) (number : Nat) (name : String) : Prop :=
  ∃ l ∈ u.numberedLines, l.1 ≠ number ∧ IsRun isWord name.toList l.2.toList

instance (u : SourceUnit) (number : Nat) (name : String) :
    Decidable (UsedElsewhere u number name) :=
  decidable_of_iff (∃ l ∈ u.numberedLines, l.1 ≠ number ∧ name ∈ wordsOf l.2) <| by
    simp only [mem_wordsOf_iff, UsedElsewhere]

/-- A sum of numbers is no more than one of them just if the others are zero. -/
theorem sum_le_iff {xs : List Nat} {n x : Nat} (h : xs[n]? = some x) :
    xs.sum ≤ x ↔ ∀ i y, xs[i]? = some y → i ≠ n → y = 0 := by
  induction xs generalizing n with
  | nil => cases h
  | cons z xs ih =>
    rw [List.sum_cons]
    cases n with
    | zero =>
      obtain rfl : z = x := Option.some.inj h
      have hzero : z + xs.sum ≤ z ↔ ∀ y ∈ xs, y = 0 := by
        rw [← List.sum_eq_zero_iff_forall_eq_nat]
        omega
      rw [hzero]
      constructor
      · intro hall i y hy hi
        obtain ⟨i, rfl⟩ := Nat.exists_eq_succ_of_ne_zero hi
        exact hall y (List.mem_of_getElem? hy)
      · intro hall y hy
        obtain ⟨i, hi⟩ := List.mem_iff_getElem?.1 hy
        exact hall (i + 1) y hi i.succ_ne_zero
    | succ n =>
      have hx : xs[n]? = some x := h
      have hle : x ≤ xs.sum := List.le_sum_of_mem (List.mem_of_getElem? hx)
      have hzero : z + xs.sum ≤ x ↔ z = 0 ∧ xs.sum ≤ x := by omega
      rw [hzero, ih hx]
      constructor
      · rintro ⟨rfl, hall⟩ i y hy hi
        cases i with
        | zero => exact (Option.some.inj hy).symm
        | succ i => exact hall i y hy (by omega)
      · intro hall
        exact ⟨hall 0 z rfl n.succ_ne_zero.symm, fun i y hy hi => hall (i + 1) y hy (by omega)⟩

variable {u : SourceUnit} {number : Nat} {declaration : String}

theorem usedElsewhere_iff {n : Nat} {name : String} : UsedElsewhere u (n + 1) name ↔
    ∃ i l, u.lines[i]? = some l ∧ i ≠ n ∧ name ∈ wordsOf l := by
  simp only [UsedElsewhere, Prod.exists, SourceUnit.mem_numberedLines_iff,
    SourceUnit.line?_eq_some_iff, ← mem_wordsOf_iff]
  constructor
  · rintro ⟨_, l, ⟨i, rfl, hl⟩, hne, hw⟩
    exact ⟨i, l, hl, by omega, hw⟩
  · rintro ⟨i, l, hl, hne, hw⟩
    exact ⟨i + 1, l, ⟨i, rfl, hl⟩, by omega, hw⟩

/-- The words of a unit are no more than those of one line just if no other line has the word. -/
theorem isUnused_iff (h : u.line? number = some declaration) (name : String) :
    isUnused (countWords u.lines) declaration name ↔ ¬ UsedElsewhere u number name := by
  obtain ⟨n, rfl, hline⟩ := SourceUnit.line?_eq_some_iff.1 h
  have hcount : (u.lines.map fun l => (wordsOf l).count name)[n]? =
      some ((wordsOf declaration).count name) := by
    rw [List.getElem?_map, hline, Option.map_some]
  rw [isUnused, decide_eq_true_iff, getD_countWords, sum_le_iff hcount, usedElsewhere_iff]
  constructor
  · rintro hzero ⟨i, l, hl, hne, hw⟩
    have hcl := hzero i ((wordsOf l).count name)
      (by rw [List.getElem?_map, hl, Option.map_some]) hne
    exact List.count_eq_zero.1 hcl hw
  · intro hunused i k hk hne
    rw [List.getElem?_map] at hk
    obtain ⟨l, hl, rfl⟩ := Option.map_eq_some_iff.1 hk
    exact List.count_eq_zero.2 fun hw => hunused ⟨i, l, hl, hne, hw⟩

/-- The line of an import is found again, so whether it gets its finding depends on its uses. -/
theorem unusedFinding?_eq (h : u.line? number = some declaration) (name : String) :
    unusedFinding? u (countWords u.lines) ⟨name, number⟩ =
      if UsedElsewhere u number name then none
      else some (importFinding name (number, declaration)) := by
  have hunused := isUnused_iff h name
  rw [unusedFinding?, h, Option.bind_some]
  split_ifs <;> simp_all

theorem check_unusedImport_eq (u : SourceUnit) :
    unusedImport.check u = u.numberedLines.flatMap fun l =>
      (importedNames l.2).filterMap fun name =>
        unusedFinding? u (countWords u.lines) ⟨name, l.1⟩ := by
  have hcheck : unusedImport.check u =
      (imports u).filterMap (unusedFinding? u (countWords u.lines)) := by
    change checkImports u = _
    rw [checkImports]
    split
    · rename_i h
      rw [h, List.filterMap_nil]
    · rfl
  rw [hcheck, imports, List.filterMap_flatMap]
  exact List.flatMap_congr fun l _ => List.filterMap_map

/-- The findings on the names that one line binds. -/
theorem filterMap_unusedFinding? {l : Nat × String} (hl : l ∈ u.numberedLines)
    (names : List String) :
    (names.filterMap fun name => unusedFinding? u (countWords u.lines) ⟨name, l.1⟩) =
      (names.filter fun name => ¬ UsedElsewhere u l.1 name).map fun name =>
        importFinding name l := by
  have hline : u.line? l.1 = some l.2 := SourceUnit.mem_numberedLines_iff.1 hl
  rw [← List.filterMap_eq_map, List.filterMap_filter]
  refine List.filterMap_congr fun name _ => ?_
  rw [Function.comp_apply, unusedFinding?_eq hline]
  by_cases h : UsedElsewhere u l.1 name <;> simp [h]

/-- What the finding on a name says. -/
theorem importFinding_eq (name : String) (l : Nat × String) :
    importFinding name l = .new "unused-import" .style
      (s!"Line {l.1}: Unused import \x60{name}\x60 → \x60" ++ trim l.2 ++ "\x60") (some l.1) := by
  have hwords : ": Unused import \x60" = ": " ++ "Unused import \x60" := by decide
  have harrow : "\x60 → \x60" = "\x60" ++ " → \x60" := by decide
  simp only [importFinding, Rule.lineFinding, Rule.lineMessage, toString, hwords, harrow,
    String.append_assoc]

/-- **A name is reported just if no other line has it as a word.** The findings go through the lines
in order and on each line through the names that it binds, in order; each name gets one finding,
with the number and the trimmed text of its own line, unless another line of the unit has a word
equal to it. So words on other import lines, in comments and in texts are uses, and the name's
repetition on its own line is not. -/
theorem check_unusedImport (u : SourceUnit) :
    unusedImport.check u = u.numberedLines.flatMap fun l =>
      ((importedNames l.2).filter fun name => ¬ UsedElsewhere u l.1 name).map fun name =>
        .new "unused-import" .style
          (s!"Line {l.1}: Unused import \x60{name}\x60 → \x60" ++ trim l.2 ++ "\x60")
          (some l.1) := by
  simp only [← importFinding_eq]
  rw [check_unusedImport_eq]
  exact List.flatMap_congr fun l hl => filterMap_unusedFinding? hl _

end Rules

end CodeReview
