import CodeReview.Rules.Line
import Mathlib.Data.List.TakeWhile

/-!
# Blanks between the parts of a line

A scanner of lines steps over blanks and over words that it knows. `trimLeft` leaves the text from
its first character that is not blank on (`trimLeft_append`, `exists_blank_trimLeft`),
`afterBlanks?` wants at least one blank before that (`afterBlanks?_eq_some_iff`), and `after?` a
given text (`after?_eq_some_iff`). No blank is a word character (`not_isBlank_of_isWord`).
-/

set_option autoImplicit false

namespace CodeReview

namespace Text

/-- A text of blanks only. -/
def Blank (cs : List Char) : Prop := ∀ c ∈ cs, isBlank c

instance : DecidablePred Blank := fun _ => decidable_of_iff _ List.all_eq_true

@[simp] theorem blank_nil : Blank [] := fun _ h => absurd h List.not_mem_nil

theorem blank_cons {c : Char} {cs : List Char} : Blank (c :: cs) ↔ isBlank c ∧ Blank cs :=
  List.forall_mem_cons

theorem Blank.isBlank_head {b : List Char} (hb : Blank b) (hne : b ≠ []) {cs : List Char} :
    ∀ c ∈ (b ++ cs).head?, isBlank c := by
  obtain ⟨d, b, rfl⟩ := List.exists_cons_of_ne_nil hne
  simpa using (blank_cons.1 hb).1

/-- A text that is empty or starts with something else than a blank. -/
def StartsFilled (cs : List Char) : Prop := ∀ c ∈ cs.head?, ¬ isBlank c

theorem startsFilled_cons {c : Char} {cs : List Char} : StartsFilled (c :: cs) ↔ ¬ isBlank c := by
  simp [StartsFilled]

theorem trimLeft_append {b rest : List Char} (hb : Blank b) (hrest : StartsFilled rest) :
    trimLeft (b ++ rest) = rest := by
  rw [trimLeft, List.dropWhile_append_of_pos hb]
  cases rest with
  | nil => rfl
  | cons c cs => exact List.dropWhile_cons_of_neg (startsFilled_cons.1 hrest)

theorem startsFilled_trimLeft (cs : List Char) : StartsFilled (trimLeft cs) := by
  intro c hc
  have hnot := List.head?_dropWhile_not isBlank cs
  rw [trimLeft, Option.mem_def] at hc
  rw [hc] at hnot
  simp [hnot]

/-- Trimming takes blanks away. -/
theorem exists_blank_trimLeft (cs : List Char) : ∃ b, Blank b ∧ cs = b ++ trimLeft cs :=
  ⟨cs.takeWhile isBlank, fun _ hc => List.mem_takeWhile_imp hc,
    List.takeWhile_append_dropWhile.symm⟩

/-- The numbers of the blanks. -/
def blankNumbers : List Nat :=
  List.range' 9 5 ++ [0x20, 0x85, 0xA0, 0x1680] ++ List.range' 0x2000 11 ++
    [0x2028, 0x2029, 0x202F, 0x205F, 0x3000]

theorem mem_blankNumbers {c : Char} (h : isBlank c) : c.toNat ∈ blankNumbers := by
  simp only [isBlank, Bool.or_eq_true, Bool.and_eq_true, decide_eq_true_eq, beq_iff_eq] at h
  simp only [blankNumbers, List.mem_append, List.mem_range'_1, List.mem_cons, List.not_mem_nil]
  omega

theorem not_isWord_of_isBlank {c : Char} (h : isBlank c) : ¬ isWord c := by
  have hall : ∀ n ∈ blankNumbers, isWord (Char.ofNat n) = false := by decide +kernel
  have hc := hall c.toNat (mem_blankNumbers h)
  rw [Char.ofNat_toNat] at hc
  simp [hc]

theorem not_isBlank_of_isWord {c : Char} (h : isWord c) : ¬ isBlank c :=
  fun hb => not_isWord_of_isBlank hb h

end Text

namespace Rules

open Text

theorem after?_eq_some_iff {part cs rest : List Char} :
    after? part cs = some rest ↔ cs = part ++ rest := by
  rw [after?]
  split_ifs with h
  · obtain ⟨t, rfl⟩ := List.isPrefixOf_iff_prefix.1 h
    rw [List.drop_left, Option.some.injEq, List.append_cancel_left_eq]
  · rw [false_iff]
    rintro rfl
    exact h (List.isPrefixOf_iff_prefix.2 (List.prefix_append part rest))

theorem after?_append (part rest : List Char) : after? part (part ++ rest) = some rest :=
  after?_eq_some_iff.2 rfl

theorem afterBlanks?_eq_some_iff {cs rest : List Char} :
    afterBlanks? cs = some rest ↔
      StartsFilled rest ∧ ∃ b, b ≠ [] ∧ Blank b ∧ cs = b ++ rest := by
  rw [afterBlanks?.eq_def]
  cases cs with
  | nil =>
    simp only [reduceCtorEq, false_iff]
    rintro ⟨-, b, hne, -, h⟩
    exact hne (List.append_eq_nil_iff.1 h.symm).1
  | cons c cs =>
    by_cases hc : isBlank c
    · simp only [hc, if_true, Option.some.injEq]
      constructor
      · rintro rfl
        obtain ⟨b, hb, hcs⟩ := exists_blank_trimLeft cs
        exact ⟨startsFilled_trimLeft cs, c :: b, List.cons_ne_nil c b, blank_cons.2 ⟨hc, hb⟩,
          congrArg (c :: ·) hcs⟩
      · rintro ⟨hrest, b, hne, hb, h⟩
        obtain ⟨d, b, rfl⟩ := List.exists_cons_of_ne_nil hne
        obtain ⟨rfl, rfl⟩ := List.cons.inj h
        exact trimLeft_append (blank_cons.1 hb).2 hrest
    · simp only [hc, Bool.false_eq_true, if_false, reduceCtorEq, false_iff]
      rintro ⟨-, b, hne, hb, h⟩
      obtain ⟨d, b, rfl⟩ := List.exists_cons_of_ne_nil hne
      obtain ⟨rfl, -⟩ := List.cons.inj h
      exact hc (blank_cons.1 hb).1

theorem afterBlanks?_append {b rest : List Char} (hne : b ≠ []) (hb : Blank b)
    (hrest : StartsFilled rest) : afterBlanks? (b ++ rest) = some rest :=
  afterBlanks?_eq_some_iff.2 ⟨hrest, b, hne, hb, rfl⟩

theorem afterBlanks?_of_startsFilled {cs : List Char} (h : StartsFilled cs) :
    afterBlanks? cs = none := by
  cases cs with
  | nil => rfl
  | cons c cs => exact if_neg (startsFilled_cons.1 h)

end Rules

end CodeReview
