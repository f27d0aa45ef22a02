import CodeReview.Proofs.Text.Blanks
import CodeReview.Proofs.Text.PatternTransfer
import CodeReview.Proofs.Text.TrimmedRows
import Mathlib.Data.List.Forall2

/-!
# Texts that differ in the case of letters

`Recased cs ds`: character by character, two texts are the same apart from the case of ASCII
letters. Two such characters are the same one, or both are letters, which fold alike, belong to
words and are neither blanks nor ends of lines (`SameButCase.eq_or_isAlpha`). So a pattern is found
in both texts or in neither (`Recased.found_iff`), and what is cut out of them at blanks and ends of
lines corresponds again (`Recased.trimmedRows`).
-/

set_option autoImplicit false

namespace CodeReview.Text

/-! ## Characters -/

theorem isAlpha_iff {c : Char} :
    c.isAlpha ↔ (65 ≤ c.val ∧ c.val ≤ 90) ∨ (97 ≤ c.val ∧ c.val ≤ 122) := by
  change (c.isUpper || c.isLower) = true ↔ _
  rw [Bool.or_eq_true]
  refine or_congr decide_eq_true_iff ?_
  change (decide (97 ≤ c.val) && decide (c.val ≤ 122)) = true ↔ _
  rw [Bool.and_eq_true, decide_eq_true_iff, decide_eq_true_iff]

theorem toNat_lt_of_isAlpha {c : Char} (h : c.isAlpha) : c.toNat < 128 := by
  simp only [isAlpha_iff, UInt32.le_iff_toNat_le] at h
  change (65 ≤ c.toNat ∧ c.toNat ≤ 90) ∨ (97 ≤ c.toNat ∧ c.toNat ≤ 122) at h
  omega

theorem isWord_of_isAlpha {c : Char} (h : c.isAlpha) : isWord c := by
  rw [isWord, if_pos (toNat_lt_of_isAlpha h), Char.isAlphanum, h]
  rfl

/-- Two characters are the same apart from the case of an ASCII letter; `Char.toLower` changes no
others. -/
def SameButCase (c d : Char) : Prop := c.toLower = d.toLower

instance : DecidableRel SameButCase := fun _ _ => inferInstanceAs (Decidable (_ = _))

namespace SameButCase

variable {c d : Char}

theorem symm (h : SameButCase c d) : SameButCase d c := Eq.symm h

theorem eq_or_isAlpha (h : SameButCase c d) : c = d ∨ c.isAlpha ∧ d.isAlpha := by
  unfold SameButCase Char.toLower at h
  grind [isAlpha_iff]

/-- What is the same for all letters is the same for both characters. -/
theorem congr {α : Type} {f : Char → α} {a : α} (hf : ∀ {e : Char}, e.isAlpha → f e = a)
    (h : SameButCase c d) : f c = f d := by
  rcases h.eq_or_isAlpha with rfl | ⟨hc, hd⟩
  · rfl
  · rw [hf hc, hf hd]

theorem isWord_eq (h : SameButCase c d) : isWord c = isWord d := h.congr isWord_of_isAlpha

theorem isBlank_eq (h : SameButCase c d) : isBlank c = isBlank d :=
  h.congr fun he => Bool.not_eq_true _ ▸ not_isBlank_of_isWord (isWord_of_isAlpha he)

theorem eq_newline_iff (h : SameButCase c d) : c = '\n' ↔ d = '\n' := by
  have hletter : ∀ {e : Char}, e.isAlpha → (e == '\n') = false := fun he =>
    beq_false_of_ne (by rintro rfl; exact absurd he (by decide))
  simpa using h.congr hletter

theorem foldChar_eq (h : SameButCase c d) : foldChar c = foldChar d := by
  rcases h.eq_or_isAlpha with rfl | ⟨hc, hd⟩
  · rfl
  · rw [foldChar, foldChar, if_pos (toNat_lt_of_isAlpha hc), if_pos (toNat_lt_of_isAlpha hd)]
    exact h

theorem sameLetter (h : SameButCase c d) {w : Char} (hw : Pattern.sameLetter w c) :
    Pattern.sameLetter w d := by
  rw [Pattern.sameLetter, Bool.or_eq_true, beq_iff_eq, beq_iff_eq] at hw ⊢
  right
  rcases hw with rfl | hw
  · exact h.foldChar_eq
  · exact hw.trans h.foldChar_eq

end SameButCase

/-! ## Texts -/

/-- Two texts are the same apart from the case of ASCII letters. -/
def Recased (cs ds : List Char) : Prop := List.Forall₂ SameButCase cs ds

instance : DecidableRel Recased := fun cs ds =>
  inferInstanceAs (Decidable (List.Forall₂ SameButCase cs ds))

/-- The same place in two texts that differ in case only. -/
def RecasedPlace (before : Option Char) (cs : List Char) (before' : Option Char)
    (cs' : List Char) : Prop :=
  Option.Rel SameButCase before before' ∧ Recased cs cs'

theorem RecasedPlace.edge {b b' : Option Char} {cs cs' : List Char}
    (h : RecasedPlace b cs b' cs') :
    Pattern.isEdge b cs.head? = Pattern.isEdge b' cs'.head? := by
  have hany : ∀ {x x' : Option Char}, Option.Rel SameButCase x x' → x.any isWord = x'.any isWord :=
    fun hx => by
      cases hx with
      | none => rfl
      | some hcd => exact hcd.isWord_eq
  have hhead : Option.Rel SameButCase cs.head? cs'.head? := by
    cases h.2 with
    | nil => exact .none
    | cons hcd _ => exact .some hcd
  rw [Pattern.isEdge, Pattern.isEdge, hany h.1, hany hhead]

theorem transfers_recasedPlace : Pattern.Transfers RecasedPlace where
  step := by
    rintro b b' d cs cs' ⟨-, h⟩
    cases h with
    | cons hd hcs =>
      exact ⟨_, _, rfl, fun c => hd.sameLetter, mt hd.eq_newline_iff.2, .some hd, hcs⟩
  edge h he := h.edge ▸ he

namespace Recased

variable {cs ds : List Char}

theorem symm (h : Recased cs ds) : Recased ds cs :=
  List.Forall₂.flip (h.imp fun _ _ hcd => hcd.symm)

theorem found_iff (h : Recased cs ds) (p : Pattern) : p.found cs ↔ p.found ds :=
  ⟨Pattern.foundFrom_transfer transfers_recasedPlace ⟨.none, h⟩,
    Pattern.foundFrom_transfer transfers_recasedPlace ⟨.none, h.symm⟩⟩

theorem dropWhile_isBlank (h : Recased cs ds) :
    Recased (cs.dropWhile isBlank) (ds.dropWhile isBlank) := by
  induction h with
  | nil => exact .nil
  | @cons c d cs ds hcd h ih =>
    rw [List.dropWhile_cons, List.dropWhile_cons, hcd.isBlank_eq]
    split
    · exact ih
    · exact .cons hcd h

theorem trimChars (h : Recased cs ds) : Recased (trimChars cs) (trimChars ds) :=
  List.rel_reverse (dropWhile_isBlank (List.rel_reverse h.dropWhile_isBlank))

theorem rows (h : Recased cs ds) : List.Forall₂ Recased (rows cs) (rows ds) := by
  induction h with
  | nil => exact .cons .nil .nil
  | @cons c d cs ds hcd h ih =>
    obtain ⟨r, rs, hr⟩ := List.exists_cons_of_ne_nil (splitChars_ne_nil '\n' cs)
    obtain ⟨r', rs', hr'⟩ := List.exists_cons_of_ne_nil (splitChars_ne_nil '\n' ds)
    rw [Text.rows, Text.rows, hr, hr'] at ih
    cases ih with
    | cons hrow hrows =>
      by_cases hc : c = '\n'
      · obtain rfl := hcd.eq_newline_iff.1 hc
        subst hc
        rw [Text.rows, Text.rows, splitChars_sep_cons, splitChars_sep_cons, hr, hr']
        exact .cons .nil (.cons hrow hrows)
      · rw [Text.rows, Text.rows, splitChars_cons hc hr,
          splitChars_cons (mt hcd.eq_newline_iff.2 hc) hr']
        exact .cons (.cons hcd hrow) hrows

theorem isEmpty_eq (h : Recased cs ds) : cs.isEmpty = ds.isEmpty := by
  cases h <;> rfl

/-- The rows that count correspond. -/
theorem trimmedRows (h : Recased cs ds) :
    List.Forall₂ Recased (trimmedRows cs) (trimmedRows ds) :=
  List.rel_filter (fun _ _ hrow => by simp [hrow.isEmpty_eq])
    (List.rel_map (fun _ _ hrow => hrow.trimChars) h.rows)

end Recased

end CodeReview.Text
