import Mathlib.Data.String.Basic

/-!
# The order of texts is that of their bytes

Texts are compared character by character. In UTF-8 a greater character has greater bytes: its first
byte is greater if it has more of them, and otherwise the bytes hold the digits of its number to the
base 64, the highest first (`encode_lt`). So texts compare as their bytes do (`bytes_lt_iff`).
-/

set_option autoImplicit false

namespace CodeReview.Text

/-- The bytes of a text in UTF-8. -/
def bytes (s : String) : List UInt8 := s.toUTF8.data.toList

/-- Texts in strictly ascending order of their bytes. -/
def Ascending (texts : List String) : Prop := texts.Pairwise fun s t => bytes s < bytes t

theorem bytes_eq (s : String) : bytes s = s.toList.flatMap String.utf8EncodeChar := by
  conv_lhs => rw [← String.ofList_toList (s := s)]
  rw [bytes, String.toUTF8_eq_toByteArray, String.toByteArray_ofList, List.utf8Encode,
    List.data_toByteArray]

/-! ## Characters -/

section
variable {a b : Nat} {xs ys : List UInt8}

theorem ofNat_cons_lt (h : a < b ∨ a = b ∧ xs < ys) (hb : b < 256) :
    UInt8.ofNat a :: xs < UInt8.ofNat b :: ys := by
  rw [List.cons_lt_cons_iff]
  rcases h with h | ⟨rfl, h⟩
  · left
    rw [UInt8.lt_iff_toNat_lt, UInt8.toNat_ofNat', UInt8.toNat_ofNat']
    omega
  · exact .inr ⟨rfl, h⟩

/-- A byte after the first one: the last digit of a number to the base 64. -/
def digitByte (n : Nat) : UInt8 := UInt8.ofNat (n % 64 + 128)

theorem one_digit_lt (h : a < b) (he : a / 64 = b / 64) :
    digitByte a :: xs < digitByte b :: ys :=
  ofNat_cons_lt (.inl (by omega)) (by omega)

theorem two_digits_lt (h : a < b) (he : a / 64 / 64 = b / 64 / 64) :
    digitByte (a / 64) :: digitByte a :: xs < digitByte (b / 64) :: digitByte b :: ys := by
  rcases Nat.lt_or_eq_of_le (Nat.div_le_div_right h.le : a / 64 ≤ b / 64) with hlt | heq
  · exact one_digit_lt hlt he
  · exact ofNat_cons_lt (.inr ⟨by rw [heq], one_digit_lt h heq⟩) (by omega)

theorem three_digits_lt (h : a < b) (he : a / 64 / 64 / 64 = b / 64 / 64 / 64) :
    digitByte (a / 64 / 64) :: digitByte (a / 64) :: digitByte a :: xs <
      digitByte (b / 64 / 64) :: digitByte (b / 64) :: digitByte b :: ys := by
  rcases Nat.lt_or_eq_of_le (Nat.div_le_div_right h.le : a / 64 ≤ b / 64) with hlt | heq
  · exact two_digits_lt hlt he
  · exact ofNat_cons_lt (.inr ⟨by rw [heq], two_digits_lt h (by rw [heq])⟩) (by omega)

end

theorem charNumber_lt (c : Char) : c.val.toNat < 0x110000 := by
  rcases c.valid with h | ⟨-, h⟩
  · exact Nat.lt_trans h (by decide)
  · exact h

/-- The bytes of a smaller character are smaller, whatever comes after. -/
theorem encode_lt {c d : Char} (h : c < d) (xs ys : List UInt8) :
    String.utf8EncodeChar c ++ xs < String.utf8EncodeChar d ++ ys := by
  have hcd : c.val.toNat < d.val.toNat := h
  have hd := charNumber_lt d
  unfold String.utf8EncodeChar
  generalize c.val.toNat = v at *
  generalize d.val.toNat = w at *
  have hv : v / 4096 = v / 64 / 64 ∧ v / 262144 = v / 64 / 64 / 64 := by omega
  have hw : w / 4096 = w / 64 / 64 ∧ w / 262144 = w / 64 / 64 / 64 := by omega
  simp only [hv, hw]
  split_ifs
  -- The smaller character does not have more bytes; if it has fewer, or both have one, the first
  -- bytes differ.
  any_goals omega
  any_goals (refine ofNat_cons_lt (.inl ?_) ?_ <;> omega)
  · by_cases he : v / 64 = w / 64
    · exact ofNat_cons_lt (.inr ⟨by rw [he], one_digit_lt hcd he⟩) (by omega)
    · exact ofNat_cons_lt (.inl (by omega)) (by omega)
  · by_cases he : v / 64 / 64 = w / 64 / 64
    · exact ofNat_cons_lt (.inr ⟨by rw [he], two_digits_lt hcd he⟩) (by omega)
    · exact ofNat_cons_lt (.inl (by omega)) (by omega)
  · by_cases he : v / 64 / 64 / 64 = w / 64 / 64 / 64
    · exact ofNat_cons_lt (.inr ⟨by rw [he], three_digits_lt hcd he⟩) (by omega)
    · exact ofNat_cons_lt (.inl (by omega)) (by omega)

/-! ## Texts -/

theorem encode_all_lt {s t : List Char} (h : s < t) :
    s.flatMap String.utf8EncodeChar < t.flatMap String.utf8EncodeChar := by
  induction h with
  | nil =>
    rw [List.flatMap_nil, List.flatMap_cons]
    obtain ⟨x, xs, hx⟩ := List.exists_cons_of_ne_nil (String.utf8EncodeChar_ne_nil)
    rw [hx]
    exact List.nil_lt_cons _ _
  | rel h =>
    rw [List.flatMap_cons, List.flatMap_cons]
    exact encode_lt h _ _
  | cons _ ih =>
    rw [List.flatMap_cons, List.flatMap_cons]
    exact List.append_left_lt ih

theorem bytes_lt {s t : String} (h : s < t) : bytes s < bytes t := by
  rw [bytes_eq, bytes_eq]
  exact encode_all_lt (String.lt_iff_toList_lt.1 h)

/-- Texts compare as their bytes do. -/
theorem bytes_lt_iff {s t : String} : bytes s < bytes t ↔ s < t := by
  refine ⟨fun h => ?_, bytes_lt⟩
  rcases lt_trichotomy s t with hlt | rfl | hgt
  · exact hlt
  · exact absurd h (List.lt_irrefl _)
  · exact absurd h (List.lt_asymm (bytes_lt hgt))

theorem ascending_iff {texts : List String} : Ascending texts ↔ texts.Pairwise (· < ·) := by
  simp only [Ascending, bytes_lt_iff]

end CodeReview.Text
