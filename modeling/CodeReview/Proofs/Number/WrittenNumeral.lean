import CodeReview.Number.Floating
import CodeReview.Proofs.Json.Numeral
import Mathlib.Algebra.Order.Field.Power
import Mathlib.Algebra.Order.Ring.Unbundled.Rat
import Mathlib.Data.Rat.Cast.Order
import Mathlib.Tactic.Linarith
import Mathlib.Tactic.Positivity

/-!
# The numerals of numbers

`isNumeral_numeral?`: what is written for a number of a format is a numeral, whatever the number is.
In positional notation and with an exponent this holds for every decimal whose digits are not zero;
the decimal of digits zero may only be written for an exponent that is not positive, as `00` is no
numeral. It is never found for such an exponent (`shortest_exponent`): if zero is among the
magnitudes that are rounded to a number, that number is below one.
-/

set_option autoImplicit false

namespace CodeReview.Number

/-! ## Powers below a number -/

section
variable {x : Rat}

/-- A quotient is bounded by the bounds for its parts. -/
theorem zpow_sub_le_abs {b n m : Nat} (hb : 0 < b) (hn : b ^ n ≤ x.num.natAbs)
    (hm : x.den ≤ b ^ m) : (b : Rat) ^ ((n : Int) - m) ≤ |x| := by
  have hbase : (b : Rat) ≠ 0 := by exact_mod_cast hb.ne'
  have hnum : (b : Rat) ^ n ≤ (x.num.natAbs : Rat) := by exact_mod_cast hn
  have hden : (x.den : Rat) ≤ (b : Rat) ^ m := by exact_mod_cast hm
  have hpos : (0 : Rat) < x.den := by exact_mod_cast x.den_pos
  calc (b : Rat) ^ ((n : Int) - m) = (b : Rat) ^ n / (b : Rat) ^ m := by
        rw [zpow_sub₀ hbase, zpow_natCast, zpow_natCast]
    _ ≤ (x.num.natAbs : Rat) / x.den := by gcongr
    _ = |x| := by
        rw [Nat.cast_natAbs, Int.cast_abs, ← abs_of_pos hpos, ← abs_div, Rat.num_div_den]

theorem zpow_log2_le (hx : x ≠ 0) : (2 : Rat) ^ log2 x ≤ |x| := by
  rw [log2]
  split_ifs with h
  · exact h.trans (le_abs_self x)
  · have hnum : 2 ^ x.num.natAbs.log2 ≤ x.num.natAbs :=
      Nat.log2_self_le (Int.natAbs_ne_zero.2 (Rat.num_ne_zero.2 hx))
    have hden : x.den ≤ 2 ^ (x.den.log2 + 1) := Nat.lt_log2_self.le
    simpa [sub_sub] using zpow_sub_le_abs Nat.two_pos hnum hden

theorem length_nat_pos (n : Nat) : 0 < (toString n).length := by
  rw [← String.length_toList]
  exact List.length_pos_of_ne_nil (Json.isDigits_nat n).ne_nil

theorem lt_pow_length (n : Nat) : n < 10 ^ (toString n).length := by
  have h := length_nat_pos n
  rw [Nat.toString_eq_repr] at h ⊢
  exact (Nat.length_repr_le_iff h).1 le_rfl

theorem pow_length_le {n : Nat} (h : n ≠ 0) : 10 ^ ((toString n).length - 1) ≤ n := by
  rcases Nat.eq_zero_or_pos ((toString n).length - 1) with hl | hl
  · rw [hl]
    exact Nat.one_le_iff_ne_zero.2 h
  · rw [Nat.toString_eq_repr] at hl ⊢
    by_contra hlt
    have := (Nat.length_repr_le_iff hl).2 (Nat.lt_of_not_le hlt)
    omega

theorem zpow_log10_le (hx : x ≠ 0) : (10 : Rat) ^ log10 x ≤ |x| := by
  rw [log10]
  split_ifs with h
  · exact h.trans (le_abs_self x)
  · have hnum := pow_length_le (Int.natAbs_ne_zero.2 (Rat.num_ne_zero.2 hx))
    have hlen := length_nat_pos x.num.natAbs
    have := zpow_sub_le_abs (Nat.succ_pos 9) hnum (lt_pow_length x.den).le
    rwa [Nat.cast_sub hlen, Nat.cast_one, sub_right_comm] at this

/-- What is rounded to a number reaches at most half a unit below it, and half a unit above. -/
theorem interval_eq (f : Format) (x : Rat) : ∃ below ends, 0 ≤ below ∧
    below ≤ (2 : Rat) ^ f.unitExponent x / 2 ∧
    f.interval x = (x - below, x + (2 : Rat) ^ f.unitExponent x / 2, ends) := by
  have hunit : (0 : Rat) < (2 : Rat) ^ f.unitExponent x := by positivity
  refine ⟨_, _, ?_, ?_, rfl⟩ <;> split_ifs <;> linarith

theorem abs_le_half_unit (f : Format) (h : within (f.interval x) 0 = true) :
    |x| ≤ (2 : Rat) ^ f.unitExponent x / 2 := by
  obtain ⟨below, ends, hpos, hle, he⟩ := interval_eq f x
  simp only [he, within, Bool.or_eq_true, Bool.and_eq_true, decide_eq_true_eq, beq_iff_eq] at h
  rcases h with ⟨hlow, hhigh⟩ | ⟨-, hlow | hhigh⟩ <;> exact abs_le'.2 ⟨by linarith, by linarith⟩

/-- If zero is rounded to a number of a format whose smallest unit is not above one, the number has
no digits before the point. -/
theorem log10_neg_of_within {f : Format} (hd : 0 < f.digits) (hl : f.least ≤ 0) (hx : x ≠ 0)
    (h : within (f.interval x) 0 = true) : log10 x < 0 := by
  have hhalf := abs_le_half_unit f h
  have hlog := zpow_log2_le hx
  -- the unit is not the one for the size of the number, as that is at most the number
  have hunit : f.unitExponent x = f.least := by
    rcases max_choice f.least (log2 x - ((f.digits : Int) - 1)) with hu | hu
    · exact hu
    · have hle : (2 : Rat) ^ f.unitExponent x ≤ (2 : Rat) ^ log2 x :=
        zpow_le_zpow_right₀ one_le_two (by rw [Format.unitExponent, hu]; omega)
      have hpos : (0 : Rat) < (2 : Rat) ^ f.unitExponent x := by positivity
      linarith
  have hone : (2 : Rat) ^ f.least ≤ 1 := zpow_le_one_of_nonpos₀ one_le_two hl
  have hten : (10 : Rat) ^ log10 x < 1 := by
    have := zpow_log10_le hx
    rw [hunit] at hhalf
    linarith
  exact (zpow_lt_one_iff_right₀ (by norm_num)).1 hten

end

/-! ## Shortest decimals -/

section
variable {f : Format} {tie : Tie} {x : Rat}

/-- A decimal that is found has the exponent that is asked for and is within the bounds. -/
theorem neighbour?_eq_some {bounds : Rat × Rat × Bool} {exponent : Int} {d : Decimal}
    (h : neighbour? tie bounds x exponent = some d) :
    d.exponent = exponent ∧ within bounds d.value = true := by
  simp only [neighbour?] at h
  split at h
  case h_1 => cases h
  case h_2 hlow _ =>
    obtain rfl := Option.some.inj h
    exact ⟨rfl, hlow⟩
  case h_3 _ hhigh =>
    obtain rfl := Option.some.inj h
    exact ⟨rfl, hhigh⟩
  case h_4 hlow hhigh =>
    split_ifs at h <;> obtain rfl := Option.some.inj h
    exacts [⟨rfl, hlow⟩, ⟨rfl, hhigh⟩, ⟨rfl, hlow⟩, ⟨rfl, hhigh⟩]

theorem dropZeros_of_digits_eq_zero (n : Nat) (d : Decimal) (h : (d.dropZeros n).digits = 0) :
    d.dropZeros n = d := by
  induction n generalizing d with
  | zero => rfl
  | succ n ih =>
    rw [Decimal.dropZeros] at h ⊢
    split_ifs at h ⊢ with hd
    · have hten := congrArg Decimal.digits (ih _ h)
      rw [h] at hten
      have : d.digits / 10 = 0 := hten.symm
      omega
    · rfl

/-- The decimal of digits zero has no needless zeros. -/
theorem shortest_exponent (hd : 0 < f.digits) (hl : f.least ≤ 0) (hx : x ≠ 0)
    (h : (shortest f tie x).digits = 0) : (shortest f tie x).exponent ≤ 0 := by
  have hdrop := dropZeros_of_digits_eq_zero _ _ h
  rw [shortest] at h ⊢
  rw [hdrop] at h ⊢
  cases hfound : (List.range f.digits).findSome? fun (n : Nat) =>
      neighbour? tie (f.interval x) x (log10 x - n) with
  | none => rw [Option.getD_none]
  | some d =>
    rw [hfound, Option.getD_some] at h
    obtain ⟨n, -, hn⟩ := List.exists_of_findSome?_eq_some hfound
    obtain ⟨hexponent, hwithin⟩ := neighbour?_eq_some hn
    have hvalue : d.value = 0 := by rw [Decimal.value, h, Nat.cast_zero, zero_mul]
    have hlog := log10_neg_of_within hd hl hx (hvalue ▸ hwithin)
    rw [Option.getD_some, hexponent]
    omega

end

/-! ## Notations -/

open Json

/-- An unsigned number: whole digits, a fraction and an exponent. -/
def IsUnsigned (text : String) : Prop := ∃ whole fraction exponent, IsWhole whole ∧
  IsFraction fraction ∧ IsExponent exponent ∧ text.toList = whole ++ fraction ++ exponent

theorem IsUnsigned.isNumeral {text : String} (h : IsUnsigned text) (negative : Bool) :
    IsNumeral (Floating.minus negative ++ text).toList := by
  obtain ⟨whole, fraction, exponent, hw, hf, he, htext⟩ := h
  have hminus : (Floating.minus negative).toList = [] ∨ (Floating.minus negative).toList = ['-'] := by
    cases negative
    exacts [.inl rfl, .inr rfl]
  have := Json.isNumeral hminus hw hf he
  rwa [String.toList_append, htext, ← List.append_assoc, ← List.append_assoc]

theorem isUnsigned_of_fraction {text : String} {whole fraction : List Char} (hw : IsWhole whole)
    (hf : IsDigits fraction) (h : text.toList = whole ++ '.' :: fraction) : IsUnsigned text :=
  ⟨whole, '.' :: fraction, [], hw, .inr ⟨fraction, hf, rfl⟩, .inl rfl, by rw [h, List.append_nil]⟩

theorem isDigit_zeros (n : Nat) : ∀ c ∈ List.replicate n '0', c.isDigit = true := fun c hc => by
  rw [List.eq_of_mem_replicate hc]
  rfl

theorem isExponent_int (n : Int) : IsExponent ('e' :: (toString n).toList) := by
  rw [Int.toString_eq_repr]
  cases n with
  | ofNat n => exact .inr ⟨'e', [], _, .inl rfl, .inl rfl, isDigits_nat n, rfl⟩
  | negSucc n =>
    exact .inr ⟨'e', ['-'], _, .inl rfl, .inr (.inr rfl), isDigits_nat (n + 1),
      String.toList_append ▸ rfl⟩

section
variable {d : Decimal}

/-- A whole decimal, with a point and a zero. -/
theorem isUnsigned_whole (h : 0 ≤ d.exponent) (hz : d.digits = 0 → d.exponent ≤ 0) :
    IsUnsigned (Floating.positional d ++ ".0") := by
  have hdigits := isDigits_nat d.digits
  have hwhole : IsWhole ((toString d.digits).toList ++ List.replicate d.exponent.toNat '0') := by
    refine ⟨hdigits.append (isDigit_zeros _), fun hhead => ?_⟩
    rw [List.head?_append_of_ne_nil _ hdigits.ne_nil] at hhead
    rcases Nat.eq_zero_or_pos d.digits with hd | hd
    · have hexponent : d.exponent.toNat = 0 := by
        have := hz hd
        omega
      rw [hexponent, List.replicate_zero, List.append_nil]
      exact (isWhole_nat d.digits).zero hhead
    · exact absurd hhead (head?_nat_ne_zero hd)
  refine isUnsigned_of_fraction hwhole (isDigits_nat 0) ?_
  simp only [Floating.positional, if_pos h, Floating.zeros, String.toList_append,
    String.toList_ofList]
  rfl

/-- A decimal with a point among its digits or before them. -/
theorem isUnsigned_positional (h : d.exponent < 0) : IsUnsigned (Floating.positional d) := by
  have hdigits := isDigits_nat d.digits
  have hlen := String.length_toList (s := toString d.digits)
  simp only [Floating.positional, if_neg (not_le.2 h)]
  generalize hn : ((toString d.digits).length : Int) + d.exponent = point
  split_ifs with hpoint
  · have hfraction : IsDigits (List.replicate (-point).toNat '0' ++ (toString d.digits).toList) :=
      ⟨List.append_ne_nil_of_right_ne_nil _ hdigits.ne_nil,
        fun c hc => (List.mem_append.1 hc).elim (isDigit_zeros _ c) (hdigits.isDigit c)⟩
    refine isUnsigned_of_fraction (isWhole_nat 0) hfraction ?_
    simp only [Floating.zeros, String.toList_append, String.toList_ofList]
    rfl
  · have hwhole : IsWhole ((toString d.digits).toList.take point.toNat) := by
      refine ⟨⟨?_, fun c hc => hdigits.isDigit c (List.mem_of_mem_take hc)⟩, fun hhead => ?_⟩
      · rw [ne_eq, List.take_eq_nil_iff, not_or]
        exact ⟨by omega, hdigits.ne_nil⟩
      · -- a zero in front is the only digit, and then the point is not after it
        rw [List.head?_take, if_neg (by omega)] at hhead
        have hzero := congrArg List.length ((isWhole_nat d.digits).zero hhead)
        rw [List.length_singleton] at hzero
        omega
    have hfraction : IsDigits ((toString d.digits).toList.drop point.toNat) := by
      refine ⟨?_, fun c hc => hdigits.isDigit c (List.mem_of_mem_drop hc)⟩
      rw [ne_eq, List.drop_eq_nil_iff]
      omega
    refine isUnsigned_of_fraction hwhole hfraction ?_
    simp only [String.toList_append, String.toList_ofList, List.append_assoc]
    rfl

theorem isUnsigned_scientific (d : Decimal) : IsUnsigned (Floating.scientific d) := by
  have hdigits := isDigits_nat d.digits
  simp only [Floating.scientific]
  generalize (toString d.digits).toList = ds at hdigits ⊢
  obtain ⟨c, tail, rfl, hc⟩ := hdigits.exists_cons
  have hwhole : IsWhole [c] := ⟨⟨List.cons_ne_nil _ _, by simpa using hc⟩, fun h => by simpa using h⟩
  have hexponent := isExponent_int (d.exponent + ((c :: tail).length : Int) - 1)
  split_ifs with hlen
  · refine ⟨_, [], _, hwhole, .inl rfl, hexponent, ?_⟩
    simp only [String.toList_append, String.toList_ofList, List.append_assoc]
    rfl
  · have htail : IsDigits tail := by
      refine ⟨?_, fun c hc => hdigits.isDigit c (List.mem_cons_of_mem _ hc)⟩
      rintro rfl
      exact hlen le_rfl
    refine ⟨_, '.' :: tail, _, hwhole, .inr ⟨tail, htail, rfl⟩, hexponent, ?_⟩
    simp only [String.toList_append, String.toList_ofList, List.append_assoc]
    rfl

end

/-- What is written for a number is a numeral. -/
theorem isNumeral_numeral? {f : Format} (hd : 0 < f.digits) (hl : f.least ≤ 0) {t : Floating}
    {text : String} (h : t.numeral? f = some text) : IsNumeral text.toList := by
  cases t with
  | nan => cases h
  | infinite negative => cases h
  | finite negative x =>
    simp only [Floating.numeral?] at h
    split_ifs at h with hx hsize hwhole <;> obtain rfl := Option.some.inj h
    · have hpoint : IsFraction ['.', '0'] := .inr ⟨['0'], isDigits_nat 0, rfl⟩
      have hunsigned : IsUnsigned "0.0" :=
        ⟨['0'], ['.', '0'], [], isWhole_nat 0, hpoint, .inl rfl, rfl⟩
      exact hunsigned.isNumeral negative
    · exact (isUnsigned_scientific _).isNumeral negative
    · exact (isUnsigned_whole hwhole (shortest_exponent hd hl hx)).isNumeral negative
    · exact (isUnsigned_positional (not_le.1 hwhole)).isNumeral negative

end CodeReview.Number
