import CodeReview.Json.Parser
import Mathlib.Data.List.TakeDrop

/-!
# Numerals

`isNumeral`: a text made of an optional minus, whole digits without a needless zero in front, an
optional fraction and an optional exponent is read as a number up to its end, whatever follows, if
only that does not go on with the number. Each part is read by its own reader, which stops where the
next part starts: after digits there must come no digit, after a fraction also no point.
-/

set_option autoImplicit false

namespace CodeReview.Json

/-! ## What follows -/

/-- What follows does not go on with a number. -/
def EndsNumber (rest : List Char) : Prop :=
  ∀ c ∈ rest.head?, c.isDigit = false ∧ c ≠ '.' ∧ c ≠ 'e' ∧ c ≠ 'E'

/-- What follows does not go on with a fraction. -/
def EndsFraction (rest : List Char) : Prop := ∀ c ∈ rest.head?, c.isDigit = false ∧ c ≠ '.'

/-- What follows does not go on with digits. -/
def EndsDigits (rest : List Char) : Prop := ∀ c ∈ rest.head?, c.isDigit = false

theorem endsNumber_nil : EndsNumber [] := fun _ h => by cases h

theorem endsNumber_cons {c : Char} (rest : List Char) (hd : c.isDigit = false) (hp : c ≠ '.')
    (he : c ≠ 'e') (hE : c ≠ 'E') : EndsNumber (c :: rest) := fun d h => by
  obtain rfl : c = d := by simpa using h
  exact ⟨hd, hp, he, hE⟩

theorem EndsNumber.fraction {rest : List Char} (h : EndsNumber rest) : EndsFraction rest :=
  fun c hc => ⟨(h c hc).1, (h c hc).2.1⟩

theorem EndsFraction.digits {rest : List Char} (h : EndsFraction rest) : EndsDigits rest :=
  fun c hc => (h c hc).1

theorem EndsDigits.cons {c : Char} (rest : List Char) (h : c.isDigit = false) :
    EndsDigits (c :: rest) := fun d hd => by
  obtain rfl : c = d := by simpa using hd
  exact h

/-! ## Parts of a numeral -/

/-- At least one digit, and digits only. -/
structure IsDigits (ds : List Char) : Prop where
  ne_nil : ds ≠ []
  isDigit : ∀ c ∈ ds, c.isDigit = true

/-- Digits without a needless zero in front. -/
structure IsWhole (ds : List Char) : Prop extends IsDigits ds where
  zero : ds.head? = some '0' → ds = ['0']

/-- Nothing, or a point with digits after it. -/
def IsFraction (cs : List Char) : Prop := cs = [] ∨ ∃ ds, IsDigits ds ∧ cs = '.' :: ds

/-- Nothing, or a letter with digits after it, with or without a sign between them. -/
def IsExponent (cs : List Char) : Prop :=
  cs = [] ∨ ∃ mark sign ds, (mark = 'e' ∨ mark = 'E') ∧
    (sign = [] ∨ sign = ['+'] ∨ sign = ['-']) ∧ IsDigits ds ∧ cs = mark :: (sign ++ ds)

theorem IsDigits.exists_cons {ds : List Char} (h : IsDigits ds) :
    ∃ d tail, ds = d :: tail ∧ d.isDigit = true := by
  obtain ⟨d, tail, rfl⟩ := List.exists_cons_of_ne_nil h.ne_nil
  exact ⟨d, tail, rfl, h.isDigit d List.mem_cons_self⟩

theorem IsDigits.append {ds es : List Char} (h : IsDigits ds) (he : ∀ c ∈ es, c.isDigit = true) :
    IsDigits (ds ++ es) where
  ne_nil := List.append_ne_nil_of_left_ne_nil h.ne_nil es
  isDigit c hc := (List.mem_append.1 hc).elim (h.isDigit c) (he c)

theorem IsExponent.endsFraction {cs rest : List Char} (h : IsExponent cs)
    (hrest : EndsNumber rest) : EndsFraction (cs ++ rest) := by
  rcases h with rfl | ⟨mark, sign, ds, hmark, -, -, rfl⟩
  · exact hrest.fraction
  · intro c hc
    obtain rfl : mark = c := by simpa using hc
    rcases hmark with rfl | rfl <;> exact ⟨rfl, by decide⟩

theorem IsFraction.endsDigits {cs rest : List Char} (h : IsFraction cs)
    (hrest : EndsFraction rest) : EndsDigits (cs ++ rest) := by
  rcases h with rfl | ⟨ds, -, rfl⟩
  · exact hrest.digits
  · exact .cons _ rfl

/-! ## Readers -/

section
variable {rest : List Char}

theorem readDigits_append {ds : List Char} (hd : IsDigits ds) (h : EndsDigits rest) :
    readDigits (ds ++ rest) = some (ds, rest) := by
  have hrest : rest.takeWhile Char.isDigit = [] ∧ rest.dropWhile Char.isDigit = rest := by
    cases rest with
    | nil => exact ⟨rfl, rfl⟩
    | cons c rest => simp [h c rfl]
  have hspan : (ds ++ rest).span Char.isDigit = (ds, rest) := by
    rw [List.span_eq_takeWhile_dropWhile, List.takeWhile_append_of_pos hd.isDigit,
      List.dropWhile_append_of_pos hd.isDigit, hrest.1, hrest.2, List.append_nil]
  rw [readDigits, hspan]
  cases ds with
  | nil => exact absurd rfl hd.ne_nil
  | cons d ds => rfl

theorem readWhole_append {ds : List Char} (hd : IsWhole ds) (h : EndsDigits rest) :
    readWhole (ds ++ rest) = some (ds, rest) := by
  by_cases hz : ds.head? = some '0'
  · rw [hd.zero hz, List.singleton_append, readWhole, if_neg]
    cases rest with
    | nil => exact Bool.false_ne_true
    | cons c rest => simp [h c rfl]
  · rw [readWhole, readDigits_append hd.toIsDigits h]
    intro tail he
    cases ds with
    | nil => exact hd.ne_nil rfl
    | cons d ds =>
      cases he
      exact hz rfl

theorem readFraction_append {cs : List Char} (hc : IsFraction cs) (h : EndsFraction rest) :
    readFraction (cs ++ rest) = some (cs, rest) := by
  rcases hc with rfl | ⟨ds, hd, rfl⟩
  · rw [List.nil_append]
    cases rest with
    | nil => rfl
    | cons c rest =>
      rw [readFraction]
      intro _ he
      cases he
      exact (h '.' rfl).2 rfl
  · rw [List.cons_append, readFraction, readDigits_append hd h.digits]
    rfl

theorem readSign_append {sign ds : List Char} (hs : sign = [] ∨ sign = ['+'] ∨ sign = ['-'])
    (hd : IsDigits ds) : readSign (sign ++ (ds ++ rest)) = (sign, ds ++ rest) := by
  rcases hs with rfl | rfl | rfl
  · obtain ⟨d, tail, rfl, hdigit⟩ := hd.exists_cons
    rw [List.nil_append, List.cons_append, readSign]
    all_goals
      intro _ he
      cases he
      cases hdigit
  · rfl
  · rfl

theorem readExponent_append {cs : List Char} (hc : IsExponent cs) (h : EndsNumber rest) :
    readExponent (cs ++ rest) = some (cs, rest) := by
  rcases hc with rfl | ⟨mark, sign, ds, hmark, hs, hd, rfl⟩
  · cases rest with
    | nil => rfl
    | cons c rest =>
      obtain ⟨-, -, he, hE⟩ := h c rfl
      rw [List.nil_append, readExponent, if_neg (by simp [he, hE])]
  · rw [List.cons_append, List.append_assoc, readExponent, if_pos hmark]
    simp only [readSign_append hs hd, readDigits_append hd h.fraction.digits, Option.map_some,
      List.cons_append]

theorem readMinus_digit {ds : List Char} (h : IsDigits ds) :
    readMinus (ds ++ rest) = ([], ds ++ rest) := by
  obtain ⟨d, tail, rfl, hdigit⟩ := h.exists_cons
  rw [List.cons_append, readMinus]
  intro _ he
  cases he
  cases hdigit

end

/-! ## Numerals -/

/-- A text that is read as a number, up to its end. -/
structure IsNumeral (cs : List Char) : Prop where
  start : ∃ c tail, cs = c :: tail ∧ (c = '-' ∨ c.isDigit = true)
  read : ∀ rest, EndsNumber rest → readNumber (cs ++ rest) = some (cs, rest)

theorem isNumeral {minus whole fraction exponent : List Char} (hm : minus = [] ∨ minus = ['-'])
    (hw : IsWhole whole) (hf : IsFraction fraction) (he : IsExponent exponent) :
    IsNumeral (minus ++ whole ++ fraction ++ exponent) := by
  refine ⟨?_, fun rest hrest => ?_⟩
  · obtain ⟨d, tail, rfl, hdigit⟩ := hw.exists_cons
    rcases hm with rfl | rfl
    · exact ⟨d, tail ++ fraction ++ exponent, by simp, .inr hdigit⟩
    · exact ⟨'-', d :: tail ++ fraction ++ exponent, by simp, .inl rfl⟩
  · have hexponent := he.endsFraction hrest
    have hminus : readMinus (minus ++ (whole ++ (fraction ++ (exponent ++ rest)))) =
        (minus, whole ++ (fraction ++ (exponent ++ rest))) := by
      rcases hm with rfl | rfl
      · rw [List.nil_append]
        exact readMinus_digit hw.toIsDigits
      · rfl
    simp only [List.append_assoc]
    rw [readNumber, hminus]
    simp only [readWhole_append hw (hf.endsDigits hexponent), readFraction_append hf hexponent,
      readExponent_append he hrest, Option.bind_eq_bind, Option.bind_some, List.append_assoc,
      Option.pure_def]

/-! ## Natural numbers -/

theorem head?_toDigits_ne_zero (n : Nat) (h : 0 < n) : (Nat.toDigits 10 n).head? ≠ some '0' := by
  induction n using Nat.strongRecOn with
  | ind n ih =>
    by_cases hn : n < 10
    · rw [Nat.toDigits_of_lt_base hn]
      simp only [List.head?_cons, ne_eq, Option.some.injEq, Nat.digitChar_eq_zero]
      omega
    · have hhead := ih (n / 10) (by omega) (by omega)
      rw [Nat.toDigits_of_base_le (by decide) (by omega), List.head?_append]
      cases hd : Nat.toDigits 10 (n / 10) with
      | nil => exact absurd hd Nat.toDigits_ne_nil
      | cons d ds => rwa [hd] at hhead

theorem isDigits_nat (n : Nat) : IsDigits (toString n).toList := by
  rw [Nat.toString_eq_ofList_toDigits, String.toList_ofList]
  exact ⟨Nat.toDigits_ne_nil, fun c hc => Nat.isDigit_of_mem_toDigits (by decide) (by decide) hc⟩

theorem head?_nat_ne_zero {n : Nat} (h : 0 < n) : (toString n).toList.head? ≠ some '0' := by
  rw [Nat.toString_eq_ofList_toDigits, String.toList_ofList]
  exact head?_toDigits_ne_zero n h

theorem isWhole_nat (n : Nat) : IsWhole (toString n).toList := by
  refine ⟨isDigits_nat n, fun hz => ?_⟩
  rcases Nat.eq_zero_or_pos n with rfl | hn
  · rfl
  · exact absurd hz (head?_nat_ne_zero hn)

/-- A number and what follows it are known from the text of both. -/
theorem nat_append_inj {m n : Nat} {s t : List Char} (hs : EndsDigits s) (ht : EndsDigits t)
    (h : (toString m).toList ++ s = (toString n).toList ++ t) : m = n ∧ s = t := by
  have hread := readDigits_append (isDigits_nat m) hs
  rw [h, readDigits_append (isDigits_nat n) ht, Option.some.injEq, Prod.mk.injEq] at hread
  obtain ⟨hdigits, rfl⟩ := hread
  rw [Nat.toString_eq_ofList_toDigits, Nat.toString_eq_ofList_toDigits, String.toList_ofList,
    String.toList_ofList] at hdigits
  have hvalue := congrArg (fun ds => Nat.ofDigitChars 10 ds 0) hdigits
  exact ⟨by simpa using hvalue.symm, rfl⟩

theorem isNumeral_nat (n : Nat) : IsNumeral (toString n).toList := by
  have h := isNumeral (.inl rfl) (isWhole_nat n) (.inl rfl) (.inl rfl)
  rwa [List.nil_append, List.append_nil, List.append_nil] at h

/-! ## What is read as a number -/

/-- The text of a number: a minus or none, whole digits, a fraction or none, an exponent or none. -/
def IsNumber (cs : List Char) : Prop :=
  ∃ minus whole fraction exponent, (minus = [] ∨ minus = ['-']) ∧ IsWhole whole ∧
    IsFraction fraction ∧ IsExponent exponent ∧ cs = minus ++ whole ++ fraction ++ exponent

section
variable {cs ds rest : List Char}

theorem isDigits_of_readDigits (h : readDigits cs = some (ds, rest)) :
    IsDigits ds ∧ ds = cs.takeWhile Char.isDigit := by
  have hall : ∀ c ∈ cs.takeWhile Char.isDigit, c.isDigit = true :=
    List.all_eq_true.1 List.all_takeWhile
  rw [readDigits, List.span_eq_takeWhile_dropWhile] at h
  cases htake : cs.takeWhile Char.isDigit with
  | nil =>
    rw [htake] at h
    cases h
  | cons d tail =>
    rw [htake] at h hall
    obtain ⟨rfl, -⟩ := Prod.mk.inj (Option.some.inj h)
    exact ⟨⟨List.cons_ne_nil d tail, hall⟩, rfl⟩

theorem isWhole_of_readWhole (h : readWhole cs = some (ds, rest)) : IsWhole ds := by
  rw [readWhole.eq_def] at h
  split at h
  · split at h
    · cases h
    · obtain ⟨rfl, -⟩ := Prod.mk.inj (Option.some.inj h)
      exact isWhole_nat 0
  · rename_i hne
    obtain ⟨hdigits, hds⟩ := isDigits_of_readDigits h
    refine ⟨hdigits, fun hzero => ?_⟩
    cases cs with
    | nil => exact absurd hds hdigits.ne_nil
    | cons c tail =>
      -- the first digit is the first character, which is no zero
      by_cases hc : c.isDigit = true
      · rw [hds, List.takeWhile_cons_of_pos hc] at hzero
        obtain rfl := Option.some.inj hzero
        exact (hne tail rfl).elim
      · rw [hds, List.takeWhile_cons_of_neg hc] at hzero
        cases hzero

theorem isFraction_of_readFraction (h : readFraction cs = some (ds, rest)) : IsFraction ds := by
  rw [readFraction.eq_def] at h
  split at h
  · obtain ⟨⟨digits, more⟩, hread, heq⟩ := Option.map_eq_some_iff.1 h
    obtain ⟨rfl, -⟩ := Prod.mk.inj heq
    exact .inr ⟨digits, (isDigits_of_readDigits hread).1, rfl⟩
  · obtain ⟨rfl, -⟩ := Prod.mk.inj (Option.some.inj h)
    exact .inl rfl

theorem readSign_cases (cs : List Char) :
    (readSign cs).1 = [] ∨ (readSign cs).1 = ['+'] ∨ (readSign cs).1 = ['-'] := by
  rw [readSign.eq_def]
  split <;> simp

theorem isExponent_of_readExponent (h : readExponent cs = some (ds, rest)) : IsExponent ds := by
  rw [readExponent.eq_def] at h
  split at h
  · split at h
    · rename_i mark more hmark
      obtain ⟨⟨digits, last⟩, hread, heq⟩ := Option.map_eq_some_iff.1 h
      obtain ⟨rfl, -⟩ := Prod.mk.inj heq
      exact .inr
        ⟨mark, _, digits, hmark, readSign_cases more, (isDigits_of_readDigits hread).1, rfl⟩
    · obtain ⟨rfl, -⟩ := Prod.mk.inj (Option.some.inj h)
      exact .inl rfl
  · obtain ⟨rfl, -⟩ := Prod.mk.inj (Option.some.inj h)
    exact .inl rfl

/-- Only the text of a number is read as one. -/
theorem isNumber_of_readNumber (h : readNumber cs = some (ds, rest)) : IsNumber ds := by
  simp only [readNumber, Option.bind_eq_bind, Option.bind_eq_some_iff, Option.pure_def,
    Option.some.injEq, Prod.mk.injEq] at h
  obtain ⟨⟨whole, _⟩, hwhole, ⟨fraction, _⟩, hfraction, ⟨exponent, _⟩, hexponent, rfl, -⟩ := h
  refine ⟨_, whole, fraction, exponent, ?_, isWhole_of_readWhole hwhole,
    isFraction_of_readFraction hfraction, isExponent_of_readExponent hexponent, rfl⟩
  rw [readMinus.eq_def]
  split <;> simp

end

theorem isNumeral_iff {cs : List Char} : IsNumeral cs ↔ IsNumber cs := by
  constructor
  · intro h
    have hread := h.read [] endsNumber_nil
    rw [List.append_nil] at hread
    exact isNumber_of_readNumber hread
  · rintro ⟨minus, whole, fraction, exponent, hminus, hwhole, hfraction, hexponent, rfl⟩
    exact isNumeral hminus hwhole hfraction hexponent

end CodeReview.Json
