import CodeReview.Json.Parser
import CodeReview.Text.Hex
import Mathlib.Tactic.SplitIfs

/-!
# Spelled strings

Between its quotes a string is a list of pieces (`Piece`): characters as they are, letters after a
backslash, and numbers of four digits, which are its units of sixteen binary digits. Pieces stand
for the text that has the same units (`Stands`); a number that is half of a pair, without the other
half, stands in no text. `readString_pieces`: the reader gives the text that the pieces stand for,
or none if they stand for none.
-/

set_option autoImplicit false

namespace CodeReview.Json

open Text

/-! ## Pieces -/

/-- Letters after a backslash with the characters that they stand for. -/
def escapes : List (Char × Char) :=
  [('"', '"'), ('\\', '\\'), ('/', '/'), ('b', '\x08'), ('f', '\x0c'), ('n', '\n'), ('r', '\r'),
    ('t', '\t')]

/-- A hexadecimal digit, in either case, with its value. -/
def IsHexDigit (c : Char) (n : Nat) : Prop :=
  n < 16 ∧ (c = hexDigit n ∨ c = (hexDigit n).toUpper)

/-- Four hexadecimal digits with their value. -/
def IsCode (a b c d : Char) (n : Nat) : Prop :=
  ∃ i j k l, IsHexDigit a i ∧ IsHexDigit b j ∧ IsHexDigit c k ∧ IsHexDigit d l ∧
    n = ((i * 16 + j) * 16 + k) * 16 + l

/-- A piece of a string: a character as it is, one that a letter after a backslash stands for, or
the digits of a unit. -/
inductive Piece
  | plain (c : Char) (h : c ≠ '"' ∧ c ≠ '\\' ∧ 32 ≤ c.toNat)
  | escape (letter c : Char) (h : (letter, c) ∈ escapes)
  | code (a b c d : Char) (n : Nat) (h : IsCode a b c d n)

/-- A piece as it is written. -/
def Piece.chars : Piece → List Char
  | plain c _ => [c]
  | escape letter _ _ => ['\\', letter]
  | code a b c d _ _ => ['\\', 'u', a, b, c, d]

/-- A string as it is written. -/
def quotes (pieces : List Piece) : List Char := '"' :: (pieces.flatMap Piece.chars ++ ['"'])

/-! ## Units -/

/-- The units of a character: its number, or a pair if that has more than sixteen binary digits. -/
def units (c : Char) : List Nat :=
  if c.toNat < 0x10000 then [c.toNat]
  else [0xD800 + (c.toNat - 0x10000) / 0x400, 0xDC00 + (c.toNat - 0x10000) % 0x400]

/-- The units that a piece gives. -/
def Piece.units : Piece → List Nat
  | plain c _ => Json.units c
  | escape _ c _ => Json.units c
  | code _ _ _ _ n _ => [n]

/-- Pieces stand for the text with their units. -/
def Stands (pieces : List Piece) (text : String) : Prop :=
  pieces.flatMap Piece.units = text.toList.flatMap Json.units

theorem isHigh_iff {n : Nat} : isHigh n ↔ 0xD800 ≤ n ∧ n ≤ 0xDBFF := by simp [isHigh]

theorem isLow_iff {n : Nat} : isLow n ↔ 0xDC00 ≤ n ∧ n ≤ 0xDFFF := by simp [isLow]

/-- A character has one unit, which is no half of a pair, or the two halves of a pair. -/
theorem units_cases (c : Char) :
    (units c = [c.toNat] ∧ c.toNat < 0x10000 ∧ isHigh c.toNat = false ∧ isLow c.toNat = false) ∨
      ∃ n m, units c = [n, m] ∧ isHigh n ∧ isLow m ∧
        c.toNat = 0x10000 + (n - 0xD800) * 0x400 + (m - 0xDC00) := by
  have hvalid : c.toNat < 0xD800 ∨ 0xDFFF < c.toNat ∧ c.toNat < 0x110000 := c.valid
  rw [units]
  split_ifs with h
  · refine .inl ⟨rfl, h, ?_, ?_⟩
    · rw [← Bool.not_eq_true, isHigh_iff]
      omega
    · rw [← Bool.not_eq_true, isLow_iff]
      omega
  · refine .inr ⟨_, _, rfl, ?_, ?_, ?_⟩
    · rw [isHigh_iff]
      omega
    · rw [isLow_iff]
      omega
    · omega

theorem not_high_and_low {n : Nat} (hh : isHigh n) (hl : isLow n) : False := by
  rw [isHigh_iff] at hh
  rw [isLow_iff] at hl
  omega

theorem char_eq_of_toNat {c d : Char} (h : c.toNat = d.toNat) : c = d := by
  rw [← Char.ofNat_toNat c, h, Char.ofNat_toNat]

theorem toNat_ofNat {n : Nat} (h : n.isValidChar) : (Char.ofNat n).toNat = n := by
  rw [Char.ofNat, dif_pos h]
  rfl

/-- The first character of a text is known from the units of the text. -/
theorem units_append_inj {c d : Char} {us vs : List Nat} (h : units c ++ us = units d ++ vs) :
    c = d ∧ us = vs := by
  rcases units_cases c with ⟨hc, -, hhigh, -⟩ | ⟨n, m, hc, hn, hm, hvalue⟩
  all_goals rcases units_cases d with ⟨hd, -, hhigh', -⟩ | ⟨n', m', hd, hn', hm', hvalue'⟩
  all_goals rw [hc, hd] at h
  all_goals simp only [List.cons_append, List.nil_append, List.cons.injEq] at h
  · exact ⟨char_eq_of_toNat h.1, h.2⟩
  · rw [h.1, hn'] at hhigh
    cases hhigh
  · rw [← h.1, hn] at hhigh'
    cases hhigh'
  · exact ⟨char_eq_of_toNat (by rw [hvalue, hvalue', h.1, h.2.1]), h.2.2⟩

/-- What a list of units is the list of: a text, or none. -/
def Decodes (us : List Nat) (o : Option (List Char)) : Prop :=
  ∀ cs, o = some cs ↔ us = cs.flatMap units

namespace Decodes

theorem nil : Decodes [] (some []) := by
  intro cs
  cases cs with
  | nil => simp
  | cons c cs =>
    have hne : units c ≠ [] := by
      rcases units_cases c with ⟨hc, -⟩ | ⟨n, m, hc, -⟩ <;> simp [hc]
    simp [hne]

variable {us : List Nat} {o : Option (List Char)}

theorem cons (h : Decodes us o) (c : Char) : Decodes (units c ++ us) (o.map (c :: ·)) := by
  intro cs
  constructor
  · intro hcs
    obtain ⟨ds, hds, rfl⟩ := Option.map_eq_some_iff.1 hcs
    rw [List.flatMap_cons, (h ds).1 hds]
  · intro hcs
    cases cs with
    | nil =>
      rcases units_cases c with ⟨hc, -⟩ | ⟨n, m, hc, -⟩ <;> simp [hc] at hcs
    | cons d ds =>
      obtain ⟨rfl, hrest⟩ := units_append_inj hcs
      rw [(h ds).2 hrest]
      rfl

/-- A unit that is no half of a pair is a character of its own. -/
theorem cons_unit (h : Decodes us o) {n : Nat} (hn : n < 0x10000) (hhigh : isHigh n = false)
    (hlow : isLow n = false) : Decodes (n :: us) (o.map (Char.ofNat n :: ·)) := by
  have hvalid : n.isValidChar := by
    rw [← Bool.not_eq_true, isHigh_iff] at hhigh
    rw [← Bool.not_eq_true, isLow_iff] at hlow
    rw [Nat.isValidChar]
    omega
  have hunits : units (Char.ofNat n) = [n] := by
    rw [units, toNat_ofNat hvalid, if_pos hn]
  rw [← List.singleton_append, ← hunits]
  exact h.cons (Char.ofNat n)

theorem cons_pair (h : Decodes us o) {n m : Nat} (hn : isHigh n) (hm : isLow m) :
    Decodes (n :: m :: us) (o.map (pairChar n m :: ·)) := by
  rw [isHigh_iff] at hn
  rw [isLow_iff] at hm
  have hvalid : (0x10000 + (n - 0xD800) * 0x400 + (m - 0xDC00)).isValidChar := by
    rw [Nat.isValidChar]
    omega
  have hunits : units (pairChar n m) = [n, m] := by
    rw [units, pairChar, toNat_ofNat hvalid, if_neg (by omega), List.cons.injEq, List.cons.injEq]
    exact ⟨by omega, by omega, rfl⟩
  have happend : n :: m :: us = units (pairChar n m) ++ us := by rw [hunits]; rfl
  rw [happend]
  exact h.cons (pairChar n m)

/-- A second half of a pair stands in no text without the first. -/
theorem low {n : Nat} (hn : isLow n) : Decodes (n :: us) none := by
  intro cs
  simp only [reduceCtorEq, false_iff]
  intro h
  cases cs with
  | nil => cases h
  | cons c cs =>
    rw [List.flatMap_cons] at h
    rcases units_cases c with ⟨hc, -, -, hlow⟩ | ⟨n', m', hc, hn', -⟩
    · rw [hc] at h
      rw [← (List.cons.inj h).1, hn] at hlow
      cases hlow
    · rw [hc] at h
      exact not_high_and_low ((List.cons.inj h).1 ▸ hn') hn

/-- A first half of a pair stands in no text without the second. -/
theorem high {n : Nat} (hn : isHigh n) (hus : ∀ m ∈ us.head?, isLow m = false) :
    Decodes (n :: us) none := by
  intro cs
  simp only [reduceCtorEq, false_iff]
  intro h
  cases cs with
  | nil => cases h
  | cons c cs =>
    rw [List.flatMap_cons] at h
    rcases units_cases c with ⟨hc, -, hhigh, -⟩ | ⟨n', m', hc, -, hm', -⟩
    · rw [hc] at h
      rw [← (List.cons.inj h).1, hn] at hhigh
      cases hhigh
    · rw [hc] at h
      have hus' : us = m' :: cs.flatMap units := (List.cons.inj h).2
      have hlow := hus m' (by rw [hus']; rfl)
      rw [hm'] at hlow
      cases hlow

end Decodes

/-! ## Reading -/

theorem hexValue?_of_isHexDigit {c : Char} {n : Nat} (h : IsHexDigit c n) :
    hexValue? c = some n := by
  have hall : ∀ n < 16, hexValue? (hexDigit n) = some n ∧
      hexValue? (hexDigit n).toUpper = some n := by decide
  obtain ⟨hn, rfl | rfl⟩ := h
  · exact (hall n hn).1
  · exact (hall n hn).2

theorem readHex_of_isCode {a b c d : Char} {n : Nat} (h : IsCode a b c d n) (rest : List Char) :
    readHex (a :: b :: c :: d :: rest) = some (n, rest) := by
  obtain ⟨i, j, k, l, ha, hb, hc, hd, rfl⟩ := h
  simp only [readHex, hexValue?_of_isHexDigit ha, hexValue?_of_isHexDigit hb,
    hexValue?_of_isHexDigit hc, hexValue?_of_isHexDigit hd, Option.bind_eq_bind, Option.bind_some,
    Option.pure_def]

theorem lt_of_isCode {a b c d : Char} {n : Nat} (h : IsCode a b c d n) : n < 0x10000 := by
  obtain ⟨i, j, k, l, ⟨hi, -⟩, ⟨hj, -⟩, ⟨hk, -⟩, ⟨hl, -⟩, rfl⟩ := h
  omega

/-- What is read after the first half of a pair: the second half, or anything else. -/
def readAfterHigh (fuel : Nat) (sofar : Option (List Char)) (n : Nat) (cs : List Char) :
    Option (Option (List Char) × List Char) :=
  match cs with
  | '\\' :: 'u' :: rest =>
    (readHex rest).bind fun (m, rest') =>
      if isLow m then readChars fuel (sofar.map (pairChar n m :: ·)) rest'
      else readChars fuel none cs
  | _ => readChars fuel none cs

section
variable (fuel : Nat) (sofar : Option (List Char)) {c : Char} (rest : List Char)

theorem readChars_quote :
    readChars (fuel + 1) sofar ('"' :: rest) = some (sofar.map List.reverse, rest) := rfl

theorem readChars_plain (hq : c ≠ '"') (hb : c ≠ '\\') (hc : 32 ≤ c.toNat) :
    readChars (fuel + 1) sofar (c :: rest) = readChars fuel (sofar.map (c :: ·)) rest := by
  rw [readChars]
  · rw [if_neg (by simp only [hb, false_or]; omega)]
  · exact hq
  · exact fun _ h _ => hb h
  · exact fun _ _ h _ => hb h

theorem readChars_escape {letter : Char} (h : (letter, c) ∈ escapes) :
    readChars (fuel + 1) sofar ('\\' :: letter :: rest) =
      readChars fuel (sofar.map (c :: ·)) rest := by
  simp only [escapes, List.mem_cons, Prod.mk.injEq, List.not_mem_nil, or_false] at h
  rcases h with ⟨rfl, rfl⟩ | ⟨rfl, rfl⟩ | ⟨rfl, rfl⟩ | ⟨rfl, rfl⟩ | ⟨rfl, rfl⟩ | ⟨rfl, rfl⟩ |
    ⟨rfl, rfl⟩ | ⟨rfl, rfl⟩ <;> rfl

theorem readChars_code {a b c d : Char} {n : Nat} (hn : IsCode a b c d n) :
    readChars (fuel + 1) sofar ('\\' :: 'u' :: a :: b :: c :: d :: rest) =
      if isHigh n then readAfterHigh fuel sofar n rest
      else if isLow n then readChars fuel none rest
      else readChars fuel (sofar.map (Char.ofNat n :: ·)) rest := by
  have hstep : readChars (fuel + 1) sofar ('\\' :: 'u' :: a :: b :: c :: d :: rest) =
      (readHex (a :: b :: c :: d :: rest)).bind fun (n, rest) =>
        if isHigh n then readAfterHigh fuel sofar n rest
        else if isLow n then readChars fuel none rest
        else readChars fuel (sofar.map (Char.ofNat n :: ·)) rest := rfl
  rw [hstep, readHex_of_isCode hn, Option.bind_some]

theorem readAfterHigh_of_not_low (n : Nat) {cs : List Char}
    (h : ∀ digits, cs = '\\' :: 'u' :: digits →
      ∃ m more, readHex digits = some (m, more) ∧ isLow m = false) :
    readAfterHigh fuel sofar n cs = readChars fuel none cs := by
  rw [readAfterHigh.eq_def]
  split
  · obtain ⟨m, more, hread, hlow⟩ := h _ rfl
    simp [hread, hlow]
  · rfl

end

/-- The reader of the rest of a string gives what the pieces up to the quote stand for, after what
it holds already. -/
def Read (pieces : List Piece) (o : Option (List Char)) : Prop :=
  Decodes (pieces.flatMap Piece.units) o ∧
    ∀ fuel sofar rest, pieces.length < fuel →
      readChars fuel sofar (pieces.flatMap Piece.chars ++ '"' :: rest) =
        some (sofar.bind fun cs => o.map (cs.reverse ++ ·), rest)

namespace Read

variable {ps : List Piece} {o : Option (List Char)}

theorem nil : Read [] (some []) := by
  refine ⟨.nil, fun fuel sofar rest hf => ?_⟩
  obtain ⟨fuel, rfl⟩ : ∃ n, fuel = n + 1 := ⟨fuel - 1, by omega⟩
  cases sofar <;> simp [readChars_quote]

/-- Pieces after others are read like those alone if the first step of the reader says so. -/
theorem of_step (h : Read ps o) (first : List Piece) {o' : Option (List Char)}
    (hold : Option (List Char) → Option (List Char)) (hfirst : 0 < first.length)
    (hdecodes : Decodes ((first ++ ps).flatMap Piece.units) o')
    (hold_eq : ∀ sofar, ((hold sofar).bind fun cs => o.map (cs.reverse ++ ·)) =
      sofar.bind fun cs => o'.map (cs.reverse ++ ·))
    (hstep : ∀ fuel sofar rest,
      readChars (fuel + 1) sofar ((first ++ ps).flatMap Piece.chars ++ '"' :: rest) =
        readChars fuel (hold sofar) (ps.flatMap Piece.chars ++ '"' :: rest)) :
    Read (first ++ ps) o' := by
  refine ⟨hdecodes, fun fuel sofar rest hf => ?_⟩
  rw [List.length_append] at hf
  obtain ⟨fuel, rfl⟩ : ∃ n, fuel = n + 1 := ⟨fuel - 1, by omega⟩
  rw [hstep, h.2 fuel _ rest (by omega), hold_eq]

/-- A piece or two that stand for a character. -/
theorem char (h : Read ps o) (first : List Piece) {c : Char} (hfirst : 0 < first.length)
    (hdecodes : Decodes ((first ++ ps).flatMap Piece.units) (o.map (c :: ·)))
    (hstep : ∀ fuel sofar rest,
      readChars (fuel + 1) sofar ((first ++ ps).flatMap Piece.chars ++ '"' :: rest) =
        readChars fuel (sofar.map (c :: ·)) (ps.flatMap Piece.chars ++ '"' :: rest)) :
    Read (first ++ ps) (o.map (c :: ·)) :=
  h.of_step first (·.map (c :: ·)) hfirst hdecodes
    (fun sofar => by cases sofar <;> cases o <;> simp) hstep

/-- A piece that makes the whole stand for no text. -/
theorem lost (h : Read ps o) {first : Piece}
    (hdecodes : Decodes ((first :: ps).flatMap Piece.units) none)
    (hstep : ∀ fuel sofar rest,
      readChars (fuel + 1) sofar ((first :: ps).flatMap Piece.chars ++ '"' :: rest) =
        readChars fuel none (ps.flatMap Piece.chars ++ '"' :: rest)) :
    Read (first :: ps) none :=
  h.of_step [first] (fun _ => none) Nat.one_pos hdecodes
    (fun sofar => by cases sofar <;> rfl) hstep

section
variable {a b c d a' b' c' d' : Char} {n m : Nat} (hn : IsCode a b c d n)

theorem unit (h : Read ps o) (hhigh : isHigh n = false) (hlow : isLow n = false) :
    Read (.code a b c d n hn :: ps) (o.map (Char.ofNat n :: ·)) :=
  h.char [.code a b c d n hn] Nat.one_pos (h.1.cons_unit (lt_of_isCode hn) hhigh hlow)
    fun fuel sofar rest => by
      simp [Piece.chars, readChars_code _ _ _ hn, hhigh, hlow]

theorem low (h : Read ps o) (hlow : isLow n) : Read (.code a b c d n hn :: ps) none :=
  h.lost (.low hlow) fun fuel sofar rest => by
    have hhigh : isHigh n = false := by
      rw [← Bool.not_eq_true]
      exact fun hhigh => not_high_and_low hhigh hlow
    simp [Piece.chars, readChars_code _ _ _ hn, hhigh, hlow]

theorem pair (h : Read ps o) (hm : IsCode a' b' c' d' m) (hhigh : isHigh n) (hlow : isLow m) :
    Read (.code a b c d n hn :: .code a' b' c' d' m hm :: ps) (o.map (pairChar n m :: ·)) :=
  h.char [.code a b c d n hn, .code a' b' c' d' m hm] Nat.two_pos
    (h.1.cons_pair hhigh hlow) fun fuel sofar rest => by
      simp [Piece.chars, readChars_code _ _ _ hn, readAfterHigh, readHex_of_isCode hm, hhigh, hlow]

/-- A first half of a pair is lost if the next piece is no second half. The reader looks whether
it is, and goes on with it if it is not. -/
theorem high (h : Read ps o) (hhigh : isHigh n)
    (hps : ∀ m ∈ (ps.flatMap Piece.units).head?, isLow m = false) :
    Read (.code a b c d n hn :: ps) none :=
  h.lost (.high hhigh hps) fun fuel sofar rest => by
    have hlook := readChars_code fuel sofar (ps.flatMap Piece.chars ++ '"' :: rest) hn
    rw [if_pos hhigh] at hlook
    refine hlook.trans (readAfterHigh_of_not_low fuel sofar n fun digits hdigits => ?_)
    cases ps with
    | nil => cases hdigits
    | cons p ps =>
      cases p with
      | plain e he =>
        exact absurd (List.cons.inj hdigits).1 he.2.1
      | escape letter e he =>
        have hletter : letter = 'u' := (List.cons.inj (List.cons.inj hdigits).2).1
        have hne : ∀ e ∈ escapes, e.1 ≠ 'u' := by decide
        exact absurd hletter (hne _ he)
      | code a' b' c' d' m hm =>
        obtain rfl : _ = digits := (List.cons.inj (List.cons.inj hdigits).2).2
        exact ⟨m, _, readHex_of_isCode hm _, hps m rfl⟩

end

end Read

/-- No character starts with a second half of a pair. -/
theorem not_low_of_units {c : Char} {us : List Nat} {m : Nat} (h : m ∈ (units c ++ us).head?) :
    isLow m = false := by
  rcases units_cases c with ⟨hc, -, -, hlow⟩ | ⟨n, m', hc, hn, -⟩
  · rw [hc] at h
    obtain rfl := Option.some.inj h
    exact hlow
  · rw [hc] at h
    obtain rfl := Option.some.inj h
    rw [← Bool.not_eq_true]
    exact not_high_and_low hn

/-- A second half of a pair is written with its digits. -/
theorem exists_code_of_low {ps : List Piece} {m : Nat} (hm : m ∈ (ps.flatMap Piece.units).head?)
    (hlow : isLow m) : ∃ a b c d h ps', ps = .code a b c d m h :: ps' := by
  cases ps with
  | nil => cases hm
  | cons p ps =>
    cases p with
    | plain c _ => exact absurd hlow (Bool.not_eq_true _ ▸ not_low_of_units hm)
    | escape _ c _ => exact absurd hlow (Bool.not_eq_true _ ▸ not_low_of_units hm)
    | code a b c d n h =>
      obtain rfl := Option.some.inj hm
      exact ⟨a, b, c, d, h, ps, rfl⟩

/-- Pieces are read, whether they stand for a text or not. -/
theorem exists_read (pieces : List Piece) : ∃ o, Read pieces o := by
  match pieces with
  | [] => exact ⟨_, .nil⟩
  | .plain c hc :: ps =>
    obtain ⟨o, h⟩ := exists_read ps
    exact ⟨_, h.char [.plain c hc] Nat.one_pos (h.1.cons c) fun fuel sofar rest =>
      readChars_plain fuel sofar _ hc.1 hc.2.1 hc.2.2⟩
  | .escape letter c hc :: ps =>
    obtain ⟨o, h⟩ := exists_read ps
    exact ⟨_, h.char [.escape letter c hc] Nat.one_pos (h.1.cons c)
      fun fuel sofar rest => readChars_escape fuel sofar _ hc⟩
  | .code a b c d n hn :: ps =>
    obtain ⟨o, h⟩ := exists_read ps
    by_cases hhigh : isHigh n
    · by_cases hnext : ∃ m ∈ (ps.flatMap Piece.units).head?, isLow m
      · obtain ⟨m, hm, hlow⟩ := hnext
        obtain ⟨a', b', c', d', hcode, ps', rfl⟩ := exists_code_of_low hm hlow
        obtain ⟨o', h'⟩ := exists_read ps'
        exact ⟨_, h'.pair hn hcode hhigh hlow⟩
      · refine ⟨_, h.high hn hhigh fun m hm => ?_⟩
        rw [← Bool.not_eq_true]
        exact fun hlow => hnext ⟨m, hm, hlow⟩
    · rw [Bool.not_eq_true] at hhigh
      by_cases hlow : isLow n
      · exact ⟨_, h.low hn hlow⟩
      · exact ⟨_, h.unit hn hhigh (Bool.not_eq_true _ ▸ hlow)⟩
termination_by pieces.length

theorem Stands.unique {pieces : List Piece} {s t : String} (hs : Stands pieces s)
    (ht : Stands pieces t) : s = t := by
  obtain ⟨o, hdecodes, -⟩ := exists_read pieces
  have hsame := ((hdecodes s.toList).2 hs).symm.trans ((hdecodes t.toList).2 ht)
  exact String.toList_injective (Option.some.inj hsame)

/-- A string is read up to its last quote, as the text that its pieces stand for, or as no text if
they stand for none. -/
theorem readString_pieces (pieces : List Piece) {o : Option String}
    (ho : ∀ text, o = some text ↔ Stands pieces text) {fuel : Nat} (rest : List Char)
    (hf : pieces.length < fuel) :
    readString fuel (pieces.flatMap Piece.chars ++ '"' :: rest) = some (o, rest) := by
  obtain ⟨chars, hdecodes, hread⟩ := exists_read pieces
  have hchars : chars.map String.ofList = o := by
    refine Option.ext fun text => ?_
    rw [ho, Stands, ← hdecodes text.toList, Option.map_eq_some_iff]
    constructor
    · rintro ⟨cs, hcs, rfl⟩
      rw [hcs, String.toList_ofList]
    · exact fun hcs => ⟨_, hcs, String.ofList_toList⟩
  rw [readString, hread fuel _ rest hf]
  simp [hchars]

end CodeReview.Json
