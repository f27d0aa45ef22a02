import CodeReview.Json.Printer
import CodeReview.Proofs.Json.SpelledText

/-!
# Printed JSON is read back

`parse_print`: the text of a value is read as that value, for every value that has a text of its own
(`Printable`: its numbers are numerals, and no string in it is unreadable). What is printed is one
of the texts of the value (`Printable.spells`), and the reader takes every one of them. That is by
induction on the value: a text is quoted by one piece for each of its characters
(`quoted_eq_quotes`), and new lines are spaces.
-/

set_option autoImplicit false

namespace CodeReview.Json

open Text

/-! ## Strings -/

/-- A control character is written as its number. -/
theorem isCode_control {c : Char} (h : c.toNat < 32) :
    IsCode '0' '0' (hexDigit (c.toNat / 16)) (hexDigit (c.toNat % 16)) c.toNat :=
  ⟨0, 0, c.toNat / 16, c.toNat % 16, ⟨by decide, .inl rfl⟩, ⟨by decide, .inl rfl⟩,
    ⟨by omega, .inl rfl⟩, ⟨by omega, .inl rfl⟩, by omega⟩

/-- A character is written as a piece that has its units. -/
theorem exists_piece (c : Char) : ∃ p : Piece, quotedChar c = p.chars ∧ p.units = units c := by
  unfold quotedChar
  split_ifs with hq hb hn hr ht hbs hff hc
  · exact ⟨.escape '"' c (by rw [hq]; decide), rfl, rfl⟩
  · exact ⟨.escape '\\' c (by rw [hb]; decide), rfl, rfl⟩
  · exact ⟨.escape 'n' c (by rw [hn]; decide), rfl, rfl⟩
  · exact ⟨.escape 'r' c (by rw [hr]; decide), rfl, rfl⟩
  · exact ⟨.escape 't' c (by rw [ht]; decide), rfl, rfl⟩
  · exact ⟨.escape 'b' c (by rw [hbs]; decide), rfl, rfl⟩
  · exact ⟨.escape 'f' c (by rw [hff]; decide), rfl, rfl⟩
  · refine ⟨.code _ _ _ _ c.toNat (isCode_control hc), rfl, ?_⟩
    rw [units, if_pos (by omega)]
    rfl
  · exact ⟨.plain c ⟨hq, hb, by omega⟩, rfl, rfl⟩

/-- A text in quotes is a string that stands for it. -/
theorem quoted_eq_quotes (text : String) :
    ∃ pieces, quoted text = quotes pieces ∧ Stands pieces text := by
  have h (cs : List Char) : ∃ pieces : List Piece,
      cs.flatMap quotedChar = pieces.flatMap Piece.chars ∧
        pieces.flatMap Piece.units = cs.flatMap units := by
    induction cs with
    | nil => exact ⟨[], rfl, rfl⟩
    | cons c cs ih =>
      obtain ⟨p, hchars, hunits⟩ := exists_piece c
      obtain ⟨ps, hps, hus⟩ := ih
      exact ⟨p :: ps, by simp [hchars, hps], by simp [hunits, hus]⟩
  obtain ⟨pieces, hchars, hunits⟩ := h text.toList
  exact ⟨pieces, by rw [quoted, quotes, hchars, List.cons_append], hunits⟩

/-! ## Values -/

/-- A value that has a text of its own. -/
inductive Printable : Json → Prop
  | null : Printable null
  | bool (b : Bool) : Printable (bool b)
  | number {numeral : String} : IsNumeral numeral.toList → Printable (number numeral)
  | string (text : String) : Printable (string text)
  | array {items : List Json} : (∀ v ∈ items, Printable v) → Printable (array items)
  | object {members : List (String × Json)} :
    (∀ m ∈ members, Printable m.2) → Printable (object members)

theorem isSpaces_newLine (depth : Nat) : IsSpaces (newLine depth) := by
  intro c hc
  rcases List.mem_cons.1 hc with rfl | hc
  · decide
  · rw [List.eq_of_mem_replicate hc]
    decide

theorem isSpaces_nil : IsSpaces [] := nofun

section
variable (depth e : Nat)

/-- Items are printed on lines of their own, with a comma between two of them. -/
theorem spellsItems_write {item : Json} {items : List Json}
    (hitem : Spells (write depth item) item) (hitems : ∀ v ∈ items, Spells (write depth v) v) :
    SpellsItems (newLine depth ++ write depth item ++ writeItems depth items ++ newLine e)
      (item :: items) := by
  induction items generalizing item with
  | nil =>
    rw [writeItems, List.append_nil, List.append_assoc]
    exact .last (.mk (isSpaces_newLine depth) hitem (isSpaces_newLine e))
  | cons next items ih =>
    have hnext := ih (hitems next List.mem_cons_self)
      fun v hv => hitems v (List.mem_cons_of_mem _ hv)
    have hfirst : SpellsSpaced (newLine depth ++ (write depth item ++ [])) item :=
      .mk (isSpaces_newLine depth) hitem isSpaces_nil
    have htext := SpellsItems.more hfirst hnext
    simpa [writeItems] using htext

theorem spellsMember_write {member : String × Json}
    (h : Spells (write depth member.2) member.2) {after : List Char} (hafter : IsSpaces after) :
    SpellsMember (newLine depth ++ writeMember depth member ++ after)
      (some member.1, member.2) := by
  obtain ⟨name, value⟩ := member
  obtain ⟨pieces, hquoted, hstands⟩ := quoted_eq_quotes name
  have hname (text : String) : some name = some text ↔ Stands pieces text :=
    ⟨fun he => Option.some.inj he ▸ hstands, fun h' => congrArg some (hstands.unique h')⟩
  have hblank : IsSpaces [' '] := by
    intro c hc
    rw [List.mem_singleton.1 hc]
    decide
  have htext := SpellsMember.mk (isSpaces_newLine depth) hname isSpaces_nil (.mk hblank h hafter)
  simpa [writeMember, hquoted] using htext

/-- Members are printed like items. -/
theorem spellsMembers_write {member : String × Json} {members : List (String × Json)}
    (hmember : Spells (write depth member.2) member.2)
    (hmembers : ∀ m ∈ members, Spells (write depth m.2) m.2) :
    SpellsMembers
      (newLine depth ++ writeMember depth member ++ writeMembers depth members ++ newLine e)
      ((member :: members).map fun m => (some m.1, m.2)) := by
  induction members generalizing member with
  | nil =>
    rw [writeMembers, List.append_nil]
    exact .last (spellsMember_write depth hmember (isSpaces_newLine e))
  | cons next members ih =>
    have hnext := ih (hmembers next List.mem_cons_self)
      fun m hm => hmembers m (List.mem_cons_of_mem _ hm)
    have htext := SpellsMembers.more (spellsMember_write depth hmember isSpaces_nil) hnext
    simpa [writeMembers] using htext

end

/-- What is printed for a value is one of its texts. -/
theorem Printable.spells {v : Json} (h : Printable v) (depth : Nat) : Spells (write depth v) v := by
  induction h generalizing depth with
  | null =>
    rw [write]
    exact .null
  | bool b =>
    rw [write]
    cases b
    · exact .false
    · exact .true
  | @number numeral h =>
    have htext := Spells.number (isNumeral_iff.1 h)
    rwa [String.ofList_toList] at htext
  | string text =>
    obtain ⟨pieces, hquoted, hstands⟩ := quoted_eq_quotes text
    rw [write, hquoted]
    exact .string hstands
  | @array items h ih =>
    cases items with
    | nil =>
      rw [write]
      exact .noItems isSpaces_nil
    | cons item items =>
      have htext := Spells.array (spellsItems_write (depth + 1) depth
        (ih item List.mem_cons_self (depth + 1))
        fun v hv => ih v (List.mem_cons_of_mem _ hv) (depth + 1))
      simpa [write] using htext
  | @object members h ih =>
    cases members with
    | nil =>
      rw [write]
      exact .noMembers isSpaces_nil
    | cons member members =>
      have htext := Spells.object (spellsMembers_write (depth + 1) depth
        (ih member List.mem_cons_self (depth + 1))
        fun m hm => ih m (List.mem_cons_of_mem _ hm) (depth + 1))
      simpa [write] using htext

theorem Printable.spellsSpaced {v : Json} (h : Printable v) : SpellsSpaced (print v).toList v := by
  have htext : SpellsSpaced ([] ++ (write 0 v ++ [])) v :=
    .mk isSpaces_nil (h.spells 0) isSpaces_nil
  rw [print, String.toList_ofList]
  simpa using htext

/-- Printing a value loses nothing. -/
theorem parse_print {v : Json} (h : Printable v) : parse (print v) = some v :=
  parse_of_spells h.spellsSpaced

end CodeReview.Json
