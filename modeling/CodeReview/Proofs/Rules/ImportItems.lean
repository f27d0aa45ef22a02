import CodeReview.Proofs.Rules.ImportText
import CodeReview.Proofs.Text.TrimmedRows

/-!
# The items of an import

A list of items is cut at its commas, and an item into pieces at its blanks. Items are read back as
they were written (`itemsOf_text`): a comma stands in none of them, and none starts or ends with
what may stand around it (`Written`). So a list binds what its items do, whatever stands around it
and whatever comment comes after it (`boundNames_text`).
-/

set_option autoImplicit false

namespace CodeReview.Rules

open Text

/-! ## Characters of names -/

namespace Name

variable (n : Name)

theorem chars_ne : n.chars ≠ [] := by
  intro h
  have hstart := n.start
  rw [h] at hstart
  cases hstart

theorem isAscii {c : Char} (hc : c ∈ n.chars) :
    c.toNat < 128 ∧ (c.isAlphanum || c == '_') = true := by
  have hascii := List.all_eq_true.1 n.ascii c hc
  rw [Bool.and_eq_true, decide_eq_true_eq] at hascii
  obtain ⟨hlt, hrest⟩ := hascii
  rw [isIdentifierRest, if_pos hlt] at hrest
  exact ⟨hlt, hrest⟩

theorem isWord {c : Char} (hc : c ∈ n.chars) : isWord c := by
  rw [Text.isWord, if_pos (n.isAscii hc).1]
  exact (n.isAscii hc).2

theorem isNameChar {c : Char} (hc : c ∈ n.chars) : (isAlphanumeric c || c == '_') = true := by
  rw [isAlphanumeric, if_pos (n.isAscii hc).1]
  exact (n.isAscii hc).2

end Name

/-! ## Items of a list -/

/-- A text that neither starts nor ends with a character of a kind. -/
structure Bare (p : Char → Bool) (cs : List Char) : Prop where
  head : ∀ c ∈ cs.head?, ¬ p c
  last : ∀ c ∈ cs.getLast?, ¬ p c

theorem strip_append {p : Char → Bool} {a core b : List Char} (ha : ∀ c ∈ a, p c)
    (hcore : Bare p core) (hb : ∀ c ∈ b, p c) : strip p (a ++ (core ++ b)) = core := by
  have hdrop : ∀ {x y : List Char}, (∀ c ∈ x.head?, ¬ p c) → (∀ c ∈ y, p c) →
      (x ++ y).dropWhile p = if x.isEmpty then [] else x ++ y := by
    intro x y hx hy
    cases x with
    | nil => simpa using hy
    | cons c x => exact List.dropWhile_cons_of_neg (hx c rfl)
  rw [strip, List.dropWhile_append_of_pos ha, hdrop hcore.head hb]
  split_ifs with hempty
  · rw [List.isEmpty_iff.1 hempty]
    rfl
  · have hlast : ∀ c ∈ core.reverse.head?, ¬ p c := by
      rw [List.head?_reverse]
      exact hcore.last
    rw [List.reverse_append, List.dropWhile_append_of_pos (by simpa using hb)]
    have hrev := hdrop hlast (y := []) (by simp)
    rw [List.append_nil, List.isEmpty_reverse, if_neg hempty] at hrev
    rw [hrev, List.reverse_reverse]

theorem Bare.append {p : Char → Bool} {x z : List Char} (hx : Bare p x) (hne : x ≠ [])
    (hz : Bare p z) (hne' : z ≠ []) (y : List Char) : Bare p (x ++ (y ++ z)) where
  head := by
    obtain ⟨c, x, rfl⟩ := List.exists_cons_of_ne_nil hne
    exact hx.head
  last := by
    rw [← List.append_assoc, List.getLast?_append_of_ne_nil _ hne']
    exact hz.last

theorem bare_of_forall {p : Char → Bool} {cs : List Char} (h : ∀ c ∈ cs, ¬ p c) : Bare p cs where
  head c hc := h c (List.mem_of_mem_head? hc)
  last c hc := h c (List.mem_of_mem_getLast? hc)

theorem bare_singleton {p : Char → Bool} {c : Char} (h : ¬ p c) : Bare p [c] :=
  bare_of_forall (List.forall_mem_singleton.2 h)

theorem Bare.mono {p q : Char → Bool} {cs : List Char} (h : Bare p cs) (hpq : ∀ c, q c → p c) :
    Bare q cs where
  head c hc hq := h.head c hc (hpq c hq)
  last c hc hq := h.last c hc (hpq c hq)

namespace Separated

variable {α : Type} {sep : Char} {chars : α → List Char}

theorem text_ne_nil (hne : ∀ x, chars x ≠ []) (s : Separated α) : s.text sep chars ≠ [] := by
  cases s with
  | one x => exact hne x
  | more x b a rest => exact List.append_ne_nil_of_left_ne_nil (hne x) _

theorem forall_text {P : Char → Prop} (hsep : P sep) (hblank : ∀ c, isBlank c → P c)
    (h : ∀ x, ∀ c ∈ chars x, P c) (s : Separated α) : ∀ c ∈ s.text sep chars, P c := by
  induction s with
  | one x => exact h x
  | more x b a rest ih =>
    intro c hc
    rw [text, List.mem_append, List.mem_append, List.mem_cons, List.mem_append] at hc
    rcases hc with hc | hc | rfl | hc | hc
    · exact h x c hc
    · exact hblank c (b.blank c hc)
    · exact hsep
    · exact hblank c (a.blank c hc)
    · exact ih c hc

theorem bare_text {p : Char → Bool} (h : ∀ x, Bare p (chars x)) (hne : ∀ x, chars x ≠ [])
    (s : Separated α) : Bare p (s.text sep chars) := by
  induction s with
  | one x => exact h x
  | more x b a rest ih =>
    have happend := (h x).append (hne x) ih (text_ne_nil hne rest) (b.chars ++ sep :: a.chars)
    rwa [List.append_assoc, List.cons_append] at happend

end Separated

theorem isWord_as : ∀ c ∈ "as".toList, isWord c := List.all_eq_true.1 (by decide)

/-- A character of an item as it is written. -/
def IsItemChar (c : Char) : Prop := isWord c ∨ c = '.' ∨ isBlank c

theorem not_isItemChar {c : Char} (h : isWord c = false ∧ c ≠ '.' ∧ isBlank c = false) :
    ¬ IsItemChar c := by
  rintro (hc | hc | hc)
  · exact Bool.false_ne_true (h.1.symm.trans hc)
  · exact h.2.1 hc
  · exact Bool.false_ne_true (h.2.2.symm.trans hc)

theorem isMargin_of_isBlank {c : Char} (h : isBlank c) : isMargin c := by
  simp [isMargin, h]

theorem isListMargin_of_isMargin {c : Char} (h : isMargin c) : isListMargin c := by
  simp [isListMargin, h]

theorem not_isListMargin_of_isWord {c : Char} (h : isWord c) : ¬ isListMargin c := by
  intro hc
  simp only [isListMargin, isMargin, Bool.or_eq_true, beq_iff_eq] at hc
  rcases hc with ((rfl | rfl) | hc) | rfl
  · revert h
    decide
  · revert h
    decide
  · exact not_isWord_of_isBlank hc h
  · revert h
    decide

theorem Bare.startsFilled {cs : List Char} (h : Bare isListMargin cs) (hne : cs ≠ [])
    (r : List Char) : StartsFilled (cs ++ r) := by
  intro c hc
  rw [List.head?_append_of_ne_nil _ hne] at hc
  exact fun hb => h.head c hc (isListMargin_of_isMargin (isMargin_of_isBlank hb))

/-- What is written is not empty, has only characters of items, and neither starts nor ends with
what may stand around a list. -/
structure Written {α : Type} (chars : α → List Char) : Prop where
  ne : ∀ x, chars x ≠ []
  isItemChar : ∀ x, ∀ c ∈ chars x, IsItemChar c
  bare : ∀ x, Bare isListMargin (chars x)

theorem written_name : Written Name.chars where
  ne := Name.chars_ne
  isItemChar n _ hc := .inl (n.isWord hc)
  bare n := bare_of_forall fun _ hc => not_isListMargin_of_isWord (n.isWord hc)

theorem written_dotted : Written Dotted.chars where
  ne := Separated.text_ne_nil written_name.ne
  isItemChar := Separated.forall_text (.inr (.inl rfl)) (fun _ hc => .inr (.inr hc))
    written_name.isItemChar
  bare := Separated.bare_text written_name.bare written_name.ne

namespace Written

variable {α : Type} {chars : α → List Char}

theorem not_mem (h : Written chars) {c : Char} (hc : ¬ IsItemChar c) (x : α) : c ∉ chars x :=
  fun hmem => hc (h.isItemChar x c hmem)

theorem startsFilled (h : Written chars) (x : α) (r : List Char) : StartsFilled (chars x ++ r) :=
  (h.bare x).startsFilled (h.ne x) r

theorem text_ne (h : Written chars) (sep : Char) (s : Separated α) : s.text sep chars ≠ [] :=
  Separated.text_ne_nil h.ne s

theorem startsFilled_text (h : Written chars) (sep : Char) (s : Separated α) (r : List Char) :
    StartsFilled (s.text sep chars ++ r) :=
  (Separated.bare_text h.bare h.ne s).startsFilled (h.text_ne sep s) r

theorem item (h : Written chars) : Written (Item.text chars) where
  ne i := List.append_ne_nil_of_left_ne_nil (h.ne i.subject) _
  isItemChar := by
    rintro ⟨x, _ | a⟩ c hc
    · exact h.isItemChar x c (by simpa [Item.text] using hc)
    · rw [Item.text, Option.elim_some, Alias.chars] at hc
      simp only [List.mem_append] at hc
      rcases hc with hc | hc | hc | hc | hc
      · exact h.isItemChar x c hc
      · exact .inr (.inr (a.before.blank c hc))
      · exact .inl (isWord_as c hc)
      · exact .inr (.inr (a.after.blank c hc))
      · exact .inl (a.name.isWord hc)
  bare := by
    rintro ⟨x, _ | a⟩
    · simpa [Item.text] using h.bare x
    · have happend := (h.bare x).append (h.ne x) (written_name.bare a.name) a.name.chars_ne
        (a.before.chars ++ ("as".toList ++ a.after.chars))
      rwa [List.append_assoc, List.append_assoc] at happend

end Written

/-! ## Items of a list -/

theorem itemsOf_append (x y : List Char) : itemsOf (x ++ ',' :: y) = itemsOf x ++ itemsOf y := by
  rw [itemsOf, itemsOf, itemsOf, splitChars_append, List.map_append, List.filter_append]

theorem itemsOf_piece {lead core b : List Char} (hlead : Blank lead) (hb : Blank b)
    (hcomma : ',' ∉ core) (hbare : Bare isMargin core) (hne : core ≠ []) :
    itemsOf (lead ++ (core ++ b)) = [core] := by
  have hnot : ',' ∉ lead ++ (core ++ b) := by
    have hblank : ∀ {cs : List Char}, Blank cs → ',' ∉ cs := fun h hmem =>
      absurd (h ',' hmem) (by decide)
    simp [hblank hlead, hcomma, hblank hb]
  rw [itemsOf, splitChars_of_not_mem hnot, List.map_singleton,
    strip_append (fun c hc => isMargin_of_isBlank (hlead c hc)) hbare
      (fun c hc => isMargin_of_isBlank (hb c hc)),
    List.filter_singleton, List.isEmpty_eq_false_iff.2 hne]
  rfl

section

variable {α : Type} {chars : α → List Char}

/-- The items of a list are read back, with or without a comma after the last. -/
theorem itemsOf_text (h : Written chars) (comma : Option Blanks) (s : Separated α)
    {lead : List Char} (hlead : Blank lead) :
    itemsOf (lead ++ (s.text ',' chars ++ commaChars comma)) = s.toList.map chars := by
  have hpiece : ∀ x {lead b : List Char}, Blank lead → Blank b →
      itemsOf (lead ++ (chars x ++ b)) = [chars x] := fun x _ _ hlead hb =>
    itemsOf_piece hlead hb (h.not_mem (not_isItemChar (by decide)) x)
      ((h.bare x).mono fun _ => isListMargin_of_isMargin) (h.ne x)
  induction s generalizing lead with
  | one x =>
    cases comma with
    | none => exact hpiece x hlead blank_nil
    | some b =>
      have hsplit : lead ++ (chars x ++ (b.chars ++ [','])) =
          lead ++ (chars x ++ b.chars) ++ ',' :: [] := by simp
      rw [Separated.text, commaChars, Option.elim_some, hsplit, itemsOf_append,
        hpiece x hlead b.blank]
      rfl
  | more x b a rest ih =>
    have hsplit : lead ++ (Separated.text ',' chars (.more x b a rest) ++ commaChars comma) =
        lead ++ (chars x ++ b.chars) ++
          ',' :: (a.chars ++ (rest.text ',' chars ++ commaChars comma)) := by
      simp [Separated.text]
    rw [hsplit, itemsOf_append, hpiece x hlead b.blank, ih a.blank]
    rfl

/-! ## Bound names -/

theorem takeWhile_comment {cs : List Char} (hcs : '#' ∉ cs) (comment? : Option (List Char)) :
    (cs ++ comment?.elim [] ('#' :: ·)).takeWhile (· != '#') = cs := by
  have hpos : ∀ c ∈ cs, (c != '#') = true := fun c hc => bne_iff_ne.2 fun h => hcs (h ▸ hc)
  rw [List.takeWhile_append_of_pos hpos]
  cases comment? <;> simp

/-- A list is read without what stands around it and without the comment after it. -/
theorem boundNames_around (bind : List Char → Option (List Char)) {a core b : List Char}
    (ha : ∀ c ∈ a, isListMargin c) (hcore : Bare isListMargin core) (hhash : '#' ∉ core)
    (hb : ∀ c ∈ b, isListMargin c) (comment? : Option (List Char)) :
    boundNames bind (a ++ (core ++ b) ++ comment?.elim [] ('#' :: ·)) =
      ((itemsOf core).filterMap bind).filter
        fun name => name.all fun c => isAlphanumeric c || c == '_' := by
  have hmargin : ∀ {cs : List Char}, (∀ c ∈ cs, isListMargin c) → '#' ∉ cs := fun h hmem =>
    absurd (h '#' hmem) (by decide)
  have hnot : '#' ∉ a ++ (core ++ b) := by
    simp [hmargin ha, hhash, hmargin hb]
  rw [boundNames, takeWhile_comment hnot, strip_append ha hcore hb]

/-- A list binds what its items bind. -/
theorem boundNames_text (h : Written chars) {bind : List Char → Option (List Char)}
    {name : α → Name} (hbind : ∀ x, bind (chars x) = some (name x).chars) {a b : List Char}
    (ha : ∀ c ∈ a, isListMargin c) (s : Separated α) (comma : Option Blanks)
    (hb : ∀ c ∈ b, isListMargin c) (comment? : Option (List Char)) :
    boundNames bind (a ++ (s.text ',' chars ++ commaChars comma ++ b) ++
      comment?.elim [] ('#' :: ·)) = s.toList.map fun x => (name x).chars := by
  have hcore : Bare isListMargin (s.text ',' chars ++ commaChars comma) := by
    have hs : Bare isListMargin (s.text ',' chars) := Separated.bare_text h.bare h.ne s
    cases comma with
    | none => simpa [commaChars] using hs
    | some b =>
      have hcomma : Bare isListMargin [','] := bare_singleton (by decide)
      exact hs.append (h.text_ne ',' s) hcomma (List.cons_ne_nil _ _) b.chars
  have hhash : '#' ∉ s.text ',' chars ++ commaChars comma := by
    have hblank : ∀ c, isBlank c → c ≠ '#' := fun c hc h => absurd (h ▸ hc) (by decide)
    have hs : ∀ c ∈ s.text ',' chars, c ≠ '#' := Separated.forall_text (by decide) hblank
      (fun x c hc h' => h.not_mem (not_isItemChar (by decide)) x (h' ▸ hc)) s
    rw [List.mem_append, not_or]
    refine ⟨fun hmem => hs '#' hmem rfl, ?_⟩
    cases comma with
    | none => exact List.not_mem_nil
    | some b =>
      have hb : '#' ∉ b.chars := fun hmem => hblank '#' (b.blank '#' hmem) rfl
      simpa [commaChars] using hb
  have hbind' : ∀ x, (bind ∘ chars) x = some (name x).chars := hbind
  have hall : ∀ l ∈ s.toList.map fun x => (name x).chars,
      (l.all fun c => isAlphanumeric c || c == '_') = true := by
    simp only [List.mem_map, forall_exists_index, and_imp, forall_apply_eq_imp_iff₂,
      List.all_eq_true]
    exact fun x _ c hc => (name x).isNameChar hc
  rw [boundNames_around bind ha hcore hhash hb, ← List.nil_append (s.text ',' chars ++ _),
    itemsOf_text h comma s blank_nil, List.filterMap_map, funext hbind', List.filterMap_eq_map']
  exact List.filter_eq_self.2 hall

end

/-! ## Pieces of an item -/

theorem fields_skip {b : List Char} (hb : Blank b) (cs : List Char) :
    fields (b ++ cs) = fields cs :=
  runs_skip (fun c hc => by simp [hb c hc]) cs

theorem fields_append {piece r : List Char} (hne : piece ≠ []) (hpiece : ∀ c ∈ piece, ¬ isBlank c)
    (hr : ∀ c ∈ r.head?, isBlank c) : fields (piece ++ r) = piece :: fields r :=
  runs_run_append hne (fun c hc => by simp [hpiece c hc]) fun c hc => by simp [hr c hc]

def aliasPieces (alias? : Option Alias) : List (List Char) :=
  alias?.elim [] fun a => ["as".toList, a.name.chars]

theorem fields_item {piece : List Char} (hne : piece ≠ []) (hpiece : ∀ c ∈ piece, ¬ isBlank c)
    (alias? : Option Alias) :
    fields (piece ++ alias?.elim [] Alias.chars) = piece :: aliasPieces alias? := by
  cases alias? with
  | none => exact fields_append hne hpiece (by simp)
  | some a =>
    have hname : fields a.name.chars = [a.name.chars] := by
      have happend := fields_append a.name.chars_ne
        (fun c hc => not_isBlank_of_isWord (a.name.isWord hc)) (r := []) (by simp)
      rwa [List.append_nil] at happend
    rw [Option.elim_some, Alias.chars,
      fields_append hne hpiece (a.before.blank.isBlank_head a.before_ne),
      fields_skip a.before.blank,
      fields_append (by decide) (fun c hc => not_isBlank_of_isWord (isWord_as c hc))
        (a.after.blank.isBlank_head a.after_ne),
      fields_skip a.after.blank, hname]
    rfl

theorem givenName?_aliasPieces (piece : List Char) (alias? : Option Alias) :
    givenName? (piece :: aliasPieces alias?) = alias?.map fun a => a.name.chars := by
  cases alias? <;> rfl

theorem boundMember_text (i : Item Name) :
    boundMember (i.text Name.chars) = some (i.bound id).chars := by
  have hstar : (i.subject.chars == ['*']) = false := by
    rw [beq_eq_false_iff_ne]
    intro h
    have hword : isWord '*' := i.subject.isWord (h ▸ List.mem_singleton_self '*')
    revert hword
    decide
  rw [boundMember, Item.text, fields_item i.subject.chars_ne
    fun c hc => not_isBlank_of_isWord (i.subject.isWord hc)]
  simp only [List.head?_cons, Option.bind_some, hstar, Bool.false_eq_true, if_false,
    givenName?_aliasPieces, Item.bound]
  cases i.alias? <;> rfl

end CodeReview.Rules
