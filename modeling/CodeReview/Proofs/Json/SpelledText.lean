import CodeReview.Proofs.Json.Numeral
import CodeReview.Proofs.Json.SpelledString
import Mathlib.Data.List.Forall2

/-!
# Spelled JSON is read

The texts of a value (`Spells`): spaces may stand around every part, strings are spelled by pieces,
and numbers are kept as they are written. `parse_of_spells`: the reader gives the value of every
text, whatever the text.
-/

set_option autoImplicit false

namespace CodeReview.Json

/-! ## Texts of values -/

/-- Spaces, as they may stand around the parts of a value. -/
def IsSpaces (ws : List Char) : Prop := ∀ c ∈ ws, c ∈ [' ', '\n', '\t', '\r']

mutual

/-- The texts of a value. A string whose pieces stand for no text, or an object with such a name,
is unreadable. -/
inductive Spells : List Char → Json → Prop
  | null : Spells ['n', 'u', 'l', 'l'] null
  | true : Spells ['t', 'r', 'u', 'e'] (bool true)
  | false : Spells ['f', 'a', 'l', 's', 'e'] (bool false)
  | number {cs : List Char} (h : IsNumber cs) : Spells cs (number (String.ofList cs))
  | string {pieces : List Piece} {text : String} (h : Stands pieces text) :
    Spells (quotes pieces) (string text)
  | lostString {pieces : List Piece} (h : ∀ text, ¬ Stands pieces text) :
    Spells (quotes pieces) unreadable
  | noItems {ws : List Char} (h : IsSpaces ws) : Spells ('[' :: (ws ++ [']'])) (array [])
  | array {cs : List Char} {items : List Json} (h : SpellsItems cs items) :
    Spells ('[' :: (cs ++ [']'])) (array items)
  | noMembers {ws : List Char} (h : IsSpaces ws) : Spells ('\x7b' :: (ws ++ ['\x7d'])) (object [])
  | object {cs : List Char} {members : List (String × Json)}
    (h : SpellsMembers cs (members.map fun m => (some m.1, m.2))) :
    Spells ('\x7b' :: (cs ++ ['\x7d'])) (object members)
  | lostObject {cs : List Char} {members : List (Option String × Json)}
    (h : SpellsMembers cs members) (hlost : ∃ m ∈ members, m.1 = none) :
    Spells ('\x7b' :: (cs ++ ['\x7d'])) unreadable

/-- The texts of a value with spaces around it. -/
inductive SpellsSpaced : List Char → Json → Prop
  | mk {before cs after : List Char} {v : Json} (hbefore : IsSpaces before) (h : Spells cs v)
    (hafter : IsSpaces after) : SpellsSpaced (before ++ (cs ++ after)) v

/-- The texts of the items of an array. -/
inductive SpellsItems : List Char → List Json → Prop
  | last {cs : List Char} {v : Json} (h : SpellsSpaced cs v) : SpellsItems cs [v]
  | more {cs rest : List Char} {v : Json} {items : List Json} (h : SpellsSpaced cs v)
    (hrest : SpellsItems rest items) : SpellsItems (cs ++ ',' :: rest) (v :: items)

/-- The texts of a member of an object, whose name may be none. -/
inductive SpellsMember : List Char → Option String × Json → Prop
  | mk {before between cs : List Char} {pieces : List Piece} {name : Option String} {v : Json}
    (hbefore : IsSpaces before) (hname : ∀ text, name = some text ↔ Stands pieces text)
    (hbetween : IsSpaces between) (h : SpellsSpaced cs v) :
    SpellsMember (before ++ (quotes pieces ++ (between ++ ':' :: cs))) (name, v)

/-- The texts of the members of an object. -/
inductive SpellsMembers : List Char → List (Option String × Json) → Prop
  | last {cs : List Char} {m : Option String × Json} (h : SpellsMember cs m) : SpellsMembers cs [m]
  | more {cs rest : List Char} {m : Option String × Json} {members : List (Option String × Json)}
    (h : SpellsMember cs m) (hrest : SpellsMembers rest members) :
    SpellsMembers (cs ++ ',' :: rest) (m :: members)

end

/-! ## Spaces -/

theorem isSpace_iff {c : Char} : isSpace c ↔ c ∈ [' ', '\n', '\t', '\r'] := by
  simp [isSpace, or_assoc]

theorem skipSpace_cons {c : Char} (h : isSpace c = false) (cs : List Char) :
    skipSpace (c :: cs) = c :: cs := by
  rw [skipSpace, List.dropWhile_cons_of_neg (by simp [h])]

theorem skipSpace_append {ws : List Char} (h : IsSpaces ws) (cs : List Char) :
    skipSpace (ws ++ cs) = skipSpace cs :=
  List.dropWhile_append_of_pos fun c hc => isSpace_iff.2 (h c hc)

theorem skipSpace_skipSpace (cs : List Char) : skipSpace (skipSpace cs) = skipSpace cs := by
  induction cs with
  | nil => rfl
  | cons c cs ih =>
    by_cases hc : isSpace c
    · rw [skipSpace, skipSpace, List.dropWhile_cons_of_pos hc]
      exact ih
    · rw [Bool.not_eq_true] at hc
      rw [skipSpace_cons hc, skipSpace_cons hc]

theorem isSpace_of_isDigit {c : Char} (h : c.isDigit = true) : isSpace c = false := by
  simp only [isSpace, Bool.or_eq_false_iff, beq_eq_false_iff_ne]
  refine ⟨⟨⟨?_, ?_⟩, ?_⟩, ?_⟩ <;> rintro rfl <;> cases h

theorem EndsNumber.append {ws rest : List Char} (hws : IsSpaces ws) (h : EndsNumber rest) :
    EndsNumber (ws ++ rest) := by
  cases ws with
  | nil => exact h
  | cons c ws =>
    have hc : c ∈ [' ', '\n', '\t', '\r'] := hws c List.mem_cons_self
    simp only [List.mem_cons, List.not_mem_nil, or_false] at hc
    rcases hc with rfl | rfl | rfl | rfl <;>
      exact endsNumber_cons _ rfl (by decide) (by decide) (by decide)

section
variable (fuel : Nat) (cs : List Char)

theorem readValue_skipSpace : readValue fuel (skipSpace cs) = readValue fuel cs := by
  cases fuel with
  | zero => rw [readValue, readValue]
  | succ fuel => rw [readValue, readValue, skipSpace_skipSpace]

theorem readItems_skipSpace (sofar : List Json) :
    readItems fuel sofar (skipSpace cs) = readItems fuel sofar cs := by
  cases fuel with
  | zero => rw [readItems, readItems]
  | succ fuel => rw [readItems, readItems, readValue_skipSpace]

theorem readMembers_skipSpace (sofar : List (Option String × Json)) :
    readMembers fuel sofar (skipSpace cs) = readMembers fuel sofar cs := by
  cases fuel with
  | zero => rw [readMembers, readMembers]
  | succ fuel => rw [readMembers, readMembers, skipSpace_skipSpace]

end

/-! ## Reading -/

/-- A text is read as a value, whatever follows that does not go on with a number. It does not look
like a space or the end of an array. -/
structure ReadsAs (cs : List Char) (v : Json) : Prop where
  start : ∃ c tail, cs = c :: tail ∧ isSpace c = false ∧ c ≠ ']'
  read : ∀ fuel rest, 2 * cs.length ≤ fuel → EndsNumber rest →
    readValue fuel (cs ++ rest) = some (v, rest)

/-- A text is read as a value up to the spaces at its end. -/
structure SpacedReadsAs (cs : List Char) (v : Json) : Prop where
  start : ∀ rest, (skipSpace (cs ++ rest)).head? ≠ some ']'
  read : ∀ fuel rest, 2 * cs.length ≤ fuel → EndsNumber rest →
    ∃ ws, IsSpaces ws ∧ readValue fuel (cs ++ rest) = some (v, ws ++ rest)

/-- A text is read as the items of an array up to its end. -/
structure ItemsReadAs (cs : List Char) (items : List Json) : Prop where
  start : ∀ rest, (skipSpace (cs ++ rest)).head? ≠ some ']'
  read : ∀ fuel sofar rest, 2 * cs.length < fuel →
    readItems fuel sofar (cs ++ ']' :: rest) = some (array (sofar.reverse ++ items), rest)

/-- What is read after an item of an array: more of them or none. -/
def readMoreItems (fuel : Nat) (sofar : List Json) (cs : List Char) :
    Option (Json × List Char) :=
  match skipSpace cs with
  | ',' :: rest => readItems fuel sofar rest
  | ']' :: rest => some (array sofar.reverse, rest)
  | _ => none

/-- What is read after a member of an object: more of them or none. -/
def readMoreMembers (fuel : Nat) (sofar : List (Option String × Json)) (cs : List Char) :
    Option (Json × List Char) :=
  match skipSpace cs with
  | ',' :: rest => readMembers fuel sofar rest
  | '\x7d' :: rest => some (ofMembers sofar.reverse, rest)
  | _ => none

/-- A text is read as a member of an object, after which there are more or none. -/
structure MemberReadsAs (cs : List Char) (m : Option String × Json) : Prop where
  start : ∀ rest, (skipSpace (cs ++ rest)).head? ≠ some '\x7d'
  read : ∀ fuel sofar rest, 2 * cs.length ≤ fuel → EndsNumber rest →
    readMembers (fuel + 1) sofar (cs ++ rest) = readMoreMembers fuel (m :: sofar) rest

/-- A text is read as the members of an object up to its end. -/
structure MembersReadAs (cs : List Char) (members : List (Option String × Json)) : Prop where
  start : ∀ rest, (skipSpace (cs ++ rest)).head? ≠ some '\x7d'
  read : ∀ fuel sofar rest, 2 * cs.length < fuel →
    readMembers fuel sofar (cs ++ '\x7d' :: rest) =
      some (ofMembers (sofar.reverse ++ members), rest)

/-- A value takes a first step to read. -/
theorem ReadsAs.of_step {c : Char} {tail : List Char} {v : Json} (hspace : isSpace c = false)
    (hc : c ≠ ']')
    (step : ∀ fuel rest, 2 * (tail.length + 1) ≤ fuel + 1 → EndsNumber rest →
      readValue (fuel + 1) (c :: (tail ++ rest)) = some (v, rest)) : ReadsAs (c :: tail) v := by
  refine ⟨⟨c, tail, rfl, hspace, hc⟩, fun fuel rest hf hrest => ?_⟩
  rw [List.length_cons] at hf
  obtain ⟨fuel, rfl⟩ : ∃ n, fuel = n + 1 := ⟨fuel - 1, by omega⟩
  exact step fuel rest hf hrest

theorem readsAs_null : ReadsAs ['n', 'u', 'l', 'l'] null :=
  .of_step rfl (by decide) fun _ _ _ _ => rfl

theorem readsAs_true : ReadsAs ['t', 'r', 'u', 'e'] (bool true) :=
  .of_step rfl (by decide) fun _ _ _ _ => rfl

theorem readsAs_false : ReadsAs ['f', 'a', 'l', 's', 'e'] (bool false) :=
  .of_step rfl (by decide) fun _ _ _ _ => rfl

/-- A number is read where a value is expected. -/
theorem readValue_number (fuel : Nat) {c : Char} (cs : List Char)
    (hc : c = '-' ∨ c.isDigit = true) :
    readValue (fuel + 1) (c :: cs) =
      (readNumber (c :: cs)).map fun (numeral, rest) => (number (String.ofList numeral), rest) := by
  have hs : isSpace c = false := by
    rcases hc with rfl | hc
    · rfl
    · exact isSpace_of_isDigit hc
  rw [readValue, skipSpace_cons hs]
  split
  case h_7 => rfl
  all_goals
    rename_i heq
    cases heq
    rcases hc with hc | hc <;> cases hc

theorem readsAs_number {cs : List Char} (h : IsNumeral cs) :
    ReadsAs cs (number (String.ofList cs)) := by
  obtain ⟨c, tail, rfl, hc⟩ := h.start
  have hspace : isSpace c = false := by
    rcases hc with rfl | hc
    · rfl
    · exact isSpace_of_isDigit hc
  have hend : c ≠ ']' := by
    rintro rfl
    rcases hc with hc | hc <;> cases hc
  refine .of_step hspace hend fun fuel rest _ hrest => ?_
  have hread := h.read rest hrest
  rw [List.cons_append] at hread
  rw [readValue_number fuel _ hc, hread]
  rfl

theorem length_le_flatMap_chars (pieces : List Piece) :
    pieces.length ≤ (pieces.flatMap Piece.chars).length := by
  induction pieces with
  | nil => exact Nat.le_refl 0
  | cons p ps ih =>
    have hp : 1 ≤ p.chars.length := by cases p <;> simp [Piece.chars]
    rw [List.flatMap_cons, List.length_append, List.length_cons]
    omega

theorem readValue_quote (fuel : Nat) (cs : List Char) :
    readValue (fuel + 1) ('"' :: cs) =
      (readString fuel cs).map fun (text, rest) => (text.elim unreadable string, rest) := rfl

/-- A string is read back as what its pieces stand for. -/
theorem readsAs_quotes {pieces : List Piece} {o : Option String}
    (ho : ∀ text, o = some text ↔ Stands pieces text) :
    ReadsAs (quotes pieces) (o.elim unreadable string) :=
  .of_step rfl (by decide) fun fuel rest hf _ => by
    have hlen := length_le_flatMap_chars pieces
    rw [List.length_append, List.length_singleton] at hf
    rw [readValue_quote, List.append_assoc, List.singleton_append,
      readString_pieces pieces ho rest (show pieces.length < fuel by omega)]
    rfl

/-- A value with spaces around it is read up to the spaces after it. -/
theorem ReadsAs.spaced {before cs after : List Char} {v : Json} (hbefore : IsSpaces before)
    (h : ReadsAs cs v) (hafter : IsSpaces after) : SpacedReadsAs (before ++ (cs ++ after)) v := by
  refine ⟨fun rest => ?_, fun fuel rest hf hrest => ⟨after, hafter, ?_⟩⟩
  · obtain ⟨c, tail, rfl, hspace, hc⟩ := h.start
    rw [List.append_assoc, skipSpace_append hbefore, List.cons_append, List.cons_append,
      skipSpace_cons hspace]
    simpa using hc
  · rw [List.length_append, List.length_append] at hf
    rw [List.append_assoc, ← readValue_skipSpace, skipSpace_append hbefore, readValue_skipSpace,
      List.append_assoc]
    exact h.read fuel _ (by omega) (hrest.append hafter)

theorem endsNumber_comma (cs : List Char) : EndsNumber (',' :: cs) :=
  endsNumber_cons _ rfl (by decide) (by decide) (by decide)

/-! ### Arrays -/

theorem readItems_of_readValue {fuel : Nat} {cs rest : List Char} {v : Json}
    (h : readValue fuel cs = some (v, rest)) (sofar : List Json) :
    readItems (fuel + 1) sofar cs = readMoreItems fuel (v :: sofar) rest := by
  rw [readItems, h]
  rfl

theorem SpacedReadsAs.lastItem {cs : List Char} {v : Json} (h : SpacedReadsAs cs v) :
    ItemsReadAs cs [v] := by
  refine ⟨h.start, fun fuel sofar rest hf => ?_⟩
  obtain ⟨fuel, rfl⟩ : ∃ n, fuel = n + 1 := ⟨fuel - 1, by omega⟩
  obtain ⟨ws, hws, hread⟩ := h.read fuel (']' :: rest) (by omega)
    (endsNumber_cons _ rfl (by decide) (by decide) (by decide))
  rw [readItems_of_readValue hread, readMoreItems, skipSpace_append hws, skipSpace_cons rfl]
  simp

theorem SpacedReadsAs.moreItems {cs more : List Char} {v : Json} {items : List Json}
    (h : SpacedReadsAs cs v) (hmore : ItemsReadAs more items) :
    ItemsReadAs (cs ++ ',' :: more) (v :: items) := by
  refine ⟨fun rest => ?_, fun fuel sofar rest hf => ?_⟩
  · rw [List.append_assoc]
    exact h.start _
  · obtain ⟨fuel, rfl⟩ : ∃ n, fuel = n + 1 := ⟨fuel - 1, by omega⟩
    rw [List.length_append, List.length_cons] at hf
    -- a step for the item, and the rest of the fuel for its text and for the items after it
    obtain ⟨ws, hws, hread⟩ := h.read fuel (',' :: (more ++ ']' :: rest)) (by omega)
      (endsNumber_comma _)
    rw [List.append_assoc, List.cons_append, readItems_of_readValue hread, readMoreItems,
      skipSpace_append hws, skipSpace_cons rfl]
    simp [hmore.read fuel _ rest (show 2 * more.length < fuel by omega)]

theorem readValue_bracket (fuel : Nat) (cs : List Char) :
    readValue (fuel + 1) ('[' :: cs) =
      match skipSpace cs with
      | ']' :: rest => some (array [], rest)
      | rest => readItems fuel [] rest := rfl

theorem readsAs_noItems {ws : List Char} (h : IsSpaces ws) :
    ReadsAs ('[' :: (ws ++ [']'])) (array []) :=
  .of_step rfl (by decide) fun fuel rest _ _ => by
    rw [readValue_bracket, List.append_assoc, skipSpace_append h, List.singleton_append,
      skipSpace_cons rfl]
    rfl

theorem ItemsReadAs.array {cs : List Char} {items : List Json} (h : ItemsReadAs cs items) :
    ReadsAs ('[' :: (cs ++ [']'])) (array items) :=
  .of_step rfl (by decide) fun fuel rest hf _ => by
    rw [List.length_append, List.length_singleton] at hf
    have hstart := h.start (']' :: rest)
    have hread := h.read fuel [] rest (by omega)
    rw [← readItems_skipSpace] at hread
    rw [readValue_bracket, List.append_assoc, List.singleton_append]
    -- the first item does not look like the end of the array
    split
    · rename_i heq
      rw [heq] at hstart
      exact absurd rfl hstart
    · exact hread

/-! ### Objects -/

theorem SpacedReadsAs.member {before between cs : List Char} {pieces : List Piece}
    {name : Option String} {v : Json} (hbefore : IsSpaces before)
    (hname : ∀ text, name = some text ↔ Stands pieces text) (hbetween : IsSpaces between)
    (h : SpacedReadsAs cs v) :
    MemberReadsAs (before ++ (quotes pieces ++ (between ++ ':' :: cs))) (name, v) := by
  have hquotes (rest : List Char) : before ++ (quotes pieces ++ (between ++ ':' :: cs)) ++ rest =
      before ++ '"' :: (pieces.flatMap Piece.chars ++ '"' :: (between ++ ':' :: (cs ++ rest))) := by
    simp [quotes]
  refine ⟨fun rest => ?_, fun fuel sofar rest hf hrest => ?_⟩
  · rw [hquotes, skipSpace_append hbefore, skipSpace_cons rfl]
    simp
  · have hlen := length_le_flatMap_chars pieces
    simp only [quotes, List.length_append, List.length_cons] at hf
    obtain ⟨ws, hws, hread⟩ := h.read fuel rest (by omega) hrest
    rw [hquotes, readMembers, skipSpace_append hbefore, skipSpace_cons rfl]
    simp only [readString_pieces pieces hname _ (show pieces.length < fuel by omega),
      skipSpace_append hbetween, skipSpace_cons (c := ':') rfl, hread, skipSpace_append hws]
    rfl

theorem MemberReadsAs.last {cs : List Char} {m : Option String × Json} (h : MemberReadsAs cs m) :
    MembersReadAs cs [m] := by
  refine ⟨h.start, fun fuel sofar rest hf => ?_⟩
  obtain ⟨fuel, rfl⟩ : ∃ n, fuel = n + 1 := ⟨fuel - 1, by omega⟩
  rw [h.read fuel sofar _ (by omega) (endsNumber_cons _ rfl (by decide) (by decide) (by decide))]
  simp [readMoreMembers, skipSpace_cons (c := '\x7d') rfl]

theorem MemberReadsAs.more {cs more : List Char} {m : Option String × Json}
    {members : List (Option String × Json)} (h : MemberReadsAs cs m)
    (hmore : MembersReadAs more members) : MembersReadAs (cs ++ ',' :: more) (m :: members) := by
  refine ⟨fun rest => ?_, fun fuel sofar rest hf => ?_⟩
  · rw [List.append_assoc]
    exact h.start _
  · obtain ⟨fuel, rfl⟩ : ∃ n, fuel = n + 1 := ⟨fuel - 1, by omega⟩
    rw [List.length_append, List.length_cons] at hf
    rw [List.append_assoc, List.cons_append, h.read fuel sofar _ (by omega) (endsNumber_comma _)]
    simp only [readMoreMembers, skipSpace_cons (c := ',') rfl]
    rw [hmore.read fuel _ rest (by omega)]
    simp

theorem readValue_brace (fuel : Nat) (cs : List Char) :
    readValue (fuel + 1) ('\x7b' :: cs) =
      match skipSpace cs with
      | '\x7d' :: rest => some (object [], rest)
      | rest => readMembers fuel [] rest := rfl

theorem readsAs_noMembers {ws : List Char} (h : IsSpaces ws) :
    ReadsAs ('\x7b' :: (ws ++ ['\x7d'])) (object []) :=
  .of_step rfl (by decide) fun fuel rest _ _ => by
    rw [readValue_brace, List.append_assoc, skipSpace_append h, List.singleton_append,
      skipSpace_cons rfl]
    rfl

theorem MembersReadAs.object {cs : List Char} {members : List (Option String × Json)}
    (h : MembersReadAs cs members) :
    ReadsAs ('\x7b' :: (cs ++ ['\x7d'])) (ofMembers members) :=
  .of_step rfl (by decide) fun fuel rest hf _ => by
    rw [List.length_append, List.length_singleton] at hf
    have hstart := h.start ('\x7d' :: rest)
    have hread := h.read fuel [] rest (by omega)
    rw [← readMembers_skipSpace] at hread
    rw [readValue_brace, List.append_assoc, List.singleton_append]
    split
    · rename_i heq
      rw [heq] at hstart
      exact absurd rfl hstart
    · exact hread

/-- A list is read if its items are. -/
theorem mapM_eq_some {α β : Type} {read : β → Option α} {ys : List β} {xs : List α}
    (h : List.Forall₂ (fun y x => read y = some x) ys xs) : ys.mapM read = some xs := by
  induction h with
  | nil => rfl
  | cons hread _ ih =>
    rw [List.mapM_cons, hread, ih]
    rfl

theorem mapM_map_eq_some {α β : Type} {write : α → β} {read : β → Option α} {xs : List α}
    (h : ∀ x ∈ xs, read (write x) = some x) : (xs.map write).mapM read = some xs :=
  mapM_eq_some (List.forall₂_map_left_iff.2 (List.forall₂_same.2 h))

/-- Members with names are those of an object. -/
theorem ofMembers_map (members : List (String × Json)) :
    ofMembers (members.map fun m => (some m.1, m.2)) = object members := by
  have hread : (members.map fun m => (some m.1, m.2)).mapM
      (fun m : Option String × Json => m.1.map fun name => (name, m.2)) = some members :=
    mapM_map_eq_some fun _ _ => rfl
  rw [ofMembers, hread]

theorem ofMembers_of_lost {members : List (Option String × Json)}
    (h : ∃ m ∈ members, m.1 = none) : ofMembers members = unreadable := by
  have hnone : (members.mapM fun m => m.1.map fun name => (name, m.2)) = none := by
    obtain ⟨m, hm, hname⟩ := h
    induction members with
    | nil => cases hm
    | cons first members ih =>
      rw [List.mapM_cons]
      rcases List.mem_cons.1 hm with rfl | hm
      · rw [hname]
        rfl
      · cases first.1 <;> simp [ih hm]
  rw [ofMembers, hnone]

/-! ### Texts -/

mutual

theorem Spells.readsAs {cs : List Char} {v : Json} : Spells cs v → ReadsAs cs v
  | .null => readsAs_null
  | .true => readsAs_true
  | .false => readsAs_false
  | .number h => readsAs_number (isNumeral_iff.2 h)
  | .string h => readsAs_quotes (o := some _) fun _ =>
      ⟨fun he => Option.some.inj he ▸ h, fun h' => congrArg some (h.unique h')⟩
  | .lostString h => readsAs_quotes (o := none) fun text =>
      ⟨nofun, fun h' => absurd h' (h text)⟩
  | .noItems h => readsAs_noItems h
  | .array h => h.readsAs.array
  | .noMembers h => readsAs_noMembers h
  | .object h => ofMembers_map _ ▸ h.readsAs.object
  | .lostObject h hlost => ofMembers_of_lost hlost ▸ h.readsAs.object

theorem SpellsSpaced.readsAs {cs : List Char} {v : Json} : SpellsSpaced cs v → SpacedReadsAs cs v
  | .mk hbefore h hafter => h.readsAs.spaced hbefore hafter

theorem SpellsItems.readsAs {cs : List Char} {items : List Json} :
    SpellsItems cs items → ItemsReadAs cs items
  | .last h => h.readsAs.lastItem
  | .more h hrest => h.readsAs.moreItems hrest.readsAs

theorem SpellsMember.readsAs {cs : List Char} {m : Option String × Json} :
    SpellsMember cs m → MemberReadsAs cs m
  | .mk hbefore hname hbetween h => h.readsAs.member hbefore hname hbetween

theorem SpellsMembers.readsAs {cs : List Char} {members : List (Option String × Json)} :
    SpellsMembers cs members → MembersReadAs cs members
  | .last h => h.readsAs.last
  | .more h hrest => h.readsAs.more hrest.readsAs

end

/-- Every text of a value is read as that value. -/
theorem parse_of_spells {text : String} {v : Json} (h : SpellsSpaced text.toList v) :
    parse text = some v := by
  obtain ⟨ws, hws, hread⟩ :=
    h.readsAs.read (2 * text.toList.length + 2) [] (by omega) endsNumber_nil
  rw [List.append_nil, List.append_nil] at hread
  have hend : skipSpace ws = [] := by
    have hskip := skipSpace_append hws []
    rwa [List.append_nil] at hskip
  rw [parse]
  simp only [hread, hend]
  rfl

end CodeReview.Json
