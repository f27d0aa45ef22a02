import CodeReview.Text.Pattern

/-!
# Patterns in two texts

A pattern sees of a place in a text the letters that follow, apart from case, where the line ends,
and where words start and end. A relation between the places of two texts that passes all of this on
(`Transfers`) carries every pattern from the one text to the other: by induction on the pattern with
the rest of the search as a continuation (`at?_transfer`), then along the text
(`foundFrom_transfer`). One case of it is a text within a longer one, where it stands between
characters that belong to no word (`found_between`).
-/

set_option autoImplicit false

namespace CodeReview.Text.Pattern

/-- What the places of two texts have in common if a pattern that is at the one is at the other. A
place is the character before it and the text after it. -/
structure Transfers (R : Option Char → List Char → Option Char → List Char → Prop) : Prop where
  step : ∀ {b b' : Option Char} {d : Char} {cs cs' : List Char}, R b (d :: cs) b' cs' →
    ∃ d' rest, cs' = d' :: rest ∧ (∀ c, sameLetter c d → sameLetter c d') ∧
      (d ≠ '\n' → d' ≠ '\n') ∧ R (some d) cs (some d') rest
  edge : ∀ {b b' : Option Char} {cs cs' : List Char}, R b cs b' cs' →
    isEdge b cs.head? → isEdge b' cs'.head?

/-- What goes on after a pattern at one place goes on at a related one. -/
def CarriesOver (R : Option Char → List Char → Option Char → List Char → Prop)
    (goOn goOn' : Option Char → List Char → Bool) : Prop :=
  ∀ {b b' : Option Char} {cs cs' : List Char}, R b cs b' cs' → goOn b cs → goOn' b' cs'

theorem skipping_of_goOn {goOn : Option Char → List Char → Bool} {b : Option Char} {cs : List Char}
    (h : goOn b cs) : skipping goOn b cs := by
  cases cs with
  | nil => exact h
  | cons c cs => rw [skipping, h, Bool.true_or]

theorem foundFrom_of_at? {p : Pattern} {b : Option Char} {cs : List Char}
    (h : p.at? (fun _ _ => true) b cs) : p.foundFrom b cs := by
  cases cs with
  | nil => exact h
  | cons c cs => rw [foundFrom, h, Bool.true_or]

variable {R : Option Char → List Char → Option Char → List Char → Prop}
  {goOn goOn' : Option Char → List Char → Bool} {b b' : Option Char} {cs cs' : List Char}

theorem skipping_transfer (hR : Transfers R) (hgo : CarriesOver R goOn goOn')
    (hr : R b cs b' cs') (h : skipping goOn b cs) : skipping goOn' b' cs' := by
  induction cs generalizing b b' cs' with
  | nil => exact skipping_of_goOn (hgo hr h)
  | cons d cs ih =>
    rw [skipping, Bool.or_eq_true, Bool.and_eq_true, bne_iff_ne] at h
    rcases h with h | ⟨hline, h⟩
    · exact skipping_of_goOn (hgo hr h)
    · obtain ⟨d', rest, rfl, -, hline', hrest⟩ := hR.step hr
      rw [skipping, ih hrest h, Bool.and_true, Bool.or_eq_true, bne_iff_ne]
      exact .inr (hline' hline)

theorem at?_transfer (hR : Transfers R) (p : Pattern) (hgo : CarriesOver R goOn goOn')
    (hr : R b cs b' cs') (h : p.at? goOn b cs) : p.at? goOn' b' cs' := by
  induction p generalizing goOn goOn' b b' cs cs' with
  | empty => exact hgo hr h
  | char c =>
    cases cs with
    | nil => cases h
    | cons d cs =>
      obtain ⟨d', rest, rfl, hsame, -, hrest⟩ := hR.step hr
      rw [at?, Bool.and_eq_true] at h ⊢
      exact ⟨hsame c h.1, hgo hrest h.2⟩
  | oneOf set =>
    cases cs with
    | nil => cases h
    | cons d cs =>
      obtain ⟨d', rest, rfl, hsame, -, hrest⟩ := hR.step hr
      rw [at?, Bool.and_eq_true, List.any_eq_true] at h ⊢
      obtain ⟨⟨c, hc, hcd⟩, h⟩ := h
      exact ⟨⟨c, hc, hsame c hcd⟩, hgo hrest h⟩
  | edge =>
    rw [at?, Bool.and_eq_true] at h ⊢
    exact ⟨hR.edge hr h.1, hgo hr h.2⟩
  | gap => exact skipping_transfer hR hgo hr h
  | seq p q ihp ihq => exact ihp (fun hr h => ihq hgo hr h) hr h
  | alt p q ihp ihq =>
    rw [at?, Bool.or_eq_true] at h ⊢
    exact h.imp (ihp hgo hr) (ihq hgo hr)

theorem foundFrom_transfer (hR : Transfers R) {p : Pattern} (hr : R b cs b' cs')
    (h : p.foundFrom b cs) : p.foundFrom b' cs' := by
  have hgo : CarriesOver R (fun _ _ => true) fun _ _ => true := fun _ h => h
  induction cs generalizing b b' cs' with
  | nil => exact foundFrom_of_at? (at?_transfer hR p hgo hr h)
  | cons d cs ih =>
    rw [foundFrom, Bool.or_eq_true] at h
    rcases h with h | h
    · exact foundFrom_of_at? (at?_transfer hR p hgo hr h)
    · obtain ⟨d', rest, rfl, -, -, hrest⟩ := hR.step hr
      rw [foundFrom, ih hrest h, Bool.or_true]

/-! ## A text within a longer one -/

theorem foundFrom_append {p : Pattern} {c : Char} {y : List Char} (h : p.foundFrom (some c) y)
    (b : Option Char) (x : List Char) : p.foundFrom b (x ++ c :: y) := by
  induction x generalizing b with
  | nil => rw [List.nil_append, foundFrom, h, Bool.or_true]
  | cons d x ih => rw [List.cons_append, foundFrom, ih (some d), Bool.or_true]

/-- A place in a text, and the same place with a character before the text that is as good as none
and a longer text after it. -/
def IsWithin (tail : List Char) (b : Option Char) (cs : List Char) (b' : Option Char)
    (cs' : List Char) : Prop :=
  b.any isWord = b'.any isWord ∧ cs' = cs ++ tail

theorem transfers_isWithin {d : Char} (hd : ¬ isWord d) (post : List Char) :
    Transfers (IsWithin (d :: post)) where
  step := by
    rintro b b' e cs cs' ⟨-, rfl⟩
    exact ⟨e, cs ++ d :: post, rfl, fun _ h => h, fun h => h, rfl, rfl⟩
  edge := by
    rintro b b' cs cs' ⟨hb, rfl⟩ h
    cases cs with
    | nil => simpa [isEdge, hb, hd] using h
    | cons e cs => simpa [isEdge, hb] using h

/-- A pattern in a text is found in a longer one if no word goes on beyond the ends of the text. -/
theorem found_between {p : Pattern} {line : List Char} (h : p.found line) {c d : Char}
    (hc : ¬ isWord c) (hd : ¬ isWord d) (pre post : List Char) :
    p.found (pre ++ c :: (line ++ d :: post)) := by
  have hstart : IsWithin (d :: post) none line (some c) (line ++ d :: post) :=
    ⟨by simp [hc], rfl⟩
  exact foundFrom_append (foundFrom_transfer (transfers_isWithin hd post) hstart h) none pre

end CodeReview.Text.Pattern
