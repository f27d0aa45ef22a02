import CodeReview.Proofs.Rules.ImportItems
import Mathlib.Data.Option.Basic

/-!
# The names that an import binds

`importedNames` reads one-line import statements with two searches. A plain statement is read as it
is written (`fromItems?_plain`, `importItems?_modules`), whatever blanks it starts with and whatever
comment ends it. A path that is not `Interrupted` by blanks is taken whole; the blanks in one that
is end it, and what comes next is neither `import` nor `as`, since no keyword is a part of a path.
So `import os . path as p` is read without its other name (`boundModule_text`), and a `from`
statement with such a path, or with a keyword that touches something else, is not recognised
(`fromItems?_not_plain`).
-/

set_option autoImplicit false

namespace CodeReview.Rules

open Text

/-! ## Words -/

/-- A text that does not start with a word character. -/
def StartsApart (cs : List Char) : Prop := ∀ c ∈ cs.head?, ¬ isWord c

theorem startsApart_cons {c : Char} {cs : List Char} : StartsApart (c :: cs) ↔ ¬ isWord c := by
  simp [StartsApart]

theorem startsApart_nil : StartsApart [] := by simp [StartsApart]

theorem startsApart_blank {b : List Char} (hne : b ≠ []) (hb : Blank b) (cs : List Char) :
    StartsApart (b ++ cs) := by
  obtain ⟨c, b, rfl⟩ := List.exists_cons_of_ne_nil hne
  exact startsApart_cons.2 (not_isWord_of_isBlank (blank_cons.1 hb).1)

theorem startsApart_append {b cs : List Char} (hb : Blank b) (hcs : StartsApart cs) :
    StartsApart (b ++ cs) := by
  cases b with
  | nil => exact hcs
  | cons c b => exact startsApart_cons.2 (not_isWord_of_isBlank (blank_cons.1 hb).1)

/-- The word that a text starts with. -/
def wordAt (cs : List Char) : List Char := cs.takeWhile isWord

theorem wordAt_append {w r : List Char} (hw : ∀ c ∈ w, isWord c) (hr : StartsApart r) :
    wordAt (w ++ r) = w := by
  rw [wordAt, List.takeWhile_append_of_pos hw]
  cases r with
  | nil => simp
  | cons c r => rw [List.takeWhile_cons_of_neg (startsApart_cons.1 hr), List.append_nil]

theorem wordAt_name (n : Name) {r : List Char} (hr : StartsApart r) :
    wordAt (n.chars ++ r) = n.chars :=
  wordAt_append (fun _ hc => n.isWord hc) hr

namespace Separated

variable {α : Type} {sep : Char} {chars : α → List Char}

/-- A list starts with the word that its first part starts with. -/
theorem wordAt_text {word : α → Name} (hsep : ¬ isWord sep)
    (hchars : ∀ x {r}, StartsApart r → wordAt (chars x ++ r) = (word x).chars) (s : Separated α)
    {r : List Char} (hr : StartsApart r) :
    wordAt (s.text sep chars ++ r) = (word s.first).chars := by
  cases s with
  | one x => exact hchars x hr
  | more x b a rest =>
    rw [text, List.append_assoc, List.append_assoc]
    exact hchars x (startsApart_append b.blank (startsApart_cons.2 hsep))

end Separated

/-! ## Paths -/

theorem not_isBlank_of_isPathChar {c : Char} (h : isPathChar c) : ¬ isBlank c := by
  simp only [isPathChar, Bool.or_eq_true, beq_iff_eq] at h
  rcases h with h | rfl
  · exact not_isBlank_of_isWord h
  · decide

theorem not_isPathChar_head {b : List Char} (hne : b ≠ []) (hb : Blank b) {cs : List Char} :
    ∀ c ∈ (b ++ cs).head?, ¬ isPathChar c :=
  fun c hc hpath => not_isBlank_of_isPathChar hpath (hb.isBlank_head hne c hc)

theorem isPathChar_of_isWord {c : Char} (h : isWord c) : isPathChar c := by
  simp [isPathChar, h]

theorem isPathChar_name (n : Name) : ∀ c ∈ n.chars, isPathChar c :=
  fun _ hc => isPathChar_of_isWord (n.isWord hc)

theorem isPathChar_point : ∀ c ∈ ['.'], isPathChar c := List.forall_mem_singleton.2 (by decide)

/-- A path with blanks in it: `w` stands before the first of them, and `next` after them does not
start with a keyword. -/
structure Interrupted (cs w b next : List Char) : Prop where
  eq : cs = w ++ (b ++ next)
  ne : w ≠ []
  path : ∀ c ∈ w, isPathChar c
  blank_ne : b ≠ []
  blank : Blank b
  filled : StartsFilled next
  word : String.ofList (wordAt next) ∉ Python.reserved

theorem Interrupted.append {cs w b next p : List Char} (h : Interrupted cs w b next)
    (hp : ∀ c ∈ p, isPathChar c) : Interrupted (p ++ cs) (p ++ w) b next where
  eq := by rw [h.eq, List.append_assoc]
  ne := List.append_ne_nil_of_right_ne_nil p h.ne
  path := List.forall_mem_append.2 ⟨hp, h.path⟩
  blank_ne := h.blank_ne
  blank := h.blank
  filled := h.filled
  word := h.word

theorem wordAt_apart {c : Char} (hc : ¬ isWord c) (cs : List Char) : wordAt (c :: cs) = [] :=
  List.takeWhile_cons_of_neg hc

theorem takeWhile_name (n : Name) {r : List Char} (hr : ∀ c ∈ r.head?, c = '.') :
    (n.chars ++ r).takeWhile (· != '.') = n.chars := by
  have hname : ∀ c ∈ n.chars, (c != '.') = true := fun c hc => by
    rw [bne_iff_ne]
    rintro rfl
    have hword := n.isWord hc
    revert hword
    decide
  rw [List.takeWhile_append_of_pos hname]
  cases r with
  | nil => simp
  | cons c r =>
    obtain rfl := hr c rfl
    simp

theorem takeWhile_whole_name (n : Name) : n.chars.takeWhile (· != '.') = n.chars := by
  have h := takeWhile_name n (r := []) (by simp)
  rwa [List.append_nil] at h

namespace Dotted

variable {d : Dotted}

theorem wordAt_chars (d : Dotted) {r : List Char} (hr : StartsApart r) :
    wordAt (d.chars ++ r) = d.first.chars :=
  have hname : ∀ (x : Name) {r}, StartsApart r → wordAt (x.chars ++ r) = (id x).chars :=
    fun x _ => wordAt_name x
  Separated.wordAt_text (by decide) hname d hr

theorem isPathChar_of_tight (h : d.Tight) : ∀ c ∈ d.chars, isPathChar c := by
  induction d with
  | one x => exact isPathChar_name x
  | more x b a rest ih =>
    obtain ⟨hb, ha, hrest⟩ := h
    rw [Dotted.chars, Separated.text, hb, ha]
    exact List.forall_mem_append.2 ⟨isPathChar_name x, List.forall_mem_cons.2 ⟨by decide, ih hrest⟩⟩

theorem takeWhile_of_tight (h : d.Tight) : d.chars.takeWhile (· != '.') = d.first.chars := by
  cases d with
  | one x => exact takeWhile_whole_name x
  | more x b a rest =>
    rw [Dotted.chars, Separated.text, h.1]
    exact takeWhile_name x (by simp)

theorem exists_interrupted (h : ¬ d.Tight) {r : List Char} (hr : StartsApart r) :
    ∃ w b next, Interrupted (d.chars ++ r) w b next ∧
      w.takeWhile (· != '.') = d.first.chars := by
  induction d with
  | one x => exact absurd trivial h
  | more x b a rest ih =>
    have hpoint : ∀ c ∈ x.chars ++ ['.'], isPathChar c :=
      List.forall_mem_append.2 ⟨isPathChar_name x, isPathChar_point⟩
    have hsplit : Dotted.chars (.more x b a rest) ++ r =
        x.chars ++ (b.chars ++ '.' :: (a.chars ++ (Dotted.chars rest ++ r))) := by
      simp [Dotted.chars, Separated.text]
    rw [hsplit]
    -- the first blanks stand before the first point, right after it, or within the rest
    rcases eq_or_ne b.chars [] with hb | hb
    · rcases eq_or_ne a.chars [] with ha | ha
      · obtain ⟨w, b', next, hi, -⟩ := ih fun ht => h ⟨hb, ha, ht⟩
        refine ⟨x.chars ++ ['.'] ++ w, b', next, ?_, ?_⟩
        · simpa [hb, ha] using hi.append hpoint
        · rw [List.append_assoc]
          exact takeWhile_name x (by simp)
      · refine ⟨x.chars ++ ['.'], a.chars, Dotted.chars rest ++ r, ?_, takeWhile_name x (by simp)⟩
        exact
          { eq := by simp [hb]
            ne := by simp
            path := hpoint
            blank_ne := ha
            blank := a.blank
            filled := written_dotted.startsFilled rest r
            word := wordAt_chars rest hr ▸ rest.first.not_reserved }
    · refine ⟨x.chars, b.chars, '.' :: (a.chars ++ (Dotted.chars rest ++ r)), ?_,
        takeWhile_whole_name x⟩
      exact
        { eq := rfl
          ne := x.chars_ne
          path := isPathChar_name x
          blank_ne := hb
          blank := b.blank
          filled := startsFilled_cons.2 (by decide)
          word := by
            rw [wordAt_apart (by decide)]
            decide }

end Dotted

/-! ## Modules -/

theorem wordAt_of_fields {cs piece : List Char} {pieces : List (List Char)}
    (hcs : StartsFilled cs) (h : fields cs = piece :: pieces) (hpiece : ∀ c ∈ piece, isWord c) :
    wordAt cs = piece := by
  cases cs with
  | nil => cases h
  | cons c cs =>
    have hc : ¬ isBlank c := startsFilled_cons.1 hcs
    have htake : (c :: cs).takeWhile (fun c => !isBlank c) ≠ [] := by simp [hc]
    have hdrop : ∀ d ∈ ((c :: cs).dropWhile fun c => !isBlank c).head?, isBlank d := fun d hd => by
      have hnot := List.head?_dropWhile_not (fun c => !isBlank c) (c :: cs)
      rw [Option.mem_def] at hd
      simpa [hd] using hnot
    rw [← List.takeWhile_append_dropWhile (p := fun c => !isBlank c) (l := c :: cs)] at h ⊢
    rw [fields_append htake (fun d hd => by simpa using List.mem_takeWhile_imp hd) hdrop] at h
    obtain ⟨hp, -⟩ := List.cons.inj h
    rw [hp]
    exact wordAt_append hpiece fun d hd => not_isWord_of_isBlank (hdrop d hd)

namespace Interrupted

variable {cs w b next : List Char}

theorem fields_eq (h : Interrupted cs w b next) : fields cs = w :: fields next := by
  rw [h.eq, fields_append h.ne (fun c hc => not_isBlank_of_isPathChar (h.path c hc))
    (h.blank.isBlank_head h.blank_ne), fields_skip h.blank]

theorem givenName?_eq (h : Interrupted cs w b next) : givenName? (fields cs) = none := by
  rw [h.fields_eq]
  match hf : fields next with
  | [] => rfl
  | [piece] => rfl
  | piece :: newName :: pieces =>
    -- a second piece `as` would be a keyword that starts `next`
    have hne : piece ≠ "as".toList := by
      rintro rfl
      have hword := wordAt_of_fields h.filled hf isWord_as
      exact h.word (by rw [hword]; decide)
    exact if_neg (by rwa [beq_iff_eq])

end Interrupted

theorem Item.startsApart_alias (alias? : Option Alias) {r : List Char} (hr : StartsApart r) :
    StartsApart (alias?.elim [] Alias.chars ++ r) := by
  cases alias? with
  | none => exact hr
  | some a =>
    rw [Option.elim_some, Alias.chars, List.append_assoc]
    exact startsApart_blank a.before_ne a.before.blank _

theorem boundModule_text (i : Item Dotted) :
    boundModule (i.text Dotted.chars) = some i.read.chars := by
  by_cases h : i.subject.Tight
  · rw [boundModule, Item.text, fields_item (written_dotted.ne i.subject)
      fun c hc => not_isBlank_of_isPathChar (Dotted.isPathChar_of_tight h c hc)]
    simp only [List.head?_cons, Option.map_some, givenName?_aliasPieces,
      Dotted.takeWhile_of_tight h, Item.read, if_pos h, Item.bound]
    cases i.alias? <;> rfl
  · have hr : StartsApart (i.alias?.elim [] Alias.chars) := by
      have halias := Item.startsApart_alias i.alias? startsApart_nil
      rwa [List.append_nil] at halias
    obtain ⟨w, b, next, hi, hw⟩ := Dotted.exists_interrupted h hr
    rw [boundModule, Item.text, hi.givenName?_eq, hi.fields_eq, List.head?_cons, Option.map_some,
      Option.getD_none, hw, Item.read, if_neg h]

/-! ## The parts of a statement -/

namespace Origin

theorem chars_ne (o : Origin) : o.chars ≠ [] := by
  cases o with
  | point => exact List.cons_ne_nil _ _
  | named d => exact written_dotted.ne d
  | above a rest => exact List.cons_ne_nil _ _

theorem startsFilled (o : Origin) (r : List Char) : StartsFilled (o.chars ++ r) := by
  cases o with
  | point => exact startsFilled_cons.2 (by decide)
  | named d => exact written_dotted.startsFilled d r
  | above a rest => exact startsFilled_cons.2 (by decide)

theorem isPathChar_of_tight {o : Origin} (h : o.Tight) : ∀ c ∈ o.chars, isPathChar c := by
  induction o with
  | point => exact isPathChar_point
  | named d => exact Dotted.isPathChar_of_tight h
  | above a rest ih =>
    rw [chars, h.1]
    exact List.forall_mem_cons.2 ⟨by decide, ih h.2⟩

/-- No keyword stands where a module is expected. -/
theorem wordAt_not_reserved (o : Origin) {r : List Char} (hr : o.EndsWithName → StartsApart r) :
    String.ofList (wordAt (o.chars ++ r)) ∉ Python.reserved := by
  cases o with
  | named d =>
    rw [chars, Dotted.wordAt_chars d (hr trivial)]
    exact d.first.not_reserved
  | point | above =>
    rw [chars, List.cons_append, wordAt_apart (by decide)]
    decide

theorem exists_interrupted {o : Origin} (h : ¬ o.Tight) {r : List Char}
    (hr : o.EndsWithName → StartsApart r) :
    ∃ w b next, Interrupted (o.chars ++ r) w b next := by
  induction o with
  | point => exact absurd trivial h
  | named d =>
    obtain ⟨w, b, next, hi, -⟩ := Dotted.exists_interrupted h (hr trivial)
    exact ⟨w, b, next, hi⟩
  | above a rest ih =>
    have hsplit : (above a rest).chars ++ r = ['.'] ++ (a.chars ++ (rest.chars ++ r)) := by
      simp [chars]
    rw [hsplit]
    rcases eq_or_ne a.chars [] with ha | ha
    · obtain ⟨w, b, next, hi⟩ := ih (fun ht => h ⟨ha, ht⟩) hr
      exact ⟨['.'] ++ w, b, next, by simpa [ha] using hi.append isPathChar_point⟩
    · refine ⟨['.'], a.chars, rest.chars ++ r, ?_⟩
      exact
        { eq := rfl
          ne := List.cons_ne_nil _ _
          path := isPathChar_point
          blank_ne := ha
          blank := a.blank
          filled := rest.startsFilled r
          word := rest.wordAt_not_reserved hr }

end Origin

theorem Item.wordAt_text (i : Item Name) {r : List Char} (hr : StartsApart r) :
    wordAt (i.text Name.chars ++ r) = i.subject.chars := by
  rw [Item.text, List.append_assoc, wordAt_name i.subject (Item.startsApart_alias i.alias? hr)]

namespace Members

variable (m : Members) {r : List Char}

/-- No keyword stands where members are expected. -/
theorem wordAt_not_reserved (hr : StartsApart r) :
    String.ofList (wordAt (m.chars ++ r)) ∉ Python.reserved := by
  cases m with
  | list items comma =>
    have hcomma : StartsApart (commaChars comma ++ r) := by
      cases comma with
      | none => exact hr
      | some b =>
        rw [commaChars, Option.elim_some, List.append_assoc]
        exact startsApart_append b.blank (startsApart_cons.2 (by decide))
    rw [chars, List.append_assoc, Separated.wordAt_text (by decide) Item.wordAt_text items hcomma]
    exact items.first.subject.not_reserved
  | star | group =>
    rw [chars, List.cons_append, wordAt_apart (by decide)]
    decide

theorem startsFilled : StartsFilled (m.chars ++ r) := by
  cases m with
  | star => exact startsFilled_cons.2 (by decide)
  | list items comma =>
    rw [chars, List.append_assoc]
    exact written_name.item.startsFilled_text ',' items _
  | group opening items comma closing => exact startsFilled_cons.2 (by decide)

theorem not_isPathChar (hm : ¬ m.StartsWithName) : ∀ c ∈ (m.chars ++ r).head?, ¬ isPathChar c := by
  cases m with
  | list items comma => exact absurd trivial hm
  | star | group =>
    simp only [chars, List.cons_append, List.head?_cons, Option.mem_some_iff, forall_eq']
    decide

theorem chars_ne : m.chars ≠ [] := by
  cases m with
  | star => exact List.cons_ne_nil _ _
  | list items comma =>
    exact List.append_ne_nil_of_left_ne_nil (written_name.item.text_ne ',' items) _
  | group opening items comma closing => exact List.cons_ne_nil _ _

end Members

theorem isWord_import : ∀ c ∈ "import".toList, isWord c := List.all_eq_true.1 (by decide)

theorem startsFilled_import (r : List Char) : StartsFilled ("import".toList ++ r) :=
  startsFilled_cons.2 (by decide)

theorem startsFilled_from (r : List Char) : StartsFilled ("from".toList ++ r) :=
  startsFilled_cons.2 (by decide)

theorem ImportStatement.members_chars_append (m : MemberImport) (r : List Char) :
    (members m).chars ++ r = "from".toList ++ (m.afterFrom.chars ++ (m.origin.chars ++
      (m.beforeImport.chars ++ ("import".toList ++ (m.afterImport.chars ++
        (m.members.chars ++ r)))))) := by
  rw [members_chars, List.append_assoc, List.append_assoc, List.append_assoc, List.append_assoc,
    List.append_assoc, List.append_assoc]

theorem ImportStatement.startsFilled (s : ImportStatement) (r : List Char) :
    StartsFilled (s.chars ++ r) := by
  cases s with
  | modules m => exact startsFilled_import _
  | members m => exact startsFilled_from _

/-! ## The two searches -/

theorem exists_of_afterImport? {cs rest : List Char} (h : afterImport? cs = some rest) :
    ∃ gap, gap ≠ [] ∧ Blank gap ∧ cs = "import".toList ++ (gap ++ rest) := by
  simp only [afterImport?, Option.bind_eq_bind, Option.bind_eq_some_iff, after?_eq_some_iff,
    afterBlanks?_eq_some_iff] at h
  obtain ⟨_, rfl, _, _, -, gap, hne, hgap, rfl⟩ := h
  exact ⟨gap, hne, hgap, rfl⟩

theorem afterImport?_append {gap rest : List Char} (hne : gap ≠ []) (hgap : Blank gap)
    (hrest : rest ≠ []) (hfilled : StartsFilled rest) :
    afterImport? ("import".toList ++ (gap ++ rest)) = some rest := by
  have hlength : 1 < (gap ++ rest).length := by
    have := List.length_pos_of_ne_nil hne
    have := List.length_pos_of_ne_nil hrest
    rw [List.length_append]
    omega
  rw [afterImport?, after?_append, Option.bind_eq_bind, Option.bind_some, guard, if_pos hlength]
  exact afterBlanks?_append hne hgap hfilled

theorem afterImport?_eq_none {cs : List Char} (h : String.ofList (wordAt cs) ∉ Python.reserved) :
    afterImport? cs = none := by
  rw [Option.eq_none_iff_forall_ne_some]
  intro rest hrest
  obtain ⟨gap, hne, hgap, rfl⟩ := exists_of_afterImport? hrest
  rw [wordAt_append isWord_import (startsApart_blank hne hgap rest)] at h
  exact h (by decide)

theorem afterImport?_of_startsFilled {cs : List Char} (h : StartsFilled cs) :
    afterImport? ("import".toList ++ cs) = none := by
  rw [Option.eq_none_iff_forall_ne_some]
  intro rest hrest
  obtain ⟨gap, hne, hgap, heq⟩ := exists_of_afterImport? hrest
  obtain rfl := List.append_cancel_left heq
  obtain ⟨c, gap, rfl⟩ := List.exists_cons_of_ne_nil hne
  exact startsFilled_cons.1 h (blank_cons.1 hgap).1

theorem fromItems?_of_startsFilled {indent cs : List Char} (hindent : Blank indent)
    (h : StartsFilled cs) : fromItems? (indent ++ ("from".toList ++ cs)) = none := by
  rw [fromItems?, trimLeft_append hindent (startsFilled_from cs), after?_append,
    Option.bind_eq_bind, Option.bind_some, afterBlanks?_of_startsFilled h]
  rfl

/-- What is found after the path of a module. -/
theorem fromItems?_path {indent gap path rest : List Char} (hindent : Blank indent)
    (hgap_ne : gap ≠ []) (hgap : Blank gap) (hne : path ≠ []) (hpath : ∀ c ∈ path, isPathChar c)
    (hrest : ∀ c ∈ rest.head?, ¬ isPathChar c) :
    fromItems? (indent ++ ("from".toList ++ (gap ++ (path ++ rest)))) =
      (afterBlanks? rest).bind afterImport? := by
  have hfilled : StartsFilled (path ++ rest) := by
    intro c hc
    rw [List.head?_append_of_ne_nil _ hne] at hc
    exact not_isBlank_of_isPathChar (hpath c (List.mem_of_mem_head? hc))
  have hdrop : (path ++ rest).dropWhile isPathChar = rest := by
    rw [List.dropWhile_append_of_pos hpath]
    cases rest with
    | nil => rfl
    | cons c rest => exact List.dropWhile_cons_of_neg (hrest c rfl)
  have hlength : rest.length < (path ++ rest).length := by
    have := List.length_pos_of_ne_nil hne
    rw [List.length_append]
    omega
  rw [fromItems?, trimLeft_append hindent (startsFilled_from _), after?_append,
    Option.bind_eq_bind, Option.bind_some, afterBlanks?_append hgap_ne hgap hfilled,
    Option.bind_some]
  simp only [hdrop, guard, if_pos hlength]
  rfl

/-! ## Lines -/

section

variable {indent r : List Char}

theorem fromItems?_plain {m : MemberImport} (hm : m.Plain) (hindent : Blank indent) :
    fromItems? (indent ++ ((ImportStatement.members m).chars ++ r)) =
      some (m.members.chars ++ r) := by
  have hchars : m.members.chars ++ r ≠ [] := List.append_ne_nil_of_left_ne_nil m.members.chars_ne r
  rw [ImportStatement.members_chars_append,
    fromItems?_path hindent hm.afterFrom m.afterFrom.blank m.origin.chars_ne
      (Origin.isPathChar_of_tight hm.origin)
      (not_isPathChar_head hm.beforeImport m.beforeImport.blank),
    afterBlanks?_append hm.beforeImport m.beforeImport.blank (startsFilled_import _),
    Option.bind_some]
  exact afterImport?_append hm.afterImport m.afterImport.blank hchars m.members.startsFilled

theorem fromItems?_not_plain {m : MemberImport} (hm : ¬ m.Plain) (hindent : Blank indent)
    (hr : StartsApart r) :
    fromItems? (indent ++ ((ImportStatement.members m).chars ++ r)) = none := by
  rw [ImportStatement.members_chars_append]
  -- the search gives up after `from`, within the module, around `import`, or after it
  by_cases hfrom : m.afterFrom.chars = []
  · rw [hfrom, List.nil_append]
    exact fromItems?_of_startsFilled hindent (m.origin.startsFilled _)
  by_cases horigin : m.origin.Tight
  · have horigin_path := Origin.isPathChar_of_tight horigin
    by_cases hbefore : m.beforeImport.chars = []
    · -- `import` touches a point and is read as a part of the path
      have hpath : ∀ c ∈ m.origin.chars ++ "import".toList, isPathChar c :=
        List.forall_mem_append.2
          ⟨horigin_path, fun c hc => isPathChar_of_isWord (isWord_import c hc)⟩
      rw [hbefore, List.nil_append, ← List.append_assoc m.origin.chars]
      by_cases hafter : m.afterImport.chars = []
      · have hname : ¬ m.members.StartsWithName := fun h => m.afterImport_ne h hafter
        rw [hafter, List.nil_append, fromItems?_path hindent hfrom m.afterFrom.blank (by simp) hpath
          (m.members.not_isPathChar hname), afterBlanks?_of_startsFilled m.members.startsFilled,
          Option.bind_none]
      · rw [fromItems?_path hindent hfrom m.afterFrom.blank (by simp) hpath
          (not_isPathChar_head hafter m.afterImport.blank),
          afterBlanks?_append hafter m.afterImport.blank m.members.startsFilled, Option.bind_some]
        exact afterImport?_eq_none (m.members.wordAt_not_reserved hr)
    · have hafter : m.afterImport.chars = [] := by
        by_contra hafter
        exact hm ⟨hfrom, horigin, hbefore, hafter⟩
      rw [hafter, List.nil_append, fromItems?_path hindent hfrom m.afterFrom.blank
        m.origin.chars_ne horigin_path (not_isPathChar_head hbefore m.beforeImport.blank),
        afterBlanks?_append hbefore m.beforeImport.blank (startsFilled_import _),
        Option.bind_some]
      exact afterImport?_of_startsFilled m.members.startsFilled
  · have hnext : m.origin.EndsWithName → StartsApart (m.beforeImport.chars ++ ("import".toList ++
        (m.afterImport.chars ++ (m.members.chars ++ r)))) := fun h =>
      startsApart_blank (m.beforeImport_ne h) m.beforeImport.blank _
    obtain ⟨w, b, next, hi⟩ := Origin.exists_interrupted horigin hnext
    rw [hi.eq, fromItems?_path hindent hfrom m.afterFrom.blank hi.ne hi.path
      (not_isPathChar_head hi.blank_ne hi.blank),
      afterBlanks?_append hi.blank_ne hi.blank hi.filled, Option.bind_some]
    exact afterImport?_eq_none hi.word

theorem importItems?_members (m : MemberImport) (hindent : Blank indent) :
    importItems? (indent ++ ((ImportStatement.members m).chars ++ r)) = none := by
  rw [importItems?, trimLeft_append hindent (ImportStatement.startsFilled _ r)]
  rfl

theorem fromItems?_modules (m : ModuleImport) (hindent : Blank indent) :
    fromItems? (indent ++ ((ImportStatement.modules m).chars ++ r)) = none := by
  rw [fromItems?, trimLeft_append hindent (ImportStatement.startsFilled _ r)]
  rfl

theorem importItems?_modules (m : ModuleImport) (hindent : Blank indent) :
    importItems? (indent ++ ((ImportStatement.modules m).chars ++ r)) =
      some (m.items.text ',' (Item.text Dotted.chars) ++ r) := by
  have hne : m.items.text ',' (Item.text Dotted.chars) ++ r ≠ [] :=
    List.append_ne_nil_of_left_ne_nil (written_dotted.item.text_ne ',' m.items) r
  rw [importItems?, trimLeft_append hindent (ImportStatement.startsFilled _ r),
    ImportStatement.modules_chars, List.append_assoc, List.append_assoc]
  exact afterImport?_append m.gap_ne m.gap.blank hne
    (written_dotted.item.startsFilled_text ',' m.items r)

end

theorem isListMargin_of_blank {b : List Char} (hb : Blank b) : ∀ c ∈ b, isListMargin c :=
  fun c hc => isListMargin_of_isMargin (isMargin_of_isBlank (hb c hc))

theorem boundNames_modules (items : Separated (Item Dotted)) {b : List Char} (hb : Blank b)
    (comment? : Option (List Char)) :
    boundNames boundModule (items.text ',' (Item.text Dotted.chars) ++
        (b ++ comment?.elim [] ('#' :: ·))) =
      items.toList.map fun i => i.read.chars := by
  have htext := boundNames_text written_dotted.item boundModule_text (a := []) (by simp) items none
    (isListMargin_of_blank hb) comment?
  simpa [commaChars] using htext

theorem boundNames_members (m : Members) {b : List Char} (hb : Blank b)
    (comment? : Option (List Char)) :
    boundNames boundMember (m.chars ++ (b ++ comment?.elim [] ('#' :: ·))) =
      m.items.map fun i => (i.bound id).chars := by
  cases m with
  | star =>
    have hstar : Bare isListMargin ['*'] := bare_singleton (by decide)
    have hnone : (itemsOf ['*']).filterMap boundMember = [] := by decide
    have haround := boundNames_around boundMember (a := []) (by simp) hstar (by decide)
      (isListMargin_of_blank hb) comment?
    simpa [Members.chars, Members.items, hnone] using haround
  | list items comma =>
    have htext := boundNames_text written_name.item boundMember_text (a := []) (by simp) items comma
      (isListMargin_of_blank hb) comment?
    simpa [Members.chars, Members.items] using htext
  | group opening items comma closing =>
    have hopening : ∀ c ∈ '(' :: opening.chars, isListMargin c :=
      List.forall_mem_cons.2 ⟨by decide, isListMargin_of_blank opening.blank⟩
    have hclosing : ∀ c ∈ closing.chars ++ ')' :: b, isListMargin c :=
      List.forall_mem_append.2 ⟨isListMargin_of_blank closing.blank,
        List.forall_mem_cons.2 ⟨by decide, isListMargin_of_blank hb⟩⟩
    have htext := boundNames_text written_name.item boundMember_text hopening items comma hclosing
      comment?
    simpa [Members.chars, Members.items] using htext

namespace ImportLine

variable (l : ImportLine)

theorem importedNames_modules {m : ModuleImport} (h : l.statement = .modules m) :
    importedNames l.text = m.items.toList.map fun i => i.read.text := by
  simp only [importedNames, text, String.toList_ofList, h, fromItems?_modules m l.indent.blank,
    importItems?_modules m l.indent.blank, boundNames_modules m.items l.trailing.blank,
    List.map_map]
  rfl

theorem importedNames_plain {m : MemberImport} (h : l.statement = .members m) (hm : m.Plain) :
    importedNames l.text = l.statement.names.map Name.text := by
  simp only [importedNames, text, String.toList_ofList, h, fromItems?_plain hm l.indent.blank,
    boundNames_members m.members l.trailing.blank, ImportStatement.names, List.map_map]
  rfl

theorem importedNames_not_plain {m : MemberImport} (h : l.statement = .members m)
    (hm : ¬ m.Plain) : importedNames l.text = [] := by
  have hr : StartsApart (l.trailing.chars ++ l.comment?.elim [] ('#' :: ·)) := by
    refine startsApart_append l.trailing.blank ?_
    cases l.comment? with
    | none => exact startsApart_nil
    | some comment => exact startsApart_cons.2 (by decide)
  simp only [importedNames, text, String.toList_ofList, h,
    fromItems?_not_plain hm l.indent.blank hr, importItems?_members m l.indent.blank, List.map_nil]

end ImportLine

theorem Item.read_eq_bound {i : Item Dotted} (h : i.alias?.isSome → i.subject.Tight) :
    i.read = i.bound Separated.first := by
  rw [read]
  split_ifs with ht
  · rfl
  · have halias : i.alias? = none := by simpa using mt h ht
    rw [bound, halias]
    rfl

/-- The names that are read off a line with an import statement are those that the statement binds,
where its blanks hide none. Otherwise another name for a module with blanks around its points is
missed, and so is everything that a statement with `from` binds. -/
theorem importedNames_line (l : ImportLine) :
    (l.statement.Plain → importedNames l.text = l.statement.names.map Name.text) ∧
      (∀ m, l.statement = .modules m →
        importedNames l.text = m.items.toList.map fun i => i.read.text) ∧
      ∀ m, l.statement = .members m → ¬ m.Plain → importedNames l.text = [] := by
  refine ⟨fun hplain => ?_, fun m => l.importedNames_modules, fun m => l.importedNames_not_plain⟩
  cases h : l.statement with
  | members m =>
    rw [h] at hplain
    rw [← h]
    exact l.importedNames_plain h hplain
  | modules m =>
    rw [h] at hplain
    rw [l.importedNames_modules h, ImportStatement.names, List.map_map]
    exact List.map_congr_left fun i hi => congrArg Name.text (Item.read_eq_bound (hplain i hi))

/-- `from typing import (List, Optional as Opt,)  # List`. -/
def groupLine : ImportLine where
  indent := { chars := [] }
  statement := .members
    { afterFrom := { chars := [' '] }
      origin := .named (.one { chars := "typing".toList })
      beforeImport := { chars := [' '] }
      afterImport := { chars := [' '] }
      members := .group { chars := [] }
        (.more ⟨{ chars := "List".toList }, none⟩ { chars := [] } { chars := [' '] }
          (.one ⟨{ chars := "Optional".toList }, some
            { before := { chars := [' '] }
              after := { chars := [' '] }
              name := { chars := "Opt".toList } }⟩))
        (some { chars := [] }) { chars := [] }
      afterFrom_ne := fun _ => by decide
      beforeImport_ne := fun _ => by decide
      afterImport_ne := fun _ => by decide }
  trailing := { chars := "  ".toList }
  comment? := some " List".toList

/-- `import os . path as p`. -/
def spacedLine : ImportLine where
  indent := { chars := [] }
  statement := .modules
    { gap := { chars := [' '] }
      items := .one
        { subject := .more { chars := "os".toList } { chars := [' '] } { chars := [' '] }
            (.one { chars := "path".toList })
          alias? := some
            { before := { chars := [' '] }
              after := { chars := [' '] }
              name := { chars := "p".toList } } }
      gap_ne := by decide }
  trailing := { chars := [] }
  comment? := none

/-- `from .import path`. -/
def joinedLine : ImportLine where
  indent := { chars := [] }
  statement := .members
    { afterFrom := { chars := [' '] }
      origin := .point
      beforeImport := { chars := [] }
      afterImport := { chars := [' '] }
      members := .list (.one ⟨{ chars := "path".toList }, none⟩) none
      afterFrom_ne := fun _ => by decide
      beforeImport_ne := False.elim
      afterImport_ne := fun _ => by decide }
  trailing := { chars := [] }
  comment? := none

theorem importedNames_line_three :
    groupLine.text = "from typing import (List, Optional as Opt,)  # List" ∧
      importedNames groupLine.text = ["List", "Opt"] ∧
      importedNames spacedLine.text = ["os"] ∧ importedNames joinedLine.text = [] :=
  have hgroup : groupLine.statement.Plain := ⟨by decide, trivial, by decide, by decide⟩
  ⟨by decide, (importedNames_line groupLine).1 hgroup, (importedNames_line spacedLine).2.1 _ rfl,
    (importedNames_line joinedLine).2.2 _ rfl fun hplain => hplain.beforeImport rfl⟩

/-- Names are missed where blanks stand around a point and where none stand before `import`. -/
theorem missed_names :
    (spacedLine.text = "import os . path as p" ∧
      spacedLine.statement.names.map Name.text = ["p"] ∧
      importedNames spacedLine.text = ["os"]) ∧
    joinedLine.text = "from .import path" ∧
      joinedLine.statement.names.map Name.text = ["path"] ∧ importedNames joinedLine.text = [] :=
  ⟨⟨by decide, by decide, spacedLine.importedNames_modules rfl⟩, by decide, by decide,
    joinedLine.importedNames_not_plain rfl fun hplain => hplain.beforeImport rfl⟩

end CodeReview.Rules
