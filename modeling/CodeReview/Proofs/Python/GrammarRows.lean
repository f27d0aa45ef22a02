import CodeReview.Proofs.Text.TrimmedRows
import CodeReview.Python.Layout

/-!
# The rows of the grammar

The grammar counts rows itself: each line feed that it steps over starts a new one.
`Cursor.StandsIn` relates a cursor to the rows of the whole text, and a step over one character
keeps it (`StandsIn.advance`). So do all ways in which the grammar goes on: stepping over several
characters (`StandsIn.skip`), measuring a gap (`StandsIn.measureGap`) and taking the next token
(`next_standsIn`). It thus holds wherever the grammar comes to (`Scanner.Reached.standsIn`).
-/

set_option autoImplicit false

namespace CodeReview.Python

open Syntax Text

/-- A cursor stands in a row of a text: the row has its number, as many bytes of the row are before
it as its column says, and after it come the rest of the row and the rows below. -/
def Cursor.StandsIn (text : List Char) (k : Cursor) : Prop :=
  ∃ x y, (rows text)[k.position.row]? = some (x ++ y) ∧
    k.position.column = (String.ofList x).utf8ByteSize ∧
    rows k.rest = y :: (rows text).drop (k.position.row + 1)

theorem standsIn_start (text : List Char) : (Scanner.start text).cursor.StandsIn text := by
  obtain ⟨y, ys, h⟩ := List.exists_cons_of_ne_nil (splitChars_ne_nil '\n' text)
  have hrows : rows text = y :: ys := h
  refine ⟨[], y, ?_, rfl, ?_⟩
  · rw [hrows]
    rfl
  · rw [hrows]
    exact hrows

namespace Cursor.StandsIn

variable {text cs : List Char} {c : Char} {p : Position} {k : Cursor}

theorem advance (h : StandsIn text ⟨c :: cs, p⟩) : StandsIn text ⟨cs, Python.advance p c⟩ := by
  obtain ⟨x, y, hrow, hcolumn, hrest⟩ := h
  obtain ⟨r, rs, hr⟩ := List.exists_cons_of_ne_nil (splitChars_ne_nil '\n' cs)
  by_cases hc : c = '\n'
  · -- the row ends before the line feed, and the next one starts after it
    subst hc
    have hbelow : r :: rs = (rows text).drop (p.row + 1) := by
      rw [← hr]
      exact (List.cons.inj ((splitChars_sep_cons '\n' cs).symm.trans hrest)).2
    rw [Python.advance, if_pos rfl]
    refine ⟨[], r, ?_, rfl, ?_⟩
    · have hhead := congrArg List.head? hbelow
      rw [List.head?_drop] at hhead
      exact hhead.symm
    · have htail := congrArg List.tail hbelow
      rw [List.tail_drop] at htail
      exact hr.trans (congrArg (r :: ·) htail)
  · obtain ⟨rfl, hbelow⟩ := List.cons.inj ((splitChars_cons hc hr).symm.trans hrest)
    rw [Python.advance, if_neg hc]
    refine ⟨x ++ [c], r, ?_, ?_, hr.trans (congrArg (r :: ·) hbelow)⟩
    · rw [hrow, List.append_assoc, List.singleton_append]
    · rw [String.ofList_append, String.utf8ByteSize_append, ← hcolumn, ← String.singleton_eq_ofList,
        String.utf8ByteSize_singleton]

theorem skip (h : k.StandsIn text) (n : Nat) : (k.skip n).StandsIn text := by
  induction n generalizing k with
  | zero => exact h
  | succ n ih =>
    obtain ⟨rest, p⟩ := k
    cases rest with
    | nil => exact h
    | cons c cs => exact ih h.advance

theorem measureGap {comments inComment : Bool} {g g' : Gap} (h : StandsIn text ⟨cs, p⟩)
    (hg : Python.measureGap comments g inComment cs p = some g') : g'.cursor.StandsIn text := by
  fun_induction Python.measureGap comments g inComment cs p with
  | case1 =>
    obtain rfl := Option.some.inj hg
    exact h
  | case2 _ _ _ _ _ ih | case3 _ _ _ _ _ ih | case4 _ _ _ _ _ _ ih | case5 _ _ _ _ _ _ _ ih
  | case6 _ _ _ _ _ _ _ _ ih | case7 _ _ _ _ _ _ _ _ _ ih
  | case8 _ _ _ _ _ _ _ _ _ _ _ ih => exact ih h.advance hg
  | case9 | case14 => cases hg
  | case10 =>
    obtain rfl := Option.some.inj hg
    exact h.advance
  | case11 _ _ _ _ _ _ _ _ _ _ _ ih => exact ih h.advance.advance hg
  | case12 =>
    obtain rfl := Option.some.inj hg
    exact h.advance.advance
  | case13 _ _ _ _ _ _ _ _ _ _ _ ih => exact ih h.advance.advance.advance hg
  | case15 =>
    obtain rfl := Option.some.inj hg
    exact h

theorem gap {comments : Bool} {g : Gap} (h : k.StandsIn text) (hg : k.gap comments = some g) :
    g.cursor.StandsIn text :=
  measureGap h hg

end Cursor.StandsIn

/-- A token starts and ends in rows of a text, and so do the line continuations before it. -/
structure Lexeme.StandsIn (text : List Char) (l : Lexeme) : Prop where
  here : l.here.cursor.StandsIn text
  after : l.after.cursor.StandsIn text
  extras : ∀ t ∈ l.extras, ∃ rest, Cursor.StandsIn text ⟨rest, t.start⟩

theorem nextFrom_standsIn {text : List Char} {e : Expect} {walrus : Bool} {fuel : Nat}
    {extras : List ParseTree} {s : Scanner} (h : s.cursor.StandsIn text)
    (hextras : ∀ t ∈ extras.reverse, ∃ rest, Cursor.StandsIn text ⟨rest, t.start⟩) :
    (s.nextFrom e walrus fuel extras).StandsIn text := by
  fun_induction Scanner.nextFrom e walrus fuel extras s with
  | case1 => exact ⟨h, h, hextras⟩
  | case2 => exact ⟨h, h, hextras⟩
  | case3 => exact ⟨h, h, hextras⟩
  | case4 => exact ⟨h, h, hextras⟩
  | case5 fuel extras s gap mark _ opened k d n hopened =>
    -- the string starts after the gap
    obtain ⟨g, hgap, hg⟩ := Option.bind_eq_some_iff.1 hopened
    split_ifs at hg
    obtain ⟨_, -, heq⟩ := Option.map_eq_some_iff.1 hg
    obtain rfl : g.cursor = k := (Prod.mk.inj heq).1
    exact ⟨h.gap hgap, (h.gap hgap).skip n, hextras⟩
  | case6 fuel extras s gap mark _ opened _ k tail _ n ih => exact ih ((h.skip _).skip n) hextras
  | case7 => exact ⟨h.skip _, (h.skip _).skip _, hextras⟩
  | case8 fuel extras s gap mark _ opened _ k n _ _ ih =>
    refine ih ((h.skip _).skip n) fun t ht => ?_
    rw [List.reverse_cons, List.mem_append, List.mem_singleton] at ht
    rcases ht with ht | rfl
    · exact hextras t ht
    · exact ⟨k.rest, h.skip _⟩

/-- The next token is read in the rows of the text. -/
theorem next_standsIn {text : List Char} {s : Scanner} (h : s.cursor.StandsIn text) (e : Expect)
    (walrus : Bool) : (s.next e walrus).StandsIn text :=
  nextFrom_standsIn h fun _ ht => absurd ht List.not_mem_nil

/-! ## All places of the grammar -/

/-- The scans that the grammar comes to: the start of a text, the start and the end of the next
token, and those that stand some characters further on than another. -/
inductive Scanner.Reached (text : List Char) : Scanner → Prop
  | start : Reached text (.start text)
  | here {s : Scanner} (e : Expect) (walrus : Bool) (h : Reached text s) :
    Reached text (s.next e walrus).here
  | after {s : Scanner} (e : Expect) (walrus : Bool) (h : Reached text s) :
    Reached text (s.next e walrus).after
  | skip {s s' : Scanner} (n : Nat) (h : Reached text s) (hskip : s'.cursor = s.cursor.skip n) :
    Reached text s'

theorem Scanner.Reached.standsIn {text : List Char} {s : Scanner} (h : s.Reached text) :
    s.cursor.StandsIn text := by
  induction h with
  | start => exact standsIn_start text
  | here e walrus _ ih => exact (next_standsIn ih e walrus).here
  | after e walrus _ ih => exact (next_standsIn ih e walrus).after
  | skip n _ hskip ih => exact hskip ▸ ih.skip n

end CodeReview.Python
