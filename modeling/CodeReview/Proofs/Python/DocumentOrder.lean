import CodeReview.Source
import CodeReview.Proofs.ErasedRepeats
import CodeReview.Proofs.Python.LabelClasses
import Mathlib.Data.List.Basic

/-!
# The check visits a tree in document order

`documentOrder t` lists the nodes of a tree by recursion, each with the nodes above it. The walk of
`check` moves about with a cursor instead and carries its depth, the brackets open and the statement
starts along. The link is `Walk.ahead`, what a walk has still to look at: looking at a node takes it
off the front and leaving a subtree does not change it (`step_visiting`, `step_leaving`). So the
nodes passed and those ahead always make up the document order (`Passes.ahead_eq`), and a run comes
to the first of them that offends (`run_eq`).
-/

set_option autoImplicit false

namespace CodeReview.Python

open Syntax

/-! ## Document order -/

/-- A node of a tree with the nodes above it, the nearest first. -/
structure Visit where
  node : ParseTree
  ancestors : List ParseTree

mutual

/-- The nodes of a tree that has the given nodes above it, each before its children. -/
def visitsOf (ancestors : List ParseTree) : ParseTree → List Visit
  | .node l p cs => ⟨.node l p cs, ancestors⟩ :: visitsOfAll (.node l p cs :: ancestors) cs

/-- The nodes of some trees with the same nodes above them. -/
def visitsOfAll (ancestors : List ParseTree) : List ParseTree → List Visit
  | [] => []
  | t :: ts => visitsOf ancestors t ++ visitsOfAll ancestors ts

end

/-- The nodes of a tree in document order. -/
def documentOrder (t : ParseTree) : List Visit := visitsOf [] t

theorem visitsOf_eq (ancestors : List ParseTree) (t : ParseTree) :
    visitsOf ancestors t = ⟨t, ancestors⟩ :: visitsOfAll (t :: ancestors) t.children := by
  cases t
  simp only [visitsOf, ParseTree.children]

mutual

theorem hasError_iff (ancestors : List ParseTree) : ∀ t : ParseTree,
    t.hasError = true ↔ ∃ v ∈ visitsOf ancestors t, Faulty v.node.label
  | .node l p cs => by
    simp only [ParseTree.hasError, visitsOf, List.mem_cons, Bool.or_eq_true, exists_eq_or_imp,
      ParseTree.label, isFaulty_iff, anyHasError_iff (.node l p cs :: ancestors) cs]

theorem anyHasError_iff (ancestors : List ParseTree) : ∀ ts : List ParseTree,
    ParseTree.anyHasError ts = true ↔ ∃ v ∈ visitsOfAll ancestors ts, Faulty v.node.label
  | [] => by simp [ParseTree.anyHasError, visitsOfAll]
  | t :: ts => by
    simp only [ParseTree.anyHasError, visitsOfAll, List.mem_append, Bool.or_eq_true, or_and_right,
      exists_or, hasError_iff ancestors t, anyHasError_iff ancestors ts]

end

/-! ## What is ahead of a walk -/

/-- The nodes above a cursor. -/
def TreeCursor.ancestors (c : TreeCursor) : List ParseTree := c.above.map Prod.fst

/-- The node at a cursor. -/
def TreeCursor.visit (c : TreeCursor) : Visit := ⟨c.node, c.ancestors⟩

/-- The nodes that follow the given levels, the nearest first. -/
def visitsAfter : List (ParseTree × List ParseTree) → List Visit
  | [] => []
  | (_, later) :: above => visitsOfAll (above.map Prod.fst) later ++ visitsAfter above

/-- The nodes that follow the subtree at a cursor. -/
def TreeCursor.after (c : TreeCursor) : List Visit :=
  visitsOfAll c.ancestors c.later ++ visitsAfter c.above

/-- The nodes that a walk has still to look at. -/
def Walk.ahead (w : Walk) : List Visit :=
  if w.leaving then w.cursor.after else visitsOf w.cursor.ancestors w.cursor.node ++ w.cursor.after

/-- The depth of a walk is the number of nodes above it. -/
def Walk.Level (w : Walk) : Prop := w.depth = w.cursor.ancestors.length

theorem ahead_start (t : ParseTree) : (Walk.start t).ahead = documentOrder t := by
  simp [Walk.start, Walk.ahead, TreeCursor.root, TreeCursor.after, TreeCursor.ancestors,
    visitsAfter, visitsOfAll, documentOrder]

theorem level_start (t : ParseTree) : (Walk.start t).Level := rfl

namespace Walk

variable {w w' : Walk}

/-- Looking at a node takes it off the front of what is ahead. -/
theorem visit_next (h : w.visit = .next w') :
    offence w.cursor.node w.depth w.brackets = none ∧
      visitsOf w.cursor.ancestors w.cursor.node ++ w.cursor.after = w.cursor.visit :: w'.ahead ∧
      w'.brackets = bracketsAfter w.cursor.node w.brackets ∧
      w'.starts = (startsOf w.cursor.node).reverse ++ w.starts ∧ (w.Level → w'.Level) := by
  obtain ⟨⟨t, later, above⟩, leaving, depth, brackets, starts⟩ := w
  simp only [visit, TreeCursor.firstChild?] at h
  rw [visitsOf_eq]
  split at h
  · cases h
  · rename_i ho
    refine ⟨ho, ?_⟩
    cases hc : t.children with
    | nil =>
      rw [hc] at h
      cases h
      refine ⟨?_, rfl, rfl, fun hl => hl⟩
      simp [ahead, visitsOfAll, TreeCursor.visit]
    | cons c cs =>
      rw [hc] at h
      cases h
      refine ⟨?_, rfl, rfl, fun hl => ?_⟩
      · simp [ahead, visitsOfAll, visitsAfter, TreeCursor.visit, TreeCursor.after,
          TreeCursor.ancestors]
      · simpa [Level, TreeCursor.ancestors] using hl

/-- Moving to a sibling or up changes nothing of what is ahead. -/
theorem leave_next (h : w.leave = .next w') (hl : w.leaving = true) :
    w.cursor.after = w'.ahead ∧ w'.brackets = w.brackets ∧ w'.starts = w.starts ∧
      (w.Level → w'.Level) := by
  obtain ⟨⟨t, later, above⟩, leaving, depth, brackets, starts⟩ := w
  obtain rfl : leaving = true := hl
  cases later with
  | cons s later =>
    cases h
    refine ⟨?_, rfl, rfl, fun hl => hl⟩
    simp [ahead, TreeCursor.after, TreeCursor.ancestors, visitsOfAll]
  | nil =>
    cases above with
    | nil => cases h
    | cons a above =>
      cases h
      refine ⟨?_, rfl, rfl, fun hl => ?_⟩
      · simp [ahead, TreeCursor.after, TreeCursor.ancestors, visitsOfAll, visitsAfter]
      · simp only [Level, TreeCursor.ancestors, List.map_cons, List.length_cons] at hl ⊢
        omega

/-- A step that looks at a node and goes on. -/
theorem step_visiting (hl : w.leaving = false) (h : w.step = .next w') :
    offence w.cursor.node w.depth w.brackets = none ∧
      w.ahead = w.cursor.visit :: w'.ahead ∧
      w'.brackets = bracketsAfter w.cursor.node w.brackets ∧
      w'.starts = (startsOf w.cursor.node).reverse ++ w.starts ∧ (w.Level → w'.Level) := by
  rw [step, hl] at h
  obtain ⟨ho, ha, hrest⟩ := visit_next h
  exact ⟨ho, by simpa [ahead, hl] using ha, hrest⟩

/-- A step that leaves a subtree and goes on. -/
theorem step_leaving (hl : w.leaving = true) (h : w.step = .next w') :
    w.ahead = w'.ahead ∧ w'.brackets = w.brackets ∧ w'.starts = w.starts ∧
      (w.Level → w'.Level) := by
  rw [step, hl] at h
  obtain ⟨ha, hrest⟩ := leave_next h hl
  exact ⟨by simpa [ahead, hl] using ha, hrest⟩

/-- A walk is refused at the node that it looks at. -/
theorem step_refused {f : Fault} (h : w.step = .refused f) :
    w.leaving = false ∧ ∃ cause, offence w.cursor.node w.depth w.brackets = some cause ∧
      f = faultAt w.cursor.node cause := by
  unfold step at h
  split at h
  · unfold leave at h
    split at h
    · cases h
    · split at h <;> cases h
  · rename_i hl
    refine ⟨by simpa using hl, ?_⟩
    simp only [visit] at h
    split at h
    · rename_i cause hc
      cases h
      exact ⟨cause, hc, rfl⟩
    · split at h <;> cases h

/-- A walk is finished when nothing is ahead. -/
theorem step_finished (h : w.step = .finished) : w.leaving = true ∧ w.ahead = [] := by
  obtain ⟨⟨t, later, above⟩, leaving, depth, brackets, starts⟩ := w
  cases leaving with
  | false =>
    simp only [step, visit, Bool.false_eq_true, ↓reduceIte] at h
    split at h
    · cases h
    · split at h <;> cases h
  | true =>
    cases later with
    | cons s later => cases h
    | nil =>
      cases above with
      | nil => exact ⟨rfl, rfl⟩
      | cons a above => cases h

/-- Before it looks at a node, that node is the next one ahead. -/
theorem ahead_of_visiting (h : w.leaving = false) : ∃ rest, w.ahead = w.cursor.visit :: rest :=
  ⟨visitsOfAll (w.cursor.node :: w.cursor.ancestors) w.cursor.node.children ++ w.cursor.after, by
    simp [ahead, h, visitsOf_eq, TreeCursor.visit]⟩

/-! ### Runs -/

theorem run_refused {f : Fault} (h : w.step = .refused f) : w.run = .error f := by
  rw [run, h]

theorem run_finished (h : w.step = .finished) : w.run = .ok w.starts := by
  rw [run, h]

theorem run_next (h : w.step = .next w') : w.run = w'.run := by
  rw [run, h]

end Walk

/-- Steps lead from one walk to another, and the nodes looked at on the way are `vs`. -/
inductive Passes : Walk → List Visit → Walk → Prop
  | refl (w : Walk) : Passes w [] w
  | visit {w w' w'' : Walk} {vs : List Visit} :
      w.leaving = false → w.step = .next w' → Passes w' vs w'' →
      Passes w (w.cursor.visit :: vs) w''
  | leave {w w' w'' : Walk} {vs : List Visit} :
      w.leaving = true → w.step = .next w' → Passes w' vs w'' → Passes w vs w''

/-- The nodes passed and those ahead are what was ahead at first. -/
theorem Passes.ahead_eq {w w' : Walk} {vs : List Visit} (h : Passes w vs w') :
    w.ahead = vs ++ w'.ahead := by
  induction h with
  | refl w => rfl
  | visit hl hs _ ih => rw [(Walk.step_visiting hl hs).2.1, ih, List.cons_append]
  | leave hl hs _ ih => rw [(Walk.step_leaving hl hs).1, ih]

theorem Passes.level {w w' : Walk} {vs : List Visit} (h : Passes w vs w') (hw : w.Level) :
    w'.Level := by
  induction h with
  | refl w => exact hw
  | visit hl hs _ ih => exact ih ((Walk.step_visiting hl hs).2.2.2.2 hw)
  | leave hl hs _ ih => exact ih ((Walk.step_leaving hl hs).2.2.2 hw)

theorem Passes.run_eq {w w' : Walk} {vs : List Visit} (h : Passes w vs w') : w.run = w'.run := by
  induction h with
  | refl w => rfl
  | visit _ hs _ ih => rw [Walk.run_next hs, ih]
  | leave _ hs _ ih => rw [Walk.run_next hs, ih]

/-- A walk comes to an end. -/
theorem Walk.exists_passes_end (w : Walk) :
    ∃ vs w', Passes w vs w' ∧ ∀ w'', w'.step ≠ .next w'' := by
  induction w using Walk.run.induct with
  | case1 w f hs => exact ⟨[], w, .refl w, fun w'' h => by rw [hs] at h; cases h⟩
  | case2 w hs => exact ⟨[], w, .refl w, fun w'' h => by rw [hs] at h; cases h⟩
  | case3 w w' hs ih =>
    obtain ⟨vs, e, hp, he⟩ := ih
    cases hl : w.leaving with
    | false => exact ⟨_, e, .visit hl hs hp, he⟩
    | true => exact ⟨_, e, .leave hl hs hp, he⟩

/-! ## What a run gives -/

/-- The fault at the first of some nodes that offends, with `open_` brackets open before them. -/
def firstFault : Nat → List Visit → Option Fault
  | _, [] => none
  | open_, v :: vs =>
    match offence v.node v.ancestors.length open_ with
    | some cause => some (faultAt v.node cause)
    | none => firstFault (bracketsAfter v.node open_) vs

/-- The statement starts that some nodes give. -/
def startsOfVisits (vs : List Visit) : List Position := vs.flatMap fun v => startsOf v.node

/-- A run comes to the first node ahead that offends, or collects the starts of all of them. -/
theorem Walk.run_eq (w : Walk) (h : w.Level) :
    w.run = match firstFault w.brackets w.ahead with
      | some f => .error f
      | none => .ok ((startsOfVisits w.ahead).reverse ++ w.starts) := by
  induction w using Walk.run.induct with
  | case1 w f hs =>
    obtain ⟨hl, cause, hc, rfl⟩ := step_refused hs
    obtain ⟨rest, ha⟩ := ahead_of_visiting hl
    have hf : firstFault w.brackets w.ahead = some (faultAt w.cursor.node cause) := by
      rw [h] at hc
      simp [ha, firstFault, TreeCursor.visit, hc]
    rw [run_refused hs, hf]
  | case2 w hs =>
    obtain ⟨-, ha⟩ := step_finished hs
    rw [run_finished hs, ha]
    rfl
  | case3 w w' hs ih =>
    cases hl : w.leaving with
    | false =>
      obtain ⟨ho, ha, hb, hst, hlev⟩ := step_visiting hl hs
      rw [h] at ho
      have hf : firstFault w.brackets w.ahead = firstFault w'.brackets w'.ahead := by
        simp [ha, hb, firstFault, TreeCursor.visit, ho]
      rw [run_next hs, ih (hlev h), hf, ha, hst]
      simp [startsOfVisits, TreeCursor.visit]
    | true =>
      obtain ⟨ha, hb, hst, hlev⟩ := step_leaving hl hs
      rw [run_next hs, ih (hlev h), ha, hb, hst]

/-! ## Refusals -/

/-- The number of brackets that are open after some nodes, where `open_` are open before them: an
opening bracket adds one, and a closing one takes one away as long as there is one. -/
def openAfter (open_ : Nat) : List Visit → Nat
  | [] => open_
  | v :: vs =>
    if v.node.label ∈ openings then openAfter (open_ + 1) vs
    else if v.node.label ∈ closings then openAfter (open_ - 1) vs
    else openAfter open_ vs

/-- The walk counts the open brackets. -/
theorem openAfter_cons (open_ : Nat) (v : Visit) (vs : List Visit) :
    openAfter open_ (v :: vs) = openAfter (bracketsAfter v.node open_) vs := by
  simp only [openAfter, bracketsAfter, opensBracket_iff, closesBracketNode_iff]
  split
  · rfl
  · split <;> rfl

/-- A walk carries the number of brackets open before the node it comes to. -/
theorem Passes.brackets_eq {w w' : Walk} {vs : List Visit} (h : Passes w vs w') :
    w'.brackets = openAfter w.brackets vs := by
  induction h with
  | refl w => rfl
  | visit hl hs _ ih =>
    rw [ih, (Walk.step_visiting hl hs).2.2.1, openAfter_cons]
    rfl
  | leave hl hs _ ih => rw [ih, (Walk.step_leaving hl hs).2.1]

/-- All that is held against a node with `open_` brackets open before it, in the order of the tests,
each with its text. -/
def refusals (open_ : Nat) (v : Visit) : List (FaultCause × String) :=
  (match v.node.label with
    | .missing what => [(.missing what, "missing \x60" ++ what ++ "\x60")]
    | _ => []) ++
  (if v.node.label = .error then [(.invalidSyntax, "invalid syntax")] else []) ++
  (if v.node.label = .construct .printStatement then
    [(.printStatement, "Missing parentheses in call to 'print'")] else []) ++
  (if v.node.label = .construct .execStatement then
    [(.execStatement, "Missing parentheses in call to 'exec'")] else []) ++
  (if v.node.label ∈ openings ∧ 200 < open_ + 1 then
    [(.tooManyBrackets, "too many nested parentheses")] else []) ++
  (if 1000 < v.ancestors.length then [(.tooDeep, "source too deeply nested")] else [])

theorem offence_eq (open_ : Nat) (v : Visit) :
    offence v.node v.ancestors.length open_ = (refusals open_ v).head?.map Prod.fst := by
  obtain ⟨⟨l, p, cs⟩, ancestors⟩ := v
  cases l <;> simp [offence, refusals, ParseTree.label, ParseTree.is, opensBracket,
    openings, ParseTree.isToken, maxBrackets, maxDepth] <;> grind

theorem refusals_text {open_ : Nat} {v : Visit} {cause : FaultCause} {text : String}
    (h : (cause, text) ∈ refusals open_ v) : cause.message = text := by
  simp only [refusals, List.mem_append] at h
  rcases h with ((((h | h) | h) | h) | h) | h <;> split at h <;> simp at h <;>
    obtain ⟨rfl, rfl⟩ := h <;> rfl

/-- No node is held anything against, with `open_` brackets open before the first. -/
def Acceptable (open_ : Nat) (vs : List Visit) : Prop :=
  ∀ before v after, vs = before ++ v :: after → refusals (openAfter open_ before) v = []

theorem acceptable_nil (open_ : Nat) : Acceptable open_ [] := by
  intro before v after h
  simp at h

theorem acceptable_cons {open_ : Nat} {v : Visit} {vs : List Visit} :
    Acceptable open_ (v :: vs) ↔
      refusals open_ v = [] ∧ Acceptable (bracketsAfter v.node open_) vs := by
  constructor
  · intro h
    refine ⟨h [] v vs rfl, fun before u after he => ?_⟩
    rw [← openAfter_cons]
    exact h (v :: before) u after (by rw [he, List.cons_append])
  · rintro ⟨hv, hvs⟩ before u after he
    cases before with
    | nil =>
      obtain ⟨rfl, -⟩ := List.cons.inj he
      exact hv
    | cons v' before =>
      obtain ⟨rfl, he'⟩ := List.cons.inj he
      rw [openAfter_cons]
      exact hvs before u after he'

/-- A node is refused that is held something against, if nothing is held against those before. -/
def RefusedFirst (open_ : Nat) (vs : List Visit) (f : Fault) : Prop :=
  ∃ before v after cause text, vs = before ++ v :: after ∧ Acceptable open_ before ∧
    (refusals (openAfter open_ before) v).head? = some (cause, text) ∧
    f = ⟨v.node.start.row + 1, v.node.start.column + 1, cause⟩ ∧ f.cause.message = text

theorem not_refusedFirst_nil (open_ : Nat) (f : Fault) : ¬ RefusedFirst open_ [] f := by
  rintro ⟨before, v, after, cause, text, h, -⟩
  simp at h

theorem refusedFirst_cons {open_ : Nat} {v : Visit} {vs : List Visit} {f : Fault} :
    RefusedFirst open_ (v :: vs) f ↔
      (∃ cause text, (refusals open_ v).head? = some (cause, text) ∧
        f = faultAt v.node cause) ∨
      (refusals open_ v = [] ∧ RefusedFirst (bracketsAfter v.node open_) vs f) := by
  constructor
  · rintro ⟨before, u, after, cause, text, he, hb, hr, hf, ht⟩
    cases before with
    | nil =>
      obtain ⟨rfl, -⟩ := List.cons.inj he
      exact .inl ⟨cause, text, hr, hf⟩
    | cons v' before =>
      obtain ⟨rfl, he'⟩ := List.cons.inj he
      obtain ⟨hv, hb⟩ := acceptable_cons.1 hb
      rw [openAfter_cons] at hr
      exact .inr ⟨hv, before, u, after, cause, text, he', hb, hr, hf, ht⟩
  · rintro (⟨cause, text, hr, rfl⟩ | ⟨hv, before, u, after, cause, text, rfl, hb, hr, hf, ht⟩)
    · exact ⟨[], v, vs, cause, text, rfl, acceptable_nil open_, hr, rfl,
        refusals_text (List.mem_of_mem_head? hr)⟩
    · rw [← openAfter_cons] at hr
      exact ⟨v :: before, u, after, cause, text, rfl, acceptable_cons.2 ⟨hv, hb⟩, hr, hf, ht⟩

/-- The fault found by scanning is the first refusal. -/
theorem firstFault_spec (open_ : Nat) (vs : List Visit) :
    (firstFault open_ vs = none ↔ Acceptable open_ vs) ∧
      ∀ f, firstFault open_ vs = some f ↔ RefusedFirst open_ vs f := by
  induction vs generalizing open_ with
  | nil => simp [firstFault, acceptable_nil, not_refusedFirst_nil]
  | cons v vs ih =>
    obtain ⟨ihn, ihs⟩ := ih (bracketsAfter v.node open_)
    cases hr : refusals open_ v with
    | nil => simp [firstFault, offence_eq, acceptable_cons, refusedFirst_cons, hr, ihn, ihs]
    | cons r rs =>
      simp [firstFault, offence_eq, acceptable_cons, refusedFirst_cons, hr, eq_comm,
        Prod.ext_iff]

/-! ## Statement starts -/

/-- A place comes strictly before another one in the text. -/
def Precedes (p q : Position) : Prop := p.row < q.row ∨ p.row = q.row ∧ p.column < q.column

instance : DecidableRel Precedes := fun p q =>
  inferInstanceAs (Decidable (p.row < q.row ∨ p.row = q.row ∧ p.column < q.column))

theorem before_iff {p q : Position} : p.before q = true ↔ Precedes p q := by
  simp [Position.before, Precedes]

theorem Precedes.trans {p q r : Position} (h : Precedes p q) (h' : Precedes q r) :
    Precedes p r := by
  unfold Precedes at h h' ⊢
  omega

theorem Precedes.irrefl (p : Position) : ¬ Precedes p p := by
  unfold Precedes
  omega

theorem Precedes.of_ne {p q : Position} (h : ¬ Precedes q p) (hne : p ≠ q) : Precedes p q := by
  obtain ⟨r, c⟩ := p
  obtain ⟨r', c'⟩ := q
  simp only [Precedes, ne_eq, Position.mk.injEq] at h hne ⊢
  omega

/-- The positions that a check gives are the statement starts found, each once and in order. -/
theorem sortedStarts_spec (ps : List Position) :
    (ps.mergeSort fun p q => !q.before p).eraseReps.Pairwise Precedes ∧
      ∀ p, p ∈ (ps.mergeSort fun p q => !q.before p).eraseReps ↔ p ∈ ps := by
  have hsorted : (ps.mergeSort fun p q => !q.before p).Pairwise fun p q => ¬ Precedes q p := by
    refine (List.pairwise_mergeSort ?_ ?_ ps).imp fun h => by simpa [← before_iff] using h
    · intro p q r hpq hqr
      simp only [Bool.not_eq_true', Bool.eq_false_iff, ne_eq, before_iff] at hpq hqr ⊢
      unfold Precedes at hpq hqr ⊢
      omega
    · intro p q
      simp only [Bool.or_eq_true, Bool.not_eq_true', Bool.eq_false_iff, ne_eq, before_iff]
      unfold Precedes
      omega
  have heq : ∀ p q : Position, ¬ Precedes q p → ¬ Precedes p q → p = q := fun p q hqp hpq =>
    by_contra fun hne => hpq (.of_ne hqp hne)
  exact ⟨(pairwise_eraseReps hsorted heq).imp fun ⟨h, hne⟩ => .of_ne h hne, fun p => by
    rw [mem_eraseReps, List.mem_mergeSort]⟩

/-- Positions in strict order are determined by which they are. -/
theorem eq_of_strict_order {ps qs : List Position} (hp : ps.Pairwise Precedes)
    (hq : qs.Pairwise Precedes) (h : ∀ p, p ∈ ps ↔ p ∈ qs) : ps = qs := by
  have hnodup : ∀ {l : List Position}, l.Pairwise Precedes → l.Nodup := fun hl =>
    hl.imp fun {p q} (hpq : Precedes p q) (he : p = q) => Precedes.irrefl q (he ▸ hpq)
  exact List.Perm.eq_of_pairwise
    (fun p q _ _ hpq hqp => absurd (hpq.trans hqp) (Precedes.irrefl p)) hp hq
    ((List.perm_ext_iff_of_nodup (hnodup hp) (hnodup hq)).2 h)

/-- A statement starts at `p`: it is one of a body, or one of the clauses and definitions that have
their start noted wherever they stand. -/
def IsStatementStart (t : ParseTree) (p : Position) : Prop :=
  ∃ v ∈ documentOrder t,
    ((∃ c ∈ bodies, v.node.label = .construct c) ∧
      ∃ s ∈ v.node.children, substantial s.label ∧ s.start = p) ∨
    (StatementHead v.node.label ∧ v.node.start = p)

theorem not_statementHead_of_body {l : Label} {c : Construct} (h : c ∈ bodies)
    (hl : l = .construct c) : ¬ StatementHead l := by
  rintro (name | hc)
  · cases hl
  · cases hl
    simp only [bodies, List.mem_cons, List.not_mem_nil, or_false] at h
    rcases h with rfl | rfl <;> simp [headClauses] at hc

theorem mem_bodyStarts {t : ParseTree} {p : Position} :
    p ∈ bodyStarts t ↔ ∃ s ∈ t.children, substantial s.label ∧ s.start = p := by
  simp only [bodyStarts, named_and_not_comment, List.mem_map, List.mem_filter, and_assoc]

theorem mem_startsOf {t : ParseTree} {p : Position} :
    p ∈ startsOf t ↔
      ((∃ c ∈ bodies, t.label = .construct c) ∧
        ∃ s ∈ t.children, substantial s.label ∧ s.start = p) ∨
      (StatementHead t.label ∧ t.start = p) := by
  unfold startsOf
  split
  case isTrue hb =>
    obtain ⟨c, hc, hl⟩ := isBody_iff.1 hb
    rw [mem_bodyStarts, and_iff_right ⟨c, hc, hl⟩, or_iff_left]
    exact fun h => not_statementHead_of_body hc hl h.1
  case isFalse hb =>
    rw [or_iff_right fun h => hb (isBody_iff.2 h.1)]
    split
    case isTrue hh =>
      rw [and_iff_right (isStatementHead_iff.1 hh), List.mem_singleton, eq_comm]
    case isFalse hh => simp [← isStatementHead_iff, hh]

theorem mem_startsOfVisits (t : ParseTree) (p : Position) :
    p ∈ startsOfVisits (documentOrder t) ↔ IsStatementStart t p := by
  simp only [startsOfVisits, List.mem_flatMap, mem_startsOf, IsStatementStart]

/-! ## The check -/

/-- Errors and supposed tokens are never acceptable. -/
theorem Acceptable.not_faulty {open_ : Nat} {vs : List Visit} (h : Acceptable open_ vs) {v : Visit}
    (hv : v ∈ vs) : ¬ Faulty v.node.label := by
  obtain ⟨before, after, rfl⟩ := List.append_of_mem hv
  have hr := h before v after rfl
  intro hf
  unfold refusals at hr
  cases hl : v.node.label <;> rw [hl] at hf hr <;> cases hf <;> simp at hr

theorem run_start (t : ParseTree) :
    (Walk.start t).run = match firstFault 0 (documentOrder t) with
      | some f => .error f
      | none => .ok (startsOfVisits (documentOrder t)).reverse := by
  rw [(Walk.start t).run_eq (level_start t), ahead_start]
  simp only [Walk.start, List.append_nil]

/-- A check in terms of the nodes in document order; the mark plays no part where it is right. -/
theorem checkMarked_eq {t : ParseTree} {hasError : Bool}
    (h : hasError = true → ∃ v ∈ documentOrder t, Faulty v.node.label) :
    checkMarked hasError t = match firstFault 0 (documentOrder t) with
      | some f => .error f
      | none => .ok ((startsOfVisits (documentOrder t)).reverse.mergeSort
          fun p q => !q.before p).eraseReps := by
  rw [checkMarked, run_start]
  cases hf : firstFault 0 (documentOrder t) with
  | some f => rfl
  | none =>
    have hacc := (firstFault_spec 0 _).1.1 hf
    cases hasError with
    | false => rfl
    | true =>
      obtain ⟨v, hv, hfaulty⟩ := h rfl
      exact absurd hfaulty (hacc.not_faulty hv)

theorem checkMarked_error_iff {t : ParseTree} {hasError : Bool}
    (h : hasError = true → ∃ v ∈ documentOrder t, Faulty v.node.label) (f : Fault) :
    checkMarked hasError t = .error f ↔ RefusedFirst 0 (documentOrder t) f := by
  rw [checkMarked_eq h, ← (firstFault_spec 0 (documentOrder t)).2 f]
  cases firstFault 0 (documentOrder t) <;> simp

theorem checkMarked_ok_iff {t : ParseTree} {hasError : Bool}
    (h : hasError = true → ∃ v ∈ documentOrder t, Faulty v.node.label)
    (starts : List Position) :
    checkMarked hasError t = .ok starts ↔
      Acceptable 0 (documentOrder t) ∧ starts.Pairwise Precedes ∧
        ∀ p, p ∈ starts ↔ IsStatementStart t p := by
  rw [checkMarked_eq h, ← (firstFault_spec 0 (documentOrder t)).1]
  obtain ⟨hp, hm⟩ := sortedStarts_spec (startsOfVisits (documentOrder t)).reverse
  have hmem : ∀ p, p ∈ ((startsOfVisits (documentOrder t)).reverse.mergeSort
      fun p q => !q.before p).eraseReps ↔ IsStatementStart t p := by
    intro p
    rw [hm, List.mem_reverse, mem_startsOfVisits]
  cases firstFault 0 (documentOrder t) with
  | some f => simp
  | none =>
    simp only [Except.ok.injEq, true_and]
    constructor
    · rintro rfl
      exact ⟨hp, hmem⟩
    · rintro ⟨hp', hm'⟩
      exact eq_of_strict_order hp hp' fun p => by rw [hmem, hm']

/-- A tree without offence gives the positions of its statement starts in strict order. -/
theorem check_eq_ok {t : ParseTree} {ps : List Position}
    (h : firstFault 0 (documentOrder t) = none) (hps : ps.Pairwise Precedes)
    (hsub : ∀ p ∈ ps, p ∈ startsOfVisits (documentOrder t))
    (hall : ∀ p ∈ startsOfVisits (documentOrder t), p ∈ ps) : check t = .ok ps := by
  rw [check, checkMarked_eq (hasError_iff [] t).1, h]
  obtain ⟨hp, hm⟩ := sortedStarts_spec (startsOfVisits (documentOrder t)).reverse
  refine congrArg Except.ok (eq_of_strict_order hp hps fun p => ?_)
  rw [hm, List.mem_reverse]
  exact ⟨hall p, hsub p⟩

/-- A text without offence whose statements are indented well is a source unit. -/
theorem ofText_eq_ok (text : String) (starts : List Position)
    (h : firstFault 0 (documentOrder (parse text.toList)) = none)
    (hstarts : starts.Pairwise Precedes)
    (hsub : ∀ p ∈ starts, p ∈ startsOfVisits (documentOrder (parse text.toList)))
    (hall : ∀ p ∈ startsOfVisits (documentOrder (parse text.toList)), p ∈ starts)
    (hindent : checkIndentation text.toList starts = .ok ()) :
    SourceUnit.ofText .python text =
      .ok ⟨"Python", Text.lines text, outline (parse text.toList)⟩ :=
  congrArg (Except.map _) (read_eq_ok (check_eq_ok h hstarts hsub hall) hindent)

/-- What holds of every state of a walk from the root. -/
theorem Passes.state {t : ParseTree} {vs : List Visit} {w : Walk}
    (h : Passes (Walk.start t) vs w) :
    w.depth = w.cursor.ancestors.length ∧
      (w.cursor.parent?.isSome → 0 < w.depth) ∧
      w.brackets = openAfter 0 vs ∧
      vs <+: documentOrder t ∧
      (w.leaving = false → vs ++ [w.cursor.visit] <+: documentOrder t) ∧
      (w.step = .finished → vs = documentOrder t) := by
  have hlev : w.depth = w.cursor.ancestors.length := h.level (level_start t)
  have hahead := h.ahead_eq
  rw [ahead_start] at hahead
  refine ⟨hlev, fun hp => ?_, h.brackets_eq, ⟨w.ahead, hahead.symm⟩, fun hl => ?_, fun hs => ?_⟩
  · rw [hlev]
    unfold TreeCursor.parent? at hp
    split at hp
    · cases hp
    · rename_i ha
      simp [TreeCursor.ancestors, ha]
  · obtain ⟨rest, ha⟩ := Walk.ahead_of_visiting hl
    exact ⟨rest, by rw [hahead, ha, List.append_assoc, List.singleton_append]⟩
  · rw [hahead, (Walk.step_finished hs).2, List.append_nil]

/-- Where nothing is held against any node, a walk looks at all of them. -/
theorem exists_passes_all {t : ParseTree} (h : Acceptable 0 (documentOrder t)) :
    ∃ w, Passes (Walk.start t) (documentOrder t) w ∧ w.step = .finished := by
  obtain ⟨vs, w, hp, hend⟩ := (Walk.start t).exists_passes_end
  cases hs : w.step with
  | next w' => exact absurd hs (hend w')
  | finished =>
    obtain rfl := hp.state.2.2.2.2.2 hs
    exact ⟨w, hp, hs⟩
  | refused f =>
    have hrun := run_start t
    rw [(firstFault_spec 0 _).1.2 h, hp.run_eq, Walk.run_refused hs] at hrun
    cases hrun

/-- **The walk is the recursive reading of the tree.** It comes to an end; on its way the nodes are
looked at in document order, each once, at a depth that is the number of nodes above, so that going
up never takes it below zero, and with the count of the brackets left open by the nodes before. It
refuses the first node that something is held against, and otherwise gives the statement starts in
strict order. `hasError` is the mark that the grammar puts on the root. -/
theorem checkMarked_documentOrder (t : ParseTree) (hasError : Bool)
    (hmark : hasError = true → ∃ v ∈ documentOrder t, Faulty v.node.label) :
    (∃ vs w, Passes (Walk.start t) vs w ∧ ∀ w', w.step ≠ .next w') ∧
    (∀ vs w, Passes (Walk.start t) vs w →
      w.depth = w.cursor.ancestors.length ∧
      (w.cursor.parent?.isSome → 0 < w.depth) ∧
      w.brackets = openAfter 0 vs ∧
      vs <+: documentOrder t ∧
      (w.leaving = false → vs ++ [w.cursor.visit] <+: documentOrder t) ∧
      (w.step = .finished → vs = documentOrder t)) ∧
    (Acceptable 0 (documentOrder t) →
      ∃ w, Passes (Walk.start t) (documentOrder t) w ∧ w.step = .finished) ∧
    (∀ f, checkMarked hasError t = .error f ↔
      ∃ before v after cause text, documentOrder t = before ++ v :: after ∧
        Acceptable 0 before ∧ (refusals (openAfter 0 before) v).head? = some (cause, text) ∧
        f = ⟨v.node.start.row + 1, v.node.start.column + 1, cause⟩ ∧ f.cause.message = text) ∧
    (∀ starts, checkMarked hasError t = .ok starts ↔
      Acceptable 0 (documentOrder t) ∧ starts.Pairwise Precedes ∧
        ∀ p, p ∈ starts ↔ IsStatementStart t p) ∧
    (t.hasError = true ↔ ∃ v ∈ documentOrder t, Faulty v.node.label) :=
  ⟨(Walk.start t).exists_passes_end, fun _ _ h => h.state, exists_passes_all,
    checkMarked_error_iff hmark, checkMarked_ok_iff hmark, hasError_iff [] t⟩

theorem checkMarked_error_in_block :
    let e : ParseTree := .node .error ⟨1, 4⟩ [.leaf (.token "(") ⟨1, 4⟩]
    let b : ParseTree := .node (.construct .block) ⟨1, 2⟩ [e]
    let t : ParseTree := .node (.construct .module) ⟨0, 0⟩ [.leaf (.token ";") ⟨0, 1⟩, b]
    (∃ v ∈ documentOrder t, Faulty v.node.label) ∧
      checkMarked true t = .error ⟨2, 5, .invalidSyntax⟩ := by
  intro e b t
  have hmark : ∃ v ∈ documentOrder t, Faulty v.node.label :=
    ⟨⟨e, [b, t]⟩, by simp [documentOrder, visitsOf, visitsOfAll, t, b, e], .error⟩
  refine ⟨hmark, ((checkMarked_documentOrder t true fun _ => hmark).2.2.2.1 _).2 ?_⟩
  refine ⟨[⟨t, []⟩, ⟨.leaf (.token ";") ⟨0, 1⟩, [t]⟩, ⟨b, [t]⟩], ⟨e, [b, t]⟩,
    [⟨.leaf (.token "(") ⟨1, 4⟩, [e, b, t]⟩], .invalidSyntax, "invalid syntax", rfl, ?_, rfl, rfl,
    rfl⟩
  simp only [acceptable_cons, acceptable_nil, and_true]
  exact ⟨rfl, rfl, rfl⟩

end CodeReview.Python
