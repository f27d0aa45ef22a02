import CodeReview.Proofs.Python.LabelClasses

/-!
# The outline is a structural recursion

`outline` lists the nodes with the index of their parent and puts them together from the back.
`outlineUnder` is the same tree by recursion, with a clause for each label, and `outline_recursion`
says that the two agree on every tree. What the listing finds of a node is what its clause says
(`outlineUnder_eq`).

`Builds es count parent ns` is what carries the induction: assembling the entries `es`, whose
indices start at `count`, puts the nodes `ns` in front of the children of `parent` and leaves the
other entries before `count` alone.
-/

set_option autoImplicit false

namespace CodeReview.Python

open Syntax

/-! ## The outline by recursion -/

mutual

/-- The outline of a tree that stands directly below the given operator, by what its root is. -/
def outlineUnder (above : Option Logical) : ParseTree → Node
  | .node (.functionDefinition name) p cs =>
    .mk .function name (p.row + 1) (outlinesUnder none cs)
  | .node (.booleanOperator .and) p cs =>
    .mk (if above = some .and then .other else .logicalAnd) none (p.row + 1)
      (outlinesUnder (some .and) cs)
  | .node (.booleanOperator .or) p cs =>
    .mk (if above = some .or then .other else .logicalOr) none (p.row + 1)
      (outlinesUnder (some .or) cs)
  | .node (.construct c) p cs =>
    .mk ((constructKinds.lookup c).getD .other) none (p.row + 1)
      (if c ∈ strings then [] else outlinesUnder none cs)
  | .node (.token _) p cs | .node .error p cs | .node (.missing _) p cs =>
    .mk .other none (p.row + 1) (outlinesUnder none cs)

/-- The outlines of some trees other than tokens and comments. -/
def outlinesUnder (above : Option Logical) : List ParseTree → List Node
  | [] => []
  | c :: cs =>
    if substantial c.label then outlineUnder above c :: outlinesUnder above cs
    else outlinesUnder above cs

end

theorem outlinesUnder_eq (above : Option Logical) (cs : List ParseTree) :
    outlinesUnder above cs =
      (cs.filter fun c => substantial c.label).map (outlineUnder above) := by
  induction cs with
  | nil => rfl
  | cons c cs ih =>
    rw [outlinesUnder, List.filter_cons, ih]
    split <;> rfl

/-- The outline puts together what it finds of a node: its kind, its name, its line and the children
that it keeps. -/
theorem outlineUnder_eq (t : ParseTree) (above : Option Logical) :
    outlineUnder above t = .mk (kindOf t above) (nameOf t) (t.start.row + 1)
      ((keptChildren t).map (outlineUnder (operatorOf t))) := by
  obtain ⟨l, p, cs⟩ := t
  rw [keptChildren_eq]
  cases l with
  | construct c =>
    rw [outlineUnder, outlinesUnder_eq, kindOf_construct]
    by_cases hc : c ∈ strings
    · rw [if_pos hc, if_pos ⟨c, hc, rfl⟩]
      rfl
    · rw [if_neg hc, if_neg fun ⟨c', hc', heq⟩ => hc (Label.construct.inj heq ▸ hc')]
      rfl
  | booleanOperator op =>
    rw [if_neg fun ⟨c, _, heq⟩ => nomatch heq]
    cases op <;> rw [outlineUnder, outlinesUnder_eq] <;> rfl
  | _ =>
    rw [outlineUnder, outlinesUnder_eq, if_neg fun ⟨c, _, heq⟩ => nomatch heq]
    rfl

/-! ## Listing -/

theorem flattenFrom_cons (p : Pending) (ps : List Pending) (count : Nat) (done : List Entry) :
    flattenFrom (p :: ps) count done =
      flattenFrom (p.below count ++ ps) (count + 1) (p.entry count :: done) := by
  rw [flattenFrom]

/-- Entries that are listed already stay as they are. -/
theorem flattenFrom_done (ps : List Pending) (count : Nat) (done done' : List Entry) :
    flattenFrom ps count (done ++ done') = flattenFrom ps count done ++ done' := by
  induction ps, count, done using flattenFrom.induct with
  | case1 count done => simp [flattenFrom]
  | case2 p ps count done ih => rw [flattenFrom_cons, flattenFrom_cons, ← List.cons_append, ih]

/-- The entries of some pending trees come before those of the trees pending after them. -/
theorem flattenFrom_append (ps qs : List Pending) (count : Nat) (done : List Entry) :
    flattenFrom (ps ++ qs) count done =
      flattenFrom qs (count + (flattenFrom ps count []).length) (flattenFrom ps count done) := by
  induction ps, count, done using flattenFrom.induct with
  | case1 count done => simp [flattenFrom]
  | case2 p ps count done ih =>
    have hlen : (flattenFrom (p :: ps) count []).length =
        1 + (flattenFrom (p.below count ++ ps) (count + 1) []).length := by
      rw [flattenFrom_cons, ← List.nil_append [p.entry count], flattenFrom_done,
        List.length_append, List.length_singleton, Nat.add_comm]
    rw [hlen, List.cons_append, flattenFrom_cons, flattenFrom_cons, ← List.append_assoc, ih,
      Nat.add_assoc]

/-- The root of a tree is listed before all that is below it. -/
theorem flattenFrom_singleton (p : Pending) (count : Nat) :
    flattenFrom [p] count [] = flattenFrom (p.below count) (count + 1) [] ++ [p.entry count] := by
  rw [flattenFrom_cons, List.append_nil]
  exact flattenFrom_done _ _ [] _

/-! ## Assembling -/

/-- Assembling the entries `es`, with indices from `count` on, puts the nodes `ns` in front of the
children of the entry `parent` and leaves the others before `count` alone. -/
def Builds (es : List Entry) (count parent : Nat) (ns : List Node) : Prop :=
  ∀ (rest : List Entry) (children : Array (List Node)) (root : Node),
    count + es.length ≤ children.size →
    (∀ i, count ≤ i → i < count + es.length → children[i]? = some []) →
    ∃ children' : Array (List Node),
      assembleFrom (es ++ rest) children root = assembleFrom rest children' root ∧
      children'.size = children.size ∧
      ∀ i < count, children'[i]? = (children.modify parent (ns ++ ·))[i]?

theorem builds_nil (count parent : Nat) : Builds [] count parent [] := by
  intro rest children root _ _
  refine ⟨children, rfl, rfl, fun i _ => ?_⟩
  rw [Array.getElem?_modify]
  split <;> simp

/-- What is listed first is put in front. -/
theorem builds_append {es es' : List Entry} {count parent : Nat} {ns ns' : List Node}
    (hp : parent < count) (h : Builds es count parent ns)
    (h' : Builds es' (count + es.length) parent ns') :
    Builds (es' ++ es) count parent (ns ++ ns') := by
  intro rest children root hsize hempty
  rw [List.length_append] at hsize hempty
  obtain ⟨c1, hrun1, hsize1, hc1⟩ := h' (es ++ rest) children root (by omega)
    fun i hi hi' => hempty i (by omega) (by omega)
  obtain ⟨c2, hrun2, hsize2, hc2⟩ := h rest c1 root (by omega) fun i hi hi' => by
    rw [hc1 i hi', Array.getElem?_modify, if_neg (by omega)]
    exact hempty i hi (by omega)
  refine ⟨c2, by rw [List.append_assoc, hrun1, hrun2], by rw [hsize2, hsize1], fun i hi => ?_⟩
  rw [hc2 i hi, Array.getElem?_modify, Array.getElem?_modify, hc1 i (by omega),
    Array.getElem?_modify]
  split
  · simp [Option.map_map, Function.comp_def]
  · rfl

/-- An entry takes the nodes built for it as its children. -/
theorem builds_entry {es : List Entry} {e : Entry} {parent : Nat} {ns : List Node}
    (he : e.parent = some parent)
    (h : Builds es (e.index + 1) e.index ns) :
    Builds (es ++ [e]) e.index parent [e.node ns] := by
  intro rest children root hsize hempty
  rw [List.length_append, List.length_singleton] at hsize hempty
  obtain ⟨found, hrun, hsize', hfound⟩ := h ([e] ++ rest) children root (by omega)
    fun i hi hi' => hempty i (by omega) (by omega)
  have hown : found[e.index]? = some ns := by
    rw [hfound _ (by omega), Array.getElem?_modify, if_pos rfl, hempty _ (by omega) (by omega)]
    simp
  refine ⟨found.modify parent (e.node ns :: ·), ?_, by rw [Array.size_modify, hsize'],
    fun i hi => ?_⟩
  · rw [List.append_assoc, hrun, List.singleton_append, assembleFrom, he, hown]
    rfl
  · rw [Array.getElem?_modify, Array.getElem?_modify, hfound i (by omega), Array.getElem?_modify,
      if_neg (by omega : ¬ e.index = i)]
    rfl

/-- Trees pending below one parent, each of which builds its outline, build all of them in order. -/
theorem builds_pending {parent : Nat} {above : Option Logical} (ts : List ParseTree)
    (h : ∀ t ∈ ts, ∀ count, parent < count →
      Builds (flattenFrom [⟨t, some parent, above⟩] count []) count parent
        [outlineUnder above t]) :
    ∀ count, parent < count →
      Builds (flattenFrom (ts.map fun t => ⟨t, some parent, above⟩) count []) count parent
        (ts.map (outlineUnder above)) := by
  induction ts with
  | nil =>
    intro count _
    rw [List.map_nil, flattenFrom]
    exact builds_nil count parent
  | cons t ts ih =>
    intro count hp
    have hhead := h t List.mem_cons_self count hp
    have htail := ih (fun u hu => h u (List.mem_cons_of_mem _ hu))
      (count + (flattenFrom [⟨t, some parent, above⟩] count []).length) (by omega)
    have := builds_append hp hhead htail
    rw [List.map_cons, List.map_cons, ← List.singleton_append, flattenFrom_append,
      ← List.nil_append (flattenFrom [_] count []), flattenFrom_done]
    exact this

theorem mem_children_of_kept {t c : ParseTree} (h : c ∈ keptChildren t) : c ∈ t.children := by
  unfold keptChildren at h
  split at h
  · cases h
  · exact (List.mem_filter.1 h).1

/-- Every tree pending below a parent builds its outline there. -/
theorem builds_tree (t : ParseTree) : ∀ (parent count : Nat) (above : Option Logical),
    parent < count →
    Builds (flattenFrom [⟨t, some parent, above⟩] count []) count parent
      [outlineUnder above t] := by
  induction t using ParseTree.children_induction with
  | step t ih =>
    intro parent count above hp
    have hbelow : Builds (flattenFrom (Pending.below ⟨t, some parent, above⟩ count) (count + 1) [])
        (count + 1) count ((keptChildren t).map (outlineUnder (operatorOf t))) :=
      builds_pending (keptChildren t)
        (fun c hc n hn => ih c (mem_children_of_kept hc) count n _ hn) (count + 1) (by omega)
    rw [flattenFrom_singleton, outlineUnder_eq]
    exact builds_entry (e := Pending.entry ⟨t, some parent, above⟩ count) rfl hbelow

theorem assemble_flatten (t : ParseTree) : assemble (flatten t) = outlineUnder none t := by
  have hbelow : Builds (flattenFrom (Pending.below ⟨t, none, none⟩ 0) 1 []) 1 0
      ((keptChildren t).map (outlineUnder (operatorOf t))) :=
    builds_pending (keptChildren t) (fun c _ n hn => builds_tree c 0 n _ hn) 1 (by omega)
  rw [flatten, flattenFrom_singleton, assemble]
  generalize flattenFrom (Pending.below ⟨t, none, none⟩ 0) 1 [] = es at hbelow ⊢
  obtain ⟨found, hrun, -, hfound⟩ := hbelow [Pending.entry ⟨t, none, none⟩ 0]
    (Array.replicate (es ++ [Pending.entry ⟨t, none, none⟩ 0]).length []) default
    (by simp [Nat.add_comm])
    (fun i _ hi => by
      rw [List.length_append, List.length_singleton]
      rw [Array.getElem?_replicate, if_pos (by omega)])
  have hown : found[0]? = some ((keptChildren t).map (outlineUnder (operatorOf t))) := by
    rw [hfound 0 (by omega), Array.getElem?_modify, if_pos rfl]
    simp
  rw [hrun, outlineUnder_eq]
  simp only [assembleFrom, Pending.entry, hown]
  rfl

/-- Functions are what declares a function. -/
theorem kindOf_eq_function_iff (t : ParseTree) (above : Option Logical) :
    kindOf t above = .function ↔ ∃ name, t.label = .functionDefinition name := by
  obtain ⟨l, p, cs⟩ := t
  refine ⟨fun h => ?_, fun ⟨name, h⟩ => by rw [kindOf, h]⟩
  cases l with
  | functionDefinition name => exact ⟨name, rfl⟩
  | construct c => cases c <;> cases h
  | booleanOperator op =>
    simp only [kindOf, ParseTree.label] at h
    split at h
    · cases h
    · cases op <;> cases h
  | _ => cases h

/-- **The outline of a tree is a structural recursion.** Each node has its kind under the operator
above, its line, and the outlines of its named children other than comments, in document order;
strings have none. Below a logical operator its children stand under that operator. Functions have
the name that they declare, and nothing else has a name. -/
theorem outline_recursion (t : ParseTree) :
    outline t = outlineUnder none t ∧
    ∀ (above : Option Logical) (u : ParseTree),
      outlineUnder above u =
        .mk (kindOf u above)
          (match u.label with
            | .functionDefinition name => name
            | _ => none)
          (u.start.row + 1)
          (if ∃ c ∈ strings, u.label = .construct c then []
            else (u.children.filter fun c => substantial c.label).map
              (outlineUnder (match u.label with
                | .booleanOperator op => some op
                | _ => none))) ∧
      (kindOf u above = .function ↔ ∃ name, u.label = .functionDefinition name) := by
  refine ⟨assemble_flatten t, fun above u => ⟨?_, kindOf_eq_function_iff u above⟩⟩
  rw [outlineUnder_eq, keptChildren_eq, apply_ite (List.map _)]
  rfl

end CodeReview.Python
