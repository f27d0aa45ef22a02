import CodeReview.Finding

/-!
# Categorized results

A categorized result gives some of the categories a list of messages. `merge` unites two results:
the messages of each category are sorted, and none is repeated.
-/

set_option autoImplicit false

namespace CodeReview

/-- The messages of each category; a category without an entry has none. -/
structure Categorized where
  security : Option (List String) := none
  style : Option (List String) := none
  bug : Option (List String) := none
  documentation : Option (List String) := none
  modularity : Option (List String) := none
deriving DecidableEq, Repr

namespace Categorized

/-- The result without entries. -/
def empty : Categorized := {}

/-- The messages of a category, if it has an entry. -/
def get? (r : Categorized) : Category → Option (List String)
  | .security => r.security
  | .style => r.style
  | .bug => r.bug
  | .documentation => r.documentation
  | .modularity => r.modularity

/-- The messages of a category; there are none if it has no entry. -/
def messages (r : Categorized) (c : Category) : List String := (r.get? c).getD []

/-- The result with the given entry for each category. -/
def ofFun (f : Category → Option (List String)) : Categorized where
  security := f .security
  style := f .style
  bug := f .bug
  documentation := f .documentation
  modularity := f .modularity

/-- Gives a category the messages, in place of those it had. -/
def insert (r : Categorized) (c : Category) (messages : List String) : Categorized :=
  ofFun fun d => if d = c then some messages else r.get? d

/-- Adds a message at the end of a category. -/
def push (r : Categorized) (c : Category) (message : String) : Categorized :=
  r.insert c (r.messages c ++ [message])

/-- Whether a category has an entry. -/
def contains (r : Categorized) (c : Category) : Bool := (r.get? c).isSome

/-- The entries in the order of the categories. -/
def toList (r : Categorized) : List (Category × List String) :=
  Category.all.filterMap fun c => (r.get? c).map fun ms => (c, ms)

/-- Whether no category has an entry. -/
def isEmpty (r : Categorized) : Bool := r.toList.isEmpty

/-- The number of messages of all categories. -/
def total (r : Categorized) : Nat := (r.toList.flatMap (·.2)).length

/-- The entry for some messages; without messages there is none. -/
def entryOf : List String → Option (List String)
  | [] => none
  | ms => some ms

/-- The messages of one category in a list, in their order. -/
def messagesIn (ps : List (Category × String)) (c : Category) : List String :=
  ps.filterMap fun p => if p.1 = c then some p.2 else none

/-- The result in which each category has its messages of the list, in their order. -/
def ofPairs (ps : List (Category × String)) : Categorized :=
  ofFun fun c => entryOf (messagesIn ps c)

/-- The result for some findings. -/
def ofFindings (fs : List Finding) : Categorized :=
  ofPairs (fs.map fun f => (f.category, f.message))

/-- The messages in ascending order, each once. -/
def sortedUnion (xs ys : List String) : List String :=
  ((xs ++ ys).mergeSort fun x y => decide (x ≤ y)).eraseReps

/-- The union of two results. -/
def merge (a b : Categorized) : Categorized :=
  ofFun fun c =>
    match a.get? c, b.get? c with
    | none, none => none
    | xs, ys => some (sortedUnion (xs.getD []) (ys.getD []))

/-! ## Entries -/

theorem entryOf_eq_some_iff {ms ms' : List String} :
    entryOf ms = some ms' ↔ ms' ≠ [] ∧ ms' = ms := by
  cases ms with
  | nil => simp [entryOf]
  | cons m ms => simpa [entryOf, eq_comm] using fun h => by simp [h]

@[simp] theorem getD_entryOf (ms : List String) : (entryOf ms).getD [] = ms := by
  cases ms <;> rfl

theorem entryOf_append (xs ys : List String) :
    entryOf (xs ++ ys) = (entryOf xs).merge (· ++ ·) (entryOf ys) := by
  cases xs <;> cases ys <;> simp [entryOf]

@[simp] theorem get?_ofFun (f : Category → Option (List String)) (c : Category) :
    (ofFun f).get? c = f c := by cases c <;> rfl

@[simp] theorem get?_empty (c : Category) : empty.get? c = none := by cases c <;> rfl

@[simp] theorem contains_empty (c : Category) : empty.contains c = false := by
  rw [contains, get?_empty]
  rfl

@[simp] theorem messages_empty (c : Category) : empty.messages c = [] := by
  rw [messages, get?_empty]
  rfl

/-- A result is known from its entries. -/
theorem ext_get? {r s : Categorized} (h : ∀ c, r.get? c = s.get? c) : r = s := by
  cases r
  cases s
  simp only [mk.injEq]
  exact ⟨h .security, h .style, h .bug, h .documentation, h .modularity⟩

@[simp] theorem get?_ofPairs (ps : List (Category × String)) (c : Category) :
    (ofPairs ps).get? c = entryOf (messagesIn ps c) := get?_ofFun _ c

@[simp] theorem messages_ofPairs (ps : List (Category × String)) (c : Category) :
    (ofPairs ps).messages c = messagesIn ps c := by
  rw [messages, get?_ofPairs, getD_entryOf]

theorem messages_of_get? {r : Categorized} {c : Category} {ms : List String}
    (h : r.get? c = some ms) : r.messages c = ms := by rw [messages, h, Option.getD_some]

theorem contains_iff {r : Categorized} {c : Category} :
    r.contains c ↔ r.get? c = some (r.messages c) := by
  cases h : r.get? c <;> simp [contains, messages, h]

/-- A result is known from the categories that have an entry and from their messages. -/
theorem ext_messages {r s : Categorized} (hc : ∀ c, r.contains c = s.contains c)
    (hm : ∀ c, r.messages c = s.messages c) : r = s := by
  refine ext_get? fun c => ?_
  cases hr : r.contains c with
  | true => rw [contains_iff.1 hr, contains_iff.1 (hc c ▸ hr), hm]
  | false =>
    have hs : s.contains c = false := hc c ▸ hr
    rw [contains, Option.isSome_eq_false_iff, Option.isNone_iff_eq_none] at hr hs
    rw [hr, hs]

end Categorized

end CodeReview
