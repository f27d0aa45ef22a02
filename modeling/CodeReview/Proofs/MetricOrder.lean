import CodeReview.Metrics
import Mathlib.Data.String.Basic

/-!
# Metrics are kept in order

A metric has its names in strictly ascending order (`Metric.Ascending`), so none stands in it twice.
Changing the number of a name keeps the order (`Metric.alter_ascending`), and the metrics of a unit
are made by such changes from the empty one. An ordered metric is the one that its own entries make,
inserted in their order (`Metric.foldl_insert`). What a change does to the number of each name is
`Metric.get?_alter`, and what many changes do is `Metric.get?_foldl_alter`: under a name only the
changes of this name count.
-/

set_option autoImplicit false

namespace CodeReview

namespace Metric

/-- The names stand in strictly ascending order. -/
def Ascending (m : Metric) : Prop := m.Pairwise fun d e => d.1 < e.1

instance (m : Metric) : Decidable (Ascending m) := inferInstanceAs (Decidable (List.Pairwise _ m))

theorem ascending_nil : Ascending [] := List.Pairwise.nil

/-- A change adds no name but its own. -/
theorem mem_alter {f : Option Nat → Nat} {name : String} {m : Metric} {e : String × Nat}
    (h : e ∈ m.alter f name) : e.1 = name ∨ e ∈ m := by
  induction m with
  | nil =>
    rw [alter, List.mem_singleton] at h
    exact .inl (by rw [h])
  | cons d m ih =>
    obtain ⟨k, v⟩ := d
    unfold alter at h
    split_ifs at h with hlt heq
    · rcases List.mem_cons.1 h with rfl | h
      · exact .inl rfl
      · exact .inr h
    · rcases List.mem_cons.1 h with rfl | h
      · exact .inl heq
      · exact .inr (List.mem_cons_of_mem _ h)
    · rcases List.mem_cons.1 h with rfl | h
      · exact .inr List.mem_cons_self
      · exact (ih h).imp_right (List.mem_cons_of_mem _)

theorem alter_ascending {m : Metric} (h : m.Ascending) (f : Option Nat → Nat) (name : String) :
    (m.alter f name).Ascending := by
  induction m with
  | nil => exact List.pairwise_singleton _ _
  | cons d m ih =>
    obtain ⟨k, v⟩ := d
    obtain ⟨hk, hm⟩ := List.pairwise_cons.1 h
    unfold alter
    split_ifs with hlt heq
    · refine List.pairwise_cons.2 ⟨fun e he => ?_, h⟩
      rcases List.mem_cons.1 he with rfl | he
      · exact hlt
      · exact hlt.trans (hk e he)
    · exact List.pairwise_cons.2 ⟨hk, hm⟩
    · have hlt' : k < name := lt_of_le_of_ne (not_lt.1 hlt) heq
      refine List.pairwise_cons.2 ⟨fun e he => ?_, ih hm⟩
      rcases mem_alter he with he | he
      · exact he ▸ hlt'
      · exact hk e he

/-- Changes by which a metric is made from the empty one leave it in order. -/
theorem foldl_alter_ascending {α : Type} (name : α → String) (f : α → Option Nat → Nat)
    (xs : List α) {m : Metric} (h : m.Ascending) :
    (xs.foldl (fun m x => m.alter (f x) (name x)) m).Ascending := by
  induction xs generalizing m with
  | nil => exact h
  | cons x xs ih => exact ih (alter_ascending h _ _)

/-- A name after all others comes to the end. -/
theorem insert_of_forall_lt {m : Metric} {name : String} (h : ∀ e ∈ m, e.1 < name) (n : Nat) :
    m.insert name n = m ++ [(name, n)] := by
  induction m with
  | nil => rfl
  | cons d m ih =>
    obtain ⟨k, v⟩ := d
    have hk : k < name := h (k, v) List.mem_cons_self
    have hm := ih fun e he => h e (List.mem_cons_of_mem _ he)
    rw [insert] at hm
    rw [insert, alter, if_neg hk.asymm, if_neg hk.ne, hm, List.cons_append]

/-- An ordered metric is made again by inserting its entries in their order. -/
theorem foldl_insert {before m : Metric} (h : Ascending (before ++ m)) :
    m.foldl (fun m e => Metric.insert m e.1 e.2) before = before ++ m := by
  induction m generalizing before with
  | nil => rw [List.foldl_nil, List.append_nil]
  | cons e m ih =>
    have hlt : ∀ d ∈ before, d.1 < e.1 := fun d hd =>
      (List.pairwise_append.1 h).2.2 d hd e List.mem_cons_self
    rw [List.append_cons] at h ⊢
    rw [List.foldl_cons, insert_of_forall_lt hlt, ih h]

/-! ## The number of a name -/

theorem get?_cons (k : String) (v : Nat) (m : Metric) (name : String) :
    get? ((k, v) :: m) name = if k = name then some v else get? m name := by
  unfold get?
  rw [List.find?_cons]
  by_cases h : k = name
  · simp [h]
  · rw [beq_false_of_ne h, if_neg h]

theorem mem_names_iff {m : Metric} {name : String} :
    name ∈ m.map (·.1) ↔ (m.get? name).isSome := by
  simp [get?, List.find?_isSome]

theorem mem_of_get?_eq_some {m : Metric} {name : String} {v : Nat} (h : m.get? name = some v) :
    (name, v) ∈ m := by
  obtain ⟨e, he, rfl⟩ := Option.map_eq_some_iff.1 h
  obtain rfl : e.1 = name := by simpa using List.find?_some he
  exact List.mem_of_find?_eq_some he

theorem get?_eq_none_of_forall_lt {m : Metric} {name : String} (h : ∀ e ∈ m, name < e.1) :
    m.get? name = none := by
  rw [← Option.not_isSome_iff_eq_none, ← mem_names_iff, List.mem_map]
  rintro ⟨e, he, rfl⟩
  exact lt_irrefl _ (h e he)

theorem Ascending.get?_eq_some {m : Metric} (h : m.Ascending) {e : String × Nat} (he : e ∈ m) :
    m.get? e.1 = some e.2 := by
  induction m with
  | nil => cases he
  | cons d m ih =>
    obtain ⟨k, v⟩ := d
    obtain ⟨hk, hm⟩ := List.pairwise_cons.1 h
    rw [get?_cons]
    rcases List.mem_cons.1 he with rfl | he
    · rw [if_pos rfl]
    · rw [if_neg (ne_of_lt (hk e he)), ih hm he]

/-- A change concerns the number of its own name only. -/
theorem get?_alter {m : Metric} (h : m.Ascending) (f : Option Nat → Nat) (name k : String) :
    (m.alter f name).get? k = if name = k then some (f (m.get? name)) else m.get? k := by
  induction m with
  | nil => exact get?_cons name (f none) [] k
  | cons d m ih =>
    obtain ⟨k', v⟩ := d
    obtain ⟨hk, hm⟩ := List.pairwise_cons.1 h
    unfold alter
    by_cases hlt : name < k'
    · have habsent : get? ((k', v) :: m) name = none := by
        apply get?_eq_none_of_forall_lt
        intro e he
        rcases List.mem_cons.1 he with rfl | he
        · exact hlt
        · exact hlt.trans (hk e he)
      rw [if_pos hlt, get?_cons, habsent]
    · rw [if_neg hlt]
      by_cases heq : k' = name
      · subst heq
        rw [if_pos rfl, get?_cons, get?_cons, get?_cons, if_pos rfl]
        split <;> rfl
      · rw [if_neg heq, get?_cons, get?_cons, get?_cons, if_neg heq, ih hm]
        by_cases hk' : k' = k
        · subst hk'
          rw [if_pos rfl, if_pos rfl, if_neg (Ne.symm heq)]
        · rw [if_neg hk', if_neg hk']

/-- Many changes add their names and no others. -/
theorem mem_names_foldl_alter {α : Type} (name : α → String) (f : α → Option Nat → Nat)
    (xs : List α) {m : Metric} (h : m.Ascending) (k : String) :
    k ∈ (xs.foldl (fun m x => m.alter (f x) (name x)) m).map (·.1) ↔
      k ∈ m.map (·.1) ∨ k ∈ xs.map name := by
  induction xs generalizing m with
  | nil => simp
  | cons x xs ih =>
    have hx : k ∈ (m.alter (f x) (name x)).map (·.1) ↔ k = name x ∨ k ∈ m.map (·.1) := by
      rw [mem_names_iff, mem_names_iff, get?_alter h]
      by_cases hk : name x = k
      · simp [hk]
      · simp [hk, Ne.symm hk]
    rw [List.foldl_cons, ih (alter_ascending h _ _), hx, List.map_cons, List.mem_cons]
    tauto

/-- Of many changes, those of a name make its number. -/
theorem get?_foldl_alter {α : Type} (name : α → String) (f : α → Option Nat → Nat) (xs : List α)
    {m : Metric} (h : m.Ascending) (k : String) :
    (xs.foldl (fun m x => m.alter (f x) (name x)) m).get? k =
      (xs.filter fun x => name x == k).foldl (fun v x => some (f x v)) (m.get? k) := by
  induction xs generalizing m with
  | nil => rfl
  | cons x xs ih =>
    rw [List.foldl_cons, ih (alter_ascending h _ _), get?_alter h, List.filter_cons]
    by_cases hx : name x = k
    · subst hx
      simp
    · simp [hx]

end Metric

namespace SourceUnit

theorem functionLengths_ascending (u : SourceUnit) : Metric.Ascending u.functionLengths :=
  Metric.foldl_alter_ascending FunctionSpan.name (fun s _ => s.lineCount) _ Metric.ascending_nil

theorem cyclomaticComplexity_ascending (u : SourceUnit) :
    Metric.Ascending u.cyclomaticComplexity :=
  Metric.foldl_alter_ascending functionName (fun n v => v.getD 0 + complexityOf n) _
    Metric.ascending_nil

end SourceUnit

end CodeReview
