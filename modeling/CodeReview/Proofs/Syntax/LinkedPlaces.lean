import CodeReview.Proofs.Syntax.Place
import Mathlib.Combinatorics.SimpleGraph.Connectivity.Connected
import Mathlib.Data.Set.Card

/-!
# Groups of linked places

In a set of places, parents and children are linked. A group of linked places has one place whose
parent is not in the set, its head: `Place.Leads S h p` says that going up from `p` within `S` ends
at `h`. So there are as many groups as heads (`Place.card_groups`), and every other place of the set
makes one pair with its parent (`Place.heads_add_links`).
-/

set_option autoImplicit false

namespace CodeReview.Syntax.Place

/-- The first place is directly below the second. -/
def ChildOf (q p : Place) : Prop := ∃ i, q = p ++ [i]

theorem ChildOf.parent_unique {q p p' : Place} (h : q.ChildOf p) (h' : q.ChildOf p') : p = p' := by
  obtain ⟨i, rfl⟩ := h
  obtain ⟨j, h⟩ := h'
  exact (List.append_singleton_inj.1 h).1

variable (S : Set Place)

/-- Parents and children in a set of places are linked. -/
def linked : SimpleGraph S := SimpleGraph.fromRel fun p q => q.1.ChildOf p.1

/-- The pairs of a parent and a child in a set of places. -/
def links : Set (Place × Place) := {e | e.1 ∈ S ∧ e.2 ∈ S ∧ e.2.ChildOf e.1}

/-- The places of a set whose parent is not in it. -/
def heads : Set Place := {p | p ∈ S ∧ ∀ q ∈ S, ¬ p.ChildOf q}

/-- The way up from a place within a set ends at a head. -/
inductive Leads : Place → Place → Prop
  | head {p : Place} : p ∈ heads S → Leads p p
  | link {h p q : Place} : Leads h p → q.ChildOf p → q ∈ S → Leads h q

variable {S}

theorem Leads.mem_heads {h p : Place} (hl : Leads S h p) : h ∈ heads S := by
  induction hl with
  | head hp => exact hp
  | link _ _ _ ih => exact ih

theorem Leads.mem {h p : Place} (hl : Leads S h p) : p ∈ S := by
  cases hl with
  | head hp => exact hp.1
  | link _ _ hq => exact hq

theorem exists_leads {p : Place} (hp : p ∈ S) : ∃ h, Leads S h p := by
  induction p using List.reverseRecOn with
  | nil =>
    refine ⟨[], .head ⟨hp, ?_⟩⟩
    rintro q - ⟨i, hi⟩
    simp at hi
  | append_singleton p i ih =>
    by_cases hparent : p ∈ S
    · obtain ⟨h, hl⟩ := ih hparent
      exact ⟨h, .link hl ⟨i, rfl⟩ hp⟩
    · refine ⟨p ++ [i], .head ⟨hp, ?_⟩⟩
      intro q hq hchild
      rw [hchild.parent_unique ⟨i, rfl⟩] at hq
      exact hparent hq

/-- A parent in the set has the same head. -/
theorem Leads.parent {h p q : Place} (hl : Leads S h q) (hc : q.ChildOf p) (hp : p ∈ S) :
    Leads S h p := by
  cases hl with
  | head hq => exact absurd hc (hq.2 p hp)
  | link hl' hc' _ => exact hc.parent_unique hc' ▸ hl'

theorem Leads.unique {h h' p : Place} (hl : Leads S h p) (hl' : Leads S h' p) : h = h' := by
  induction hl with
  | head hp =>
    cases hl' with
    | head => rfl
    | link hl' hc => exact absurd hc (hp.2 _ hl'.mem)
  | link hl hc _ ih => exact ih (hl'.parent hc hl.mem)

theorem Leads.reachable {h p : Place} (hl : Leads S h p) :
    (linked S).Reachable ⟨h, hl.mem_heads.1⟩ ⟨p, hl.mem⟩ := by
  induction hl with
  | head => exact .rfl
  | link hl hc hq ih =>
    refine ih.trans (SimpleGraph.Adj.reachable ?_)
    rw [linked, SimpleGraph.fromRel_adj]
    refine ⟨?_, .inl hc⟩
    intro heq
    obtain ⟨i, hi⟩ := hc
    have := congrArg List.length ((congrArg Subtype.val heq).trans hi)
    simp at this

theorem Leads.of_adj {h : Place} {p q : S} (hl : Leads S h p) (hadj : (linked S).Adj p q) :
    Leads S h q := by
  rw [linked, SimpleGraph.fromRel_adj] at hadj
  rcases hadj.2 with hc | hc
  · exact .link hl hc q.2
  · exact hl.parent hc q.2

theorem Leads.of_reachable {h : Place} {p q : S} (hl : Leads S h p)
    (hr : (linked S).Reachable p q) : Leads S h q := by
  obtain ⟨w⟩ := hr
  induction w with
  | nil => exact hl
  | cons hadj _ ih => exact ih (hl.of_adj hadj)

variable (S)

/-- There are as many groups of linked places as heads. -/
theorem card_groups : Nat.card (linked S).ConnectedComponent = (heads S).ncard := by
  rw [← Nat.card_coe_set_eq]
  symm
  apply Nat.card_eq_of_bijective fun h : heads S =>
    (linked S).connectedComponentMk ⟨h.1, h.2.1⟩
  constructor
  · intro h h' heq
    have hl := (Leads.head h.2).of_reachable (SimpleGraph.ConnectedComponent.eq.1 heq)
    exact Subtype.ext (hl.unique (.head h'.2))
  · intro c
    induction c using SimpleGraph.ConnectedComponent.ind with
    | _ p =>
      obtain ⟨h, hl⟩ := exists_leads p.2
      exact ⟨⟨h, hl.mem_heads⟩, SimpleGraph.ConnectedComponent.eq.2 hl.reachable⟩

/-- A place that is no head makes one pair with its parent. -/
theorem heads_add_links (hS : S.Finite) : (heads S).ncard + (links S).ncard = S.ncard := by
  have himage : Prod.snd '' links S = S \ heads S := by
    ext q
    constructor
    · rintro ⟨e, ⟨hp, hq, hc⟩, rfl⟩
      exact ⟨hq, fun hhead => hhead.2 e.1 hp hc⟩
    · rintro ⟨hq, hnot⟩
      have hparent : ∃ p ∈ S, q.ChildOf p := by
        by_contra hno
        exact hnot ⟨hq, fun p hp hc => hno ⟨p, hp, hc⟩⟩
      obtain ⟨p, hp, hc⟩ := hparent
      exact ⟨(p, q), ⟨hp, hq, hc⟩, rfl⟩
  have hinj : Set.InjOn Prod.snd (links S) := by
    rintro ⟨p, q⟩ ⟨-, -, hc⟩ ⟨p', q'⟩ ⟨-, -, hc'⟩ rfl
    exact congrArg (·, q) (hc.parent_unique hc')
  rw [← hinj.ncard_image, himage, Nat.add_comm]
  exact Set.ncard_sdiff_add_ncard_of_subset (fun p hp => hp.1) hS

end CodeReview.Syntax.Place
