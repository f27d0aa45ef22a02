import CodeReview.Proofs.Python.DocumentOrder
import CodeReview.Proofs.Rules.FindingIds
import Mathlib.Data.Finset.Card

/-!
# Findings that are reported twice

A finding of the standard battery is known from its message (`eq_of_message_eq`): the number at its
start gives the line, the code at its end is that of the line, and what stands between is said by
one rule only. So the findings have different messages, and different ids if digests do not
collide, just if they differ at all. The rules on single lines make one finding on a line. The rule
on unused imports makes one for each name that a line binds, and it does not see that a name was
bound before on the line: `run_nodup_iff` says that this is the only way to a repeated finding.
-/

set_option autoImplicit false

namespace CodeReview

open Text

/-! ## Messages -/

namespace Rule

/-- The code at the end of a message. -/
def quotedCode (code : String) : String := " → \x60" ++ trim code ++ "\x60"

theorem lineMessage_inj {m n : Nat} {what what' code code' : String}
    (h : lineMessage m what code = lineMessage n what' code') :
    m = n ∧ what ++ quotedCode code = what' ++ quotedCode code' := by
  have htext : ∀ (n : Nat) (what code : String), (lineMessage n what code).toList =
      "Line ".toList ++ ((toString n).toList ++
        ':' :: ' ' :: (what ++ quotedCode code).toList) := by
    intro n what code
    simp only [lineMessage, quotedCode, String.toList_append, List.append_assoc]
    rfl
  have hlist := congrArg String.toList h
  rw [htext, htext] at hlist
  obtain ⟨hline, hrest⟩ := Json.nat_append_inj (.cons _ rfl) (.cons _ rfl)
    (List.append_cancel_left hlist)
  exact ⟨hline, String.toList_inj.1 (List.cons.inj (List.cons.inj hrest).2).2⟩

end Rule

namespace Rules

open Rule

variable {u : SourceUnit} {r r' : Rule} {f g : Finding} {what what' : String}

/-- No two rules say the same. -/
theorem Says.rule_eq (h : Says r what) (h' : Says r' what') (he : what = what') : r = r' := by
  -- the first three letters tell them apart
  have hletters := congrArg (fun s => s.toList.take 3) he
  cases h <;> cases h' <;> first | rfl | exact absurd hletters (by simp)

/-- A finding of the battery is known from its message. -/
theorem eq_of_message_eq (hf : f ∈ run standard u) (hg : g ∈ run standard u)
    (h : f.message = g.message) : f = g := by
  obtain ⟨r, hr, hf⟩ := List.mem_flatMap.1 hf
  obtain ⟨r', hr', hg⟩ := List.mem_flatMap.1 hg
  obtain ⟨what, m, text, hsays, hm, rfl⟩ := exists_of_mem_check hr hf
  obtain ⟨what', n, text', hsays', hn, rfl⟩ := exists_of_mem_check hr' hg
  obtain ⟨rfl, hwhat⟩ := lineMessage_inj h
  obtain rfl : text = text' := Option.some.inj (hm.symm.trans hn)
  obtain rfl : what = what' := (String.append_left_inj _).1 hwhat
  obtain rfl : r = r' := hsays.rule_eq hsays' rfl
  rfl

/-! ## Repetitions -/

/-- No line binds a name twice that is used on no other line. -/
def BindsOnce (u : SourceUnit) : Prop :=
  ∀ l ∈ u.numberedLines, ((importedNames l.2).filter fun name => ¬ UsedElsewhere u l.1 name).Nodup

instance (u : SourceUnit) : Decidable (BindsOnce u) :=
  inferInstanceAs (Decidable (∀ l ∈ u.numberedLines, _))

theorem nodup_ofLines (name description what : String) (c : Category) (flags : List Char → Bool) :
    ((Rule.ofLines name description c what flags).check u).Nodup := by
  obtain ⟨numbers, hlines, hascending⟩ :=
    (reportsLines_ofLines (fun line => Iff.rfl (a := flags line)) u).ascending
  have hnumbers : numbers.Nodup := hascending.imp Nat.ne_of_lt
  exact .of_map (·.line) (hlines ▸ hnumbers.map (Option.some_injective Nat))

theorem importFinding_injective (l : Nat × String) :
    Function.Injective fun name => importFinding name l := by
  intro name name' h
  have hwhat := (lineMessage_inj (congrArg Finding.message h)).2
  simpa using hwhat

/-- The findings on the names of one line have its number and differ like the names. -/
theorem nodup_check_unusedImport_iff : (unusedImport.check u).Nodup ↔ BindsOnce u := by
  rw [check_unusedImport_eq, List.flatMap_congr fun l hl => filterMap_unusedFinding? hl _,
    List.nodup_flatMap]
  constructor
  · rintro ⟨hnodup, -⟩ l hl
    exact (hnodup l hl).of_map _
  · intro hbinds
    refine ⟨fun l hl => (hbinds l hl).map (importFinding_injective l), ?_⟩
    refine (List.pairwise_map.1 (SourceUnit.numberedLines_ascending u)).imp ?_
    intro l l' hlt f hf hf'
    obtain ⟨name, -, rfl⟩ := List.mem_map.1 hf
    obtain ⟨name', -, hsame⟩ := List.mem_map.1 hf'
    have hline : some l'.1 = some l.1 := congrArg Finding.line hsame
    exact hlt.ne (Option.some.inj hline).symm

/-- The rules of the battery find different things, and only one of them repeats itself. -/
theorem run_nodup_iff : (run standard u).Nodup ↔ BindsOnce u := by
  have hnames : standard.Pairwise fun r r' => r.name ≠ r'.name := by decide
  rw [run, List.nodup_flatMap]
  constructor
  · rintro ⟨hnodup, -⟩
    exact nodup_check_unusedImport_iff.1 (hnodup unusedImport (by simp [standard]))
  · intro hbinds
    refine ⟨?_, hnames.imp_of_mem fun {r r'} hr hr' hne f hf hf' => hne ?_⟩
    · simp only [standard, List.forall_mem_cons, List.not_mem_nil, false_imp_iff, implies_true,
        and_true]
      exact ⟨nodup_ofLines _ _ _ _ _, nodup_ofLines _ _ _ _ _, nodup_ofLines _ _ _ _ _,
        nodup_check_unusedImport_iff.2 hbinds⟩
    · rw [← rule_of_mem_check hr hf, rule_of_mem_check hr' hf']

/-- What the message of a finding follows from differs for different findings of the battery. -/
theorem nodup_map_run_iff {α : Type} (key : Finding → α)
    (hkey : ∀ f ∈ run standard u, ∀ g ∈ run standard u, key f = key g → f.message = g.message) :
    ((run standard u).map key).Nodup ↔ BindsOnce u := by
  rw [← run_nodup_iff]
  exact ⟨.of_map key, .map_on fun f hf g hg h => eq_of_message_eq hf hg (hkey f hf g hg h)⟩

/-- **A finding is repeated just if a line binds an unused name twice.** The findings of the battery
differ by their rules, lines and messages, and there are as many of them as there are pairs of a
category and a message, just if no line of the unit binds a name twice that no other line uses. If
no two of their digests collide, the same holds for the ids. -/
theorem findings_distinct_iff (u : SourceUnit) :
    (((run standard u).map fun f => (f.rule, f.line, f.message)).Nodup ↔ BindsOnce u) ∧
    (((run standard u).map fun f => (f.category, f.message)).toFinset.card =
      (run standard u).length ↔ BindsOnce u) ∧
    ((∀ f ∈ run standard u, ∀ g ∈ run standard u, f.id = g.id → idTextOf f = idTextOf g) →
      (((run standard u).map (·.id)).Nodup ↔ BindsOnce u)) := by
  refine ⟨nodup_map_run_iff _ fun f _ g _ h => ?_, ?_, fun hdigest => ?_⟩
  · exact (Prod.mk.inj (Prod.mk.inj h).2).2
  · rw [← List.length_map (f := fun f : Finding => (f.category, f.message)),
      ← nodup_map_run_iff (fun f => (f.category, f.message)) fun f _ g _ h => (Prod.mk.inj h).2]
    exact Multiset.toFinset_card_eq_card_iff_nodup
  · exact nodup_map_run_iff _ fun f hf g hg h =>
      ((idTextOf_eq_iff hf hg).1 (hdigest f hf g hg h)).2.2

/-- Two modules that nothing uses. -/
theorem findings_distinct_of_modules :
    let u : SourceUnit := ⟨"Python", ["import os, sys"], default⟩
    (∀ f ∈ run standard u, ∀ g ∈ run standard u, f.id = g.id → idTextOf f = idTextOf g) ∧
      ((run standard u).map (·.id)).Nodup := by
  intro u
  have hdigest : ∀ f ∈ run standard u, ∀ g ∈ run standard u,
      f.id = g.id → idTextOf f = idTextOf g := by
    rw [run, standard, List.flatMap_cons, List.flatMap_cons, List.flatMap_cons,
      List.flatMap_singleton, check_unusedImport_eq,
      List.flatMap_congr fun l hl => filterMap_unusedFinding? hl _]
    decide +kernel
  exact ⟨hdigest, ((findings_distinct_iff u).2.2 hdigest).2 (by decide +kernel)⟩

/-- A package that is bound by two of its modules is reported twice. -/
theorem package_reported_twice :
    ∃ u, SourceUnit.ofText .python "import xml.dom, xml.sax\n" = .ok u ∧
      ¬ ((run standard u).map fun f => (f.rule, f.line, f.message)).Nodup := by
  generalize htext : "import xml.dom, xml.sax\n" = text
  have hread : SourceUnit.ofText .python text =
      .ok ⟨"Python", lines text, Python.outline (Python.parse text.toList)⟩ := by
    subst htext
    exact Python.ofText_eq_ok _ [⟨0, 0⟩] (by decide +kernel) (by decide) (by decide +kernel)
      (by decide +kernel) (by decide +kernel)
  have hlines : lines text = ["import xml.dom, xml.sax"] := by
    subst htext
    decide +kernel
  rw [hlines] at hread
  refine ⟨_, hread, ?_⟩
  rw [nodup_map_run_iff _ fun f _ g _ h => (Prod.mk.inj (Prod.mk.inj h).2).2]
  -- the tree does not matter
  change ¬ BindsOnce ⟨"Python", ["import xml.dom, xml.sax"], default⟩
  decide +kernel

end Rules

end CodeReview
