import CodeReview.Proofs.Feedback.ClassifyRows
import CodeReview.Proofs.Feedback.FirstTrigger
import CodeReview.Proofs.Text.LetterCase

/-!
# Feedback in another case

Triggers do not look at the case of letters, so a line keeps the first row with a trigger when ASCII
letters change their case (`Classifier.classifyLine_recased`). Neither do the cuts between lines nor
the blanks around them. So two texts that differ in case only are classified line by line alike:
under each category stand the lines at the same places (`Classifier.ClassifiedAlike`).
-/

set_option autoImplicit false

namespace CodeReview.Feedback

open Text

variable {line line' : List Char}

theorem HasTrigger.recased_iff (h : Recased line line') (patterns : List String) :
    HasTrigger patterns line ↔ HasTrigger patterns line' := by
  simp only [HasTrigger, h.found_iff]

theorem FirstTriggered.recased_iff (h : Recased line line') (table : List (Category × List String))
    (c : Category) : FirstTriggered table line c ↔ FirstTriggered table line' c := by
  simp only [FirstTriggered, HasTrigger.recased_iff h]

namespace Classifier

variable {table : List (Category × List String)} {k : Classifier}

theorem classifyLine_recased (hk : ofTable? table = some k) (h : Recased line line') :
    k.classifyLine line = k.classifyLine line' :=
  Option.ext fun c => by
    rw [classifyLine_iff hk, classifyLine_iff hk, FirstTriggered.recased_iff h]

/-- The lines of two texts that count correspond and have the same categories, and the entries of a
category hold the lines at the same places. -/
structure ClassifiedAlike (k : Classifier) (s t : String) : Prop where
  lines : List.Forall₂ Recased (contentLines s.toList) (contentLines t.toList)
  categories :
    (contentLines s.toList).map k.classifyLine = (contentLines t.toList).map k.classifyLine
  entries : ∀ c, ∃ pairs,
    List.Sublist pairs ((contentLines s.toList).zip (contentLines t.toList)) ∧
    (k.classify s).get? c = Categorized.entryOf (pairs.map fun p => String.ofList p.1) ∧
    (k.classify t).get? c = Categorized.entryOf (pairs.map fun p => String.ofList p.2)

/-- The lines of a category stand at the same places among corresponding lines. -/
theorem exists_sublist_zip (hk : ofTable? table = some k) {ls ms : List (List Char)}
    (h : List.Forall₂ Recased ls ms) (c : Category) :
    ∃ pairs, List.Sublist pairs (ls.zip ms) ∧
      pairs.map (·.1) = ls.filter (fun l => k.classifyLine l = some c) ∧
      pairs.map (·.2) = ms.filter fun m => k.classifyLine m = some c := by
  induction h with
  | nil => exact ⟨[], .slnil, rfl, rfl⟩
  | @cons l m ls ms hlm _ ih =>
    obtain ⟨pairs, hsub, hls, hms⟩ := ih
    rw [List.zip_cons_cons, List.filter_cons, List.filter_cons, classifyLine_recased hk hlm]
    split
    · exact ⟨(l, m) :: pairs, hsub.cons_cons _, by rw [List.map_cons, hls],
        by rw [List.map_cons, hms]⟩
    · exact ⟨pairs, hsub.cons _, hls, hms⟩

theorem classifiedAlike_recased (hk : ofTable? table = some k) {s t : String}
    (h : Recased s.toList t.toList) : k.ClassifiedAlike s t := by
  have hlines : List.Forall₂ Recased (contentLines s.toList) (contentLines t.toList) := by
    rw [contentLines_eq, contentLines_eq]
    exact h.trimmedRows
  refine ⟨hlines, ?_, fun c => ?_⟩
  · exact List.forall₂_eq_eq_eq ▸ List.rel_map (fun _ _ hl => classifyLine_recased hk hl) hlines
  · obtain ⟨pairs, hsub, hs, ht⟩ := exists_sublist_zip hk hlines c
    refine ⟨pairs, hsub, ?_, ?_⟩
    · rw [get?_classify, textsOf, rowsOf, ← contentLines_eq, ← hs, List.map_map]
      rfl
    · rw [get?_classify, textsOf, rowsOf, ← contentLines_eq, ← ht, List.map_map]
      rfl

end Classifier

/-- **Classifying does not look at the case of ASCII letters.** Lines that differ in it only have
the same category, or both have none. Texts that differ in it only have corresponding lines, and
these stand under the same categories in the same order. -/
theorem classify_recased :
    (∀ line line' : List Char, Recased line line' →
      standard.classifyLine line = standard.classifyLine line') ∧
    ∀ s t : String, Recased s.toList t.toList → standard.ClassifiedAlike s t :=
  ⟨fun _ _ => Classifier.classifyLine_recased ofTable?_triggers,
    fun _ _ => Classifier.classifiedAlike_recased ofTable?_triggers⟩

/-- Three spellings at once: a word with edges, a set of characters, and a gap. -/
theorem classify_recased_triggers :
    let s := "Follow PEP8.\n\n an Off-By-one\r\nok\nsplit this FUNCTION"
    let t := "fOLLOW pep8.\n\n AN off-bY-ONE\r\nOK\nSPLIT This function"
    Recased s.toList t.toList ∧ standard.ClassifiedAlike s t ∧
      standard.classifyLine "an Off-By-one".toList =
        standard.classifyLine "AN off-bY-ONE".toList ∧
      (standard.classify t).get? .bug = some ["AN off-bY-ONE"] := by
  intro s t
  have hrecased : Recased s.toList t.toList := by decide +kernel
  exact ⟨hrecased, classify_recased.2 s t hrecased,
    classify_recased.1 "an Off-By-one".toList "AN off-bY-ONE".toList (by decide +kernel),
    by decide +kernel⟩

end CodeReview.Feedback
