import CodeReview.Proofs.Feedback.ClassifyRows
import CodeReview.Proofs.Feedback.FirstTrigger
import CodeReview.Proofs.MergeUnion
import CodeReview.Review.Pipeline
import Mathlib.Data.Set.Card

/-!
# The categorized messages of a report

A report has two streams of remarks: its findings and the lines of its feedback that have a trigger
(`ReviewReport.HasRemark`). `categorize` lists exactly these (`mem_categorize`), each once and in
order, so their number is that of the different remarks (`total_eq_ncard`). A source that can be read
always has a report (`Pipeline.review_eq`), and whatever the outside review gives, the report lists
its remarks (`ReviewReport.ListsRemarks`).
-/

set_option autoImplicit false

namespace CodeReview

open Text

/-! ## Counting messages -/

namespace Categorized

variable {r : Categorized}

theorem mem_all (c : Category) : c ∈ Category.all := by cases c <;> decide

theorem flatMap_toList : r.toList.flatMap (·.2) = Category.all.flatMap r.messages := by
  rw [toList]
  induction Category.all with
  | nil => rfl
  | cons c cs ih => cases h : r.get? c <;> simp [messages, h, ih]

theorem isEmpty_iff : r.isEmpty ↔ ∀ c, r.get? c = none := by
  rw [isEmpty, List.isEmpty_iff, toList, List.filterMap_eq_nil_iff]
  exact ⟨fun h c => Option.map_eq_none_iff.1 (h c (mem_all c)), fun h c _ => by rw [h c]; rfl⟩

theorem total_eq_zero_iff : r.total = 0 ↔ ∀ c, r.messages c = [] := by
  rw [total, List.length_eq_zero_iff, flatMap_toList, List.flatMap_eq_nil_iff]
  exact ⟨fun h c => h c (mem_all c), fun h c _ => h c⟩

/-- No category has an entry without messages. -/
def Filled (r : Categorized) : Prop := ∀ c ms, r.get? c = some ms → ms ≠ []

theorem Filled.isEmpty_iff_total (h : r.Filled) : r.isEmpty ↔ r.total = 0 := by
  rw [isEmpty_iff, total_eq_zero_iff]
  refine forall_congr' fun c => ?_
  cases hc : r.get? c with
  | none => simp [messages, hc]
  | some ms => simpa [messages, hc] using h c ms hc

/-- The messages with their categories. -/
def pairs (r : Categorized) : List (Category × String) :=
  Category.all.flatMap fun c => (r.messages c).map fun m => (c, m)

theorem mem_pairs {q : Category × String} : q ∈ r.pairs ↔ q.2 ∈ r.messages q.1 := by
  rw [pairs, List.mem_flatMap]
  constructor
  · rintro ⟨c, -, hq⟩
    obtain ⟨m, hm, rfl⟩ := List.mem_map.1 hq
    exact hm
  · exact fun h => ⟨q.1, mem_all q.1, List.mem_map.2 ⟨q.2, h, rfl⟩⟩

theorem length_pairs : r.pairs.length = r.total := by
  rw [pairs, total, flatMap_toList, List.length_flatMap, List.length_flatMap]
  simp only [List.length_map]

theorem nodup_pairs (h : ∀ c, (r.messages c).Nodup) : r.pairs.Nodup := by
  refine List.nodup_flatMap.2 ⟨fun c _ => (h c).map fun _ _ he => (Prod.mk.inj he).2, ?_⟩
  have hall : Category.all.Nodup := by decide
  refine hall.imp fun {c d} hne => List.disjoint_left.2 fun q hc hd => hne ?_
  obtain ⟨m, -, rfl⟩ := List.mem_map.1 hc
  obtain ⟨n, -, he⟩ := List.mem_map.1 hd
  exact (Prod.mk.inj he).1.symm

/-- If no message is repeated, there are as many messages as different ones. -/
theorem total_eq_ncard (h : ∀ c, (r.messages c).Nodup) :
    r.total = {q : Category × String | q.2 ∈ r.messages q.1}.ncard := by
  have hset : {q : Category × String | q.2 ∈ r.messages q.1} = r.pairs.toFinset := by
    ext q
    simp [mem_pairs]
  rw [hset, Set.ncard_coe_finset, List.toFinset_card_of_nodup (nodup_pairs h), length_pairs]

/-! ## Entries that hold messages -/

theorem filled_ofPairs (ps : List (Category × String)) : (ofPairs ps).Filled := fun c ms h => by
  rw [get?_ofPairs, entryOf_eq_some_iff] at h
  exact h.1

theorem filled_empty : empty.Filled := fun c ms h => by
  rw [get?_empty] at h
  cases h

theorem Filled.exists_mem (h : r.Filled) {c : Category} (hc : r.contains c) :
    ∃ m, m ∈ r.messages c :=
  List.exists_mem_of_ne_nil _ (h c _ (contains_iff.1 hc))

theorem Filled.merge {s : Categorized} (hr : r.Filled) (hs : s.Filled) : (merge r s).Filled := by
  intro c ms h
  obtain ⟨hkey, -, hmem⟩ := get?_merge_iff.1 h
  obtain ⟨m, hm⟩ : ∃ m, m ∈ r.messages c ∨ m ∈ s.messages c := by
    rcases hkey with hc | hc
    · exact (hr.exists_mem hc).imp fun _ => .inl
    · exact (hs.exists_mem hc).imp fun _ => .inr
  exact List.ne_nil_of_mem ((hmem m).2 hm)

end Categorized

/-! ## Findings and feedback -/

theorem mem_messages_ofFindings {fs : List Finding} {c : Category} {m : String} :
    m ∈ (Categorized.ofFindings fs).messages c ↔ ∃ f ∈ fs, f.category = c ∧ f.message = m := by
  rw [Categorized.ofFindings, Categorized.messages_ofPairs, Categorized.messagesIn]
  simp [List.mem_filterMap]

theorem mem_messages_classify {k : Feedback.Classifier} {c : Category} {text m : String} :
    m ∈ (k.classify text).messages c ↔ ∃ line ∈ Text.lines text, Text.trim line = m ∧ m ≠ "" ∧
      k.classifyLine m.toList = some c := by
  rw [k.messages_classify, Feedback.Classifier.textsOf, Feedback.Classifier.rowsOf,
    trimmedRows_eq_lines, Text.lines]
  constructor
  · intro h
    obtain ⟨l, hl, rfl⟩ := List.mem_map.1 h
    obtain ⟨hl, hc⟩ := List.mem_filter.1 hl
    obtain ⟨hl, hne⟩ := List.mem_filter.1 hl
    obtain ⟨row, hrow, rfl⟩ := List.mem_map.1 hl
    refine ⟨String.ofList row, List.mem_map_of_mem hrow, ?_, ?_, ?_⟩
    · rw [Text.trim, String.toList_ofList]
    · simpa using hne
    · simpa using hc
  · rintro ⟨line, hline, rfl, hne, hc⟩
    obtain ⟨row, hrow, rfl⟩ := List.mem_map.1 hline
    rw [Text.trim, String.toList_ofList] at hne hc ⊢
    rw [String.toList_ofList] at hc
    refine List.mem_map_of_mem (List.mem_filter.2 ⟨List.mem_filter.2 ⟨List.mem_map_of_mem hrow, ?_⟩,
      by simpa using hc⟩)
    simpa using hne

/-- A report makes a remark: a finding does, or a line of the feedback with a trigger. -/
def ReviewReport.HasRemark (r : ReviewReport) (c : Category) (m : String) : Prop :=
  (∃ f ∈ r.findings, f.category = c ∧ f.message = m) ∨
    ∃ text line, r.feedback = some text ∧ line ∈ Text.lines text ∧ Text.trim line = m ∧ m ≠ "" ∧
      Feedback.FirstTriggered Feedback.triggers m.toList c

theorem mem_categorize {fs : List Finding} {feedback : Option String} {c : Category} {m : String} :
    m ∈ (categorize fs feedback).messages c ↔ (∃ f ∈ fs, f.category = c ∧ f.message = m) ∨
      ∃ text line, feedback = some text ∧ line ∈ Text.lines text ∧ Text.trim line = m ∧ m ≠ "" ∧
        Feedback.FirstTriggered Feedback.triggers m.toList c := by
  cases feedback with
  | none => simp [categorize, mem_messages_ofFindings]
  | some text =>
    simp [categorize, mem_messages_ofFindings, mem_messages_classify,
      Feedback.Classifier.classifyLine_iff Feedback.ofTable?_triggers]

theorem filled_categorize (fs : List Finding) (feedback : Option String) :
    (categorize fs feedback).Filled := by
  refine (Categorized.filled_ofPairs _).merge ?_
  cases feedback with
  | none => exact Categorized.filled_empty
  | some text => exact Categorized.filled_ofPairs _

theorem ascending_categorize (fs : List Finding) (feedback : Option String) (c : Category) :
    Ascending ((categorize fs feedback).messages c) := Categorized.messages_merge_ascending

theorem nodup_of_ascending {ms : List String} (h : Ascending ms) : ms.Nodup :=
  (ascending_iff.1 h).imp fun hlt => ne_of_lt hlt

/-! ## Reports -/

/-- The categorized messages of a report are its remarks, each once and in order. -/
structure ReviewReport.ListsRemarks (r : ReviewReport) : Prop where
  listed : ∀ c m, m ∈ r.categorized.messages c ↔ r.HasRemark c m
  filled : r.categorized.Filled
  ascending : ∀ c, Ascending (r.categorized.messages c)
  isEmpty_iff : r.categorized.isEmpty ↔ r.categorized.total = 0
  total : r.categorized.total = {q : Category × String | r.HasRemark q.1 q.2}.ncard

theorem ReviewReport.listsRemarks {r : ReviewReport}
    (h : r.categorized = categorize r.findings r.feedback) : r.ListsRemarks := by
  have hlisted : ∀ c m, m ∈ r.categorized.messages c ↔ r.HasRemark c m := fun c m => by
    rw [h]
    exact mem_categorize
  have hfilled : r.categorized.Filled := h ▸ filled_categorize _ _
  have hasc : ∀ c, Ascending (r.categorized.messages c) := fun c => h ▸ ascending_categorize _ _ c
  refine ⟨hlisted, hfilled, hasc, hfilled.isEmpty_iff_total, ?_⟩
  rw [Categorized.total_eq_ncard fun c => nodup_of_ascending (hasc c)]
  simp only [hlisted]

theorem measure_ok (u : SourceUnit) {window : Nat} (h : 1 ≤ window) :
    ∃ metrics, u.measure window = .ok metrics := ⟨_, u.measure_of_pos h⟩

theorem readSource_of_isOk {text : String} (h : (readSource text).isOk) :
    ∃ u, readSource text = .ok u := by
  cases hu : readSource text with
  | ok u => exact ⟨u, rfl⟩
  | error e =>
    rw [hu] at h
    cases h

/-- A source that can be read has a report, whatever the outside review gives. -/
theorem Pipeline.review_eq {m : Type → Type} [Monad m] (p : Pipeline m) (source : String)
    {text : String} {u : SourceUnit} (hw : 1 ≤ p.window) (hu : readSource text = .ok u) :
    ∃ metrics, u.measure p.window = .ok metrics ∧ p.review source text =
      (fun external => .ok (p.report source u metrics external)) <$>
        p.askExternal u.language text := by
  obtain ⟨metrics, hm⟩ := measure_ok u hw
  refine ⟨metrics, hm, ?_⟩
  rw [Pipeline.review, hu]
  simp only [bind, Except.bind, hm, pure, Except.pure]

/-- **The categorized messages of a report are its remarks.** A source that can be read has a
report, whatever comes from outside: the findings of the rules with the feedback as it came. A
message is listed under a category iff a finding says so or it is a line of the feedback, not
blank, that the first row of the table with a trigger in it gives the category. The messages of a
category are in strictly ascending order and there is at least one, so nothing is listed iff the
total is zero, and the total is the number of different remarks. -/
theorem review_lists_remarks {m : Type → Type} [Monad m] (p : Pipeline m) (source text : String)
    (u : SourceUnit) (hw : 1 ≤ p.window) (hu : readSource text = .ok u) :
    ∃ report : ExternalStatus × Option String → ReviewReport,
      p.review source text =
        (fun external => .ok (report external)) <$> p.askExternal u.language text ∧
      ∀ external, (report external).findings = Rule.run p.rules u ∧
        (report external).external = external.1 ∧ (report external).feedback = external.2 ∧
        (report external).ListsRemarks := by
  obtain ⟨metrics, -, hreview⟩ := p.review_eq source hw hu
  exact ⟨p.report source u metrics, hreview, fun external =>
    ⟨rfl, rfl, rfl, ReviewReport.listsRemarks rfl⟩⟩

theorem review_lists_remarks_of_feedback :
    let p : Pipeline Id := { external := .reviewer (Reviewer.saved "Fix it.\n  naming \r\n") }
    1 ≤ p.window ∧ ∃ u, readSource "eval(x)\n" = .ok u ∧
      ∃ report, p.review "a.py" "eval(x)\n" = .ok report ∧ report.ListsRemarks ∧
        "naming" ∈ report.categorized.messages .style := by
  intro p
  obtain ⟨u, hu⟩ := readSource_of_isOk (show (readSource "eval(x)\n").isOk by decide +kernel)
  obtain ⟨report, hreview, hreport⟩ := review_lists_remarks p "a.py" "eval(x)\n" u (by decide) hu
  obtain ⟨-, -, hfeedback, hlists⟩ :=
    hreport (.completed "saved-feedback" {}, some "Fix it.\n  naming \r\n")
  have htrigger : Feedback.FirstTriggered Feedback.triggers "naming".toList .style :=
    (Feedback.Classifier.classifyLine_iff Feedback.ofTable?_triggers _ _).1 (by decide +kernel)
  exact ⟨by decide, u, hu, _, hreview, hlists, (hlists.listed _ _).2 <|
    .inr ⟨_, "  naming ", hfeedback, by decide +kernel, by decide +kernel, by decide, htrigger⟩⟩

end CodeReview
