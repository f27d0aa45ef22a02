import CodeReview.Feedback.Classifier
import CodeReview.Proofs.Text.TrimmedRows

/-!
# Classifying is done row by row

The messages of a category are the trimmed rows of the text that the classifier gives the category
(`messages_classify`): neither the blanks around the text nor the ends of its lines matter. So the
messages of two texts on top of each other are those of the upper one and then those of the lower
one, and the messages of a category, one below the other, are classified as before.
-/

set_option autoImplicit false

namespace CodeReview

/-- The result with the entry of one category alone. -/
def Categorized.only (r : Categorized) (c : Category) : Categorized :=
  ofFun fun d => if d = c then r.get? d else none

namespace Feedback

open Text

theorem contentLines_eq (cs : List Char) : Classifier.contentLines cs = trimmedRows cs := by
  rw [Classifier.contentLines, ← trimmedRows_eq_lines, trimmedRows_trimChars]

namespace Classifier

variable (k : Classifier)

/-- The trimmed rows of a text that a classifier gives a category. -/
def rowsOf (c : Category) (text : String) : List (List Char) :=
  (trimmedRows text.toList).filter fun l => k.classifyLine l = some c

/-- The same as texts. -/
def textsOf (c : Category) (text : String) : List String := (k.rowsOf c text).map String.ofList

theorem messagesIn_classified (c : Category) (text : String) :
    Categorized.messagesIn (k.classified text) c = k.textsOf c text := by
  rw [classified, contentLines_eq, textsOf, rowsOf, Categorized.messagesIn]
  induction trimmedRows text.toList with
  | nil => rfl
  | cons l ls ih =>
    cases h : k.classifyLine l with
    | none => simpa [h] using ih
    | some d =>
      by_cases hd : d = c
      · simpa [h, hd] using ih
      · simpa [h, hd] using ih

theorem get?_classify (c : Category) (text : String) :
    (k.classify text).get? c = Categorized.entryOf (k.textsOf c text) := by
  rw [classify, Categorized.get?_ofPairs, messagesIn_classified]

theorem messages_classify (c : Category) (text : String) :
    (k.classify text).messages c = k.textsOf c text := by
  rw [Categorized.messages, get?_classify, Categorized.getD_entryOf]

/-! ## Texts on top of each other -/

theorem textsOf_append (c : Category) (s t : List Char) :
    k.textsOf c (String.ofList (s ++ '\n' :: t)) =
      k.textsOf c (String.ofList s) ++ k.textsOf c (String.ofList t) := by
  simp only [textsOf, rowsOf, String.toList_ofList, trimmedRows_append, List.filter_append,
    List.map_append]

theorem textsOf_concat_return (c : Category) (s : List Char) :
    k.textsOf c (String.ofList (s ++ ['\r'])) = k.textsOf c (String.ofList s) := by
  rw [textsOf, textsOf, rowsOf, rowsOf, String.toList_ofList, String.toList_ofList,
    trimmedRows_concat_blank (by decide)]

theorem get?_classify_newline (c : Category) (s t : String) :
    (k.classify (s ++ "\n" ++ t)).get? c =
      ((k.classify s).get? c).merge (· ++ ·) ((k.classify t).get? c) := by
  have hst : s ++ "\n" ++ t = String.ofList (s.toList ++ '\n' :: t.toList) := by
    rw [← String.toList_inj]
    simp
  rw [get?_classify, get?_classify, get?_classify, hst, textsOf_append, String.ofList_toList,
    String.ofList_toList, Categorized.entryOf_append]

theorem get?_classify_return_newline (c : Category) (s t : String) :
    (k.classify (s ++ "\r\n" ++ t)).get? c =
      ((k.classify s).get? c).merge (· ++ ·) ((k.classify t).get? c) := by
  have hst : s ++ "\r\n" ++ t = String.ofList ((s.toList ++ ['\r']) ++ '\n' :: t.toList) := by
    rw [← String.toList_inj]
    simp
  rw [get?_classify, get?_classify, get?_classify, hst, textsOf_append, textsOf_concat_return,
    String.ofList_toList, String.ofList_toList, Categorized.entryOf_append]

/-! ## The messages of one category -/

/-- The rows of one category, one below the other, are the trimmed rows of a text. -/
theorem trimmedRows_join (c : Category) (text : String) :
    trimmedRows (join "\n" (k.textsOf c text)).toList = k.rowsOf c text := by
  rw [join, String.toList_intercalate, textsOf, List.map_map]
  have hid : String.toList ∘ String.ofList = id := funext fun _ => String.toList_ofList
  rw [hid, List.map_id]
  exact trimmedRows_intercalate fun l hl => mem_trimmedRows (List.mem_filter.1 hl).1

theorem classify_join (c : Category) (text : String) :
    k.classify (join "\n" ((k.classify text).messages c)) = (k.classify text).only c := by
  refine Categorized.ext_get? fun d => ?_
  rw [get?_classify, messages_classify, Categorized.only, Categorized.get?_ofFun]
  have hc : ∀ l ∈ k.rowsOf c text, k.classifyLine l = some c := fun l hl => by
    simpa using (List.mem_filter.1 hl).2
  have hd : k.textsOf d (join "\n" (k.textsOf c text)) =
      ((k.rowsOf c text).filter fun l => k.classifyLine l = some d).map String.ofList := by
    rw [textsOf, rowsOf, trimmedRows_join]
  rw [hd]
  split
  · rename_i he
    subst he
    rw [get?_classify, List.filter_eq_self.2 (by simpa using hc), textsOf]
  · rename_i hne
    rw [List.filter_eq_nil_iff.2 fun l hl => by simp [hc l hl, Ne.symm hne]]
    rfl

/-- **Classifying is done row by row.** The entry of a category holds the trimmed rows of the text
that are of this category, in their order and with repeats, and there is none without such rows.
So a line feed between two texts, with or without a carriage return, puts the messages of the one
before those of the other, and the messages of one category on lines of their own are classified
as that category and nothing else. -/
theorem classify_rows (k : Classifier) :
    (∀ text c ms, (k.classify text).get? c = some ms ↔
      ms ≠ [] ∧ ms = ((trimmedRows text.toList).filter fun l =>
        k.classifyLine l = some c).map String.ofList) ∧
    (∀ s t c, (k.classify (s ++ "\n" ++ t)).get? c =
      ((k.classify s).get? c).merge (· ++ ·) ((k.classify t).get? c)) ∧
    (∀ s t c, (k.classify (s ++ "\r\n" ++ t)).get? c =
      ((k.classify s).get? c).merge (· ++ ·) ((k.classify t).get? c)) ∧
    (∀ s c, k.classify (join "\n" ((k.classify s).messages c)) = (k.classify s).only c) :=
  ⟨fun text c ms => by rw [get?_classify, Categorized.entryOf_eq_some_iff, textsOf, rowsOf],
    fun s t c => k.get?_classify_newline c s t, fun s t c => k.get?_classify_return_newline c s t,
    fun s c => k.classify_join c s⟩

end Classifier

end Feedback

end CodeReview
