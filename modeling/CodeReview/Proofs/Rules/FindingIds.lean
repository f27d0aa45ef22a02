import CodeReview.Proofs.Json.Numeral
import CodeReview.Proofs.Rules.FlaggedLines
import CodeReview.Proofs.Rules.UnusedNames
import CodeReview.Proofs.Text.TrimmedRows
import Mathlib.Data.String.Basic

/-!
# The ids of findings

The id of a finding is the start of a digest, so what it tells apart is what the text under the
digest tells apart. That text has the rule, the line and the message with line feeds between them,
and a message may have line feeds and digits of its own. It is read from the left: a rule has no
line feed, so the first one ends it, and the digits of the line end at the next
(`Finding.eq_of_idText_eq`). The text of a finding of the standard battery, which has a line and
was made by a rule of the battery, thus gives back all three (`idText_identifies`).
-/

set_option autoImplicit false

namespace CodeReview

open Text

/-! ## The text of an id -/

namespace Finding

variable {rule rule' : String} {line line' : Option Nat} {message message' : String}

theorem toList_idText (rule : String) (line : Option Nat) (message : String) :
    (idText rule line message).toList =
      rule.toList ++ '\n' :: ((toString (line.getD 0)).toList ++ '\n' :: message.toList) := by
  simp only [idText, String.toList_append, List.append_assoc]
  rfl

theorem eq_of_idText_eq (hrule : '\n' ∉ rule.toList) (hrule' : '\n' ∉ rule'.toList)
    (h : idText rule line message = idText rule' line' message') :
    rule = rule' ∧ line.getD 0 = line'.getD 0 ∧ message = message' := by
  have hlist := congrArg String.toList h
  rw [toList_idText, toList_idText] at hlist
  obtain ⟨hname, hrest⟩ := append_sep_inj hrule hrule' hlist
  obtain ⟨hline, hend⟩ := Json.nat_append_inj (.cons _ rfl) (.cons _ rfl) hrest
  exact ⟨String.toList_inj.1 hname, hline, String.toList_inj.1 (List.cons.inj hend).2⟩

theorem idText_congr (hrule : rule = rule') (hline : line.getD 0 = line'.getD 0)
    (hmessage : message = message') : idText rule line message = idText rule' line' message' := by
  rw [idText, idText, hrule, hline, hmessage]

/-! ## The digits of an id -/

/-- An id stands at the start of the digest of a text: sixteen bytes of it, each of them a
hexadecimal digit in lower case. -/
structure StartsDigest (id text : String) : Prop where
  digits : ∀ c ∈ id.toList, c ∈ "0123456789abcdef".toList
  length : id.length = 16
  bytes : id.utf8ByteSize = 16
  start : ∃ rest, Digest.md5 text = id ++ rest

theorem utf8Len_of_digits {cs : List Char} (h : ∀ c ∈ cs, c ∈ "0123456789abcdef".toList) :
    String.utf8Len cs = cs.length := by
  have hone : "0123456789abcdef".toList.all (·.utf8Size == 1) := by decide
  induction cs with
  | nil => rfl
  | cons c cs ih =>
    rw [List.forall_mem_cons] at h
    have hsize : c.utf8Size = 1 := beq_iff_eq.1 (List.all_eq_true.1 hone c h.1)
    rw [String.utf8Len_cons, ih h.2, hsize, List.length_cons]

theorem startsDigest_idOf (rule : String) (line : Option Nat) (message : String) :
    StartsDigest (idOf rule line message) (idText rule line message) := by
  have hdigits : ∀ c ∈ (Digest.md5Digits (idText rule line message)).take 16,
      c ∈ "0123456789abcdef".toList :=
    fun c hc => Digest.mem_digits_of_mem_hex (List.mem_of_mem_take hc)
  have hlength : ((Digest.md5Digits (idText rule line message)).take 16).length = 16 := by
    rw [List.length_take, Digest.length_md5Digits]
    rfl
  refine ⟨?_, ?_, ?_, ?_⟩
  · rwa [idOf, String.toList_ofList]
  · rw [idOf, String.length_ofList, hlength]
  · rw [idOf, String.utf8ByteSize_ofList, utf8Len_of_digits hdigits, hlength]
  · refine ⟨String.ofList ((Digest.md5Digits (idText rule line message)).drop 16), ?_⟩
    rw [idOf, ← String.ofList_append, List.take_append_drop, Digest.md5]

end Finding

/-! ## Findings of the battery -/

namespace Rules

open Rule

variable {u u' : SourceUnit} {r : Rule} {f g : Finding}

/-- What the rules of the battery say of a line. -/
inductive Says : Rule → String → Prop
  | secret : Says hardcodedSecret "Hardcoded secret or password"
  | unsafeCall : Says unsafeCall "Unsafe use of \x60eval()\x60 or \x60exec()\x60"
  | noReturnType : Says missingReturnAnnotation "Function may be missing return type hint"
  | unused (name : String) : Says unusedImport ("Unused import \x60" ++ name ++ "\x60")

theorem exists_of_mem_ofLines {name description what : String} {c : Category}
    {flags : List Char → Bool} (hf : f ∈ (Rule.ofLines name description c what flags).check u) :
    ∃ n text, u.line? n = some text ∧ f = lineFinding name c what (n, text) := by
  obtain ⟨⟨n, text⟩, hl, rfl⟩ := List.mem_map.1 hf
  exact ⟨n, text, SourceUnit.mem_numberedLines_iff.1 (List.mem_filter.1 hl).1, rfl⟩

/-- A finding of the battery is on a line, with the code of the line. -/
theorem exists_of_mem_check (hr : r ∈ standard) (hf : f ∈ r.check u) :
    ∃ what n text, Says r what ∧ u.line? n = some text ∧
      f = lineFinding r.name r.category what (n, text) := by
  simp only [standard, List.mem_cons, List.not_mem_nil, or_false] at hr
  rcases hr with rfl | rfl | rfl | rfl
  · obtain ⟨n, text, hline, hf⟩ := exists_of_mem_ofLines hf
    exact ⟨_, n, text, .secret, hline, hf⟩
  · obtain ⟨n, text, hline, hf⟩ := exists_of_mem_ofLines hf
    exact ⟨_, n, text, .unsafeCall, hline, hf⟩
  · obtain ⟨n, text, hline, hf⟩ := exists_of_mem_ofLines hf
    exact ⟨_, n, text, .noReturnType, hline, hf⟩
  · rw [check_unusedImport_eq] at hf
    obtain ⟨l, hl, hf⟩ := List.mem_flatMap.1 hf
    rw [filterMap_unusedFinding? hl] at hf
    obtain ⟨name, -, rfl⟩ := List.mem_map.1 hf
    exact ⟨_, l.1, l.2, .unused name, SourceUnit.mem_numberedLines_iff.1 hl, rfl⟩

theorem rule_of_mem_check (hr : r ∈ standard) (hf : f ∈ r.check u) : f.rule = r.name := by
  obtain ⟨-, -, -, -, -, rfl⟩ := exists_of_mem_check hr hf
  rfl

theorem newline_not_mem_rule (hf : f ∈ run standard u) : '\n' ∉ f.rule.toList := by
  obtain ⟨r, hr, hf⟩ := List.mem_flatMap.1 hf
  rw [rule_of_mem_check hr hf]
  exact (show ∀ r ∈ standard, '\n' ∉ r.name.toList by decide) r hr

/-- A finding of the battery has a line, counted from one, and the id of its own text. -/
theorem exists_line_of_mem_run (hf : f ∈ run standard u) :
    (∃ n, 1 ≤ n ∧ f.line = some n) ∧ f.id = Finding.idOf f.rule f.line f.message := by
  obtain ⟨r, hr, hf⟩ := List.mem_flatMap.1 hf
  obtain ⟨what, n, text, -, hline, rfl⟩ := exists_of_mem_check hr hf
  obtain ⟨i, rfl, -⟩ := SourceUnit.line?_eq_some_iff.1 hline
  exact ⟨⟨i + 1, by omega, rfl⟩, rfl⟩

/-- The text whose digest is the id of a finding. -/
def idTextOf (f : Finding) : String := Finding.idText f.rule f.line f.message

theorem idTextOf_eq_iff (hf : f ∈ run standard u) (hg : g ∈ run standard u') :
    idTextOf f = idTextOf g ↔ f.rule = g.rule ∧ f.line = g.line ∧ f.message = g.message := by
  constructor
  · intro h
    obtain ⟨hrule, hline, hmessage⟩ :=
      Finding.eq_of_idText_eq (newline_not_mem_rule hf) (newline_not_mem_rule hg) h
    obtain ⟨⟨m, -, hm⟩, -⟩ := exists_line_of_mem_run hf
    obtain ⟨⟨n, -, hn⟩, -⟩ := exists_line_of_mem_run hg
    rw [hm, hn] at hline ⊢
    exact ⟨hrule, congrArg some hline, hmessage⟩
  · rintro ⟨hrule, hline, hmessage⟩
    exact Finding.idText_congr hrule (congrArg (·.getD 0) hline) hmessage

/-- **The text of an id tells findings apart.** Two texts are equal just if their rules, which have
no line feed, their lines, none read as zero, and their messages are. The id is the start of the
digest of this text, sixteen hexadecimal digits in lower case. A finding of the battery has a line,
counted from one, and the id of its own text, so two of them, also of different units, share the
text just if they have the same rule, line and message. -/
theorem idText_identifies :
    (∀ (rule rule' : String) (line line' : Option Nat) (message message' : String),
      '\n' ∉ rule.toList → '\n' ∉ rule'.toList →
      (Finding.idText rule line message = Finding.idText rule' line' message' ↔
        rule = rule' ∧ line.getD 0 = line'.getD 0 ∧ message = message')) ∧
    (∀ (rule : String) (line : Option Nat) (message : String),
      Finding.StartsDigest (Finding.idOf rule line message) (Finding.idText rule line message)) ∧
    ∀ u, ∀ f ∈ run standard u,
      (∃ n, 1 ≤ n ∧ f.line = some n) ∧ f.id = Finding.idOf f.rule f.line f.message ∧
      ∀ u', ∀ g ∈ run standard u',
        (idTextOf f = idTextOf g ↔ f.rule = g.rule ∧ f.line = g.line ∧ f.message = g.message) := by
  refine ⟨fun rule rule' line line' message message' hrule hrule' => ?_,
    Finding.startsDigest_idOf, fun u f hf => ?_⟩
  · constructor
    · exact Finding.eq_of_idText_eq hrule hrule'
    · rintro ⟨hname, hline, hmessage⟩
      exact Finding.idText_congr hname hline hmessage
  · obtain ⟨hline, hid⟩ := exists_line_of_mem_run hf
    exact ⟨hline, hid, fun u' g hg => idTextOf_eq_iff hf hg⟩

/-- A message that starts with digits, no line and line zero, and the same call on two lines. -/
theorem idText_identifies_of_call :
    let what := "Unsafe use of \x60eval()\x60 or \x60exec()\x60"
    let u : SourceUnit := ⟨"Python", ["exec(a)"], default⟩
    let u' : SourceUnit := ⟨"Python", ["import a", "exec(a)"], default⟩
    let f := lineFinding "unsafe-call" .security what (1, "exec(a)")
    let g := lineFinding "unsafe-call" .security what (2, "exec(a)")
    '\n' ∉ "call".toList ∧
      Finding.idText "call" (some 1) "2\n3" ≠ Finding.idText "call" (some 12) "3" ∧
      Finding.idText "call" none "0\n" = Finding.idText "call" (some 0) "0\n" ∧
      f ∈ run standard u ∧ g ∈ run standard u' ∧ idTextOf f ≠ idTextOf g := by
  intro what u u' f g
  have hcall : '\n' ∉ "call".toList := by decide
  have hf : f ∈ run standard u := List.mem_flatMap.2
    ⟨unsafeCall, by simp [standard], List.mem_map_of_mem (List.mem_filter.2 ⟨by decide, by decide⟩)⟩
  have hg : g ∈ run standard u' := List.mem_flatMap.2
    ⟨unsafeCall, by simp [standard], List.mem_map_of_mem (List.mem_filter.2 ⟨by decide, by decide⟩)⟩
  refine ⟨hcall, fun h => ?_, ?_, hf, hg, fun h => ?_⟩
  · have hline := ((idText_identifies.1 _ _ _ _ _ _ hcall hcall).1 h).2.1
    exact absurd hline (by decide)
  · exact (idText_identifies.1 _ _ _ _ _ _ hcall hcall).2 ⟨rfl, rfl, rfl⟩
  · have hline := (((idText_identifies.2.2 u f hf).2.2 u' g hg).1 h).2.1
    exact absurd hline (by decide)

/-- Only the line feed in the first rule makes this text ambiguous. -/
example : Finding.idText "call\n1" (some 2) "exec" = Finding.idText "call" (some 1) "2\nexec" := by
  decide

end Rules

end CodeReview
