import CodeReview.Rules.UnusedImport
import CodeReview.Proofs.Text.Blanks
import Mathlib.Data.List.Forall2

/-!
# Lines that a rule flags

The scanners of the rules on single lines commit to nothing: a line is flagged iff it can be divided
in some way into the parts that the rule asks for (`assignsSecret_iff`, `runsCode_iff`,
`lacksReturnType_iff`). Each rule reports the flagged lines in their order, one finding for each,
and what makes a line unsafe cannot be undone by more text on it or by other lines (`line_rules`).
-/

set_option autoImplicit false

namespace CodeReview.Rules

open Text

/-! ## What is flagged -/

/-- The same letters apart from case. -/
def SameLetters (word cs : List Char) : Prop :=
  List.Forall₂ (fun w c => Pattern.sameLetter w c) word cs

/-- An equals sign and a quoted text that is not empty, with blanks between. -/
def QuotedAssignment (cs : List Char) : Prop :=
  ∃ blanks blanks' q middle q' post, Blank blanks ∧ Blank blanks' ∧ isQuote q ∧ middle ≠ [] ∧
    isQuote q' ∧ cs = blanks ++ '=' :: (blanks' ++ q :: (middle ++ q' :: post))

/-- A quoted text is assigned to something called a secret. -/
def AssignsSecret (line : List Char) : Prop :=
  ∃ pre word name rest, word ∈ secretWords ∧ SameLetters word.toList name ∧
    QuotedAssignment rest ∧ line = pre ++ name ++ rest

/-- A function that runs code is called. -/
def RunsCode (line : List Char) : Prop :=
  "eval(".toList <:+: line ∨ "exec(".toList <:+: line

/-- A name and a parameter list that is closed before a colon, with blanks between. -/
def NamedParameters (cs : List Char) : Prop :=
  ∃ name blanks parameters blanks' rest, name ≠ [] ∧ (∀ c ∈ name, isWord c) ∧ Blank blanks ∧
    Blank blanks' ∧
    cs = name ++ (blanks ++ '(' :: (parameters ++ ')' :: (blanks' ++ ':' :: rest)))

/-- A function is opened, and its parameter list is closed. -/
def OpensFunction (line : List Char) : Prop :=
  ∃ indent opening gap rest, Blank indent ∧
    (opening = [] ∨ ∃ blanks, blanks ≠ [] ∧ Blank blanks ∧ opening = "async".toList ++ blanks) ∧
    gap ≠ [] ∧ Blank gap ∧ NamedParameters rest ∧
    line = indent ++ (opening ++ ("def".toList ++ (gap ++ rest)))

/-- A function is opened without a return type. -/
def LacksReturnType (line : List Char) : Prop := OpensFunction line ∧ ¬ "->".toList <:+: line

/-! ## Texts within a line -/

theorem occurs_iff {part cs : List Char} : occurs part cs ↔ part <:+: cs := by
  induction cs with
  | nil => rw [occurs, List.isEmpty_iff, List.infix_nil]
  | cons c cs ih =>
    rw [occurs, Bool.or_eq_true, List.isPrefixOf_iff_prefix, ih, List.infix_cons_iff]

theorem runsCode_iff (line : List Char) : runsCode line ↔ RunsCode line := by
  rw [runsCode, Bool.or_eq_true, occurs_iff, occurs_iff, RunsCode]

/-! ## Secrets -/

theorem isBlank_quote {q : Char} (h : isQuote q) : ¬ isBlank q := by
  simp only [isQuote, Bool.or_eq_true, beq_iff_eq] at h
  rcases h with rfl | rfl <;> decide

theorem afterWord?_eq_some_iff {word cs rest : List Char} :
    afterWord? word cs = some rest ↔ ∃ name, SameLetters word name ∧ cs = name ++ rest := by
  induction word generalizing cs with
  | nil =>
    rw [afterWord?, Option.some.injEq]
    constructor
    · rintro rfl
      exact ⟨[], .nil, rfl⟩
    · rintro ⟨name, hname, rfl⟩
      cases hname
      rfl
  | cons w word ih =>
    constructor
    · intro h
      cases cs with
      | nil => cases h
      | cons c cs =>
        rw [afterWord?] at h
        split_ifs at h with hc
        obtain ⟨name, hname, rfl⟩ := ih.1 h
        exact ⟨c :: name, .cons hc hname, rfl⟩
    · rintro ⟨name, hname, rfl⟩
      cases hname with
      | cons hc hname =>
        rw [List.cons_append, afterWord?, if_pos hc]
        exact ih.2 ⟨_, hname, rfl⟩

theorem quotedAssignment_iff {cs : List Char} : quotedAssignment cs ↔ QuotedAssignment cs := by
  constructor
  · intro h
    rw [quotedAssignment] at h
    split at h
    · rename_i rest heq
      obtain ⟨b, hb, hcs⟩ := exists_blank_trimLeft cs
      obtain ⟨b', hb', hrest⟩ := exists_blank_trimLeft rest
      split at h
      · rename_i q x rest' heq'
        rw [Bool.and_eq_true, List.any_eq_true] at h
        obtain ⟨hq, q', hmem, hq'⟩ := h
        obtain ⟨middle, post, rfl⟩ := List.append_of_mem hmem
        exact ⟨b, b', q, x :: middle, q', post, hb, hb', hq, List.cons_ne_nil x middle, hq',
          by rw [hcs, heq, hrest, heq', List.cons_append]⟩
      · cases h
    · cases h
  · rintro ⟨b, b', q, middle, q', post, hb, hb', hq, hne, hq', rfl⟩
    obtain ⟨x, middle, rfl⟩ := List.exists_cons_of_ne_nil hne
    rw [quotedAssignment, trimLeft_append hb (startsFilled_cons.2 (by decide))]
    simp only [trimLeft_append hb' (startsFilled_cons.2 (isBlank_quote hq)), List.cons_append]
    simp [hq, hq']

theorem secretHere_iff {cs : List Char} : secretHere cs ↔
    ∃ word name rest, word ∈ secretWords ∧ SameLetters word.toList name ∧ QuotedAssignment rest ∧
      cs = name ++ rest := by
  simp only [secretHere, List.any_eq_true, Option.any_eq_true, afterWord?_eq_some_iff,
    quotedAssignment_iff]
  constructor
  · rintro ⟨word, hword, rest, ⟨name, hname, hcs⟩, hrest⟩
    exact ⟨word, name, rest, hword, hname, hrest, hcs⟩
  · rintro ⟨word, name, rest, hword, hname, hrest, hcs⟩
    exact ⟨word, hword, rest, ⟨name, hname, hcs⟩, hrest⟩

theorem assignsSecret_iff (line : List Char) : assignsSecret line ↔ AssignsSecret line := by
  have hsuffix : assignsSecret line ↔ ∃ pre cs, line = pre ++ cs ∧ secretHere cs := by
    induction line with
    | nil => simp [assignsSecret]
    | cons c line ih =>
      rw [assignsSecret, Bool.or_eq_true, ih]
      constructor
      · rintro (h | ⟨pre, cs, rfl, h⟩)
        · exact ⟨[], c :: line, rfl, h⟩
        · exact ⟨c :: pre, cs, rfl, h⟩
      · rintro ⟨pre, cs, heq, h⟩
        rcases List.cons_eq_append_iff.1 heq with ⟨rfl, rfl⟩ | ⟨pre, rfl, rfl⟩
        · exact .inl h
        · exact .inr ⟨pre, cs, rfl, h⟩
  simp only [hsuffix, secretHere_iff]
  constructor
  · rintro ⟨pre, _, rfl, word, name, rest, hword, hname, hrest, rfl⟩
    exact ⟨pre, word, name, rest, hword, hname, hrest, by rw [List.append_assoc]⟩
  · rintro ⟨pre, word, name, rest, hword, hname, hrest, rfl⟩
    exact ⟨pre, name ++ rest, by rw [List.append_assoc], word, name, rest, hword, hname, hrest, rfl⟩

/-! ## Functions -/

theorem closesHeader_iff {cs : List Char} : closesHeader cs ↔
    ∃ pre blanks rest, Blank blanks ∧ cs = pre ++ ')' :: (blanks ++ ':' :: rest) := by
  induction cs with
  | nil => simp [closesHeader]
  | cons c cs ih =>
    have hstep : closesHeader (c :: cs) ↔
        (c = ')' ∧ (trimLeft cs).head? = some ':') ∨ closesHeader cs := by
      rw [closesHeader, Bool.or_eq_true, Bool.and_eq_true, beq_iff_eq, beq_iff_eq]
    rw [hstep, ih]
    constructor
    · rintro (⟨rfl, h⟩ | ⟨pre, b, rest, hb, rfl⟩)
      · obtain ⟨rest, hrest⟩ := List.head?_eq_some_iff.1 h
        obtain ⟨b, hb, hcs⟩ := exists_blank_trimLeft cs
        exact ⟨[], b, rest, hb, by rw [List.nil_append, ← hrest, ← hcs]⟩
      · exact ⟨c :: pre, b, rest, hb, rfl⟩
    · rintro ⟨pre, b, rest, hb, heq⟩
      rcases List.cons_eq_append_iff.1 heq with ⟨rfl, heq⟩ | ⟨pre, rfl, rfl⟩
      · obtain ⟨rfl, rfl⟩ := List.cons.inj heq
        have hcolon : StartsFilled (':' :: rest) := startsFilled_cons.2 (by decide)
        exact .inl ⟨rfl, by rw [trimLeft_append hb hcolon]; rfl⟩
      · exact .inr ⟨pre, b, rest, hb, rfl⟩

theorem namedHeader_iff {cs : List Char} : namedHeader cs ↔ NamedParameters cs := by
  constructor
  · intro h
    rw [namedHeader] at h
    split at h
    · rename_i params heq
      rw [Bool.and_eq_true, Option.any_eq_true] at h
      obtain ⟨⟨c, hc, hword⟩, hcloses⟩ := h
      obtain ⟨parameters, b', rest, hb', hparams⟩ := closesHeader_iff.1 hcloses
      obtain ⟨b, hb, hdrop⟩ := exists_blank_trimLeft (cs.dropWhile isWord)
      refine ⟨cs.takeWhile isWord, b, parameters, b', rest, ?_,
        fun d hd => List.mem_takeWhile_imp hd, hb, hb', ?_⟩
      · obtain ⟨cs, rfl⟩ := List.head?_eq_some_iff.1 hc
        rw [List.takeWhile_cons_of_pos hword]
        exact List.cons_ne_nil _ _
      · rw [← hparams, ← heq, ← hdrop, List.takeWhile_append_dropWhile]
    · cases h
  · rintro ⟨name, b, parameters, b', rest, hne, hname, hb, hb', rfl⟩
    obtain ⟨c, name, rfl⟩ := List.exists_cons_of_ne_nil hne
    have hword : ∀ d ∈ (b ++ '(' :: (parameters ++ ')' :: (b' ++ ':' :: rest))).head?,
        ¬ isWord d := by
      cases b with
      | nil => simp; decide
      | cons d b => simpa using not_isWord_of_isBlank (blank_cons.1 hb).1
    have hdrop : ((c :: name) ++ (b ++ '(' :: (parameters ++ ')' :: (b' ++ ':' :: rest)))).dropWhile
        isWord = b ++ '(' :: (parameters ++ ')' :: (b' ++ ':' :: rest)) := by
      rw [List.dropWhile_append_of_pos hname]
      cases hrest : b ++ '(' :: (parameters ++ ')' :: (b' ++ ':' :: rest)) with
      | nil => rfl
      | cons d ds =>
        rw [hrest] at hword
        exact List.dropWhile_cons_of_neg (hword d rfl)
    have hcloses : closesHeader (parameters ++ ')' :: (b' ++ ':' :: rest)) :=
      closesHeader_iff.2 ⟨parameters, b', rest, hb', rfl⟩
    have hparen : StartsFilled ('(' :: (parameters ++ ')' :: (b' ++ ':' :: rest))) :=
      startsFilled_cons.2 (by decide)
    rw [namedHeader, hdrop]
    simp only [trimLeft_append hb hparen, hcloses, Bool.and_true]
    simpa using hname c List.mem_cons_self

theorem isHeader_iff (line : List Char) : isHeader line ↔ OpensFunction line := by
  have hdef : ∀ {cs : List Char}, (((after? "def".toList cs).bind afterBlanks?).any namedHeader) ↔
      ∃ gap rest, gap ≠ [] ∧ Blank gap ∧ NamedParameters rest ∧
        cs = "def".toList ++ (gap ++ rest) := by
    intro cs
    simp only [Option.any_eq_true, Option.bind_eq_some_iff, after?_eq_some_iff,
      afterBlanks?_eq_some_iff, namedHeader_iff]
    constructor
    · rintro ⟨rest, ⟨_, rfl, -, gap, hne, hgap, rfl⟩, hrest⟩
      exact ⟨gap, rest, hne, hgap, hrest, rfl⟩
    · rintro ⟨gap, rest, hne, hgap, hrest, rfl⟩
      refine ⟨rest, ⟨gap ++ rest, rfl, ?_, gap, hne, hgap, rfl⟩, hrest⟩
      obtain ⟨name, _, _, _, _, hname, hword, -, -, rfl⟩ := hrest
      obtain ⟨c, name, rfl⟩ := List.exists_cons_of_ne_nil hname
      exact startsFilled_cons.2 (not_isBlank_of_isWord (hword c List.mem_cons_self))
  rw [isHeader, hdef]
  constructor
  · rintro ⟨gap, rest, hne, hgap, hrest, heq⟩
    obtain ⟨indent, hindent, hline⟩ := exists_blank_trimLeft line
    cases hasync : (after? "async".toList (trimLeft line)).bind afterBlanks? with
    | none =>
      rw [hasync, Option.getD_none] at heq
      exact ⟨indent, [], gap, rest, hindent, .inl rfl, hne, hgap, hrest,
        by rw [List.nil_append, ← heq, ← hline]⟩
    | some cs =>
      rw [hasync, Option.getD_some] at heq
      obtain ⟨_, hafter, hcs⟩ := Option.bind_eq_some_iff.1 hasync
      obtain ⟨-, b, hb, hblank, rfl⟩ := afterBlanks?_eq_some_iff.1 hcs
      rw [after?_eq_some_iff.1 hafter, heq] at hline
      exact ⟨indent, "async".toList ++ b, gap, rest, hindent, .inr ⟨b, hb, hblank, rfl⟩, hne, hgap,
        hrest, by rw [List.append_assoc]; exact hline⟩
  · rintro ⟨indent, opening, gap, rest, hindent, hopening, hne, hgap, hrest, rfl⟩
    refine ⟨gap, rest, hne, hgap, hrest, ?_⟩
    have hfilled : StartsFilled ("def".toList ++ (gap ++ rest)) := startsFilled_cons.2 (by decide)
    rcases hopening with rfl | ⟨b, hb, hblank, rfl⟩
    · have hnot : after? "async".toList ("def".toList ++ (gap ++ rest)) = none := rfl
      rw [List.nil_append, trimLeft_append hindent hfilled, hnot]
      rfl
    · have hasync : StartsFilled ("async".toList ++ (b ++ ("def".toList ++ (gap ++ rest)))) :=
        startsFilled_cons.2 (by decide)
      rw [List.append_assoc, trimLeft_append hindent hasync, after?_append,
        Option.bind_some, afterBlanks?_append hb hblank hfilled, Option.getD_some]

theorem lacksReturnType_iff (line : List Char) : lacksReturnType line ↔ LacksReturnType line := by
  rw [lacksReturnType, Bool.and_eq_true, Bool.not_eq_true', ← Bool.not_eq_true, occurs_iff,
    isHeader_iff, LacksReturnType]

/-! ## What is reported -/

/-- A rule reports the lines that are flagged: once each, in their order, with number and text. -/
structure ReportsLines (r : Rule) (what : String) (Flagged : List Char → Prop) (u : SourceUnit) :
    Prop where
  ascending : ∃ numbers : List Nat,
    (r.check u).map (·.line) = numbers.map some ∧ numbers.Pairwise (· < ·)
  mem_iff : ∀ f, f ∈ r.check u ↔ ∃ n text, u.line? n = some text ∧ Flagged text.toList ∧
    f = .new r.name r.category (s!"Line {n}: {what} → \x60" ++ trim text ++ "\x60") (some n)

theorem reportsLines_ofLines {name description what : String} {c : Category}
    {flags : List Char → Bool} {Flagged : List Char → Prop} (h : ∀ line, flags line ↔ Flagged line)
    (u : SourceUnit) : ReportsLines (.ofLines name description c what flags) what Flagged u where
  ascending := by
    refine ⟨(u.numberedLines.filter fun l => flags l.2.toList).map (·.1), ?_, ?_⟩
    · rw [Rule.ofLines, List.map_map, List.map_map]
      rfl
    · exact (SourceUnit.numberedLines_ascending u).sublist (List.filter_sublist.map _)
  mem_iff f := by
    simp only [Rule.ofLines, List.mem_map, List.mem_filter, Prod.exists,
      SourceUnit.mem_numberedLines_iff, h]
    constructor
    · rintro ⟨n, text, ⟨hline, hflag⟩, rfl⟩
      exact ⟨n, text, hline, hflag, rfl⟩
    · rintro ⟨n, text, hline, hflag, rfl⟩
      exact ⟨n, text, ⟨hline, hflag⟩, rfl⟩

/-- A line has a finding just if it is flagged. -/
theorem ReportsLines.exists_iff {r : Rule} {what : String} {Flagged : List Char → Prop}
    {u : SourceUnit} (h : ReportsLines r what Flagged u) {n : Nat} {text : String}
    (hline : u.line? n = some text) :
    (∃ f ∈ r.check u, f.line = some n) ↔ Flagged text.toList := by
  simp only [h.mem_iff]
  constructor
  · rintro ⟨_, ⟨m, text', hm, hflag, rfl⟩, hn⟩
    obtain rfl : m = n := Option.some.inj hn
    rw [hline] at hm
    rwa [Option.some.inj hm]
  · intro hflag
    exact ⟨_, ⟨n, text, hline, hflag, rfl⟩, rfl⟩

/-- What stays flagged within any longer line keeps its finding. -/
theorem ReportsLines.kept {r : Rule} {what : String} {Flagged : List Char → Prop}
    (h : ∀ u, ReportsLines r what Flagged u)
    (hlonger : ∀ {line}, Flagged line → ∀ pre post, Flagged (pre ++ line ++ post))
    {u u' : SourceUnit} {n n' : Nat} {text pre post : String} (hline : u.line? n = some text)
    (hline' : u'.line? n' = some (pre ++ text ++ post))
    (hfound : ∃ f ∈ r.check u, f.line = some n) :
    ∃ f ∈ r.check u', f.line = some n' := by
  have hflag := ((h u).exists_iff hline).1 hfound
  rw [(h u').exists_iff hline', String.toList_append, String.toList_append]
  exact hlonger hflag pre.toList post.toList

theorem AssignsSecret.surrounded {line : List Char} (h : AssignsSecret line)
    (pre post : List Char) : AssignsSecret (pre ++ line ++ post) := by
  obtain ⟨pre', word, name, rest, hword, hname, hrest, rfl⟩ := h
  obtain ⟨b, b', q, middle, q', post', hb, hb', hq, hne, hq', rfl⟩ := hrest
  exact ⟨pre ++ pre', word, name, _, hword, hname,
    ⟨b, b', q, middle, q', post' ++ post, hb, hb', hq, hne, hq', rfl⟩, by simp⟩

theorem RunsCode.surrounded {line : List Char} (h : RunsCode line) (pre post : List Char) :
    RunsCode (pre ++ line ++ post) :=
  h.imp (·.trans (List.infix_append pre line post)) (·.trans (List.infix_append pre line post))

/-- **A line is flagged just if it can be divided as a rule asks.** Each of the three rules on
single lines reports these lines, in their order and once each, with the number and the trimmed
text. A line with a finding on security keeps it whatever is written before and after it on the line
and whatever other lines the unit has. -/
theorem line_rules :
    (∀ u, ReportsLines hardcodedSecret "Hardcoded secret or password" AssignsSecret u) ∧
    (∀ u, ReportsLines unsafeCall "Unsafe use of \x60eval()\x60 or \x60exec()\x60" RunsCode u) ∧
    (∀ u, ReportsLines missingReturnAnnotation "Function may be missing return type hint"
      LacksReturnType u) ∧
    ∀ r ∈ [hardcodedSecret, unsafeCall],
      ∀ (u u' : SourceUnit) (n n' : Nat) (text pre post : String),
      u.line? n = some text → u'.line? n' = some (pre ++ text ++ post) →
      (∃ f ∈ r.check u, f.line = some n) → ∃ f ∈ r.check u', f.line = some n' := by
  have hsecret : ∀ u, ReportsLines hardcodedSecret _ AssignsSecret u :=
    reportsLines_ofLines assignsSecret_iff
  have hunsafe : ∀ u, ReportsLines unsafeCall _ RunsCode u := reportsLines_ofLines runsCode_iff
  refine ⟨hsecret, hunsafe, reportsLines_ofLines lacksReturnType_iff, ?_⟩
  intro r hr u u' n n' text pre post hline hline' hfound
  rcases List.mem_pair.1 hr with rfl | rfl
  · exact ReportsLines.kept hsecret (fun h => h.surrounded) hline hline' hfound
  · exact ReportsLines.kept hunsafe (fun h => h.surrounded) hline hline' hfound

/-- A secret on a line of its own, and at the end of a longer line of a longer unit. -/
theorem line_rules_of_secret :
    let u : SourceUnit := ⟨"Python", ["Token='x'"], default⟩
    let u' : SourceUnit := ⟨"Python", ["import os", "if os: Token='x' # ''"], default⟩
    hardcodedSecret ∈ [hardcodedSecret, unsafeCall] ∧ u.line? 1 = some "Token='x'" ∧
      u'.line? 2 = some ("if os: " ++ "Token='x'" ++ " # ''") ∧
      (∃ f ∈ hardcodedSecret.check u, f.line = some 1) ∧
      ∃ f ∈ hardcodedSecret.check u', f.line = some 2 := by
  intro u u'
  have hmem : hardcodedSecret ∈ [hardcodedSecret, unsafeCall] := List.mem_cons_self
  have hfound : ∃ f ∈ hardcodedSecret.check u, f.line = some 1 := by decide +kernel
  exact ⟨hmem, rfl, rfl, hfound,
    line_rules.2.2.2 _ hmem u u' 1 2 _ "if os: " " # ''" rfl rfl hfound⟩

end CodeReview.Rules
