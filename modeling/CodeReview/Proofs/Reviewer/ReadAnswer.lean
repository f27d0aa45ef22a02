import CodeReview.Proofs.Json.SpelledText
import CodeReview.Proofs.Review.OutcomeRoundTrip
import CodeReview.Proofs.Review.StaticPart
import CodeReview.Proofs.Reviewer.SentRequest

/-!
# What the answer of a provider gives

The bodies that are completions (`IsCompletion`) are described by what their objects give, not by
the order in which they give it: `Gives` asks for one member of a name or none, whatever else there
is. Every text of a completion is read as its texts and counters (`completion_of_spells`), and an
answer with the status of an error is not read at all. `Client.reads_answers` follows an answer up
to the report: it has feedback just if there is a completion, and any failure leaves the report as
it is without an outside source, but for the reason.
-/

set_option autoImplicit false

namespace CodeReview

/-! ## Fields of objects -/

namespace Json

/-- Members of an object give a name once, with a value, or not at all. -/
def Gives (members : List (String × Json)) (name : String) (o : Option Json) : Prop :=
  (members.filter fun m => m.1 == name).map (·.2) = o.toList

section
variable {members : List (String × Json)} {name : String} {o : Option Json}

theorem member?_of_gives (h : Gives members name o) : member? members name = o := by
  rw [member?, ← List.head?_filter, ← List.head?_map, h]
  cases o <;> rfl

theorem not_isRepeated_of_gives (h : Gives members name o) : isRepeated members name = false := by
  have hlength := congrArg List.length h
  rw [List.length_map] at hlength
  rw [isRepeated, decide_eq_false_iff_not, hlength]
  cases o <;> simp

end

/-- The fields of an object are what its members give. -/
theorem fields?_of_gives {members : List (String × Json)} {names : List String}
    {values : List (Option Json)} (h : List.Forall₂ (Gives members) names values) :
    (object members).fields? names = some values := by
  have honce : ∀ name ∈ names, isRepeated members name = false :=
    ((List.forall₂_and_left _ _).1 (h.imp fun _ _ ho => ⟨not_isRepeated_of_gives ho, ho⟩)).1
  have hany : ¬ names.any (isRepeated members) := by
    rw [List.any_eq_true]
    rintro ⟨name, hname, hrepeated⟩
    rw [honce name hname] at hrepeated
    cases hrepeated
  have hvalues : names.map (member? members) = values := by
    rw [← List.forall₂_eq_eq_eq, List.forall₂_map_left_iff]
    exact h.imp fun _ _ => member?_of_gives
  rw [fields?, objectFields?, if_neg hany, hvalues]

end Json

namespace Reviewer

open Json

/-! ## Completions in JSON -/

/-- The content of a message as a text: without one, or with null, it is empty. -/
inductive IsContent : Option Json → String → Prop
  | absent : IsContent none ""
  | null : IsContent (some .null) ""
  | text (t : String) : IsContent (some (.string t)) t

/-- A choice has a message, whose content is its text. -/
inductive IsChoice : Json → String → Prop
  | mk {members msg : List (String × Json)} {content : Option Json} {text : String}
    (hmessage : Gives members "message" (some (.object msg)))
    (htext : IsContent content text) (hcontent : Gives msg "content" content) :
    IsChoice (.object members) text

/-- A counter is a number below `2 ^ 32`, or it is not given and zero. -/
inductive IsCounter : Option Json → Nat → Prop
  | absent : IsCounter none 0
  | number {n : Nat} (h : n < 2 ^ 32) : IsCounter (some (.nat n)) n

/-- The counters are those of an object; without one, or with null, they are zero. -/
inductive IsUsage : Option Json → TokenUsage → Prop
  | absent : IsUsage none ⟨0, 0, 0⟩
  | null : IsUsage (some .null) ⟨0, 0, 0⟩
  | counters {members : List (String × Json)} {prompt completion total : Option Json} {i o t : Nat}
    (hi : IsCounter prompt i) (hprompt : Gives members "prompt_tokens" prompt)
    (ho : IsCounter completion o) (hcompletion : Gives members "completion_tokens" completion)
    (ht : IsCounter total t) (htotal : Gives members "total_tokens" total) :
    IsUsage (some (.object members)) ⟨i, o, t⟩

/-- A completion has choices, with their texts, and counters. -/
inductive IsCompletion : Json → List String → TokenUsage → Prop
  | mk {members : List (String × Json)} {choices : List Json} {texts : List String}
    {counters : Option Json} {usage : TokenUsage}
    (hchoices : Gives members "choices" (some (.array choices)))
    (htexts : List.Forall₂ IsChoice choices texts) (husage : IsUsage counters usage)
    (hcounters : Gives members "usage" counters) : IsCompletion (.object members) texts usage

theorem choice?_of_isChoice {v : Json} {text : String} (h : IsChoice v text) :
    choice? v = some text := by
  obtain ⟨hmessage, htext, hcontent⟩ := h
  rw [choice?, fields?_of_gives (.cons hmessage .nil)]
  simp only [fields?_of_gives (.cons hcontent .nil)]
  cases htext <;> rfl

theorem counter?_of_isCounter {o : Option Json} {n : Nat} (h : IsCounter o n) :
    counter? o = some n := by
  cases h with
  | absent => rfl
  | number h => exact word?_nat h

theorem orNull?_usage?_of_isUsage {o : Option Json} {u : TokenUsage} (h : IsUsage o u) :
    (orNull? Reviewer.usage? (o.getD .null)).map (·.getD {}) = some u := by
  cases h with
  | absent => rfl
  | null => rfl
  | counters hi hprompt ho hcompletion ht htotal =>
    have hfields := fields?_of_gives (.cons hprompt (.cons hcompletion (.cons htotal .nil)))
    simp [orNull?, Reviewer.usage?, hfields, counter?_of_isCounter hi, counter?_of_isCounter ho,
      counter?_of_isCounter ht]

theorem answer?_of_isCompletion {v : Json} {texts : List String} {usage : TokenUsage}
    (h : IsCompletion v texts usage) : answer? v = some (texts, usage) := by
  obtain ⟨hchoices, htexts, husage, hcounters⟩ := h
  have hlist : list? choice? (.array _) = some texts :=
    mapM_eq_some (htexts.imp fun _ _ => choice?_of_isChoice)
  obtain ⟨u, hu, rfl⟩ := Option.map_eq_some_iff.1 (orNull?_usage?_of_isUsage husage)
  rw [answer?, fields?_of_gives (.cons hchoices (.cons hcounters .nil))]
  simp only [hlist, hu, Option.bind_eq_bind, Option.bind_some, Option.pure_def]

/-! ## Answers -/

/-- A response that goes no further is an answer, whose body is empty if it has none. -/
theorem Answer.ofResponse_eq {status : Nat} (h : status < 300 ∨ 400 ≤ status) (body : String) :
    ofResponse status body = .answered status (if status = 204 then "" else body) := by
  have hredirect : isRedirect status = false := by
    simp only [isRedirect, Bool.and_eq_false_iff, decide_eq_false_iff_not]
    omega
  have hbodiless : isBodiless status = true ↔ status = 204 := by
    simp only [isBodiless, Bool.or_eq_true, beq_iff_eq]
    omega
  simp only [ofResponse, hredirect, Bool.false_eq_true, if_false, hbodiless]

/-- The body of an answer with the status of an error is not read. -/
theorem Answer.completion_of_refused (b : Backend) {status : Nat} (h : 400 ≤ status)
    (body : String) : (answered status body).completion b = .error (.status status body) := by
  rw [completion, if_pos h]

/-- Every text of a completion gives its first text and its counters. -/
theorem Answer.completion_of_spells {b : Backend} (hb : b.isCompatible = true) {status : Nat}
    (hs : status < 400) {body : String} {v : Json} (hbody : SpellsSpaced body.toList v)
    {texts : List String} {usage : TokenUsage} (hv : IsCompletion v texts usage) :
    (answered status body).completion b =
      match texts with
      | [] => .error (.badAnswer "No response choices")
      | text :: _ => .ok ⟨text, usage⟩ := by
  have hfound : (parse body).bind answer? = some (texts, usage) := by
    rw [parse_of_spells hbody, Option.bind_some, answer?_of_isCompletion hv]
  rw [completion, if_neg (by omega), completion?, if_pos hb, hfound]
  cases texts with
  | nil => simp [hb]
  | cons text texts => rfl

end Reviewer

/-! ## Reports -/

open Reviewer

/-- A report tells what a client got from its provider. Beside that it is the report `s` that there
is without an outside source. -/
structure ReviewReport.TellsOf (r s : ReviewReport) (c : Client)
    (result : Except Failure Completion) : Prop where
  statics : r.source = s.source ∧ r.language = s.language ∧ r.metrics = s.metrics ∧
    r.findings = s.findings
  feedback : r.feedback = result.toOption.map fun d => Text.trim d.text
  completed : ∀ d, result = .ok d → r.external = .completed c.reviewerName d.usage
  failed : ∀ failure, result = .error failure →
    r.external = .failed failure.message ∧ { r with external := s.external } = s

namespace Pipeline

variable {m : Type → Type} (p : Pipeline m) {c : Client}

/-- The report on a unit tells what the client got. -/
theorem report_tellsOf (source : String) (u : SourceUnit) (metrics : MetricsReport)
    (result : Except Failure Completion) :
    (p.report source u metrics
        (statusOfFeedback c.reviewerName (result.map Completion.feedback))).TellsOf
      (p.report source u metrics (.skipped, none)) c result := by
  cases result with
  | ok d => exact ⟨⟨rfl, rfl, rfl, rfl⟩, rfl, fun _ h => Except.ok.inj h ▸ rfl, nofun⟩
  | error failure =>
    exact ⟨⟨rfl, rfl, rfl, rfl⟩, rfl, nofun, fun _ h => Except.error.inj h ▸ ⟨rfl, rfl⟩⟩

variable [Monad m] [LawfulMonad m] {connection : Connection m}

/-- To ask the reviewer of a client is to ask for a completion. -/
theorem askExternal_of_client (hp : p.external = .reviewer (c.reviewer connection))
    (language code : String) :
    p.askExternal language code =
      (fun result => statusOfFeedback c.reviewerName (result.map Completion.feedback)) <$>
        c.complete connection (some systemPrompt) (reviewMessages language code) := by
  rw [askExternal, hp]
  simp only [Client.reviewer, bind_pure_comp, Functor.map_map]

/-- The report of a review with a client tells what the client got. -/
theorem review_of_client (hp : p.external = .reviewer (c.reviewer connection))
    (hw : 1 ≤ p.window) (source : String) {text : String} {u : SourceUnit}
    (hu : readSource text = .ok u) :
    ∃ (s : ReviewReport) (report : Except Failure Completion → ReviewReport),
      (p.withExternal (.disabled : ExternalSource m)).review source text = pure (.ok s) ∧
      p.review source text = (fun result => .ok (report result)) <$>
        c.complete connection (some systemPrompt) (reviewMessages u.language text) ∧
      ∀ result, (report result).TellsOf s c result := by
  obtain ⟨metrics, hm, hreview⟩ := p.review_eq source hw hu
  obtain ⟨metrics', hm', halone⟩ :=
    (p.withExternal (.disabled : ExternalSource m)).review_eq source hw hu
  obtain rfl : metrics = metrics' := Except.ok.inj (hm.symm.trans hm')
  refine ⟨_, _, ?_, ?_, p.report_tellsOf source u metrics⟩
  · rw [halone]
    exact map_pure _ _
  · rw [hreview, p.askExternal_of_client hp, Functor.map_map]

end Pipeline

/-- **An answer is read as what it says, and feedback in a report is always from a completion.** Let
a client ask a provider of the common format. A response is an answer with its status and its body,
which is empty for the one status that never has a body. If the status is at least 400, the answer
is a failure with the status and the body as it is, whatever the body holds. Otherwise each text of
a completion, in any order and spelling and with any other members, gives the first of its texts,
which is empty for null or no content, and its counters, which are zero if not given; a completion
without any choices is a failure. The client gives what its answer gives, or if nothing can be sent,
a failure. A review with the client then has the text of a completion, without the blanks around it,
as feedback, and has feedback in no other case. After a failure the report is the one without an
outside source, but for the reason. -/
theorem Reviewer.Client.reads_answers (c : Client) (hc : c.settings.backend.isCompatible = true) :
    (∀ status body, 200 ≤ status ∧ status < 300 ∨ 400 ≤ status →
      Answer.ofResponse status body = .answered status (if status = 204 then "" else body)) ∧
    (∀ status body, 400 ≤ status →
      (Answer.answered status body).completion c.settings.backend =
        .error (.status status body)) ∧
    (∀ status body v usage, 200 ≤ status ∧ status < 300 → Json.SpellsSpaced body.toList v →
      (∀ text texts, IsCompletion v (text :: texts) usage →
        (Answer.answered status body).completion c.settings.backend = .ok ⟨text, usage⟩) ∧
      (IsCompletion v [] usage →
        (Answer.answered status body).completion c.settings.backend =
          .error (.badAnswer "No response choices"))) ∧
    (∀ system messages, ∃ failure, ∀ (m : Type → Type) [Monad m] [LawfulMonad m]
        (connection : Connection m),
      c.complete connection system messages =
        if c.CanSend then
          (·.completion c.settings.backend) <$> connection (c.request system messages)
        else pure (.error failure)) ∧
    ∀ (m : Type → Type) [Monad m] [LawfulMonad m] (connection : Connection m) (p : Pipeline m)
        (source text : String) (u : SourceUnit),
      p.external = .reviewer (c.reviewer connection) → 1 ≤ p.window → readSource text = .ok u →
      ∃ (s : ReviewReport) (report : Except Failure Completion → ReviewReport),
        (p.withExternal (.disabled : ExternalSource m)).review source text = pure (.ok s) ∧
        p.review source text = (fun result => .ok (report result)) <$>
          c.complete connection (some systemPrompt) (reviewMessages u.language text) ∧
        ∀ result, (report result).TellsOf s c result := by
  refine ⟨fun status body h => Answer.ofResponse_eq (h.imp_left And.right) body,
    fun status body h => Answer.completion_of_refused _ h body,
    fun status body v usage hs hbody => ?_, fun system messages => ?_, ?_⟩
  · have hlt : status < 400 := by omega
    exact ⟨fun text texts hv => Answer.completion_of_spells hc hlt hbody hv,
      fun hv => Answer.completion_of_spells hc hlt hbody hv⟩
  · exact ⟨_, fun m _ _ connection => c.complete_eq connection system messages⟩
  · intro m _ _ connection p source text u hp hw hu
    exact p.review_of_client hp hw source hu

/-- A completion with its members out of order and others among them. -/
def Reviewer.reordered : Json :=
  .object
    [("usage", .object [("details", .array [.null, .string "é"]), ("total_tokens", .nat 7)]),
      ("choices", .array
        [.object [("index", .nat 0), ("message", .object [("content", .string " \"Fix\"\n")])],
          .object [("message", .object [])]])]

theorem Reviewer.isCompletion_reordered :
    IsCompletion reordered [" \"Fix\"\n", ""] ⟨0, 0, 7⟩ := by
  have husage : IsUsage
      (some (.object [("details", .array [.null, .string "é"]), ("total_tokens", .nat 7)]))
      ⟨0, 0, 7⟩ := .counters .absent rfl .absent rfl (.number (by decide)) rfl
  exact .mk rfl (.cons (.mk rfl (.text _) rfl) (.cons (.mk rfl .absent rfl) .nil)) husage rfl

/-- A completion that is refused with the same body that gives feedback otherwise. -/
theorem Reviewer.Client.reads_answers_reordered :
    let c : Client := ⟨{ backend := .ollama }, ""⟩
    let p : Pipeline Id :=
      { external := .reviewer (c.reviewer fun _ => .answered 200 reordered.print) }
    c.settings.backend.isCompatible = true ∧
      Answer.ofResponse 200 reordered.print = .answered 200 reordered.print ∧
      (Answer.answered 429 reordered.print).completion c.settings.backend =
        .error (.status 429 reordered.print) ∧
      ∃ u, readSource "eval(x)\n" = .ok u ∧ ∃ report, p.review "a.py" "eval(x)\n" = .ok report ∧
        report.feedback = some "\"Fix\"" ∧
        report.external = .completed "ollama/deepseek-coder:6.7b" ⟨0, 0, 7⟩ := by
  intro c p
  have hprintable : reordered.Printable := by simp [reordered]
  obtain ⟨hresponse, hrefused, hread, hcomplete, hreview⟩ := Client.reads_answers c rfl
  obtain ⟨u, hu⟩ := readSource_of_isOk (show (readSource "eval(x)\n").isOk by decide +kernel)
  obtain ⟨s, report, -, hreport, htells⟩ :=
    hreview Id (fun _ => .answered 200 reordered.print) p "a.py" "eval(x)\n" u rfl (by decide) hu
  have hgot : c.complete (m := Id) (fun _ => .answered 200 reordered.print) (some systemPrompt)
      (reviewMessages u.language "eval(x)\n") = .ok ⟨" \"Fix\"\n", ⟨0, 0, 7⟩⟩ := by
    obtain ⟨failure, heq⟩ := hcomplete (some systemPrompt) (reviewMessages u.language "eval(x)\n")
    rw [heq Id, if_pos (show c.CanSend by decide)]
    exact (hread 200 _ reordered _ (by decide) hprintable.spellsSpaced).1 _ _
      isCompletion_reordered
  rw [hgot] at hreport
  exact ⟨rfl, hresponse 200 _ (by decide), hrefused 429 _ (by decide), u, hu, _, hreport,
    (htells _).feedback.trans (by decide +kernel), ((htells _).completed _ rfl).trans rfl⟩

end CodeReview
