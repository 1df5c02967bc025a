import Autograder.Format.Grading
import Autograder.Proofs.Json.Decode

/-!
# Records read back

Every record that is sent or stored is read back from its text as it was, provided that its numbers
fit their fields. A value that is left out is told apart from every value that is written.
-/

namespace Autograder.Proofs

open Autograder.Check Autograder.Json

section Names

lemma roundTrips_language (language : Language) :
    RoundTrips Language.toJson Language.ofJson? language where
  proper := .string _
  decoded := Language.ofName?_name language

lemma roundTrips_exerciseKind (kind : ExerciseKind) :
    RoundTrips ExerciseKind.toJson ExerciseKind.ofJson? kind where
  proper := .string _
  decoded := by cases kind <;> rfl

lemma roundTrips_faultKind (kind : FaultKind) :
    RoundTrips FaultKind.toJson FaultKind.ofJson? kind where
  proper := .string _
  decoded := by cases kind <;> rfl

lemma roundTrips_stage (stage : Stage) : RoundTrips Stage.toJson Stage.ofJson? stage where
  proper := .string _
  decoded := by cases stage <;> rfl

lemma roundTrips_criterionKind (kind : CriterionKind) :
    RoundTrips CriterionKind.toJson CriterionKind.ofJson? kind where
  proper := .string _
  decoded := by cases kind <;> rfl

end Names

section Gradings

/-- The line number of the fault fits its field. -/
def FaultFits (fault : Fault) : Prop :=
  fault.line < 2 ^ 64

/-- The numbers of the comparison fit their fields. -/
structure ComparisonFits (comparison : Comparison) : Prop where
  similarity : IsPrinted comparison.similarity
  matched : ∀ line ∈ comparison.matched, line.line < 2 ^ 64
  diffs : ∀ line ∈ comparison.diffs, line.line < 2 ^ 64

/-- The points of the criterion fit their field. -/
def CriterionFits (criterion : Criterion) : Prop :=
  criterion.points < 2 ^ 32

/-- The points of the assessment fit their fields. -/
structure AssessmentFits (assessment : Assessment) : Prop where
  criterion : CriterionFits assessment.criterion
  awarded : assessment.awarded < 2 ^ 32

/-- The numbers of the particulars fit their fields. -/
structure DetailsFit (details : Details) : Prop where
  faults : ∀ fault ∈ details.faults, FaultFits fault
  comparison : ∀ comparison, details.comparison = some comparison → ComparisonFits comparison
  rubricScore : IsPrinted details.rubricScore

/-- The numbers of the outcome fit their fields. -/
structure OutcomeFits (outcome : Outcome) : Prop where
  score : outcome.score < 2 ^ 32
  rubric : ∀ assessment ∈ outcome.rubric, AssessmentFits assessment
  similarity : ∀ x, outcome.similarity = some x → IsPrinted x
  details : DetailsFit outcome.details

lemma roundTrips_fault {fault : Fault} (h : FaultFits fault) :
    RoundTrips Fault.toJson Fault.ofJson? fault := by
  have line := roundTrips_nat64 h
  have message := roundTrips_string fault.message
  have kind := roundTrips_faultKind fault.kind
  constructor
  · exact .object (by simp [line.proper, message.proper, kind.proper])
  · have hfields : fault.toJson.record? [["line"], ["message"], ["kind"]] =
        some [some (ofNat fault.line), some (ofString fault.message), some fault.kind.toJson] := rfl
    simp [Fault.ofJson?, hfields, required, line.decoded, message.decoded, kind.decoded]

lemma roundTrips_matchedLine {matched : MatchedLine} (h : matched.line < 2 ^ 64) :
    RoundTrips MatchedLine.toJson MatchedLine.ofJson? matched := by
  have line := roundTrips_nat64 h
  have content := roundTrips_string matched.content
  constructor
  · exact .object (by simp [line.proper, content.proper])
  · have hfields : matched.toJson.record? [["line"], ["content"]] =
        some [some (ofNat matched.line), some (ofString matched.content)] := rfl
    simp [MatchedLine.ofJson?, hfields, required, line.decoded, content.decoded]

lemma roundTrips_diffLine {diff : DiffLine} (h : diff.line < 2 ^ 64) :
    RoundTrips DiffLine.toJson DiffLine.ofJson? diff := by
  have line := roundTrips_nat64 h
  have expected := roundTrips_string diff.expected
  have actual := roundTrips_string diff.actual
  constructor
  · exact .object (by simp [line.proper, expected.proper, actual.proper])
  · have hfields : diff.toJson.record? [["line"], ["expected"], ["actual"]] =
        some [some (ofNat diff.line), some (ofString diff.expected),
          some (ofString diff.actual)] := rfl
    simp [DiffLine.ofJson?, hfields, required, line.decoded, expected.decoded, actual.decoded]

lemma roundTrips_comparison {comparison : Comparison} (h : ComparisonFits comparison) :
    RoundTrips Comparison.toJson Comparison.ofJson? comparison := by
  have similarity := roundTrips_float h.similarity
  have matched := roundTrips_list fun line hline => roundTrips_matchedLine (h.matched line hline)
  have diffs := roundTrips_list fun line hline => roundTrips_diffLine (h.diffs line hline)
  constructor
  · exact .object (by simp [similarity.proper, matched.proper, diffs.proper])
  · have hfields : comparison.toJson.record? [["similarity"], ["matched_lines"], ["diff_lines"]] =
        some [some (ofFloat comparison.similarity),
          some (ofList MatchedLine.toJson comparison.matched),
          some (ofList DiffLine.toJson comparison.diffs)] := rfl
    simp [Comparison.ofJson?, hfields, required, similarity.decoded, matched.decoded, diffs.decoded]

lemma roundTrips_criterion {criterion : Criterion} (h : CriterionFits criterion) :
    RoundTrips Criterion.toJson Criterion.ofJson? criterion := by
  have label := roundTrips_string criterion.label
  have points := roundTrips_nat32 h
  have kind := roundTrips_criterionKind criterion.kind
  have hhint : ∀ text, criterion.hint = some text → RoundTrips ofString string? text :=
    fun text _ => roundTrips_string text
  constructor
  · refine .object (List.forall_mem_append.mpr
      ⟨?_, forall_mem_optionalField _ fun text _ => .string text⟩)
    simp [label.proper, points.proper, kind.proper]
  · have hfields : criterion.toJson.record? [["label"], ["points"], ["kind"], ["hint"]] =
        some [some (ofString criterion.label), some (ofNat criterion.points),
          some criterion.kind.toJson, criterion.hint.map ofString] := by
      obtain ⟨label, points, kind, _ | hint⟩ := criterion <;> rfl
    have hint : nullable string? (criterion.hint.map ofString) = some criterion.hint :=
      nullable_map (fun _ _ => Json.noConfusion) hhint
    simp [Criterion.ofJson?, hfields, required, label.decoded, points.decoded, kind.decoded, hint]

lemma roundTrips_assessment {assessment : Assessment} (h : AssessmentFits assessment) :
    RoundTrips Assessment.toJson Assessment.ofJson? assessment := by
  have criterion := roundTrips_criterion h.criterion
  have awarded := roundTrips_nat32 h.awarded
  have satisfied := roundTrips_bool assessment.satisfied
  constructor
  · exact .object (by simp [criterion.proper, awarded.proper, satisfied.proper])
  · have hfields : assessment.toJson.record? [["criterion"], ["points_awarded"], ["satisfied"]] =
        some [some assessment.criterion.toJson, some (ofNat assessment.awarded),
          some (.bool assessment.satisfied)] := rfl
    simp [Assessment.ofJson?, hfields, required, criterion.decoded, awarded.decoded,
      satisfied.decoded]

lemma roundTrips_details {details : Details} (h : DetailsFit details) :
    RoundTrips Details.toJson Details.ofJson? details := by
  have faults := roundTrips_list fun fault hfault => roundTrips_fault (h.faults fault hfault)
  have comparison := roundTrips_ofOption (fun _ => Json.noConfusion) fun comparison hcomparison =>
    roundTrips_comparison (h.comparison comparison hcomparison)
  have rubricScore := roundTrips_float h.rubricScore
  constructor
  · exact .object (by simp [faults.proper, comparison.proper, rubricScore.proper])
  · have hfields : details.toJson.record? [["errores"], ["comparacion"], ["puntaje_rubrica"]] =
        some [some (ofList Fault.toJson details.faults),
          some (ofOption Comparison.toJson details.comparison),
          some (ofFloat details.rubricScore)] := rfl
    simp [Details.ofJson?, hfields, required, faults.decoded, comparison.decoded,
      rubricScore.decoded]

lemma roundTrips_outcome {outcome : Outcome} (h : OutcomeFits outcome) :
    RoundTrips Outcome.toJson Outcome.ofJson? outcome := by
  have success := roundTrips_bool outcome.success
  have feedback := roundTrips_strings outcome.feedback
  have score := roundTrips_nat32 h.score
  have rubric := roundTrips_list fun assessment hassessment =>
    roundTrips_assessment (h.rubric assessment hassessment)
  have language := roundTrips_language outcome.language
  have stage := roundTrips_stage outcome.stage
  have hsimilarity : ∀ x, outcome.similarity = some x → RoundTrips ofFloat float? x :=
    fun x hx => roundTrips_float (h.similarity x hx)
  have details := roundTrips_details h.details
  have recommendations := roundTrips_strings outcome.recommendations
  have summary := roundTrips_string outcome.summary
  constructor
  · refine .object (List.forall_mem_append.mpr ⟨List.forall_mem_append.mpr
      ⟨?_, forall_mem_optionalField _ fun x hx => (hsimilarity x hx).proper⟩, ?_⟩)
    · simp [success.proper, feedback.proper, score.proper, rubric.proper, language.proper,
        stage.proper]
    · simp [details.proper, recommendations.proper, summary.proper]
  · have hfields : outcome.toJson.record? [["success"], ["feedback"], ["score"], ["rubric"],
        ["language"], ["tipo_errores"], ["similaridad"], ["detalles"], ["recomendaciones"],
        ["resumen"]] =
        some [some (.bool outcome.success), some (ofList ofString outcome.feedback),
          some (ofNat outcome.score), some (ofList Assessment.toJson outcome.rubric),
          some outcome.language.toJson, some outcome.stage.toJson,
          outcome.similarity.map ofFloat, some outcome.details.toJson,
          some (ofList ofString outcome.recommendations), some (ofString outcome.summary)] := by
      obtain ⟨_, _, _, _, _, _, _ | x, _, _, _⟩ := outcome <;> rfl
    have similarity : nullable float? (outcome.similarity.map ofFloat) = some outcome.similarity :=
      nullable_map (fun x hx => ofFloat_ne_null (h.similarity x hx).finite) hsimilarity
    simp only [Outcome.ofJson?, hfields, required, Option.bind_eq_bind, Option.bind_some,
      success.decoded, feedback.decoded, score.decoded, rubric.decoded, language.decoded,
      stage.decoded, similarity, details.decoded, recommendations.decoded, summary.decoded]
    rfl

end Gradings

section Rubrics

/-- The points of the result fit their fields. -/
structure RuleResultFits (result : RuleResult) : Prop where
  awarded : result.awarded < 2 ^ 32
  total : result.total < 2 ^ 32

/-- The points of the report fit their fields. -/
structure ReportFits (report : Report) : Prop where
  score : report.score < 2 ^ 32
  max : report.max < 2 ^ 32
  results : ∀ result ∈ report.results, RuleResultFits result

/-- The points of the rule fit their field. -/
def RuleFits (rule : Rule) : Prop :=
  rule.points < 2 ^ 32

/-- The rule with all its fields, the pattern under the given name. -/
def ruleUnder (name : String) (rule : Rule) : Json :=
  .ofFields [
    ("label", .ofString rule.label),
    (name, .ofString rule.pattern),
    ("points", .ofNat rule.points),
    ("feedback", .ofString rule.feedback)]

lemma roundTrips_ruleResult {result : RuleResult} (h : RuleResultFits result) :
    RoundTrips RuleResult.toJson RuleResult.ofJson? result := by
  have label := roundTrips_string result.label
  have correct := roundTrips_bool result.correct
  have awarded := roundTrips_nat32 h.awarded
  have total := roundTrips_nat32 h.total
  have feedback := roundTrips_string result.feedback
  constructor
  · exact .object (by simp [label.proper, correct.proper, awarded.proper, total.proper,
      feedback.proper])
  · have hfields : result.toJson.record? [["label"], ["correct"], ["points_awarded"],
        ["points_total"], ["feedback"]] =
        some [some (ofString result.label), some (.bool result.correct),
          some (ofNat result.awarded), some (ofNat result.total),
          some (ofString result.feedback)] := rfl
    simp [RuleResult.ofJson?, hfields, required, label.decoded, correct.decoded, awarded.decoded,
      total.decoded, feedback.decoded]

lemma roundTrips_report {report : Report} (h : ReportFits report) :
    RoundTrips Report.toJson Report.ofJson? report := by
  have score := roundTrips_nat32 h.score
  have max := roundTrips_nat32 h.max
  have results := roundTrips_list fun result hresult =>
    roundTrips_ruleResult (h.results result hresult)
  constructor
  · exact .object (by simp [score.proper, max.proper, results.proper])
  · have hfields : report.toJson.record? [["score"], ["max"], ["details"]] =
        some [some (ofNat report.score), some (ofNat report.max),
          some (ofList RuleResult.toJson report.results)] := rfl
    simp [Report.ofJson?, hfields, required, score.decoded, max.decoded, results.decoded]

lemma roundTrips_ruleUnder {name : String} (hname : name ∈ ["pattern", "regex"]) {rule : Rule}
    (h : RuleFits rule) : RoundTrips (ruleUnder name) Rule.ofJson? rule := by
  have label := roundTrips_string rule.label
  have pattern := roundTrips_string rule.pattern
  have points := roundTrips_nat32 h
  have feedback := roundTrips_string rule.feedback
  constructor
  · exact .object (by simp [label.proper, pattern.proper, points.proper, feedback.proper])
  · have hfields : (ruleUnder name rule).record? [["label"], ["pattern", "regex"], ["points"],
        ["feedback"]] =
        some [some (ofString rule.label), some (ofString rule.pattern), some (ofNat rule.points),
          some (ofString rule.feedback)] := by
      rcases List.mem_pair.mp hname with rfl | rfl <;> rfl
    simp [Rule.ofJson?, hfields, required, withDefault, label.decoded, pattern.decoded,
      points.decoded, feedback.decoded]

lemma roundTrips_config (config : ExerciseConfig) :
    RoundTrips ExerciseConfig.toJson ExerciseConfig.ofJson? config := by
  have kind := roundTrips_exerciseKind config.kind
  have language := roundTrips_ofOption (fun _ => Json.noConfusion) fun language
    (_ : config.language = some language) => roundTrips_language language
  have singleAttempt := roundTrips_bool config.singleAttempt
  constructor
  · exact .object (by simp [kind.proper, language.proper, singleAttempt.proper])
  · have hfields : config.toJson.record? [["kind"], ["language"], ["single_attempt"]] =
        some [some config.kind.toJson, some (ofOption Language.toJson config.language),
          some (.bool config.singleAttempt)] := rfl
    simp [ExerciseConfig.ofJson?, hfields, withDefault, kind.decoded, language.decoded,
      singleAttempt.decoded]

end Rubrics

/-- Faults, comparisons, criteria, assessments, outcomes, reports, rules and configurations are read
back from their texts. So an absent hint has another text than every hint, the empty one included,
and an absent similarity another one than every similarity; and a rule is the same under both names
of its pattern. -/
theorem records_readBack :
    (∀ fault, FaultFits fault → IsReadBack Fault.toJson Fault.ofJson? fault) ∧
    (∀ comparison, ComparisonFits comparison →
      IsReadBack Comparison.toJson Comparison.ofJson? comparison) ∧
    (∀ criterion, CriterionFits criterion →
      IsReadBack Criterion.toJson Criterion.ofJson? criterion ∧
      ∀ hint, TextsDiffer { criterion with hint := none }.toJson
        { criterion with hint := some hint }.toJson) ∧
    (∀ assessment, AssessmentFits assessment →
      IsReadBack Assessment.toJson Assessment.ofJson? assessment) ∧
    (∀ outcome, OutcomeFits outcome →
      IsReadBack Outcome.toJson Outcome.ofJson? outcome ∧
      ∀ x, IsPrinted x → TextsDiffer { outcome with similarity := none }.toJson
        { outcome with similarity := some x }.toJson) ∧
    (∀ report, ReportFits report → IsReadBack Report.toJson Report.ofJson? report) ∧
    (∀ rule, RuleFits rule → IsReadBack Rule.toJson Rule.ofJson? rule ∧
      ∀ name ∈ ["pattern", "regex"], IsReadBack (ruleUnder name) Rule.ofJson? rule) ∧
    ∀ config, IsReadBack ExerciseConfig.toJson ExerciseConfig.ofJson? config := by
  refine ⟨fun fault h => (roundTrips_fault h).isReadBack,
    fun comparison h => (roundTrips_comparison h).isReadBack,
    fun criterion h => ⟨(roundTrips_criterion h).isReadBack, fun hint => ?hint⟩,
    fun assessment h => (roundTrips_assessment h).isReadBack,
    fun outcome h => ⟨(roundTrips_outcome h).isReadBack, fun x hx => ?similarity⟩,
    fun report h => (roundTrips_report h).isReadBack,
    fun rule h => ⟨?pattern, fun name hname => (roundTrips_ruleUnder hname h).isReadBack⟩,
    fun config => (roundTrips_config config).isReadBack⟩
  case hint =>
    have habsent : CriterionFits { criterion with hint := none } := h
    have hpresent : CriterionFits { criterion with hint := some hint } := h
    refine (roundTrips_criterion habsent).isReadBack.textsDiffer
      (roundTrips_criterion hpresent).isReadBack fun heq => ?_
    exact Option.some_ne_none hint (congrArg Criterion.hint heq).symm
  case similarity =>
    have habsent : OutcomeFits { outcome with similarity := none } :=
      ⟨h.score, h.rubric, fun _ hy => absurd hy.symm (Option.some_ne_none _), h.details⟩
    have hpresent : OutcomeFits { outcome with similarity := some x } :=
      ⟨h.score, h.rubric, fun _ hy => Option.some.inj hy ▸ hx, h.details⟩
    refine (roundTrips_outcome habsent).isReadBack.textsDiffer
      (roundTrips_outcome hpresent).isReadBack fun heq => ?_
    exact Option.some_ne_none x (congrArg Outcome.similarity heq).symm
  case pattern =>
    exact (roundTrips_ruleUnder (List.mem_cons_self) h).isReadBack

/-- Two of three lines match, with the greatest numbers and texts full of escapes. -/
def brinkOutcome : Outcome where
  success := false
  feedback := ["\"\\\n\t\x00", "😀", ""]
  score := 4294967295
  rubric := [⟨⟨"\x1f", 4294967295, .loop, some ""⟩, 4294967295, true⟩]
  language := .pseint
  stage := .scored
  similarity := some 66.66666666666667
  details := {
    faults := [⟨18446744073709551615, "\x7f", .naming⟩]
    comparison := some ⟨66.66666666666667, [⟨1, "null"⟩, ⟨3, "[]"⟩], [⟨2, "", " "⟩]⟩
    rubricScore := 100.0 }
  recommendations := []
  summary := "/"

theorem records_readBack_brink :
    OutcomeFits brinkOutcome ∧ IsReadBack Outcome.toJson Outcome.ofJson? brinkOutcome ∧
    ReportFits ⟨0, 4294967295, [⟨"", false, 0, 4294967295, "\r"⟩]⟩ ∧
    IsReadBack Report.toJson Report.ofJson? ⟨0, 4294967295, [⟨"", false, 0, 4294967295, "\r"⟩]⟩ ∧
    RuleFits ⟨"", "\\s", 4294967295, "ñ"⟩ ∧
    IsReadBack (ruleUnder "regex") Rule.ofJson? ⟨"", "\\s", 4294967295, "ñ"⟩ := by
  have hprinted : IsPrinted 66.66666666666667 := ⟨by decide +kernel, by rfl⟩
  have hcriterion : CriterionFits ⟨"\x1f", 4294967295, .loop, some ""⟩ := by
    unfold CriterionFits
    decide
  have houtcome : OutcomeFits brinkOutcome := {
    score := by decide
    rubric := by simpa [brinkOutcome] using AssessmentFits.mk hcriterion (by decide)
    similarity := by simpa [brinkOutcome] using hprinted
    details := {
      faults := by simp [brinkOutcome, FaultFits]
      comparison := by
        intro comparison hcomparison
        obtain rfl := Option.some.inj hcomparison
        exact ⟨hprinted, by simp, by simp⟩
      rubricScore := ⟨by decide +kernel, by rfl⟩ } }
  have hreport : ReportFits ⟨0, 4294967295, [⟨"", false, 0, 4294967295, "\r"⟩]⟩ := {
    score := by decide
    max := by decide
    results := by simpa using RuleResultFits.mk (by decide) (by decide) }
  have hrule : RuleFits ⟨"", "\\s", 4294967295, "ñ"⟩ := by
    unfold RuleFits
    decide
  obtain ⟨-, -, -, -, outcomes, reports, rules, -⟩ := records_readBack
  exact ⟨houtcome, (outcomes _ houtcome).1, hreport, reports _ hreport, hrule,
    (rules _ hrule).2 "regex" (by decide)⟩

end Autograder.Proofs
