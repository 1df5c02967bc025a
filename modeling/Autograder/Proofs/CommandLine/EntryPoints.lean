import Autograder.CommandLine.Answer
import Autograder.Proofs.Format.Rubric
import Autograder.Proofs.Rubric.Percentage
import Autograder.Proofs.Submission.Verdict

/-!
# Entry points

A submission can be graded on the command line, from files that are named there, or by submitting it
to a stored exercise. Given the same rules, or the same solution and language, both come to the same
grading. On the command line a file may hold the rules alone or a whole rubric; the rules alone are
never taken for a rubric, and the stored total of a rubric counts nowhere.
-/

namespace Autograder.Proofs

open Autograder.CommandLine Autograder.Storage

/-- The file holds rules, and nothing around them. -/
def HoldsRules (files : Files) (path : String) (rules : List Rule) : Prop :=
  ∃ text items, files.readText path = .ok text ∧ Json.parse? text = some (.array items) ∧
    List.Forall₂ WritesRule rules items

/-- The file holds a rubric with the rules. -/
def HoldsRubric (files : Files) (path : String) (rules : List Rule) : Prop :=
  ∃ text j, files.readText path = .ok text ∧ Json.parse? text = some j ∧ WritesRubric rules j

/-- Code, and rules to grade it by: in a file that holds them alone, in one that holds a rubric, and
with a stored evaluation that may still be attempted. -/
structure GivenRules (files : Files) (student alone rubric : String) (exercises : Exercises)
    (ledger : Ledger) (attempt : Attempt) (rules : List Rule) (code : String) : Prop where
  submitted : files.readText student = .ok code
  alone : HoldsRules files alone rules
  rubric : HoldsRubric files rubric rules
  stored : IsStored exercises attempt.exercise
  configured : ∃ config, HasConfig exercises attempt.exercise config ∧ config.kind = .evaluation
  kept : HoldsRubric exercises.files (attempt.exercise.rubricFile exercises.root) rules
  unused : ledger.has attempt = false
  fits : Number.total (rules.map Rule.points) < 2 ^ 32

/-- Code, and a solution to compare it with: in a file, and with a stored exercise for practice that
is in the same language, if one is given. -/
structure GivenSolution (files : Files) (student solved : String) (exercises : Exercises)
    (attempt : Attempt) (code solution : String) (language : Option Language) : Prop where
  submitted : files.readText student = .ok code
  named : files.readText solved = .ok solution
  stored : IsStored exercises attempt.exercise
  configured : ∃ config, HasConfig exercises attempt.exercise config ∧ config.kind = .practice ∧
    config.language = language ∧ HasSolution exercises attempt.exercise config solution

section Rules

variable {files : Files} {path student text code : String} {rules : List Rule}

lemma points_lt_of_total_lt {limit : Nat} (h : Number.total (rules.map Rule.points) < limit) :
    ∀ rule ∈ rules, rule.points < limit := by
  induction rules with
  | nil => exact fun _ hrule => absurd hrule List.not_mem_nil
  | cons rule rules ih =>
    change rule.points + Number.total (rules.map Rule.points) < limit at h
    exact List.forall_mem_cons.mpr ⟨by omega, ih (by omega)⟩

lemma rulesOfText?_of_isHeld {j : Json} {n : Nat} (hparse : Json.parse? text = some j)
    (hheld : IsHeld n j) (hn : n ≤ nestingLimit) : rulesOfText? text =
      ((RubricFile.ofJson? j).map RubricFile.rules).or (Json.list? Rule.ofJson? j) := by
  have hdepth : j.depth ≤ nestingLimit := hheld.depth.trans hn
  simp [rulesOfText?, hparse, hdepth, hheld.readable]

lemma rulesOfText?_of_holdsRules (hpoints : ∀ rule ∈ rules, rule.points < 2 ^ 32)
    (h : HoldsRules files path rules) :
    ∃ text, files.readText path = .ok text ∧ rulesOfText? text = some rules := by
  obtain ⟨text, items, hread, hparse, hitems⟩ := h
  refine ⟨text, hread, ?_⟩
  rw [rulesOfText?_of_isHeld hparse (isHeld_of_writesRules hpoints hitems) (by decide),
    rubricFile_of_writesRules hitems, list?_of_writesRules hpoints hitems]
  rfl

lemma rulesOfText?_of_holdsRubric (hpoints : ∀ rule ∈ rules, rule.points < 2 ^ 32)
    (h : HoldsRubric files path rules) :
    ∃ text, files.readText path = .ok text ∧ rulesOfText? text = some rules := by
  obtain ⟨text, j, hread, hparse, hrubric⟩ := h
  obtain ⟨file, hfile, hrules⟩ := ofJson?_of_writesRubric hpoints hrubric
  refine ⟨text, hread, ?_⟩
  rw [rulesOfText?_of_isHeld hparse (isHeld_of_writesRubric hpoints hrubric) (by decide), hfile,
    Option.map_some, hrules]
  rfl

lemma exam_result (settings : Settings) (hcode : files.readText student = .ok code)
    (hrules : ∃ text, files.readText path = .ok text ∧ rulesOfText? text = some rules) :
    ((Request.exam student path).answer settings files).result =
      (answerExam code rules).result := by
  obtain ⟨text, hread, htext⟩ := hrules
  have hanswer : (Request.exam student path).answer? settings files =
      .ok (answerExam code rules) := by
    simp only [Request.answer?, readNamed, hcode, hread, Except.mapError]
    simp only [bind, Except.bind, htext]
    rfl
  rw [Request.answer, hanswer]

lemma hasRules_of_holdsRubric {exercises : Exercises} {id : ExerciseId}
    (hpoints : ∀ rule ∈ rules, rule.points < 2 ^ 32)
    (h : HoldsRubric exercises.files (id.rubricFile exercises.root) rules) :
    HasRules exercises id rules := by
  obtain ⟨text, j, hread, hparse, hrubric⟩ := h
  obtain ⟨file, hfile, rfl⟩ := ofJson?_of_writesRubric hpoints hrubric
  exact .stored hread (by rw [hparse]; exact hfile)

end Rules

/-- The same rules give the same report at all three entry points, out of the sum of their points,
or they are refused at all three; and the same solution gives the same outcome at both. -/
theorem entryPoints_agree (settings : Settings) (files : Files) (exercises : Exercises)
    (ledger : Ledger) (attempt : Attempt) (student : String) :
    (∀ alone rubric rules code,
      GivenRules files student alone rubric exercises ledger attempt rules code →
      (∃ report, Rubric.gradeBy rules code.toList = .ok report ∧
        report.max = Number.total (rules.map Rule.points) ∧
        ((Request.exam student alone).answer settings files).result = .ok report.toJson ∧
        ((Request.exam student rubric).answer settings files).result = .ok report.toJson ∧
        (attempt.submit exercises ledger code).result = .ok (.evaluation report)) ∨
      ∃ fault, Rubric.gradeBy rules code.toList = .error fault ∧
        ((Request.exam student alone).answer settings files).result = .error fault.message ∧
        ((Request.exam student rubric).answer settings files).result = .error fault.message ∧
        (attempt.submit exercises ledger code).result = .error .internal) ∧
    ∀ solved code solution language,
      GivenSolution files student solved exercises attempt code solution language →
      ∃ outcome, grade code.toList solution.toList language = outcome ∧
        ((Request.practice student solved language).answer settings files).result =
          .ok outcome.toJson ∧
        (attempt.submit exercises ledger code).result = .ok (.practice outcome) := by
  constructor
  · intro alone rubric rules code given
    have hpoints := points_lt_of_total_lt given.fits
    obtain ⟨config, hconfig, hkind⟩ := given.configured
    have hrules := hasRules_of_holdsRubric hpoints given.kept
    have hadmitted : ¬ (config.singleAttempt = true ∧ ledger.has attempt = true) := by
      simp [given.unused]
    rw [exam_result settings given.submitted (rulesOfText?_of_holdsRules hpoints given.alone),
      exam_result settings given.submitted (rulesOfText?_of_holdsRubric hpoints given.rubric)]
    -- all three have read the same rules, and only their check can still fail
    cases hcheck : Rubric.check rules with
    | ok checked =>
      have hgrade : Rubric.gradeBy rules code.toList =
          .ok (Rubric.report checked (Source.normalize code.toList)) := by
        rw [Rubric.gradeBy, hcheck]
        rfl
      have hanswer : (answerExam code rules).result =
          .ok (Rubric.report checked (Source.normalize code.toList)).toJson := by
        simp only [answerExam, hgrade]
      exact .inl ⟨_, hgrade, max_report_of_check hcheck given.fits, hanswer, hanswer, submit_of_verdict
        (.evaluation given.stored hconfig hkind hadmitted ⟨rules, hrules, hcheck⟩)⟩
    | error fault =>
      have hgrade : Rubric.gradeBy rules code.toList = .error fault := by
        rw [Rubric.gradeBy, hcheck]
        rfl
      have hanswer : (answerExam code rules).result = .error fault.message := by
        simp only [answerExam, hgrade]
      exact .inr ⟨fault, hgrade, hanswer, hanswer, submit_of_verdict
        (.brokenRubric given.stored hconfig hkind hadmitted (.refused hrules hcheck))⟩
  · intro solved code solution language given
    obtain ⟨config, hconfig, hkind, rfl, hsolution⟩ := given.configured
    refine ⟨_, rfl, ?_,
      submit_of_verdict (.practice given.stored hconfig hkind hsolution)⟩
    have hanswer : (Request.practice student solved config.language).answer? settings files =
        .ok (answerPractice code solution config.language) := by
      simp only [Request.answer?, readNamed, given.submitted, given.named, Except.mapError]
      rfl
    rw [Request.answer, hanswer]
    rfl

section Handed

lemma decode_toUTF8 (text : String) : Files.decode text.toUTF8 = .ok text := by
  have h : String.fromUTF8? text.toUTF8 = some text := by
    unfold String.fromUTF8?
    rw [String.toUTF8_eq_toByteArray, dif_pos text.isValidUTF8]
    rfl
  rw [Files.decode, h]

lemma readText_ofList {known : List (String × Except FileError ByteArray)} {path text : String}
    (h : known.lookup path = some (.ok text.toUTF8)) :
    (Files.ofList known).readText path = .ok text := by
  change ((known.lookup path).getD (.error .missing)).bind Files.decode = _
  rw [h]
  exact decode_toUTF8 text

/-- Two rules, the first without feedback. -/
def handedRules : List Rule :=
  [⟨"one", "x = 1", 2, ""⟩, ⟨"two", "y", 3, "?"⟩]

/-- The rules as an object with its fields in another order, and as a row. -/
def handedItems : List Json :=
  [.ofFields [("points", .ofNat 2), ("regex", .ofString "x = 1"), ("label", .ofString "one")],
   .array [.ofString "two", .ofString "y", .ofNat 3, .ofString "?"]]

/-- The rules with a date, and a total that is not theirs. -/
def handedRubric : Json :=
  .ofFields [
    ("total_points", .ofNat 9),
    ("rules", .array handedItems),
    ("updated_at", .ofString "2024-01-01T00:00:00Z")]

/-- Files to be named on the command line, an evaluation, and an exercise for practice. -/
def handedFiles : Files :=
  .ofList [
    ("code", .ok "x = 1".toUTF8),
    ("solution", .ok "x".toUTF8),
    ("rules", .ok (Json.array handedItems).compact.toUTF8),
    ("rubric", .ok handedRubric.compact.toUTF8),
    ("/unit_1/exercise_exam", .error .isDirectory),
    ("/unit_1/exercise_exam/config.json", .ok "\x7b\"kind\":\"evaluation\"\x7d".toUTF8),
    ("/unit_1/exercise_exam/rubric.json", .ok handedRubric.compact.toUTF8),
    ("/unit_1/exercise_drill", .error .isDirectory),
    ("/unit_1/exercise_drill/config.json", .ok "\x7b\"language\":\"pseint\"\x7d".toUTF8),
    ("/unit_1/exercise_drill/solution.psc", .ok "x".toUTF8)]

lemma writesRules_handed : List.Forall₂ WritesRule handedRules handedItems :=
  .cons (@WritesRule.object _ "regex" none _ (.inr rfl) rfl (List.reverse_perm [_, _, _]))
    (.cons (@WritesRule.row _ (some "?") rfl) .nil)

lemma isProper_handedItems : IsProper (.array handedItems) := by
  refine .array (List.forall_mem_cons.mpr ⟨.object ?_, List.forall_mem_singleton.mpr (.array ?_)⟩)
  · simp [(roundTrips_string _).proper, IsProper.number (isWritten_ofNat _), Json.ofNat]
  · simp [(roundTrips_string _).proper, IsProper.number (isWritten_ofNat _), Json.ofNat]

lemma parse?_handedRubric : Json.parse? handedRubric.compact = some handedRubric := by
  refine parse?_writeAt isPlainLayout_compact (.object ?_) 0
  simp [(roundTrips_string _).proper, IsProper.number (isWritten_ofNat _), Json.ofNat,
    isProper_handedItems]

lemma writesRubric_handed : WritesRubric handedRules handedRubric := by
  refine @WritesRubric.object _ _ (some "2024-01-01T00:00:00Z") (some 9) _ writesRules_handed
    ?_ ?_ (@List.perm_append_comm _ [_] [_, _])
  · rintro _ ⟨rfl⟩
    decide +kernel
  · rintro _ ⟨rfl⟩
    decide

lemma givenRules_handed : GivenRules handedFiles "code" "rules" "rubric" ⟨handedFiles, "/"⟩ {}
    ⟨"u", ⟨"1", "exam"⟩⟩ handedRules "x = 1" where
  submitted := readText_ofList rfl
  alone := ⟨_, handedItems, readText_ofList rfl,
    parse?_writeAt isPlainLayout_compact isProper_handedItems 0, writesRules_handed⟩
  rubric := ⟨_, _, readText_ofList rfl, parse?_handedRubric, writesRubric_handed⟩
  stored := by
    unfold IsStored
    decide +kernel
  configured :=
    ⟨{ kind := .evaluation }, .stored (readText_ofList rfl) (by decide +kernel), rfl⟩
  kept := ⟨_, _, readText_ofList rfl, parse?_handedRubric, writesRubric_handed⟩
  unused := rfl
  fits := by decide

lemma givenSolution_handed : GivenSolution handedFiles "code" "solution" ⟨handedFiles, "/"⟩
    ⟨"u", ⟨"1", "drill"⟩⟩ "x = 1" "x" (some .pseint) where
  submitted := readText_ofList rfl
  named := readText_ofList rfl
  stored := by
    unfold IsStored
    decide +kernel
  configured := ⟨{ language := some .pseint }, .stored (readText_ofList rfl) (by decide +kernel),
    rfl, rfl, .pseint, .here (by decide +kernel), readText_ofList rfl⟩

/-- Two rules, written in different ways, are graded out of five points everywhere. -/
theorem entryPoints_agree_handed :
    let settings : Settings := .ofEnvironment []
    let exercises : Exercises := ⟨handedFiles, "/"⟩
    let exam : Attempt := ⟨"u", ⟨"1", "exam"⟩⟩
    let drill : Attempt := ⟨"u", ⟨"1", "drill"⟩⟩
    GivenRules handedFiles "code" "rules" "rubric" exercises {} exam handedRules "x = 1" ∧
    GivenSolution handedFiles "code" "solution" exercises drill "x = 1" "x" (some .pseint) ∧
    (∃ report : Report, report.max = 5 ∧
      ((Request.exam "code" "rules").answer settings handedFiles).result = .ok report.toJson ∧
      ((Request.exam "code" "rubric").answer settings handedFiles).result = .ok report.toJson ∧
      (exam.submit exercises {} "x = 1").result = .ok (.evaluation report)) ∧
    ∃ outcome : Outcome,
      ((Request.practice "code" "solution" (some .pseint)).answer settings handedFiles).result =
        .ok outcome.toJson ∧
      (drill.submit exercises {} "x = 1").result = .ok (.practice outcome) := by
  intro settings exercises exam drill
  have hok : (Rubric.gradeBy handedRules "x = 1".toList).isOk = true := by decide +kernel
  obtain ⟨outcome, -, houtcome⟩ :=
    (entryPoints_agree settings handedFiles exercises {} drill "code").2 _ _ _ _
      givenSolution_handed
  refine ⟨givenRules_handed, givenSolution_handed, ?_, outcome, houtcome⟩
  rcases (entryPoints_agree settings handedFiles exercises {} exam "code").1 _ _ _ _
    givenRules_handed with ⟨report, -, hreport⟩ | ⟨fault, hfault, -⟩
  · exact ⟨report, hreport⟩
  · rw [hfault] at hok
    exact absurd hok Bool.false_ne_true

end Handed

end Autograder.Proofs
