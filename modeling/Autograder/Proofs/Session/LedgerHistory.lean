import Autograder.Proofs.Submission.Ledger
import Autograder.Session

/-!
# The ledger over a whole session

After any steps the ledger holds an attempt exactly if one of them added it and no later one reset
it. A single attempt is a consequence: an evaluation that may be taken once is graded at most once
between two resets, whatever else happens to the files and the ledger.
-/

namespace Autograder.Proofs

open Autograder.Session

variable {attempt other : Attempt} {session start : Session} {step : Step} {steps : List Step}

inductive Submits (attempt : Attempt) : Step → Prop where
  | trailed (code : String) : Submits attempt (.submit attempt code)
  | logged (code : String) : Submits attempt (.submitLogged attempt code)

/-- The steps that add an attempt to the ledger of a session: those that enter it, and submissions
that end in the report of an evaluation. -/
inductive Adds (attempt : Attempt) (session : Session) : Step → Prop where
  | claim : Adds attempt session (.claim attempt)
  | record : Adds attempt session (.record attempt)
  | report {step : Step} {report : Report} (submits : Submits attempt step)
      (answer : (session.step step).answer = .submitted (.ok (.evaluation report))) :
      Adds attempt session step

/-- Some step added the attempt, and none that came later reset it. -/
def AddedSinceReset (start : Session) (steps : List Step) (attempt : Attempt) : Prop :=
  ∃ before step later, steps = before ++ step :: later ∧
    Adds attempt (start.after before) step ∧ Step.reset attempt ∉ later

/-- The stored configuration allows one attempt only. -/
def EnforcesSingle (session : Session) (attempt : Attempt) : Prop :=
  ∃ config, session.exercises.configOf attempt.exercise = .ok config ∧
    config.enforcesSingleAttempt = true

/-- A submission made where only one attempt is allowed, and graded. -/
structure TakesSingle (session : Session) (attempt : Attempt) (step : Step) : Prop where
  submits : Submits attempt step
  enforced : EnforcesSingle session attempt
  graded : ∃ result, (session.step step).answer = .submitted (.ok result)

section Step

lemma step_of_submits (session : Session) (h : Submits attempt step) : ∃ code,
    (session.step step).answer =
      .submitted (attempt.submit session.exercises session.ledger code).result ∧
    (session.step step).session.ledger =
      (attempt.submit session.exercises session.ledger code).ledger := by
  cases h with
  | trailed code => exact ⟨code, rfl, rfl⟩
  | logged code => exact ⟨code, rfl, rfl⟩

lemma ledger_step_of_no_report (h : Submits attempt step)
    (hanswer : ∀ report, (session.step step).answer ≠ .submitted (.ok (.evaluation report))) :
    (session.step step).session.ledger = session.ledger := by
  obtain ⟨code, hresult, hledger⟩ := step_of_submits session h
  rw [hledger]
  apply ledger_of_no_evaluation
  intro report hreport
  exact hanswer report (by rw [hresult, hreport])

lemma ledger_step_of_report {report : Report} (h : Submits attempt step)
    (hanswer : (session.step step).answer = .submitted (.ok (.evaluation report))) :
    (session.step step).session.ledger = session.ledger.record attempt := by
  obtain ⟨code, hresult, hledger⟩ := step_of_submits session h
  rw [hresult] at hanswer
  rw [hledger]
  exact (ledger_of_evaluation (Answer.submitted.inj hanswer)).1

lemma adds_iff_of_submits (h : Submits attempt step) : Adds attempt session step ↔
    ∃ report, (session.step step).answer = .submitted (.ok (.evaluation report)) := by
  constructor
  · rintro (_ | _ | ⟨-, hanswer⟩)
    · cases h
    · cases h
    · exact ⟨_, hanswer⟩
  · rintro ⟨report, hanswer⟩
    exact .report h hanswer

lemma has_step_of_submits_other (h : Submits other step) (hne : attempt ≠ other) :
    (session.step step).session.ledger.has attempt = session.ledger.has attempt := by
  by_cases hreport : ∃ report,
      (session.step step).answer = .submitted (.ok (.evaluation report))
  · obtain ⟨report, hanswer⟩ := hreport
    rw [ledger_step_of_report h hanswer, Bool.eq_iff_iff, has_record_iff]
    simp [hne]
  · rw [ledger_step_of_no_report h fun report hanswer => hreport ⟨report, hanswer⟩]

lemma has_step_of_submits (h : Submits other step) :
    (session.step step).session.ledger.has attempt = true ↔
      Adds attempt session step ∨ session.ledger.has attempt = true := by
  by_cases heq : attempt = other
  · subst heq
    rw [adds_iff_of_submits h]
    by_cases hreport : ∃ report,
        (session.step step).answer = .submitted (.ok (.evaluation report))
    · obtain ⟨report, hanswer⟩ := hreport
      simp [ledger_step_of_report h hanswer, has_record_iff, hanswer]
    · rw [ledger_step_of_no_report h fun report hanswer => hreport ⟨report, hanswer⟩]
      simp [hreport]
  · have hadds : ¬ Adds attempt session step := by
      rintro (_ | _ | ⟨hsubmits, -⟩)
      · cases h
      · cases h
      · cases h <;> cases hsubmits <;> exact heq rfl
    simp [has_step_of_submits_other h heq, hadds]

lemma adds_claim_iff : Adds attempt session (.claim other) ↔ attempt = other := by
  constructor
  · rintro (_ | _ | ⟨⟨⟩, -⟩)
    rfl
  · rintro rfl
    exact .claim

lemma adds_record_iff : Adds attempt session (.record other) ↔ attempt = other := by
  constructor
  · rintro (_ | _ | ⟨⟨⟩, -⟩)
    rfl
  · rintro rfl
    exact .record

lemma not_adds_reset : ¬ Adds attempt session (.reset other) := by
  rintro (_ | _ | ⟨⟨⟩, -⟩)

/-- A claim that fails enters nothing, as recording it again would. -/
lemma session_step_claim : (session.step (.claim other)).session =
    { session with ledger := session.ledger.record other } := by
  simp only [Session.step, Ledger.claim?, Ledger.record]
  split_ifs with hused
  · rfl
  · rfl

lemma has_step_of_quiet (hledger : (session.step step).session.ledger = session.ledger)
    (hadds : ¬ Adds attempt session step) (hreset : step ≠ .reset attempt) :
    (session.step step).session.ledger.has attempt = true ↔ Adds attempt session step ∨
      (session.ledger.has attempt = true ∧ step ≠ .reset attempt) := by
  simp [hledger, hadds, hreset]

theorem has_step_iff : (session.step step).session.ledger.has attempt = true ↔
    Adds attempt session step ∨
      (session.ledger.has attempt = true ∧ step ≠ .reset attempt) := by
  cases step with
  | submit other code => simp [has_step_of_submits (.trailed code)]
  | submitLogged other code => simp [has_step_of_submits (.logged code)]
  | claim other => simp [session_step_claim, has_record_iff, adds_claim_iff]
  | record other =>
    have hledger : (session.step (.record other)).session.ledger =
        session.ledger.record other := rfl
    simp [hledger, has_record_iff, adds_record_iff]
  | reset other =>
    have hledger : (session.step (.reset other)).session.ledger =
        session.ledger.reset other := rfl
    rw [hledger, has_reset_iff]
    simp only [not_adds_reset, false_or, ne_eq, Step.reset.injEq, eq_comm (a := other)]
    exact and_comm
  -- all other steps leave the ledger alone
  | _ =>
    exact has_step_of_quiet (by simp [Session.step, Session.create, Session.changed])
      (by rintro (_ | _ | ⟨⟨⟩, -⟩)) (by simp)

end Step

section Run

lemma after_append (more : List Step) :
    start.after (steps ++ more) = (start.after steps).after more := by
  simp [Session.after]

lemma after_cons : start.after (step :: steps) = (start.step step).session.after steps := rfl

lemma addedSinceReset_append_singleton : AddedSinceReset start (steps ++ [step]) attempt ↔
    Adds attempt (start.after steps) step ∨
      (AddedSinceReset start steps attempt ∧ step ≠ .reset attempt) := by
  constructor
  · rintro ⟨before, first, later, heq, hadds, hreset⟩
    rcases List.eq_nil_or_concat later with rfl | ⟨later, last, rfl⟩
    · obtain ⟨rfl, hstep⟩ := List.append_inj' heq rfl
      obtain rfl := List.singleton_inj.mp hstep
      exact .inl hadds
    · rw [List.concat_eq_append, ← List.cons_append, ← List.append_assoc] at heq
      obtain ⟨rfl, hstep⟩ := List.append_inj' heq rfl
      obtain rfl := List.singleton_inj.mp hstep
      simp only [List.concat_eq_append, List.mem_append, List.mem_singleton, not_or] at hreset
      exact .inr ⟨⟨before, first, later, rfl, hadds, hreset.1⟩, fun h => hreset.2 h.symm⟩
  · rintro (hadds | ⟨⟨before, first, later, rfl, hadds, hreset⟩, hne⟩)
    · exact ⟨steps, step, [], rfl, hadds, List.not_mem_nil⟩
    · refine ⟨before, first, later ++ [step], by simp, hadds, ?_⟩
      simp [hreset, hne.symm]

/-- After a run an attempt is in the ledger if the run added it for good, or if it was there from
the start and no step reset it. -/
theorem has_after_iff : (start.after steps).ledger.has attempt = true ↔
    AddedSinceReset start steps attempt ∨
      (start.ledger.has attempt = true ∧ Step.reset attempt ∉ steps) := by
  -- from the end of the run: the last step decides before all others
  induction steps using List.reverseRecOn with
  | nil => simp [Session.after, AddedSinceReset]
  | append_singleton steps step ih =>
    have hlast : start.after (steps ++ [step]) = ((start.after steps).step step).session :=
      after_append [step]
    rw [hlast, has_step_iff, ih, addedSinceReset_append_singleton]
    simp only [List.mem_append, List.mem_singleton, not_or, ne_eq, eq_comm (a := step)]
    tauto

end Run

section Single

lemma has_of_takesSingle (h : TakesSingle session attempt step) :
    ¬ session.ledger.has attempt = true ∧
      (session.step step).session.ledger.has attempt = true := by
  obtain ⟨hsubmits, ⟨config, hconfig, henforces⟩, result, hanswer⟩ := h
  obtain ⟨code, hresult, hledger⟩ := step_of_submits session hsubmits
  have hkind : config.kind = .evaluation := by
    simp only [ExerciseConfig.enforcesSingleAttempt, Bool.and_eq_true,
      decide_eq_true_eq] at henforces
    exact henforces.1
  rw [hresult] at hanswer
  have hok := Answer.submitted.inj hanswer
  obtain ⟨report, rfl⟩ := evaluation_of_ok hconfig hkind hok
  obtain ⟨hrecord, stored, hstored, hrefused⟩ := ledger_of_evaluation hok
  obtain rfl := Except.ok.inj (hconfig.symm.trans hstored)
  refine ⟨fun hused => hrefused ⟨henforces, hused⟩, ?_⟩
  rw [hledger, hrecord, has_record_iff]
  exact .inl rfl

lemma reset_mem_of_takesSingle_twice {first second : Step} {between : List Step}
    (hfirst : TakesSingle session attempt first)
    (hsecond : TakesSingle (session.after (first :: between)) attempt second) :
    Step.reset attempt ∈ between := by
  have hused := (has_of_takesSingle hfirst).2
  have hunused := (has_of_takesSingle hsecond).1
  rw [after_cons] at hunused
  by_contra hreset
  exact hunused (has_after_iff.mpr (.inr ⟨hused, hreset⟩))

/-- The law of the ledger over any run that starts with an empty one. An attempt is held exactly if
it was added and not reset since; submissions that end in no report change nothing, and none
touches the attempt of another; and where one attempt is allowed, two submissions are graded only
with a reset in between. -/
theorem ledger_law (root : String) (tree : Storage.FileTree) (trail : List AuditEntry)
    (steps : List Step) :
    let start : Session := { root, tree, trail }
    let now := start.after steps
    (∀ attempt, now.ledger.has attempt = true ↔ AddedSinceReset start steps attempt) ∧
    (∀ attempt step, Submits attempt step →
      ((∀ report, (now.step step).answer ≠ .submitted (.ok (.evaluation report))) →
        (now.step step).session.ledger = now.ledger) ∧
      ∀ other, other ≠ attempt →
        (now.step step).session.ledger.has other = now.ledger.has other) ∧
    (∀ attempt before first between second later,
      steps = before ++ first :: between ++ second :: later →
      TakesSingle (start.after before) attempt first →
      TakesSingle (start.after (before ++ first :: between)) attempt second →
      Step.reset attempt ∈ between) := by
  intro start now
  refine ⟨fun attempt => ?_, fun attempt step hsubmits => ⟨?_, ?_⟩, ?_⟩
  · have hempty : ¬ start.ledger.has attempt = true := not_has_empty
    rw [has_after_iff]
    simp [hempty]
  · exact ledger_step_of_no_report hsubmits
  · exact fun other hne => has_step_of_submits_other hsubmits hne
  · intro attempt before first between second later _ hfirst hsecond
    rw [after_append] at hsecond
    exact reset_mem_of_takesSingle_twice hfirst hsecond

lemma takesSingle_of_isOk {config : ExerciseConfig} {code : String}
    (hconfig : session.exercises.configOf attempt.exercise = .ok config)
    (henforces : config.enforcesSingleAttempt = true)
    (hok : (attempt.submit session.exercises session.ledger code).result.isOk = true) :
    TakesSingle session attempt (.submit attempt code) := by
  refine ⟨.trailed code, ⟨config, hconfig, henforces⟩, ?_⟩
  cases hresult : (attempt.submit session.exercises session.ledger code).result with
  | error error => rw [hresult] at hok; cases hok
  | ok result => exact ⟨result, congrArg Answer.submitted hresult⟩

/-- A rubric of one rule, whose pattern occurs in every text. -/
def easyRubric : String :=
  "\x7b\"rules\":[\x7b\"label\":\"\",\"pattern\":\"\",\"points\":1,\"feedback\":\"\"\x7d]\x7d"

/-- An evaluation that is laid out, taken, given back and taken again. -/
def retakenSteps (attempt : Attempt) : List Step :=
  [.write (attempt.exercise.configFile "") "\x7b\"kind\":\"evaluation\"\x7d".toUTF8,
    .write (attempt.exercise.rubricFile "") easyRubric.toUTF8,
    .submit attempt "x", .reset attempt, .submit attempt "y"]

/-- An attempt that was given back can be taken again. -/
theorem ledger_law_retaken :
    let attempt : Attempt := ⟨"u", ⟨"1", "a"⟩⟩
    let steps := retakenSteps attempt
    let start : Session := { root := "/" }
    AddedSinceReset start steps attempt ∧
      TakesSingle (start.after (steps.take 2)) attempt (.submit attempt "x") ∧
      TakesSingle (start.after (steps.take 4)) attempt (.submit attempt "y") ∧
      Step.reset attempt ∈ [Step.reset attempt] := by
  intro attempt steps start
  obtain ⟨hhas, -, hsingle⟩ := ledger_law "/" {} [] steps
  have hconfig : (start.after (steps.take 2)).exercises.configOf attempt.exercise =
      .ok { kind := .evaluation } := by decide +kernel
  have hconfig' : (start.after (steps.take 4)).exercises.configOf attempt.exercise =
      .ok { kind := .evaluation } := by decide +kernel
  have hfirst : TakesSingle (start.after (steps.take 2)) attempt (.submit attempt "x") :=
    takesSingle_of_isOk hconfig rfl (by decide +kernel)
  have hsecond : TakesSingle (start.after (steps.take 4)) attempt (.submit attempt "y") :=
    takesSingle_of_isOk hconfig' rfl (by decide +kernel)
  exact ⟨(hhas attempt).mp (has_of_takesSingle hsecond).2, hfirst, hsecond,
    hsingle attempt (steps.take 2) _ _ _ [] rfl hfirst hsecond⟩

end Single

end Autograder.Proofs
