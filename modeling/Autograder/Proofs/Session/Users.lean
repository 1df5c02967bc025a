import Autograder.Proofs.Session.LedgerHistory

/-!
# Users do not notice one another

If all that was done for the attempts of other users is taken out of a run, a user still gets the
same answers, and the ledger says the same of the user's attempts. Two sessions that differ in the
attempts of others alone are alike for the user: no step can tell them apart, and a step for someone
else leads from a session to one that is like it.
-/

namespace Autograder.Proofs

open Autograder.Session

variable {user : String} {attempt : Attempt} {session other : Session} {step : Step}
  {steps : List Step}

/-- The user whose attempt a step acts on: it may enter it into the ledger or take it out. -/
def actor? : Step → Option String
  | .submit attempt _ | .submitLogged attempt _ | .claim attempt | .record attempt
  | .reset attempt => some attempt.user
  | _ => none

/-- Whether the step acts on no attempt of anyone else. -/
def isFor (user : String) (step : Step) : Bool :=
  (actor? step).all (· == user)

/-- Whether the answer to a step is the user's business. What tells of the attempts of others is
not, and the trail does. -/
def isToldTo (user : String) : Step → Bool
  | .has attempt => attempt.user == user
  | .readTrail => false
  | step => isFor user step

/-- All that the user is told in a run, with the steps that it answers. -/
def transcript (user : String) (session : Session) (steps : List Step) : List (Step × Answer) :=
  ((steps.zip (session.run steps)).filter fun (step, _) => isToldTo user step).map
    fun (step, next) => (step, next.answer)

/-- The sessions differ in the attempts of others and in the trail alone. -/
structure AlikeFor (user : String) (session other : Session) : Prop where
  root : session.root = other.root
  tree : session.tree = other.tree
  has : ∀ id, session.ledger.has ⟨user, id⟩ = other.ledger.has ⟨user, id⟩

section Submit

variable {exercises : Exercises} {ledger ledger' : Ledger} {config : ExerciseConfig} {code : String}

lemma isRefused_congr (h : ledger.has attempt = ledger'.has attempt) :
    IsRefused ledger attempt config ↔ IsRefused ledger' attempt config := by
  simp only [IsRefused, h]

lemma sit_fst_congr (h : ledger.has attempt = ledger'.has attempt) :
    (attempt.sit exercises ledger config code).1 =
      (attempt.sit exercises ledger' config code).1 := by
  by_cases hrefused : IsRefused ledger attempt config
  · rw [sit_of_refused hrefused, sit_of_refused ((isRefused_congr h).mp hrefused)]
  · have hrefused' : ¬ IsRefused ledger' attempt config := mt (isRefused_congr h).mpr hrefused
    cases heval : attempt.evaluate exercises code with
    | error error => rw [sit_of_error hrefused heval, sit_of_error hrefused' heval]
    | ok report => rw [sit_of_ok hrefused heval, sit_of_ok hrefused' heval]

lemma submit_result_congr (h : ledger.has attempt = ledger'.has attempt) :
    (attempt.submit exercises ledger code).result =
      (attempt.submit exercises ledger' code).result := by
  rw [submit_result, submit_result]
  congr 1
  cases hconfig : exercises.configOf attempt.exercise with
  | error error => rw [run_of_configError hconfig, run_of_configError hconfig]
  | ok config =>
    cases hkind : config.kind with
    | practice =>
      rw [run_of_practice ledger code hconfig hkind, run_of_practice ledger' code hconfig hkind]
    | evaluation =>
      rw [run_of_evaluation ledger code hconfig hkind, run_of_evaluation ledger' code hconfig hkind]
      exact congrArg (fun report => report.map SubmissionResult.evaluation) (sit_fst_congr h)

end Submit

section Step

lemma eq_of_isFor (h : isFor user step = true) {name : String} (hactor : actor? step = some name) :
    name = user := by
  simpa [isFor, hactor] using h

lemma exercises_congr (h : AlikeFor user session other) : session.exercises = other.exercises := by
  simp only [Session.exercises, h.root, h.tree]

lemma has_congr (h : AlikeFor user session other) (huser : attempt.user = user) :
    session.ledger.has attempt = other.ledger.has attempt := by
  subst huser
  exact h.has attempt.exercise

lemma claim_answer : (session.step (.claim attempt)).answer =
    .claimed (!session.ledger.has attempt) := by
  simp only [Session.step, Ledger.claim?]
  cases session.ledger.has attempt <;> rfl

/-- What a user is told does not depend on the attempts of others. -/
lemma answer_congr (h : AlikeFor user session other) (htold : isToldTo user step = true) :
    (session.step step).answer = (other.step step).answer := by
  have hexercises := exercises_congr h
  cases step with
  | submit attempt code =>
    have hhas := has_congr h (eq_of_isFor htold rfl)
    simp only [Session.step, Session.submit, hexercises, submit_result_congr hhas]
  | submitLogged attempt code =>
    have hhas := has_congr h (eq_of_isFor htold rfl)
    simp only [Session.step, Session.submit, hexercises, submit_result_congr hhas]
  | claim attempt =>
    rw [claim_answer, claim_answer, has_congr h (eq_of_isFor htold rfl)]
  | has attempt =>
    have hhas := has_congr h (beq_iff_eq.mp htold)
    simp only [Session.step, hhas]
  | readTrail => cases htold
  -- the other steps answer from the files
  | _ => simp only [Session.step, Session.create, Session.changed, hexercises, h.root, h.tree]

lemma root_step (session : Session) (step : Step) :
    (session.step step).session.root = session.root := by
  cases step with
  | claim attempt => rw [session_step_claim]
  | _ => rfl

lemma tree_step_of_actor {name : String} (h : actor? step = some name) :
    (session.step step).session.tree = session.tree := by
  cases step with
  | claim attempt => rw [session_step_claim]
  | submit | submitLogged | record | reset => rfl
  | _ => cases h

lemma tree_step_congr (h : AlikeFor user session other) :
    (session.step step).session.tree = (other.step step).session.tree := by
  cases hactor : actor? step with
  | some name => rw [tree_step_of_actor hactor, tree_step_of_actor hactor, h.tree]
  | none =>
    cases step with
    | submit | submitLogged | claim | record | reset => cases hactor
    | _ => simp only [Session.step, Session.create, Session.changed, h.root, h.tree]

lemma isToldTo_of_submits (h : Submits attempt step) : isToldTo attempt.user step = true := by
  cases h <;> simp [isToldTo, isFor, actor?]

lemma actor?_of_adds (h : Adds attempt session step) : actor? step = some attempt.user := by
  cases h with
  | claim => rfl
  | record => rfl
  | report submits => cases submits <;> rfl

lemma adds_of_answer_eq (h : Adds attempt session step)
    (hanswer : Submits attempt step → (session.step step).answer = (other.step step).answer) :
    Adds attempt other step := by
  cases h with
  | claim => exact .claim
  | record => exact .record
  | report submits answer => exact .report submits ((hanswer submits).symm.trans answer)

lemma alikeFor_step (h : AlikeFor user session other) (step : Step) :
    AlikeFor user (session.step step).session (other.step step).session := by
  refine ⟨by rw [root_step, root_step, h.root], tree_step_congr h, fun id => ?_⟩
  have hanswer : Submits ⟨user, id⟩ step →
      (session.step step).answer = (other.step step).answer :=
    fun hsubmits => answer_congr h (isToldTo_of_submits hsubmits)
  have hadds : Adds ⟨user, id⟩ session step ↔ Adds ⟨user, id⟩ other step :=
    ⟨(adds_of_answer_eq · hanswer), (adds_of_answer_eq · fun hsubmits => (hanswer hsubmits).symm)⟩
  rw [Bool.eq_iff_iff, has_step_iff, has_step_iff, hadds, h.has]

lemma alikeFor_step_of_not_isFor (h : isFor user step = false) :
    AlikeFor user (session.step step).session session := by
  cases hactor : actor? step with
  | none => simp [isFor, hactor] at h
  | some name =>
    have hne : name ≠ user := by simpa [isFor, hactor] using h
    refine ⟨root_step session step, tree_step_of_actor hactor, fun id => ?_⟩
    have hadds : ¬ Adds ⟨user, id⟩ session step := by
      intro hadds
      exact hne (Option.some.inj (hactor.symm.trans (actor?_of_adds hadds)))
    have hreset : step ≠ .reset ⟨user, id⟩ := by
      rintro rfl
      exact hne (Option.some.inj hactor).symm
    rw [Bool.eq_iff_iff, has_step_iff]
    simp [hadds, hreset]

end Step

section Run

lemma AlikeFor.refl (user : String) (session : Session) : AlikeFor user session session :=
  ⟨rfl, rfl, fun _ => rfl⟩

lemma AlikeFor.trans {third : Session} (h : AlikeFor user session other)
    (h' : AlikeFor user other third) : AlikeFor user session third :=
  ⟨h.root.trans h'.root, h.tree.trans h'.tree, fun id => (h.has id).trans (h'.has id)⟩

lemma isFor_of_isToldTo (h : isToldTo user step = true) : isFor user step = true := by
  cases step with
  | has | readTrail => rfl
  | _ => exact h

lemma transcript_cons : transcript user session (step :: steps) =
    (if isToldTo user step then [(step, (session.step step).answer)] else []) ++
      transcript user (session.step step).session steps := by
  cases htold : isToldTo user step <;> simp [transcript, Session.run, htold]

lemma alikeFor_after_filter (h : AlikeFor user session other) (steps : List Step) :
    AlikeFor user (session.after steps) (other.after (steps.filter (isFor user))) ∧
      transcript user session steps = transcript user other (steps.filter (isFor user)) := by
  induction steps generalizing session other with
  | nil => exact ⟨h, rfl⟩
  | cons step steps ih =>
    cases hfor : isFor user step with
    | true =>
      obtain ⟨halike, htranscript⟩ := ih (alikeFor_step h step)
      rw [List.filter_cons_of_pos hfor, transcript_cons, transcript_cons, htranscript]
      refine ⟨halike, ?_⟩
      cases htold : isToldTo user step with
      | true => rw [answer_congr h htold]
      | false => rfl
    | false =>
      have htold : ¬ isToldTo user step = true := by
        intro htold
        exact absurd (isFor_of_isToldTo htold) (by simp [hfor])
      obtain ⟨halike, htranscript⟩ := ih ((alikeFor_step_of_not_isFor hfor).trans h)
      rw [List.filter_cons_of_neg (by simp [hfor]), transcript_cons, if_neg htold, htranscript]
      exact ⟨halike, rfl⟩

/-- Without the submissions, claims, records and resets for other users, a user is told the same and
has the same attempts used up. -/
theorem users_unaffected_by_others (start : Session) (steps : List Step) (user : String) :
    let alone := steps.filter (isFor user)
    transcript user start steps = transcript user start alone ∧
      ∀ id, (start.after steps).ledger.has ⟨user, id⟩ =
        (start.after alone).ledger.has ⟨user, id⟩ := by
  intro alone
  obtain ⟨halike, htranscript⟩ := alikeFor_after_filter (AlikeFor.refl user start) steps
  exact ⟨htranscript, halike.has⟩

end Run

end Autograder.Proofs
