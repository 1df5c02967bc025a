import Autograder.Proofs.Exercise.Location
import Autograder.Proofs.Session.LedgerHistory

/-!
# One attempt at each stored exercise

The ledger knows an exercise by the names in a submission, the storage by the location they lead to.
Where the names have no slashes these come to the same: the single attempt at a stored exercise is
graded once, whatever else happens to files and ledger, unless it is given back. With slashes one
exercise has many names, and each of them has an attempt of its own.
-/

namespace Autograder.Proofs

open Autograder.Session Autograder.Storage

variable {start : Session} {steps before : List Step} {user : String} {id : ExerciseId}
  {location : Location}

/-- After the steps `before` of a run the user takes the single attempt at the exercise of this
name, which stands at this location. -/
structure TakesAt (start : Session) (steps : List Step) (user : String) (location : Location)
    (id : ExerciseId) (before : List Step) : Prop where
  takes : ∃ step later, steps = before ++ step :: later ∧
    TakesSingle (start.after before) ⟨user, id⟩ step
  located : (start.after before).tree.locate (id.directory (start.after before).root) = .ok location

lemma eq_or_between {α : Type} {before later before' later' : List α} {step step' : α}
    (h : before ++ step :: later = before' ++ step' :: later') :
    before = before' ∨ (∃ between, before' = before ++ step :: between) ∨
      ∃ between, before = before' ++ step' :: between := by
  rcases List.append_eq_append_iff.mp h with ⟨between, rfl, hbetween⟩ | ⟨between, rfl, hbetween⟩
  · cases between with
    | nil => exact .inl (List.append_nil _).symm
    | cons first between =>
      obtain ⟨rfl, -⟩ := List.cons.inj hbetween
      exact .inr (.inl ⟨between, rfl⟩)
  · cases between with
    | nil => exact .inl (List.append_nil _)
    | cons first between =>
      obtain ⟨rfl, -⟩ := List.cons.inj hbetween
      exact .inr (.inr ⟨between, rfl⟩)

lemma not_takes_again {step step' : Step} {between later : List Step} {attempt : Attempt}
    (hreset : Step.reset attempt ∉ before ++ step :: between ++ step' :: later)
    (htakes : TakesSingle (start.after before) attempt step)
    (htakes' : TakesSingle (start.after (before ++ step :: between)) attempt step') : False := by
  rw [after_append] at htakes'
  have hmem := reset_mem_of_takesSingle_twice htakes htakes'
  exact hreset (by simp [hmem])

lemma takesAt_unique {before' : List Step} (hreset : Step.reset ⟨user, id⟩ ∉ steps)
    (h : TakesAt start steps user location id before)
    (h' : TakesAt start steps user location id before') : before = before' := by
  obtain ⟨step, later, rfl, htakes⟩ := h.takes
  obtain ⟨step', later', heq, htakes'⟩ := h'.takes
  obtain rfl | ⟨between, rfl⟩ | ⟨between, rfl⟩ := eq_or_between heq
  · rfl
  · exact (not_takes_again (heq ▸ hreset) htakes htakes').elim
  · exact (not_takes_again hreset htakes' htakes).elim

/-- In a run without resets the single attempt of a user at the exercise of a location is graded at
most once under each name, and at most once under all names without slashes together, whatever else
happens to files and ledger. -/
theorem takesAt_subsingleton (start : Session) (steps : List Step) (user : String)
    (location : Location) (hreset : ∀ id, Step.reset ⟨user, id⟩ ∉ steps) :
    (∀ id, {before | TakesAt start steps user location id before}.Subsingleton) ∧
      {before | ∃ id, IsPlain id ∧ TakesAt start steps user location id before}.Subsingleton := by
  refine ⟨fun id before htakes before' htakes' => takesAt_unique (hreset id) htakes htakes', ?_⟩
  rintro before ⟨id, hplain, htakes⟩ before' ⟨id', hplain', htakes'⟩
  obtain rfl := eq_of_locate_eq hplain hplain' htakes.located htakes'.located
  exact takesAt_unique (hreset id) htakes htakes'

section Stored

/-- A session in which an evaluation is stored, with nobody's attempt used up. -/
def withEvaluation (id : ExerciseId) : Session :=
  ({ root := "/" } : Session).after ((retakenSteps ⟨"", id⟩).take 2)

lemma takesAt_of_isOk (config : ExerciseConfig) {code : String} {later : List Step}
    (hconfig : (start.after before).exercises.configOf id = .ok config)
    (henforces : config.enforcesSingleAttempt = true)
    (hok : (Attempt.submit ⟨user, id⟩ (start.after before).exercises (start.after before).ledger
      code).result.isOk = true)
    (hlocate : (start.after before).tree.locate (id.directory (start.after before).root) =
      .ok location) :
    TakesAt start (before ++ .submit ⟨user, id⟩ code :: later) user location id before :=
  ⟨⟨_, later, rfl, takesSingle_of_isOk hconfig henforces hok⟩, hlocate⟩

lemma takesAt_withEvaluation (later : Step) :
    TakesAt (withEvaluation ⟨"1", "a"⟩) ([] ++ [.submit ⟨"u", ⟨"1", "a"⟩⟩ "x", later]) "u"
      ["unit_1", "exercise_a"] ⟨"1", "a"⟩ [] :=
  takesAt_of_isOk { kind := .evaluation } (by decide +kernel) rfl (by decide +kernel)
    (by decide +kernel)

/-- An evaluation that is submitted twice under one name is graded once. -/
theorem takesAt_subsingleton_resubmitted :
    let id : ExerciseId := ⟨"1", "a"⟩
    let steps : List Step := [.submit ⟨"u", id⟩ "x", .submit ⟨"u", id⟩ "y"]
    let location : Location := ["unit_1", "exercise_a"]
    (∀ id, Step.reset ⟨"u", id⟩ ∉ steps) ∧
      {before | ∃ id, IsPlain id ∧
        TakesAt (withEvaluation ⟨"1", "a"⟩) steps "u" location id before} = {[]} := by
  intro id steps location
  have hreset : ∀ id, Step.reset ⟨"u", id⟩ ∉ steps := by simp [steps]
  have hplain : IsPlain id := ⟨by decide, by decide⟩
  have hsingle := (takesAt_subsingleton (withEvaluation ⟨"1", "a"⟩) steps "u" location hreset).2
  exact ⟨hreset, hsingle.eq_singleton_of_mem ⟨id, hplain, takesAt_withEvaluation _⟩⟩

/-- With slashes one evaluation can be graded twice: a slash behind its name makes no difference to
the storage, but another attempt in the ledger. -/
theorem takesAt_not_subsingleton_slash :
    let first : Step := .submit ⟨"u", ⟨"1", "a"⟩⟩ "x"
    let second : Step := .submit ⟨"u", ⟨"1", "a/"⟩⟩ "y"
    ¬ {before | ∃ id, TakesAt (withEvaluation ⟨"1", "a"⟩) [first, second] "u"
      ["unit_1", "exercise_a"] id before}.Subsingleton := by
  intro first second hsubsingleton
  have hsecond : TakesAt (withEvaluation ⟨"1", "a"⟩) ([first] ++ [second]) "u"
      ["unit_1", "exercise_a"] ⟨"1", "a/"⟩ [first] :=
    takesAt_of_isOk { kind := .evaluation } (by decide +kernel) rfl (by decide +kernel)
      (by decide +kernel)
  have heq := hsubsingleton ⟨_, takesAt_withEvaluation second⟩ ⟨_, hsecond⟩
  cases heq

end Stored

end Autograder.Proofs
