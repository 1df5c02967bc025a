import Autograder.Proofs.Check.Roles

/-!
# Acceptance of pseudocode

A text passes the check exactly if its constructs are well nested, its definitions and headers have
their shapes, and assignments and other statements agree with the lines above them. The stack of the
check, and how it goes on after a mistake, do not appear in that description.
-/

namespace Autograder.Proofs

open Autograder.Check Autograder.Check.Pseint Autograder.Text

/-- The lines that say something, without comments and surrounding blanks. -/
def statements (code : List Char) : List (List Char) :=
  ((lines code).map statementOf).filter fun statement => !statement.isEmpty

/-- The headers and closers among the statements are well nested. -/
def AreNested (statements : List (List Char)) : Prop :=
  ∃ word, HasBrackets statements word ∧ WellNested word

/-- What a text must be like to pass the check. -/
structure IsAccepted (code : List Char) : Prop where
  nested : AreNested (statements code)
  declared : ∀ statement ∈ statements code, IsDefinition statement →
    ∃ names, declaration names statement
  conditioned : ∀ statement ∈ statements code, IsHeaderOf .si statement →
    ¬ noCondition (statement.dropWhile isWord)
  bounded : ∀ statement ∈ statements code, IsHeaderOf .para statement → forHeader statement
  defined : ∀ above statement below target, statements code = above ++ statement :: below →
    IsAssignmentTo target statement →
      ∃ earlier ∈ above, IsDefinition earlier ∧
        ∃ names, declaration names earlier ∧ lowercase target ∈ names.map lowercase
  terminated : ∀ above statement below, statements code = above ++ statement :: below →
    IsOther statement → AreNested above → statement.getLast? = some ';'

lemma map_fst_numberedForms (code : List Char) :
    (numberedForms code).map Prod.fst = (statements code).map classify := by
  rw [statements, ← map_fst_filterMap_classify, List.zipIdx_map, List.filterMap_map]
  rfl

section Lines

variable {above below : List (List Char)} {statement : List Char}

lemma areNested_iff : AreNested above ↔ WellNested (brackets (above.map classify)) := by
  simp [AreNested, hasBrackets_iff]

lemma allFine_map_iff {rows : List (List Char)} : AllFine [] (rows.map classify) ↔
    ∀ above statement below, rows = above ++ statement :: below →
      IsFine (above.map classify) (classify statement) := by
  rw [allFine_iff_splits]
  constructor
  · rintro h above statement below rfl
    exact h (above.map classify) _ (below.map classify) (by simp)
  · intro h before form after heq
    obtain ⟨above, others, rfl, rfl, hothers⟩ := List.map_eq_append_iff.mp heq
    obtain ⟨statement, below, rfl, rfl, -⟩ := List.map_eq_cons_iff.mp hothers
    exact h above statement below rfl

lemma exists_innermost {construct : Construct} (h : AreNested (above ++ statement :: below))
    (hclose : IsCloserOf construct statement) :
    ∃ outer, nest [] (brackets (above.map classify)) = some (construct :: outer) := by
  have hnested := areNested_iff.mp h
  rw [List.map_append, List.map_cons, brackets, List.filterMap_append,
    List.filterMap_cons_some (bracketOf_classify_of_closer hclose), ← brackets] at hnested
  exact exists_innermost_of_wellNested hnested

lemma isDefined_map_iff {target : List Char} :
    IsDefined (above.map classify) target ↔ ∃ earlier ∈ above, IsDefinition earlier ∧
      ∃ names, declaration names earlier ∧ target ∈ names.map lowercase := by
  constructor
  · rintro ⟨lowered, hmem, htarget⟩
    obtain ⟨earlier, hearlier, hclassify⟩ := List.mem_map.mp hmem
    obtain ⟨hdefinition, hlowered⟩ := isDefinition_of_classify hclassify
    obtain ⟨names, hnames, rfl⟩ := Option.map_eq_some_iff.mp hlowered.symm
    exact ⟨earlier, hearlier, hdefinition, names, definedNames?_eq_some_iff.mp hnames, htarget⟩
  · rintro ⟨earlier, hearlier, hdefinition, names, hdeclaration, htarget⟩
    have hclassify := classify_of_definition hdefinition
    rw [definedNames?_eq_some_iff.mpr hdeclaration, Option.map_some] at hclassify
    exact ⟨_, List.mem_map.mpr ⟨earlier, hearlier, hclassify⟩, htarget⟩

lemma isSome_definedNames_iff :
    ((definedNames? statement).map (·.map lowercase)).isSome = true ↔
      ∃ names, declaration names statement := by
  rw [Option.isSome_map, Option.isSome_iff_exists]
  exact exists_congr fun names => definedNames?_eq_some_iff

lemma isWellFormedHeader_si_iff :
    isWellFormedHeader .si statement = true ↔ ¬ noCondition (statement.dropWhile isWord) := by
  rw [← conditionOf_eq_nil_iff]
  simp [isWellFormedHeader]

end Lines

section Acceptance

variable {code : List Char}

lemma isAccepted_of_isFine (hnested : AreNested (statements code))
    (hfine : ∀ above statement below, statements code = above ++ statement :: below →
      IsFine (above.map classify) (classify statement)) : IsAccepted code := by
  have hmem : ∀ statement ∈ statements code,
      ∃ above : List (List Char), IsFine (above.map classify) (classify statement) := by
    intro statement hstatement
    obtain ⟨above, below, hsplit⟩ := List.append_of_mem hstatement
    exact ⟨above, hfine above statement below hsplit⟩
  refine ⟨hnested, ?_, ?_, ?_, ?_, ?_⟩
  · intro statement hstatement hdefinition
    obtain ⟨above, hline⟩ := hmem statement hstatement
    rw [classify_of_definition hdefinition] at hline
    exact isSome_definedNames_iff.mp hline
  · intro statement hstatement hheader
    obtain ⟨above, hline⟩ := hmem statement hstatement
    rw [classify_of_opening hheader] at hline
    exact isWellFormedHeader_si_iff.mp hline
  · intro statement hstatement hheader
    obtain ⟨above, hline⟩ := hmem statement hstatement
    rw [classify_of_opening hheader] at hline
    exact isForHeader_eq_true_iff.mp hline
  · intro above statement below target hsplit hassignment
    have hline := hfine above statement below hsplit
    rw [classify_of_isAssignmentTo hassignment] at hline
    exact isDefined_map_iff.mp hline
  · intro above statement below hsplit hother houtside
    have hline := hfine above statement below hsplit
    rw [classify_of_plain hother.1 hother.2] at hline
    exact beq_iff_eq.mp (hline (wellNested_iff_nest.mp (areNested_iff.mp houtside)))

lemma isFine_of_isAccepted (h : IsAccepted code) {above below : List (List Char)}
    {statement : List Char} (hsplit : statements code = above ++ statement :: below) :
    IsFine (above.map classify) (classify statement) := by
  have hmem : statement ∈ statements code := by
    rw [hsplit]
    simp
  generalize hform : classify statement = form
  have htaken : IsTakenFor statement form := hform ▸ isTakenFor_classify statement
  cases htaken with
  | @header construct hheader =>
    cases construct with
    | si => exact isWellFormedHeader_si_iff.mpr (h.conditioned statement hmem hheader)
    | para => exact isForHeader_eq_true_iff.mpr (h.bounded statement hmem hheader)
    | _ => rfl
  | closer hcloser => exact exists_innermost (hsplit ▸ h.nested) hcloser
  | longCloser | separator => trivial
  | definition hdefinition =>
    exact isSome_definedNames_iff.mpr (h.declared statement hmem hdefinition)
  | assignment hassignment =>
    exact isDefined_map_iff.mpr (h.defined above statement below _ hsplit hassignment)
  | other hother =>
    intro houtside
    have hnested := areNested_iff.mpr (wellNested_iff_nest.mpr houtside)
    exact beq_iff_eq.mpr (h.terminated above statement below hsplit hother hnested)

end Acceptance

/-- The check of pseudocode accepts exactly the texts that the description allows. -/
theorem check_eq_nil_iff_accepted (code : List Char) :
    Pseint.check code = [] ↔ IsAccepted code := by
  rw [check_eq_nil_iff_allFine, map_fst_numberedForms, allFine_map_iff, ← areNested_iff]
  constructor
  · rintro ⟨hfine, hnested⟩
    exact isAccepted_of_isFine hnested hfine
  · intro h
    exact ⟨fun _ _ _ hsplit => isFine_of_isAccepted h hsplit, h.nested⟩

end Autograder.Proofs
