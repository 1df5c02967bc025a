import Autograder.Proofs.Check.Closers
import Autograder.Proofs.Check.History

/-!
# What a line of pseudocode is

The shapes that a line starts with tell what it is: the header or the closer of a construct, a
separator, a definition, an assignment, or another statement. The check takes every line for what it
is, so what the check knows of lines can be said of their shapes.
-/

namespace Autograder.Proofs

open Autograder.Check Autograder.Check.Pseint Autograder.Text

def IsHeaderOf (construct : Construct) (line : List Char) : Prop :=
  headed (key (openingWord construct)) line

/-- The line closes the construct. A word with a long s closes nothing. -/
def IsCloserOf (construct : Construct) (line : List Char) : Prop :=
  headed (closing construct) line ∧ (construct = .repetir ∨ 'ſ' ∉ line.takeWhile isWord)

/-- The line defines names, or tries to. -/
def IsDefinition (line : List Char) : Prop :=
  headed (key "definir") line

/-- No word of the language heads the line. -/
def IsHeadless (line : List Char) : Prop :=
  ∀ head ∈ heads, ¬ headed head line

def IsAssignmentTo (name line : List Char) : Prop :=
  IsHeadless line ∧ assigning name line

/-- The line neither belongs to a construct nor defines or assigns. -/
def IsOther (line : List Char) : Prop :=
  IsHeadless line ∧ ∀ name, ¬ assigning name line

/-- What the check takes a line for, by the shapes that head it. -/
inductive IsTakenFor (line : List Char) : LineForm → Prop where
  | header {construct : Construct} (header : IsHeaderOf construct line) :
      IsTakenFor line (.header construct (isWellFormedHeader construct line))
  | closer {construct : Construct} (closer : IsCloserOf construct line) :
      IsTakenFor line (.closer (some construct))
  | longCloser {construct : Construct} (closer : headed (closing construct) line)
      (word : construct ≠ .repetir) (long : 'ſ' ∈ line.takeWhile isWord) :
      IsTakenFor line (.closer none)
  | separator (separator : headed separating line) : IsTakenFor line .separator
  | definition (definition : IsDefinition line) :
      IsTakenFor line (.definition ((definedNames? line).map (·.map lowercase)))
  | assignment {name : List Char} (assignment : IsAssignmentTo name line) :
      IsTakenFor line (.assignment name)
  | other (other : IsOther line) : IsTakenFor line (.statement (line.getLast? == some ';'))

section Forms

variable {line name : List Char} {construct : Construct}

lemma classify_of_isCloserOf (h : IsCloserOf construct line) :
    classify line = .closer (some construct) := by
  rw [classify_of_closer h.1, if_neg]
  rintro ⟨hword, hlong⟩
  exact h.2.elim hword fun hshort => hshort hlong

lemma classify_of_isAssignmentTo (h : IsAssignmentTo name line) :
    classify line = .assignment name := by
  obtain ⟨hheads, hassigning⟩ := h
  obtain ⟨hword, huntil, hseparator⟩ := headless_iff.mp hheads
  simp only [keywords, List.mem_cons, List.not_mem_nil, or_false, not_or] at hword
  unfold classify
  simp [closerOf?, openerOf?, hword, huntil, hseparator, assignedName?_eq_some_iff.mpr hassigning]

lemma isTakenFor_of_headed {head : Shape} (hmem : head ∈ heads) (h : headed head line) :
    IsTakenFor line (classify line) := by
  have hopening (construct : Construct) (hheader : IsHeaderOf construct line) :
      IsTakenFor line (classify line) := by
    rw [classify_of_opening hheader]
    exact .header hheader
  have hclosing (construct : Construct) (hcloser : headed (closing construct) line) :
      IsTakenFor line (classify line) := by
    by_cases hlong : construct ≠ .repetir ∧ 'ſ' ∈ line.takeWhile isWord
    · rw [classify_of_closer hcloser, if_pos hlong]
      exact .longCloser hcloser hlong.1 hlong.2
    · have hshort : IsCloserOf construct line := ⟨hcloser, by tauto⟩
      rw [classify_of_isCloserOf hshort]
      exact .closer hshort
  have hseparating (hseparator : headed separating line) : IsTakenFor line (classify line) := by
    rw [classify_of_separating hseparator]
    exact .separator hseparator
  simp only [heads, keywords, List.map_cons, List.map_nil, List.cons_append, List.nil_append,
    List.mem_cons, List.not_mem_nil, or_false] at hmem
  rcases hmem with rfl | rfl | rfl | rfl | rfl | rfl | rfl | rfl | rfl | rfl | rfl | rfl | rfl |
    rfl | rfl | rfl | rfl
  · exact hclosing .si h
  · exact hclosing .para h
  · exact hclosing .mientras h
  · exact hclosing .segun h
  · exact hclosing .proceso h
  · exact hclosing .algoritmo h
  · exact hseparating (headed_separating_iff.mpr (.inl h))
  · rw [classify_of_definition h]
    exact .definition h
  · exact hopening .si h
  · exact hopening .para h
  · exact hopening .mientras h
  · exact hopening .repetir h
  · exact hopening .segun h
  · exact hopening .proceso h
  · exact hopening .algoritmo h
  · exact hclosing .repetir h
  · exact hseparating (headed_separating_iff.mpr (.inr h))

lemma isTakenFor_classify (line : List Char) : IsTakenFor line (classify line) := by
  by_cases hheads : IsHeadless line
  · by_cases hassigning : ∃ name, assigning name line
    · obtain ⟨name, hname⟩ := hassigning
      rw [classify_of_isAssignmentTo ⟨hheads, hname⟩]
      exact .assignment ⟨hheads, hname⟩
    · rw [not_exists] at hassigning
      rw [classify_of_plain hheads hassigning]
      exact .other ⟨hheads, hassigning⟩
  · simp only [IsHeadless, not_forall, not_not] at hheads
    obtain ⟨head, hmem, hheaded⟩ := hheads
    exact isTakenFor_of_headed hmem hheaded

/-- The check takes every line for what its shapes make it. -/
theorem classify_eq_iff {form : LineForm} : classify line = form ↔ IsTakenFor line form := by
  constructor
  · rintro rfl
    exact isTakenFor_classify line
  · intro htaken
    cases htaken with
    | header hheader => exact classify_of_opening hheader
    | closer hcloser => exact classify_of_isCloserOf hcloser
    | longCloser hcloser hword hlong => rw [classify_of_closer hcloser, if_pos ⟨hword, hlong⟩]
    | separator hseparator => exact classify_of_separating hseparator
    | definition hdefinition => exact classify_of_definition hdefinition
    | assignment hassignment => exact classify_of_isAssignmentTo hassignment
    | other hother => exact classify_of_plain hother.1 hother.2

lemma isHeaderOf_of_classify {wellFormed : Bool} (h : classify line = .header construct wellFormed) :
    IsHeaderOf construct line := by
  cases classify_eq_iff.mp h with
  | header hheader => exact hheader

lemma isDefinition_of_classify {names : Option (List (List Char))}
    (h : classify line = .definition names) :
    IsDefinition line ∧ names = (definedNames? line).map (·.map lowercase) := by
  cases classify_eq_iff.mp h with
  | definition hdefinition => exact ⟨hdefinition, rfl⟩

end Forms

/-- The headers and closers among the lines, in order. -/
inductive HasBrackets : List (List Char) → List Bracket → Prop where
  | nil : HasBrackets [] []
  | header {construct : Construct} {line : List Char} {lines : List (List Char)}
      {word : List Bracket} (header : IsHeaderOf construct line) (rest : HasBrackets lines word) :
      HasBrackets (line :: lines) (.opening construct :: word)
  | closer {construct : Construct} {line : List Char} {lines : List (List Char)}
      {word : List Bracket} (closer : IsCloserOf construct line) (rest : HasBrackets lines word) :
      HasBrackets (line :: lines) (.closing construct :: word)
  | neither {line : List Char} {lines : List (List Char)} {word : List Bracket}
      (opens : ∀ construct, ¬ IsHeaderOf construct line)
      (closes : ∀ construct, ¬ IsCloserOf construct line) (rest : HasBrackets lines word) :
      HasBrackets (line :: lines) word

section Brackets

variable {line : List Char} {lines : List (List Char)} {word : List Bracket}

lemma bracketOf_classify_of_header {construct : Construct} (h : IsHeaderOf construct line) :
    bracketOf (classify line) = some (.opening construct) := by
  rw [classify_of_opening h]
  rfl

lemma bracketOf_classify_of_closer {construct : Construct} (h : IsCloserOf construct line) :
    bracketOf (classify line) = some (.closing construct) := by
  rw [classify_of_isCloserOf h]
  rfl

lemma bracketOf_classify_of_neither (hopens : ∀ construct, ¬ IsHeaderOf construct line)
    (hcloses : ∀ construct, ¬ IsCloserOf construct line) : bracketOf (classify line) = none := by
  have htaken := isTakenFor_classify line
  generalize classify line = form at htaken
  cases htaken with
  | header hheader => exact absurd hheader (hopens _)
  | closer hcloser => exact absurd hcloser (hcloses _)
  | longCloser | separator | definition | assignment | other => rfl

lemma brackets_of_hasBrackets (h : HasBrackets lines word) :
    brackets (lines.map classify) = word := by
  induction h with
  | nil => rfl
  | header hheader _ ih =>
    rw [List.map_cons, brackets, List.filterMap_cons_some (bracketOf_classify_of_header hheader),
      ← brackets, ih]
  | closer hcloser _ ih =>
    rw [List.map_cons, brackets, List.filterMap_cons_some (bracketOf_classify_of_closer hcloser),
      ← brackets, ih]
  | neither hopens hcloses _ ih =>
    rw [List.map_cons, brackets,
      List.filterMap_cons_none (bracketOf_classify_of_neither hopens hcloses), ← brackets, ih]

lemma hasBrackets_brackets (lines : List (List Char)) :
    HasBrackets lines (brackets (lines.map classify)) := by
  induction lines with
  | nil => exact .nil
  | cons line lines ih =>
    by_cases hopens : ∃ construct, IsHeaderOf construct line
    · obtain ⟨construct, hheader⟩ := hopens
      rw [List.map_cons, brackets, List.filterMap_cons_some (bracketOf_classify_of_header hheader)]
      exact .header hheader ih
    by_cases hcloses : ∃ construct, IsCloserOf construct line
    · obtain ⟨construct, hcloser⟩ := hcloses
      rw [List.map_cons, brackets, List.filterMap_cons_some (bracketOf_classify_of_closer hcloser)]
      exact .closer hcloser ih
    · rw [not_exists] at hopens hcloses
      rw [List.map_cons, brackets,
        List.filterMap_cons_none (bracketOf_classify_of_neither hopens hcloses)]
      exact .neither hopens hcloses ih

theorem hasBrackets_iff : HasBrackets lines word ↔ brackets (lines.map classify) = word := by
  refine ⟨brackets_of_hasBrackets, ?_⟩
  rintro rfl
  exact hasBrackets_brackets lines

end Brackets

/-- The statements of a text with the numbers of their lines. -/
def numberedStatements (code : List Char) : List (List Char × Nat) :=
  (((lines code).map statementOf).zipIdx 1).filter fun p => !p.1.isEmpty

section Statements

lemma filterMap_classify (rows : List (List Char × Nat)) :
    (rows.filterMap fun p => if p.1.isEmpty then none else some (classify p.1, p.2)) =
      (rows.filter fun p => !p.1.isEmpty).map fun p => (classify p.1, p.2) := by
  rw [← List.filterMap_eq_map, List.filterMap_filter]
  refine List.filterMap_congr fun p _ => ?_
  by_cases hempty : p.1.isEmpty = true <;> simp [hempty]

lemma numberedForms_eq_map (code : List Char) :
    numberedForms code = (numberedStatements code).map fun p => (classify p.1, p.2) := by
  rw [numberedStatements, ← filterMap_classify, List.zipIdx_map, List.filterMap_map]
  rfl

lemma map_fst_filterMap_classify (rows : List (List Char)) :
    ((rows.zipIdx 1).filterMap fun p =>
      if p.1.isEmpty then none else some (classify p.1, p.2)).map Prod.fst =
        (rows.filter fun statement => !statement.isEmpty).map classify := by
  conv_rhs => rw [← List.zipIdx_map_fst 1 rows, List.filter_map]
  rw [filterMap_classify, List.map_map, List.map_map]
  rfl

end Statements

end Autograder.Proofs
