import Autograder.Proofs.Grading.Outcomes
import Autograder.Proofs.Source.Uncommented

/-!
# What full similarity says about two C programs

If all markers of comments stand where the scan reads them as such, a submission with full
similarity is the solution, up to blanks and letter case, once the comments are removed. A marker in
a literal hides what stands behind it.
-/

namespace Autograder.Proofs

open Autograder.Text Autograder.Source

/-- The texts are equal up to runs of blanks, blanks at the ends and letter case. -/
def SameUpToLayout (s t : List Char) : Prop :=
  lowercase (trim (collapseBlanks s)) = lowercase (trim (collapseBlanks t))

section Similarity

variable {student solution : List Char}

lemma full_similarity_iff {language : Option Language} (h : findingsOf student language = []) :
    (grade student solution language).similarity = some 100.0 ↔ SameCode student solution := by
  by_cases hsame : SameCode student solution
  · rw [grade_of_accepted h (ofTexts_normalize_of_sameCode hsame)]
    exact iff_of_true rfl hsame
  · obtain ⟨diffs, hcompare⟩ := ofTexts_normalize_of_not_sameCode hsame
    rw [grade_of_accepted h hcompare]
    refine iff_of_false (fun hfull => ?_) hsame
    have hpasses : Score.passes 0.0 = Score.passes 100.0 :=
      congrArg Score.passes (Option.some.inj hfull)
    exact absurd hpasses (by decide +kernel)

lemma normalize_eq_of_full_similarity {language : Option Language}
    (h : (grade student solution language).similarity = some 100.0) :
    Source.normalize student = Source.normalize solution := by
  by_cases hfindings : findingsOf student language = []
  · exact ((full_similarity_iff hfindings).mp h).1
  · rw [grade_eq_ofFaults solution {} hfindings] at h
    cases h

/-- With plain markers only, full similarity means that nothing but comments, blanks and letter
case differs. -/
theorem sameUpToLayout_uncommented_of_full_similarity (hstudent : PlainMarkers .code student)
    (hsolution : PlainMarkers .code solution)
    (h : (grade student solution (some .c)).similarity = some 100.0) :
    SameUpToLayout (uncommented student) (uncommented solution) := by
  have hnormal := normalize_eq_of_full_similarity h
  rw [Source.normalize, Source.normalize] at hnormal
  have hpasses {s : List Char} (hs : PlainMarkers .code s) :
      dropBlockComments (dropLineComments s) = uncommented s :=
    dropCommentsFrom_eq_uncommentedFrom hs
  rwa [hpasses hstudent, hpasses hsolution] at hnormal

/-- The comments differ, and so do the blanks. -/
theorem sameUpToLayout_uncommented_commented :
    PlainMarkers .code "int  A = 1; // uno".toList ∧
      PlainMarkers .code "/* dos */ int a = 1;".toList ∧
      (grade "int  A = 1; // uno".toList "/* dos */ int a = 1;".toList (some .c)).similarity =
        some 100.0 ∧
      SameUpToLayout (uncommented "int  A = 1; // uno".toList)
        (uncommented "/* dos */ int a = 1;".toList) := by
  have hstudent : PlainMarkers .code "int  A = 1; // uno".toList :=
    ⟨by decide +kernel, by decide +kernel, by decide +kernel⟩
  have hsolution : PlainMarkers .code "/* dos */ int a = 1;".toList :=
    ⟨by decide +kernel, by decide +kernel, by decide +kernel⟩
  have hfull : (grade "int  A = 1; // uno".toList "/* dos */ int a = 1;".toList
      (some .c)).similarity = some 100.0 :=
    (full_similarity_iff (by decide +kernel)).mpr ⟨by decide +kernel, by decide +kernel⟩
  exact ⟨hstudent, hsolution, hfull,
    sameUpToLayout_uncommented_of_full_similarity hstudent hsolution hfull⟩

/-- A `//` in a literal hides the difference behind it. -/
theorem full_similarity_of_different_literals :
    (grade "printf(\"a // b\");".toList "printf(\"a // c\");".toList (some .c)).similarity =
        some 100.0 ∧
      ¬ SameUpToLayout (uncommented "printf(\"a // b\");".toList)
        (uncommented "printf(\"a // c\");".toList) := by
  constructor
  · exact (full_similarity_iff (by decide +kernel)).mpr ⟨by decide +kernel, by decide +kernel⟩
  · unfold SameUpToLayout
    decide +kernel

end Similarity

end Autograder.Proofs
