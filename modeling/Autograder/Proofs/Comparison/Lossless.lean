import Autograder.Proofs.Comparison
import Autograder.Proofs.Number.Quotient

/-!
# What a comparison keeps of two texts

A comparison lists every line number up to the longer text's last one once, among the lines that
match or among those that differ, with the lines that both texts have there. So nothing but the
empty lines at the end of the shorter text gets lost: the lines can be read back from the
comparison.
-/

namespace Autograder.Proofs

open Autograder.Text Autograder.Comparison

/-- The number of lines that are compared. -/
def comparedLines (student solution : List Char) : Nat :=
  max (lines student).length (lines solution).length

/-- The line with a number, which counts from one; a missing line is empty. -/
def lineNumbered (s : List Char) (number : Nat) : List Char :=
  (lines s).getD (number - 1) []

/-- The lines of a text, filled up with empty ones. -/
def filledLines (count : Nat) (s : List Char) : List (List Char) :=
  lines s ++ List.replicate (count - (lines s).length) []

/-- The pairs of lines that a comparison was made of, out of the comparison alone. -/
def readBack (comparison : Comparison) : List LinePair :=
  (comparison.matched.map fun m => ⟨m.line, m.content.toList, m.content.toList⟩).merge
    (comparison.diffs.map fun d => ⟨d.line, d.actual.toList, d.expected.toList⟩)
    fun p q => p.line ≤ q.line

/-- The pair of lines with the texts exchanged. -/
def swapPair (p : LinePair) : LinePair :=
  ⟨p.line, p.expected, p.actual⟩

/-- The difference with the texts exchanged. -/
def swapDiff (d : DiffLine) : DiffLine :=
  ⟨d.line, d.actual, d.expected⟩

/-- The lists differ in empty lines at the end at most. -/
def SameButEmptyEnd (a b : List (List Char)) : Prop :=
  ∃ shared m n, a = shared ++ List.replicate m [] ∧ b = shared ++ List.replicate n []

/-- The comparison accounts for all lines of both texts. -/
structure Accounts (student solution : List Char) (comparison : Comparison) : Prop where
  matched_increasing : (comparison.matched.map MatchedLine.line).Pairwise (· < ·)
  diffs_increasing : (comparison.diffs.map DiffLine.line).Pairwise (· < ·)
  numbers : (comparison.matched.map MatchedLine.line ++ comparison.diffs.map DiffLine.line).Perm
    (List.range' 1 (comparedLines student solution))
  matched_lines : ∀ m ∈ comparison.matched, m.content.toList = lineNumbered student m.line ∧
    m.content.toList = lineNumbered solution m.line
  diff_lines : ∀ d ∈ comparison.diffs, d.actual.toList = lineNumbered student d.line ∧
    d.expected.toList = lineNumbered solution d.line ∧ d.actual ≠ d.expected
  student_lines : (readBack comparison).map LinePair.actual =
    filledLines (comparedLines student solution) student
  solution_lines : (readBack comparison).map LinePair.expected =
    filledLines (comparedLines student solution) solution

section Pairs

variable {a b : List (List Char)} {n : Nat}

lemma pairFrom_eq_map (n : Nat) (a b : List (List Char)) :
    pairFrom n a b = (List.range (max a.length b.length)).map fun k =>
      ⟨n + k, a.getD k [], b.getD k []⟩ := by
  fun_induction pairFrom n a b with
  | case1 n => rfl
  | case2 n line actual ih | case3 n line expected ih =>
    simp [ih, List.range_succ_eq_map, Nat.add_assoc, Nat.add_comm 1, Function.comp_def]
  | case4 n line actual other expected ih =>
    simp [ih, Nat.succ_max_succ, List.range_succ_eq_map, Nat.add_assoc, Nat.add_comm 1,
      Function.comp_def]

lemma length_pairFrom (n : Nat) (a b : List (List Char)) :
    (pairFrom n a b).length = max a.length b.length := by
  rw [pairFrom_eq_map, List.length_map, List.length_range]

lemma map_line_pairFrom (n : Nat) (a b : List (List Char)) :
    (pairFrom n a b).map LinePair.line = List.range' n (max a.length b.length) := by
  rw [pairFrom_eq_map, List.map_map, List.range'_eq_map_range]
  rfl

lemma pairwise_line_pairFrom (n : Nat) (a b : List (List Char)) :
    (pairFrom n a b).Pairwise fun p q => p.line < q.line := by
  rw [← List.pairwise_map, map_line_pairFrom]
  exact List.pairwise_lt_range'

lemma pairFrom_swap (n : Nat) (a b : List (List Char)) :
    pairFrom n b a = (pairFrom n a b).map swapPair := by
  rw [pairFrom_eq_map, pairFrom_eq_map, List.map_map, max_comm]
  rfl

lemma map_getD_range {count : Nat} (h : a.length ≤ count) :
    (List.range count).map (a.getD · []) = a ++ List.replicate (count - a.length) [] := by
  refine List.ext_getElem (by simp; omega) fun k hk _ => ?_
  rw [List.getElem_map, List.getElem_range, List.getElem_append]
  split_ifs with hin
  · rw [List.getD_eq_getElem a [] hin]
  · rw [List.getD_eq_default a [] (not_lt.mp hin), List.getElem_replicate]

lemma map_actual_pairFrom (n : Nat) (a b : List (List Char)) :
    (pairFrom n a b).map LinePair.actual =
      a ++ List.replicate (max a.length b.length - a.length) [] := by
  rw [← map_getD_range (le_max_left _ _), pairFrom_eq_map, List.map_map]
  rfl

lemma map_expected_pairFrom (n : Nat) (a b : List (List Char)) :
    (pairFrom n a b).map LinePair.expected =
      b ++ List.replicate (max a.length b.length - b.length) [] := by
  rw [← map_getD_range (le_max_right _ _), pairFrom_eq_map, List.map_map]
  rfl

lemma getD_append_replicate (a : List (List Char)) (m k : Nat) :
    (a ++ List.replicate m []).getD k [] = a.getD k [] := by
  rcases Nat.lt_or_ge k a.length with hin | hout
  · exact List.getD_append _ _ _ _ hin
  · rw [List.getD_append_right _ _ _ _ hout, List.getD_eq_default a [] hout]
    rcases Nat.lt_or_ge (k - a.length) m with hin | hout
    · exact List.getD_replicate _ hin
    · exact List.getD_eq_default _ _ (by simpa using hout)

lemma eq_append_replicate_of_getD_eq (hle : a.length ≤ b.length)
    (h : ∀ k, a.getD k [] = b.getD k []) :
    b = a ++ List.replicate (b.length - a.length) [] := by
  have hself := map_getD_range (le_refl b.length)
  rw [Nat.sub_self, List.replicate_zero, List.append_nil] at hself
  rw [← map_getD_range hle, funext h, hself]

lemma sameButEmptyEnd_iff : SameButEmptyEnd a b ↔ ∀ k, a.getD k [] = b.getD k [] := by
  constructor
  · rintro ⟨shared, m, n, rfl, rfl⟩ k
    rw [getD_append_replicate, getD_append_replicate]
  · intro h
    rcases le_total a.length b.length with hle | hle
    · exact ⟨a, 0, _, by simp, eq_append_replicate_of_getD_eq hle h⟩
    · exact ⟨b, _, 0, eq_append_replicate_of_getD_eq hle fun k => (h k).symm, by simp⟩

lemma forall_mem_pairFrom_iff :
    (∀ p ∈ pairFrom n a b, p.actual = p.expected) ↔ SameButEmptyEnd a b := by
  rw [sameButEmptyEnd_iff, pairFrom_eq_map, List.forall_mem_map]
  constructor
  · intro h k
    rcases Nat.lt_or_ge k (max a.length b.length) with hin | hout
    · exact h k (List.mem_range.mpr hin)
    · obtain ⟨ha, hb⟩ := max_le_iff.mp hout
      rw [List.getD_eq_default a [] ha, List.getD_eq_default b [] hb]
  · exact fun h k _ => h k

end Pairs

section Entries

variable {student solution : List Char}

/-- The pairs of lines at the same place in two texts. -/
def linePairs (student solution : List Char) : List LinePair :=
  pairFrom 1 (lines student) (lines solution)

lemma matched_ofTexts (student solution : List Char) : (ofTexts student solution).matched =
    ((linePairs student solution).filter fun p => p.actual == p.expected).map fun p =>
      ⟨p.line, String.ofList p.actual⟩ := by
  simp only [ofTexts, List.partition_eq_filter_filter, linePairs]

lemma diffs_ofTexts (student solution : List Char) : (ofTexts student solution).diffs =
    ((linePairs student solution).filter fun p => !(p.actual == p.expected)).map fun p =>
      ⟨p.line, String.ofList p.expected, String.ofList p.actual⟩ := by
  simp only [ofTexts, List.partition_eq_filter_filter, linePairs]
  rfl

lemma mem_linePairs {p : LinePair} (h : p ∈ linePairs student solution) :
    p.actual = lineNumbered student p.line ∧ p.expected = lineNumbered solution p.line := by
  rw [linePairs, pairFrom_eq_map] at h
  obtain ⟨k, -, rfl⟩ := List.mem_map.mp h
  simp [lineNumbered]

lemma map_pair_matched (student solution : List Char) :
    (ofTexts student solution).matched.map
      (fun m => (⟨m.line, m.content.toList, m.content.toList⟩ : LinePair)) =
      (linePairs student solution).filter fun p => p.actual == p.expected := by
  rw [matched_ofTexts, List.map_map]
  refine (List.map_congr_left fun p hp => ?_).trans (List.map_id _)
  have hsame : p.actual = p.expected := by simpa using (List.mem_filter.mp hp).2
  obtain ⟨number, actual, expected⟩ := p
  obtain rfl : actual = expected := hsame
  simp

lemma map_pair_diffs (student solution : List Char) :
    (ofTexts student solution).diffs.map
      (fun d => (⟨d.line, d.actual.toList, d.expected.toList⟩ : LinePair)) =
      (linePairs student solution).filter fun p => !(p.actual == p.expected) := by
  rw [diffs_ofTexts, List.map_map]
  refine (List.map_congr_left fun p _ => ?_).trans (List.map_id _)
  simp

/-- A list in ascending order is merged from any choice of its items and the others. -/
lemma merge_filter_filter {pairs : List LinePair} (keep : LinePair → Bool)
    (h : pairs.Pairwise fun p q => p.line < q.line) :
    (pairs.filter keep).merge (pairs.filter fun p => !keep p) (fun p q => p.line ≤ q.line) =
      pairs := by
  have hle : pairs.Pairwise fun p q => decide (p.line ≤ q.line) = true :=
    h.imp fun hlt => decide_eq_true hlt.le
  have hperm := (List.merge_perm_append fun p q : LinePair => p.line ≤ q.line).trans
    (List.filter_append_perm keep pairs)
  have hmerged : ((pairs.filter keep).merge (pairs.filter fun p => !keep p) fun p q =>
      p.line ≤ q.line).Pairwise fun p q => decide (p.line ≤ q.line) = true := by
    refine List.pairwise_merge ?_ ?_ _ _ (hle.filter _) (hle.filter _)
    · simp only [decide_eq_true_eq]
      exact fun _ _ _ => le_trans
    · simp only [Bool.or_eq_true, decide_eq_true_eq]
      exact fun _ _ => le_total _ _
  refine hperm.eq_of_pairwise (fun p q hp hq hpq hqp => ?_) hmerged hle
  have hline : p.line = q.line := le_antisymm (of_decide_eq_true hpq) (of_decide_eq_true hqp)
  have hdistinct : (pairs.map LinePair.line).Nodup :=
    (List.pairwise_map.mpr h).imp fun hlt => hlt.ne
  exact List.inj_on_of_nodup_map hdistinct (hperm.mem_iff.mp hp) hq hline

lemma readBack_ofTexts (student solution : List Char) :
    readBack (ofTexts student solution) = linePairs student solution := by
  rw [readBack, map_pair_matched, map_pair_diffs]
  exact merge_filter_filter _ (pairwise_line_pairFrom _ _ _)

lemma map_line_matched (student solution : List Char) :
    (ofTexts student solution).matched.map MatchedLine.line =
      ((linePairs student solution).filter fun p => p.actual == p.expected).map LinePair.line := by
  rw [matched_ofTexts, List.map_map]
  rfl

lemma map_line_diffs (student solution : List Char) :
    (ofTexts student solution).diffs.map DiffLine.line =
      ((linePairs student solution).filter fun p => !(p.actual == p.expected)).map
        LinePair.line := by
  rw [diffs_ofTexts, List.map_map]
  rfl

theorem accounts_ofTexts (student solution : List Char) :
    Accounts student solution (ofTexts student solution) where
  matched_increasing := by
    rw [map_line_matched, List.pairwise_map]
    exact (pairwise_line_pairFrom _ _ _).filter _
  diffs_increasing := by
    rw [map_line_diffs, List.pairwise_map]
    exact (pairwise_line_pairFrom _ _ _).filter _
  numbers := by
    rw [map_line_matched, map_line_diffs, ← List.map_append, comparedLines, ← map_line_pairFrom]
    exact (List.filter_append_perm _ _).map _
  matched_lines m hm := by
    rw [matched_ofTexts] at hm
    obtain ⟨p, hp, rfl⟩ := List.mem_map.mp hm
    obtain ⟨hmem, hsame⟩ := List.mem_filter.mp hp
    obtain ⟨hactual, hexpected⟩ := mem_linePairs hmem
    simp only [String.toList_ofList]
    exact ⟨hactual, (beq_iff_eq.mp hsame).trans hexpected⟩
  diff_lines d hd := by
    rw [diffs_ofTexts] at hd
    obtain ⟨p, hp, rfl⟩ := List.mem_map.mp hd
    obtain ⟨hmem, hdiffer⟩ := List.mem_filter.mp hp
    obtain ⟨hactual, hexpected⟩ := mem_linePairs hmem
    simp only [String.toList_ofList]
    refine ⟨hactual, hexpected, ?_⟩
    simpa [String.ofList_inj] using hdiffer
  student_lines := by
    rw [readBack_ofTexts]
    exact map_actual_pairFrom _ _ _
  solution_lines := by
    rw [readBack_ofTexts]
    exact map_expected_pairFrom _ _ _

lemma similarity_ofTexts (student solution : List Char) : (ofTexts student solution).similarity =
    similarityOf (ofTexts student solution).matched.length (comparedLines student solution) := by
  rw [matched_ofTexts, List.length_map, comparedLines, ← length_pairFrom 1]
  simp only [ofTexts, List.partition_eq_filter_filter, linePairs]

lemma linePairs_swap (student solution : List Char) :
    linePairs solution student = (linePairs student solution).map swapPair :=
  pairFrom_swap _ _ _

lemma matched_swap (student solution : List Char) :
    (ofTexts solution student).matched = (ofTexts student solution).matched := by
  rw [matched_ofTexts, matched_ofTexts, linePairs_swap, List.filter_map, List.map_map]
  have hsame : (fun p => p.actual == p.expected) ∘ swapPair = fun p => p.actual == p.expected :=
    funext fun p => Bool.beq_comm
  rw [hsame]
  refine List.map_congr_left fun p hp => ?_
  have hequal : p.actual = p.expected := by simpa using (List.mem_filter.mp hp).2
  simp [swapPair, hequal]

lemma diffs_swap (student solution : List Char) :
    (ofTexts solution student).diffs = (ofTexts student solution).diffs.map swapDiff := by
  rw [diffs_ofTexts, diffs_ofTexts, linePairs_swap, List.filter_map, List.map_map, List.map_map]
  have hsame : (fun p => !(p.actual == p.expected)) ∘ swapPair =
      fun p => !(p.actual == p.expected) :=
    funext fun p => congrArg (!·) Bool.beq_comm
  rw [hsame]
  rfl

lemma ofTexts_swap (student solution : List Char) :
    ofTexts solution student =
      { ofTexts student solution with diffs := (ofTexts student solution).diffs.map swapDiff } := by
  have hsimilarity : (ofTexts solution student).similarity =
      (ofTexts student solution).similarity := by
    rw [similarity_ofTexts, similarity_ofTexts, matched_swap, comparedLines, comparedLines,
      max_comm]
  change _ = Comparison.mk (ofTexts student solution).similarity
    (ofTexts student solution).matched ((ofTexts student solution).diffs.map swapDiff)
  rw [← hsimilarity, ← matched_swap, ← diffs_swap]

lemma length_matched_eq_iff (student solution : List Char) :
    (ofTexts student solution).matched.length = comparedLines student solution ↔
      SameButEmptyEnd (lines student) (lines solution) := by
  rw [matched_ofTexts, List.length_map, comparedLines, ← length_pairFrom 1, ← linePairs,
    List.length_filter_eq_length_iff, ← forall_mem_pairFrom_iff (n := 1)]
  simp only [beq_iff_eq]
  rfl

lemma length_matched_le (student solution : List Char) :
    (ofTexts student solution).matched.length ≤ comparedLines student solution := by
  rw [matched_ofTexts, List.length_map, comparedLines, ← length_pairFrom 1]
  exact List.length_filter_le _ _

end Entries

section Similarity

variable {matched total : Nat}

/-- Up to this many lines, a hundred times the number of lines is a double. -/
def exactLines : Nat :=
  360287970189640

/-- A hundred times a number is computed without rounding as long as its odd part fits 53 bits. -/
lemma hundred_mul_ofNat (hpos : 0 < matched) (h : 25 * matched < 2 ^ 53) :
    100.0 * Float.ofNat matched = scaledDouble (25 * matched) (by positivity) 2 := by
  have hhundred : (100.0 : Float) = wholeDouble 100 (by norm_num) := by decide +kernel
  rw [hhundred, ofNat_eq_wholeDouble hpos (by omega)]
  exact wholeDouble_mul_eq_scaledDouble _ (by norm_num) hpos (by omega) _ h (by omega)

lemma similarityOf_self (hpos : 0 < total) (h : total ≤ exactLines) :
    similarityOf total total = 100.0 := by
  rcases h.eq_or_lt with rfl | hlt
  · decide +kernel
  · have hhundred : scaledDouble 25 (by norm_num) 2 = 100.0 := by decide +kernel
    have hne : (total == 0) = false := by simp [hpos.ne']
    rw [exactLines] at hlt
    rw [similarityOf, hne, if_neg Bool.false_ne_true, hundred_mul_ofNat hpos (by omega),
      ofNat_eq_wholeDouble hpos (by omega), scaledDouble_div (by norm_num) hpos (by omega)
      (by norm_num), hhundred]

/-- Less than all lines is less than a hundred percent: the doubles tell the two apart. -/
lemma similarityOf_ne (hlt : matched < total) (h : total ≤ exactLines) :
    similarityOf matched total ≠ 100.0 := by
  have hne : (total == 0) = false := by simp [(Nat.zero_lt_of_lt hlt).ne']
  rw [exactLines] at h
  rw [similarityOf, hne, if_neg Bool.false_ne_true]
  rcases Nat.eq_zero_or_pos matched with rfl | hpos
  · have hproduct : (100.0 : Float) * Float.ofNat 0 = Float.ofNat 0 := by decide +kernel
    rw [hproduct, zero_div_ofNat (by omega) (by omega)]
    decide +kernel
  · intro heq
    have hvalue : Autograder.Number.value 100.0 = .finite false (100 * 2 ^ 46) (-46) := by
      decide +kernel
    have htotal : 0 < total := by omega
    obtain ⟨m, s, j, -, -, hm, hquotient⟩ := value_scaledDouble_div (a := 25 * matched)
      (b := total) (i := 2) (by omega) (by omega) htotal (by omega) (by norm_num)
    rw [← hundred_mul_ofNat hpos (by omega), ← ofNat_eq_wholeDouble htotal (by omega), heq,
      hvalue] at hquotient
    obtain ⟨-, hmantissa, hexponent⟩ := Autograder.Number.Value.finite.inj hquotient
    obtain rfl : j = 48 + s := by omega
    have hunit : 2 ^ 48 ≤ 2 ^ (48 + s) := Nat.pow_le_pow_right (by norm_num) (by omega)
    -- the exact quotient is below a hundred by more than the unit that it is rounded to
    have hbelow : 25 * matched * 2 ^ (48 + s) / total < 25 * 2 ^ (48 + s) - 1 := by
      rw [Nat.div_lt_iff_lt_mul htotal, Nat.sub_one_mul]
      have hnext : (matched + 1) * 2 ^ (48 + s) ≤ total * 2 ^ (48 + s) :=
        Nat.mul_le_mul_right _ hlt
      rw [add_mul, one_mul] at hnext
      have hcomm : 25 * 2 ^ (48 + s) * total = 25 * (total * 2 ^ (48 + s)) := by ring
      have hassoc : 25 * matched * 2 ^ (48 + s) = 25 * (matched * 2 ^ (48 + s)) := by ring
      omega
    have hround : Autograder.Number.divHalfEven (25 * matched * 2 ^ (48 + s)) total ≤
        25 * matched * 2 ^ (48 + s) / total + 1 := divHalfEven_le
    have hgrid : 100 * 2 ^ 46 * 2 ^ s = 25 * 2 ^ (48 + s) := by
      rw [pow_add]
      ring
    rw [← hm, ← hmantissa, hgrid] at hround
    omega

lemma similarityOf_eq_hundred_iff (hle : matched ≤ total) (h : total ≤ exactLines) :
    similarityOf matched total = 100.0 ↔ 0 < total ∧ matched = total := by
  constructor
  · intro hfull
    rcases Nat.eq_zero_or_pos total with rfl | hpos
    · obtain rfl : matched = 0 := Nat.le_zero.mp hle
      exact absurd hfull (by decide +kernel)
    · refine ⟨hpos, hle.antisymm (not_lt.mp fun hlt => ?_)⟩
      exact similarityOf_ne hlt h hfull
  · rintro ⟨hpos, rfl⟩
    exact similarityOf_self hpos h

lemma share_eq_hundred_iff :
    (100 * matched / total : ℚ) = 100 ↔ 0 < total ∧ matched = total := by
  rcases Nat.eq_zero_or_pos total with rfl | hpos
  · simp
  · have hne : (total : ℚ) ≠ 0 := by exact_mod_cast hpos.ne'
    rw [div_eq_iff hne, mul_right_inj' (by norm_num), Nat.cast_inj]
    simp [hpos]

end Similarity

/-- A comparison accounts for all lines, does not prefer either text, and has the share of lines
that match as its similarity. The exact share is a hundred percent if the texts differ in empty lines
at the end at most, and so is its double as long as a hundred times the number of lines is one. -/
theorem ofTexts_lossless (student solution : List Char) :
    let comparison := ofTexts student solution
    let total := comparedLines student solution
    Accounts student solution comparison ∧
      ofTexts solution student =
        { comparison with diffs := comparison.diffs.map swapDiff } ∧
      comparison.similarity = (if total = 0 then 0.0
        else 100.0 * Float.ofNat comparison.matched.length / Float.ofNat total) ∧
      ((100 * comparison.matched.length / total : ℚ) = 100 ↔
        0 < total ∧ SameButEmptyEnd (lines student) (lines solution)) ∧
      (total ≤ exactLines → (comparison.similarity = 100.0 ↔
        0 < total ∧ SameButEmptyEnd (lines student) (lines solution))) := by
  intro comparison total
  refine ⟨accounts_ofTexts student solution, ofTexts_swap student solution, ?_, ?_, fun h => ?_⟩
  · rw [similarity_ofTexts, similarityOf]
    simp only [beq_iff_eq]
    rfl
  · rw [share_eq_hundred_iff, length_matched_eq_iff]
  · rw [similarity_ofTexts, similarityOf_eq_hundred_iff (length_matched_le student solution) h,
      length_matched_eq_iff]

/-- A text of one line, and the same line with two empty ones behind it. -/
theorem ofTexts_lossless_emptyEnd :
    comparedLines "a".toList "a\r\n\r\n\n".toList ≤ exactLines ∧
      comparedLines "a".toList "a\r\n\r\n\n".toList = 3 ∧
      (ofTexts "a".toList "a\r\n\r\n\n".toList).similarity = 100.0 := by
  have htotal : comparedLines "a".toList "a\r\n\r\n\n".toList = 3 := by decide
  have hexact : comparedLines "a".toList "a\r\n\r\n\n".toList ≤ exactLines := by
    rw [htotal, exactLines]
    norm_num
  obtain ⟨-, -, -, -, hfull⟩ := ofTexts_lossless "a".toList "a\r\n\r\n\n".toList
  refine ⟨hexact, htotal, (hfull hexact).mpr ⟨?_, [['a']], 0, 2, by decide, by decide⟩⟩
  rw [htotal]
  norm_num

/-- With one line more, all lines are not a hundred percent any more: the product is rounded. -/
example : similarityOf (exactLines + 1) (exactLines + 1) ≠ 100.0 := by decide +kernel

end Autograder.Proofs
