import Mathlib.Tactic
import Autograder.Text.Blank
import Autograder.Text.Lowercase

/-!
# Characters of a lowercased text

Lowercasing changes letters only, and their images are letters and marks: every character of a
lowercased text that is a blank, or comes before them, was in the text before.
-/

namespace Autograder.Proofs

open Autograder.Text

/-- Blanks, and the ASCII characters that come before the small letters. -/
def isPlain (n : Nat) : Bool :=
  n < 97 || inRanges blankRanges n

/-- Whether every image under a row of a case table is a character and not a plain one. -/
def rowAvoidsPlain (row : Nat × Nat × Nat × Int) : Bool :=
  let first := (row.1 : Int) + row.2.2.2
  let last := (row.2.1 : Int) + row.2.2.2
  97 ≤ first && (last < 0xD800 || 0xE000 ≤ first && last < 0x110000)
    && blankRanges.all fun range => last < (range.1 : Int) || (range.2 : Int) < first

lemma lowercaseTable_avoidsPlain : lowercaseTable.all rowAvoidsPlain = true := by
  decide +kernel

lemma isPlain_of_isBlank {c : Char} (h : isBlank c = true) : isPlain c.toNat = true := by
  simp only [isBlank] at h
  simp only [isPlain, h, Bool.or_true]

lemma exists_row_of_caseImage? {rows : List (Nat × Nat × Nat × Int)} {n m : Nat}
    (h : caseImage? rows n = some m) : ∃ first last step offset,
      (first, last, step, offset) ∈ rows ∧ first ≤ n ∧ n ≤ last ∧ (n - first) % step = 0 ∧
        m = ((n : Int) + offset).toNat := by
  obtain ⟨⟨first, last, step, offset⟩, hfind, himage⟩ := Option.map_eq_some_iff.mp h
  have hcovers := List.find?_some hfind
  simp only [Bool.and_eq_true, decide_eq_true_eq, beq_iff_eq] at hcovers
  obtain ⟨⟨hfirst, hlast⟩, hstep⟩ := hcovers
  exact ⟨first, last, step, offset, List.mem_of_find?_eq_some hfind, hfirst, hlast, hstep,
    himage.symm⟩

lemma nonneg_of_rowAvoidsPlain {row : Nat × Nat × Nat × Int} (h : rowAvoidsPlain row = true) :
    0 ≤ (row.1 : Int) + row.2.2.2 := by
  simp only [rowAvoidsPlain, Bool.and_eq_true, decide_eq_true_eq] at h
  omega

lemma caseImage_not_isPlain {n m : Nat} (h : caseImage? lowercaseTable n = some m) :
    (Char.ofNat m).toNat = m ∧ 97 ≤ m ∧ isPlain m = false := by
  obtain ⟨first, last, step, offset, hmem, hfirst, hlast, -, himage⟩ := exists_row_of_caseImage? h
  have hrow := List.all_eq_true.mp lowercaseTable_avoidsPlain _ hmem
  simp only [rowAvoidsPlain, Bool.and_eq_true, Bool.or_eq_true, decide_eq_true_eq,
    List.all_eq_true] at hrow
  obtain ⟨⟨hletter, hscalar⟩, hblank⟩ := hrow
  have hvalue : (m : Int) = n + offset := by omega
  have hvalid : m.isValidChar := by
    simp only [Nat.isValidChar]
    omega
  have htoNat : (Char.ofNat m).toNat = m := by
    rw [Char.ofNat, dif_pos hvalid]
    rfl
  have hsmall : 97 ≤ m := by omega
  have hnone : inRanges blankRanges m = false := by
    by_contra hin
    rw [Bool.not_eq_false, inRanges_iff] at hin
    obtain ⟨range, hrange, hlow, hhigh⟩ := hin
    have := hblank range hrange
    omega
  exact ⟨htoNat, hsmall, by simp [isPlain, hsmall, hnone]⟩

lemma eq_of_isPlain_toLower {c : Char} (hascii : c.toNat < 128)
    (hplain : isPlain c.toLower.toNat = true) : c.toLower = c := by
  have hall : ∀ n < 128, isPlain (Char.ofNat n).toLower.toNat = true →
      (Char.ofNat n).toLower = Char.ofNat n := by decide +kernel
  have h := hall c.toNat hascii
  rw [Char.ofNat_toNat] at h
  exact h hplain

lemma eq_of_mem_lowercaseChar {c x : Char} (hmem : x ∈ lowercaseChar c)
    (hplain : isPlain x.toNat = true) : x = c := by
  unfold lowercaseChar at hmem
  split_ifs at hmem with hascii hdotted
  · rw [List.mem_singleton] at hmem
    rw [hmem] at hplain ⊢
    exact eq_of_isPlain_toLower hascii hplain
  · simp only [List.mem_cons, List.not_mem_nil, or_false] at hmem
    rcases hmem with rfl | rfl <;> exact absurd hplain (by decide)
  · split at hmem
    · next m himage =>
      obtain rfl := List.mem_singleton.mp hmem
      obtain ⟨htoNat, -, hnot⟩ := caseImage_not_isPlain himage
      rw [htoNat, hnot] at hplain
      cases hplain
    · exact List.mem_singleton.mp hmem

/-- The lowercase form of a character, the final sigma included. -/
def lowered (isFinal : Bool) (c : Char) : List Char :=
  if c == 'Σ' then if isFinal then ['ς'] else ['σ'] else lowercaseChar c

lemma lowercaseAfter_cons (before : List Char) (c : Char) (rest : List Char) :
    lowercaseAfter before (c :: rest) =
      lowered (startsCased before && !startsCased rest) c ++ lowercaseAfter (c :: before) rest :=
  rfl

lemma eq_of_mem_lowered {c x : Char} {isFinal : Bool} (hmem : x ∈ lowered isFinal c)
    (hplain : isPlain x.toNat = true) : x = c := by
  unfold lowered at hmem
  split_ifs at hmem
  · obtain rfl := List.mem_singleton.mp hmem
    exact absurd hplain (by decide)
  · obtain rfl := List.mem_singleton.mp hmem
    exact absurd hplain (by decide)
  · exact eq_of_mem_lowercaseChar hmem hplain

lemma mem_of_mem_lowercaseAfter {x : Char} (hplain : isPlain x.toNat = true)
    (before s : List Char) (hmem : x ∈ lowercaseAfter before s) : x ∈ s := by
  induction s generalizing before with
  | nil => cases hmem
  | cons c rest ih =>
    rw [lowercaseAfter_cons, List.mem_append] at hmem
    rcases hmem with hhead | htail
    · exact eq_of_mem_lowered hhead hplain ▸ List.mem_cons_self
    · exact List.mem_cons_of_mem _ (ih _ htail)

theorem mem_of_mem_lowercase {x : Char} {s : List Char} (hmem : x ∈ lowercase s)
    (hplain : isPlain x.toNat = true) : x ∈ s :=
  mem_of_mem_lowercaseAfter hplain [] s hmem

section Idempotence

/-- Whether no image under the first row of a case table is covered by the second one: they do not
overlap, or the images are odd where the code points that the row covers are even. -/
def imageAvoids (row other : Nat × Nat × Nat × Int) : Bool :=
  let first := ((row.1 : Int) + row.2.2.2).toNat
  let last := ((row.2.1 : Int) + row.2.2.2).toNat
  last.blt other.1 || other.2.1.blt first
    || (row.1 == row.2.1 || row.2.2.1 == 2) && other.2.2.1 == 2 && first % 2 != other.1 % 2

/-- The rows of the lowercase table, and one for the letter that it leaves out. -/
def uppercaseRows : List (Nat × Nat × Nat × Int) :=
  ('İ'.toNat, 'İ'.toNat, 1, 0) :: lowercaseTable

lemma lowercaseTable_imageAvoids :
    (lowercaseTable.all fun row =>
      uppercaseRows.all fun other => imageAvoids row other) = true := by
  decide +kernel

lemma not_covers_image {first last step n : Nat} {offset : Int} {other : Nat × Nat × Nat × Int}
    (h : imageAvoids (first, last, step, offset) other = true)
    (hoffset : 0 ≤ (first : Int) + offset)
    (hfirst : first ≤ n) (hlast : n ≤ last) (hstep : (n - first) % step = 0) {m : Nat}
    (hm : (m : Int) = n + offset) :
    ¬ (other.1 ≤ m ∧ m ≤ other.2.1 ∧ (m - other.1) % other.2.2.1 = 0) := by
  rintro ⟨hlow, hhigh, hcovers⟩
  simp only [imageAvoids, Bool.or_eq_true, Bool.and_eq_true, Nat.blt_eq, beq_iff_eq,
    bne_iff_ne] at h
  obtain (h | h) | ⟨⟨hrow, hother⟩, hodd⟩ := h
  · omega
  · omega
  · rw [hother] at hcovers
    rcases hrow with hsingle | htwo
    · omega
    · rw [htwo] at hstep
      omega

/-- What lowercase forms consist of: characters that are their own lowercase forms. -/
def IsLower (c : Char) : Prop :=
  c ≠ 'Σ' ∧ lowercaseChar c = [c]

lemma caseImage?_eq_none_of_forall {rows : List (Nat × Nat × Nat × Int)} {m : Nat}
    (h : ∀ row ∈ rows, ¬ (row.1 ≤ m ∧ m ≤ row.2.1 ∧ (m - row.1) % row.2.2.1 = 0)) :
    caseImage? rows m = none := by
  rw [caseImage?, Option.map_eq_none_iff, List.find?_eq_none]
  rintro ⟨first, last, step, offset⟩ hmem hcovers
  simp only [Bool.and_eq_true, decide_eq_true_eq, beq_iff_eq] at hcovers
  exact h _ hmem ⟨hcovers.1.1, hcovers.1.2, hcovers.2⟩

lemma isLower_of_isAscii {c : Char} (hascii : c.toNat < 128) (hlower : c.toLower = c) :
    IsLower c := by
  refine ⟨?_, by simp [lowercaseChar, hascii, hlower]⟩
  rintro rfl
  exact absurd hascii (by decide)

lemma toLower_toLower {c : Char} (hascii : c.toNat < 128) :
    c.toLower.toNat < 128 ∧ c.toLower.toLower = c.toLower := by
  have hall : ∀ n < 128, (Char.ofNat n).toLower.toNat < 128 ∧
      (Char.ofNat n).toLower.toLower = (Char.ofNat n).toLower := by decide +kernel
  have h := hall c.toNat hascii
  rwa [Char.ofNat_toNat] at h

lemma toLower_eq_self {c : Char} (hletter : 97 ≤ c.toNat) : c.toLower = c := by
  refine dif_neg fun hupper => ?_
  have hbound : c.toNat ≤ 'Z'.toNat := UInt32.le_iff_toNat_le.mp hupper.2
  exact absurd (hletter.trans hbound) (by decide)

/-- The image of a character is not mapped any further. -/
lemma isLower_caseImage {n m : Nat} (h : caseImage? lowercaseTable n = some m) :
    IsLower (Char.ofNat m) := by
  obtain ⟨htoNat, hsmall, -⟩ := caseImage_not_isPlain h
  obtain ⟨first, last, step, offset, hmem, hfirst, hlast, hstep, himage⟩ :=
    exists_row_of_caseImage? h
  have hrow := List.all_eq_true.mp (List.all_eq_true.mp lowercaseTable_imageAvoids _ hmem)
  have hoffset := nonneg_of_rowAvoidsPlain
    (List.all_eq_true.mp lowercaseTable_avoidsPlain _ hmem)
  have hvalue : (m : Int) = n + offset := by omega
  have huncovered : ∀ other ∈ uppercaseRows,
      ¬ (other.1 ≤ m ∧ m ≤ other.2.1 ∧ (m - other.1) % other.2.2.1 = 0) :=
    fun other hother => not_covers_image (hrow other hother) hoffset hfirst hlast hstep hvalue
  have hnone : caseImage? lowercaseTable m = none :=
    caseImage?_eq_none_of_forall fun other hother =>
      huncovered other (List.mem_cons_of_mem _ hother)
  by_cases hascii : m < 128
  · exact isLower_of_isAscii (by omega) (toLower_eq_self (by omega))
  have hdotted : Char.ofNat m ≠ 'İ' := by
    intro heq
    have hm : m = 'İ'.toNat := by rw [← htoNat, heq]
    subst hm
    exact huncovered _ List.mem_cons_self (by decide)
  refine ⟨?_, by simp [lowercaseChar, htoNat, hascii, hdotted, hnone]⟩
  intro heq
  have hm : m = 'Σ'.toNat := by rw [← htoNat, heq]
  rw [hm] at hnone
  exact absurd hnone (by decide +kernel)

lemma isLower_of_mem_lowercaseChar {c x : Char} (hsigma : c ≠ 'Σ') (hmem : x ∈ lowercaseChar c) :
    IsLower x := by
  unfold lowercaseChar at hmem
  split_ifs at hmem with hascii hdotted
  · obtain rfl := List.mem_singleton.mp hmem
    obtain ⟨hascii', hlower⟩ := toLower_toLower hascii
    exact isLower_of_isAscii hascii' hlower
  · simp only [List.mem_cons, List.not_mem_nil, or_false] at hmem
    rcases hmem with rfl | rfl
    · exact ⟨by decide, by decide +kernel⟩
    · exact ⟨by decide, by decide +kernel⟩
  · split at hmem
    · next m himage =>
      obtain rfl := List.mem_singleton.mp hmem
      exact isLower_caseImage himage
    · next hnone =>
      obtain rfl := List.mem_singleton.mp hmem
      exact ⟨hsigma, by simp [lowercaseChar, hascii, hdotted, hnone]⟩

lemma isLower_of_mem_lowered {c x : Char} {isFinal : Bool} (hmem : x ∈ lowered isFinal c) :
    IsLower x := by
  unfold lowered at hmem
  split_ifs at hmem with hsigma hfinal
  · obtain rfl := List.mem_singleton.mp hmem
    exact ⟨by decide, by decide +kernel⟩
  · obtain rfl := List.mem_singleton.mp hmem
    exact ⟨by decide, by decide +kernel⟩
  · exact isLower_of_mem_lowercaseChar (by simpa using hsigma) hmem

lemma isLower_of_mem_lowercaseAfter {x : Char} (before s : List Char)
    (hmem : x ∈ lowercaseAfter before s) : IsLower x := by
  induction s generalizing before with
  | nil => cases hmem
  | cons c rest ih =>
    rw [lowercaseAfter_cons, List.mem_append] at hmem
    rcases hmem with hhead | htail
    · exact isLower_of_mem_lowered hhead
    · exact ih _ htail

lemma lowercaseAfter_eq_self {s : List Char} (before : List Char) (h : ∀ c ∈ s, IsLower c) :
    lowercaseAfter before s = s := by
  induction s generalizing before with
  | nil => rfl
  | cons c rest ih =>
    obtain ⟨⟨hsigma, hself⟩, hrest⟩ := List.forall_mem_cons.mp h
    rw [lowercaseAfter_cons, ih _ hrest]
    simp [lowered, hsigma, hself]

theorem lowercase_lowercase (s : List Char) : lowercase (lowercase s) = lowercase s :=
  lowercaseAfter_eq_self [] fun _ => isLower_of_mem_lowercaseAfter [] s

end Idempotence

end Autograder.Proofs
