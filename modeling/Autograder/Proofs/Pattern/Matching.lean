import Mathlib
import Autograder.Pattern.Node

/-!
# What patterns match

A pattern matches parts of a text; whether it matches a part may also depend on what stands before
and behind it. The search follows all positions at once: from a list of positions it goes to those
where matches from there end. A repetition without a bound needs no more steps than the text has
characters, because a step that does not advance leads nowhere new.
-/

namespace Autograder.Proofs

open Autograder.Pattern Autograder.Text

/-- What can be said of a part of a text, between what stands before and behind it. -/
abbrev Located := List Char → List Char → List Char → Prop

def nothing : Located := fun _ part _ => part = []

/-- A part that consists of one and another behind it. -/
def followedBy (p q : Located) : Located := fun before part after =>
  ∃ first second, part = first ++ second ∧ p before first (second ++ after) ∧
    q (before ++ first) second after

/-- So many parts one behind the other. -/
def repeated (p : Located) : Nat → Located
  | 0 => nothing
  | n + 1 => followedBy p (repeated p n)

/-- The parts that a pattern matches. -/
def Matches : Node → Located
  | .empty => nothing
  | .literal chars => fun _ part _ => part = chars
  | .set chars => fun _ part _ => ∃ c, part = [c] ∧ chars.contains c.toNat = true
  | .anchor kind ascii => fun before part after => part = [] ∧
      kind.holds (fun c => isWord c && (!ascii || c.toNat < 128)) before.getLast? after.head? = true
  | .group _ a => Matches a
  | .seq a b => followedBy (Matches a) (Matches b)
  | .alt a b => fun before part after => Matches a before part after ∨ Matches b before part after
  | .times a min max _ => fun before part after =>
      ∃ extra, (∀ m ∈ max, extra ≤ m - min) ∧
        repeated (Matches a) (min + extra) before part after

/-- Such a part stands between the two positions of the text. -/
def Spans (text : List Char) (p : Located) (i j : Nat) : Prop :=
  ∃ before part after, text = before ++ (part ++ after) ∧ before.length = i ∧
    before.length + part.length = j ∧ p before part after

/-- Ascending positions of the text. -/
structure IsPositions (text : List Char) (positions : Positions) : Prop where
  ordered : positions.Pairwise (· < ·)
  inside : ∀ i ∈ positions, i ≤ text.length

/-- The step leads from positions to those where such parts end. -/
structure StepsOver (text : List Char) (p : Located) (step : Positions → Positions) : Prop where
  ordered {positions : Positions} (h : IsPositions text positions) :
    (step positions).Pairwise (· < ·)
  mem_iff {positions : Positions} (h : IsPositions text positions) (j : Nat) :
    j ∈ step positions ↔ ∃ i ∈ positions, Spans text p i j

/-- A search that has reached positions; from the fresh ones the next step is still to be made. -/
structure IsSearch (text : List Char) (p : Located) (reached fresh : Positions) : Prop where
  inText : IsPositions text reached
  freshInText : IsPositions text fresh
  subset : ∀ i ∈ fresh, i ∈ reached
  done : ∀ i ∈ reached, i ∉ fresh → ∀ j, Spans text p i j → j ∈ reached

section Spans

variable {text : List Char} {p q : Located} {i j : Nat}

lemma le_of_spans (h : Spans text p i j) : i ≤ j ∧ j ≤ text.length := by
  obtain ⟨before, part, after, rfl, rfl, rfl, -⟩ := h
  simp

lemma spans_nothing_iff : Spans text nothing i j ↔ i = j ∧ i ≤ text.length := by
  constructor
  · rintro ⟨before, _, after, rfl, rfl, rfl, rfl⟩
    simp
  · rintro ⟨rfl, hi⟩
    refine ⟨text.take i, [], text.drop i, ?_, ?_, ?_, rfl⟩ <;> simp [hi]

lemma spans_followedBy_iff :
    Spans text (followedBy p q) i j ↔ ∃ m, Spans text p i m ∧ Spans text q m j := by
  constructor
  · rintro ⟨before, _, after, rfl, rfl, rfl, first, second, rfl, hfirst, hsecond⟩
    refine ⟨before.length + first.length, ⟨before, first, second ++ after, ?_, rfl, rfl, hfirst⟩,
      before ++ first, second, after, ?_, ?_, ?_, hsecond⟩ <;> simp [Nat.add_assoc]
  · rintro ⟨m, ⟨before, first, rest, rfl, rfl, rfl, hfirst⟩, front, second, after, hsplit, hlength,
      rfl, hsecond⟩
    rw [← List.append_assoc] at hsplit
    obtain ⟨rfl, rfl⟩ := List.append_inj hsplit (by simpa using hlength.symm)
    exact ⟨before, first ++ second, after, by simp, rfl, by simp [Nat.add_assoc], first, second,
      rfl, hfirst, hsecond⟩

lemma spans_repeated_succ_iff {n : Nat} : Spans text (repeated p (n + 1)) i j ↔
    ∃ m, Spans text p i m ∧ Spans text (repeated p n) m j :=
  spans_followedBy_iff

lemma spans_repeated_add_iff {n k : Nat} : Spans text (repeated p (n + k)) i j ↔
    ∃ m, Spans text (repeated p n) i m ∧ Spans text (repeated p k) m j := by
  induction n generalizing i with
  | zero =>
    constructor
    · intro h
      rw [Nat.zero_add] at h
      exact ⟨i, spans_nothing_iff.mpr ⟨rfl, (le_of_spans h).1.trans (le_of_spans h).2⟩, h⟩
    · rintro ⟨m, hm, h⟩
      obtain ⟨rfl, -⟩ := spans_nothing_iff.mp hm
      rwa [Nat.zero_add]
  | succ n ih =>
    have hsucc : n + 1 + k = n + k + 1 := by omega
    rw [hsucc, spans_repeated_succ_iff]
    simp only [ih, spans_repeated_succ_iff]
    constructor
    · rintro ⟨l, hl, m, hm, h⟩
      exact ⟨m, ⟨l, hl, hm⟩, h⟩
    · rintro ⟨m, ⟨l, hl, hm⟩, h⟩
      exact ⟨l, hl, m, hm, h⟩

/-- Steps that do not advance can be left out of a repetition. -/
lemma exists_spans_repeated_le {n : Nat} (h : Spans text (repeated p n) i j) :
    ∃ k ≤ text.length - i, Spans text (repeated p k) i j := by
  induction n generalizing i with
  | zero => exact ⟨0, Nat.zero_le _, h⟩
  | succ n ih =>
    obtain ⟨m, hm, hrest⟩ := spans_repeated_succ_iff.mp h
    obtain ⟨k, hk, hspans⟩ := ih hrest
    obtain ⟨him, hml⟩ := le_of_spans hm
    rcases him.eq_or_lt with rfl | hlt
    · exact ⟨k, hk, hspans⟩
    · exact ⟨k + 1, by omega, spans_repeated_succ_iff.mpr ⟨m, hm, hspans⟩⟩

lemma spans_char_iff {r : Char → Prop} :
    Spans text (fun _ part _ => ∃ c, part = [c] ∧ r c) i j ↔
      (∃ c ∈ text[i]?, r c) ∧ j = i + 1 := by
  constructor
  · rintro ⟨before, _, after, rfl, rfl, rfl, c, rfl, hc⟩
    exact ⟨⟨c, by simp, hc⟩, rfl⟩
  · rintro ⟨⟨c, hc, hr⟩, rfl⟩
    obtain ⟨hi, rfl⟩ := List.getElem?_eq_some_iff.mp hc
    refine ⟨text.take i, [text[i]], text.drop (i + 1), ?_, ?_, ?_, text[i], rfl, hr⟩
    · simp
    · simp [hi.le]
    · simp [hi.le]

end Spans

section Positions

variable {as bs : Positions} {x : Nat}

lemma mem_mergePositions : x ∈ mergePositions as bs ↔ x ∈ as ∨ x ∈ bs := by
  fun_induction mergePositions as bs with
  | case1 => simp
  | case2 => simp
  | case3 a as b bs hlt ih => simp only [List.mem_cons, ih, or_assoc]
  | case4 a as b bs hle hlt ih =>
    simp only [List.mem_cons, ih]
    tauto
  | case5 a as b bs hle hge ih =>
    obtain rfl : a = b := by omega
    simp only [List.mem_cons, ih]
    tauto

lemma pairwise_mergePositions (has : as.Pairwise (· < ·)) (hbs : bs.Pairwise (· < ·)) :
    (mergePositions as bs).Pairwise (· < ·) := by
  fun_induction mergePositions as bs with
  | case1 => exact hbs
  | case2 => exact has
  | case3 a as b bs hlt ih =>
    obtain ⟨ha, has⟩ := List.pairwise_cons.mp has
    refine List.pairwise_cons.mpr ⟨fun c hc => ?_, ih has hbs⟩
    rcases mem_mergePositions.mp hc with hc | hc
    · exact ha c hc
    · rcases List.mem_cons.mp hc with rfl | hc
      · exact hlt
      · exact hlt.trans ((List.pairwise_cons.mp hbs).1 c hc)
  | case4 a as b bs hle hlt ih =>
    obtain ⟨hb, hbs⟩ := List.pairwise_cons.mp hbs
    refine List.pairwise_cons.mpr ⟨fun c hc => ?_, ih has hbs⟩
    rcases mem_mergePositions.mp hc with hc | hc
    · rcases List.mem_cons.mp hc with rfl | hc
      · exact hlt
      · exact hlt.trans ((List.pairwise_cons.mp has).1 c hc)
    · exact hb c hc
  | case5 a as b bs hle hge ih =>
    obtain rfl : a = b := by omega
    obtain ⟨ha, has⟩ := List.pairwise_cons.mp has
    obtain ⟨hb, hbs⟩ := List.pairwise_cons.mp hbs
    refine List.pairwise_cons.mpr ⟨fun c hc => ?_, ih has hbs⟩
    exact (mem_mergePositions.mp hc).elim (ha c) (hb c)

lemma mem_newPositions (has : as.Pairwise (· < ·)) (hbs : bs.Pairwise (· < ·)) :
    x ∈ newPositions as bs ↔ x ∈ as ∧ x ∉ bs := by
  fun_induction newPositions as bs with
  | case1 => simp
  | case2 => simp
  | case3 a as b bs hlt ih =>
    obtain ⟨-, has⟩ := List.pairwise_cons.mp has
    have hb := (List.pairwise_cons.mp hbs).1
    have hnew : a ∉ b :: bs := by
      intro hmem
      rcases List.mem_cons.mp hmem with rfl | hmem
      · omega
      · have := hb a hmem
        omega
    rw [List.mem_cons, ih has hbs, List.mem_cons (l := as), or_and_right]
    exact or_congr_left ⟨fun h => ⟨h, h ▸ hnew⟩, And.left⟩
  | case4 a as b bs hle hlt ih =>
    obtain ⟨-, hbs⟩ := List.pairwise_cons.mp hbs
    have ha := (List.pairwise_cons.mp has).1
    have hne : x ∈ a :: as → x ≠ b := by
      intro hmem
      rcases List.mem_cons.mp hmem with rfl | hmem
      · omega
      · have := ha x hmem
        omega
    rw [ih has hbs, List.mem_cons (l := bs), not_or]
    exact and_congr_right fun hmem => (and_iff_right (hne hmem)).symm
  | case5 a as b bs hle hge ih =>
    obtain rfl : a = b := by omega
    obtain ⟨ha, has⟩ := List.pairwise_cons.mp has
    obtain ⟨-, hbs⟩ := List.pairwise_cons.mp hbs
    rw [ih has hbs, List.mem_cons (l := as), List.mem_cons (l := bs), not_or, or_and_right]
    have hfirst : ¬ (x = a ∧ x ≠ a ∧ x ∉ bs) := fun h => h.2.1 h.1
    rw [or_iff_right hfirst]
    exact and_congr_right fun hmem => (and_iff_right (ha x hmem).ne').symm

lemma newPositions_sublist (as bs : Positions) : (newPositions as bs).Sublist as := by
  fun_induction newPositions as bs with
  | case1 => exact .slnil
  | case2 => exact .refl _
  | case3 a as b bs hlt ih => exact ih.cons_cons a
  | case4 a as b bs hle hlt ih => exact ih
  | case5 a as b bs hle hge ih => exact ih.cons a

end Positions

section Steps

variable {text : List Char} {p q : Located} {f g : Positions → Positions}
  {reached fresh : Positions}

lemma isPositions_step (hf : StepsOver text p f) (h : IsPositions text positions) :
    IsPositions text (f positions) where
  ordered := hf.ordered h
  inside j hj := by
    obtain ⟨i, -, hspans⟩ := (hf.mem_iff h j).mp hj
    exact (le_of_spans hspans).2

lemma stepsOver_nothing : StepsOver text nothing id where
  ordered h := h.ordered
  mem_iff h j := by
    simp only [spans_nothing_iff]
    exact ⟨fun hj => ⟨j, hj, rfl, h.inside j hj⟩, fun ⟨i, hi, heq, _⟩ => heq ▸ hi⟩

lemma stepsOver_followedBy (hf : StepsOver text p f) (hg : StepsOver text q g) :
    StepsOver text (followedBy p q) fun positions => g (f positions) where
  ordered h := hg.ordered (isPositions_step hf h)
  mem_iff h j := by
    simp only [hg.mem_iff (isPositions_step hf h), hf.mem_iff h, spans_followedBy_iff]
    constructor
    · rintro ⟨m, ⟨i, hi, hm⟩, hj⟩
      exact ⟨i, hi, m, hm, hj⟩
    · rintro ⟨i, hi, m, hm, hj⟩
      exact ⟨m, ⟨i, hi, hm⟩, hj⟩

lemma stepsOver_or (hf : StepsOver text p f) (hg : StepsOver text q g) :
    StepsOver text (fun before part after => p before part after ∨ q before part after)
      fun positions => mergePositions (f positions) (g positions) where
  ordered h := pairwise_mergePositions (hf.ordered h) (hg.ordered h)
  mem_iff h j := by
    have hspans (i : Nat) : Spans text (fun before part after => p before part after ∨
        q before part after) i j ↔ Spans text p i j ∨ Spans text q i j := by
      simp only [Spans, and_or_left, exists_or]
    simp only [mem_mergePositions, hf.mem_iff h, hg.mem_iff h, hspans, and_or_left, exists_or]

lemma stepsOver_char (r : Char → Bool) :
    StepsOver text (fun _ part _ => ∃ c, part = [c] ∧ r c = true) fun positions =>
      positions.filterMap fun i => if text.toArray[i]?.any r then some (i + 1) else none where
  ordered h := by
    refine h.ordered.filterMap _ fun i j hlt a ha b hb => ?_
    obtain ⟨-, rfl⟩ : _ ∧ i + 1 = a := by simpa using ha
    obtain ⟨-, rfl⟩ : _ ∧ j + 1 = b := by simpa using hb
    omega
  mem_iff h j := by
    simp only [spans_char_iff, List.mem_filterMap, Option.ite_none_right_eq_some,
      Option.some.injEq, Option.any_eq_true, List.getElem?_toArray, eq_comm (a := j)]
    rfl

lemma stepsOver_of_iff (hf : StepsOver text p f)
    (h : ∀ before part after, p before part after ↔ q before part after) : StepsOver text q f := by
  obtain rfl : p = q := by
    funext before part after
    exact propext (h before part after)
  exact hf

lemma stepsOver_literal (chars : List Char) :
    StepsOver text (fun _ part _ => part = chars) fun positions =>
      chars.foldl (fun positions c => positions.filterMap fun i =>
        if text.toArray[i]? == some c then some (i + 1) else none) positions := by
  induction chars with
  | nil => exact stepsOver_nothing
  | cons c rest ih =>
    have hone : StepsOver text (fun _ part _ => part = [c]) fun positions =>
        positions.filterMap fun i => if text.toArray[i]? == some c then some (i + 1) else none := by
      have hchar (i : Nat) : (text.toArray[i]? == some c) = text.toArray[i]?.any (· == c) := by
        cases text.toArray[i]? <;> rfl
      simp only [hchar]
      exact stepsOver_of_iff (stepsOver_char (· == c)) fun _ part _ => by simp
    refine stepsOver_of_iff (stepsOver_followedBy hone ih) fun _ part _ => ?_
    constructor
    · rintro ⟨_, _, rfl, rfl, rfl⟩
      rfl
    · rintro rfl
      exact ⟨[c], rest, rfl, rfl, rfl⟩

lemma neighbours_append (before after : List Char) :
    neighbours (before ++ after).toArray before.length = (before.getLast?, after.head?) := by
  have hafter : (before ++ after).toArray[before.length]? = after.head? := by
    rw [List.getElem?_toArray, List.getElem?_append_right le_rfl, Nat.sub_self,
      List.head?_eq_getElem?]
  refine Prod.ext ?_ hafter
  cases before with
  | nil => rfl
  | cons c rest =>
    change (c :: rest ++ after).toArray[(c :: rest).length - 1]? = _
    rw [List.getElem?_toArray, List.getElem?_append_left (by simp), List.getLast?_eq_getElem?]

lemma stepsOver_anchor (kind : Anchor) (r : Char → Bool) :
    StepsOver text (fun before part after => part = [] ∧
        kind.holds r before.getLast? after.head? = true) fun positions =>
      positions.filter fun i =>
        kind.holds r (neighbours text.toArray i).1 (neighbours text.toArray i).2 where
  ordered h := h.ordered.filter _
  mem_iff h j := by
    rw [List.mem_filter]
    constructor
    · rintro ⟨hj, hholds⟩
      have hsplit := List.take_append_drop j text
      have hlength : (text.take j).length = j := by simp [h.inside j hj]
      have hneighbours := neighbours_append (text.take j) (text.drop j)
      rw [hsplit, hlength] at hneighbours
      rw [hneighbours] at hholds
      exact ⟨j, hj, text.take j, [], text.drop j, hsplit.symm, hlength, hlength, rfl, hholds⟩
    · rintro ⟨i, hi, before, _, after, rfl, rfl, rfl, rfl, hholds⟩
      rw [List.nil_append, List.length_nil, Nat.add_zero, neighbours_append]
      exact ⟨hi, hholds⟩

lemma stepsOver_repeated (hf : StepsOver text p f) (n : Nat) :
    StepsOver text (repeated p n) (iterate f n) := by
  induction n with
  | zero => exact stepsOver_nothing
  | succ n ih =>
    have hstep := stepsOver_followedBy hf ih
    have heq {positions : Positions} : iterate f (n + 1) positions =
        if positions.isEmpty then positions else iterate f n (f positions) := rfl
    constructor
    · intro positions h
      rw [heq]
      split_ifs
      · exact h.ordered
      · exact hstep.ordered h
    · intro positions h j
      rw [heq]
      split_ifs with hempty
      · simp [List.isEmpty_iff.mp hempty]
      · exact hstep.mem_iff h j

lemma isPositions_mergePositions {as bs : Positions} (has : IsPositions text as)
    (hbs : IsPositions text bs) : IsPositions text (mergePositions as bs) where
  ordered := pairwise_mergePositions has.ordered hbs.ordered
  inside i hi := (mem_mergePositions.mp hi).elim (has.inside i) (hbs.inside i)

lemma isPositions_newPositions {as : Positions} (has : IsPositions text as) (bs : Positions) :
    IsPositions text (newPositions as bs) where
  ordered := has.ordered.sublist (newPositions_sublist as bs)
  inside i hi := has.inside i ((newPositions_sublist as bs).subset hi)

lemma mem_of_spans_repeated {reached : Positions} {k i j : Nat}
    (hclosed : ∀ i ∈ reached, ∀ j, Spans text p i j → j ∈ reached) (hi : i ∈ reached)
    (h : Spans text (repeated p k) i j) : j ∈ reached := by
  induction k generalizing i with
  | zero =>
    obtain ⟨rfl, -⟩ := spans_nothing_iff.mp h
    exact hi
  | succ k ih =>
    obtain ⟨m, hm, hrest⟩ := spans_repeated_succ_iff.mp h
    exact ih (hclosed i hi m hm) hrest

lemma mem_next_iff (hf : StepsOver text p f) (h : IsSearch text p reached fresh) (j : Nat) :
    j ∈ newPositions (f fresh) reached ↔ (∃ i ∈ fresh, Spans text p i j) ∧ j ∉ reached := by
  rw [mem_newPositions (hf.ordered h.freshInText) h.inText.ordered, hf.mem_iff h.freshInText]

lemma mem_or_mem_next (hf : StepsOver text p f) (h : IsSearch text p reached fresh) {i j : Nat}
    (hi : i ∈ reached) (hspans : Spans text p i j) :
    j ∈ reached ∨ j ∈ newPositions (f fresh) reached := by
  by_cases hj : j ∈ reached
  · exact .inl hj
  · by_cases hfresh : i ∈ fresh
    · exact .inr ((mem_next_iff hf h j).mpr ⟨⟨i, hfresh, hspans⟩, hj⟩)
    · exact .inl (h.done i hi hfresh j hspans)

lemma isSearch_next (hf : StepsOver text p f) (h : IsSearch text p reached fresh) :
    IsSearch text p (mergePositions reached (newPositions (f fresh) reached))
      (newPositions (f fresh) reached) where
  inText := isPositions_mergePositions h.inText
    (isPositions_newPositions (isPositions_step hf h.freshInText) reached)
  freshInText := isPositions_newPositions (isPositions_step hf h.freshInText) reached
  subset _ hi := mem_mergePositions.mpr (.inr hi)
  done _ hi hnew _ hspans := mem_mergePositions.mpr
    (mem_or_mem_next hf h ((mem_mergePositions.mp hi).resolve_right hnew) hspans)

lemma isPositions_closure (hf : StepsOver text p f) (n : Nat) (h : IsSearch text p reached fresh) :
    IsPositions text (closure f n reached fresh) := by
  induction n generalizing reached fresh with
  | zero => exact h.inText
  | succ n ih =>
    rw [Pattern.closure]
    split_ifs
    · exact h.inText
    · exact ih (isSearch_next hf h)

/-- The closure of a step has all that some number of steps up to the bound leads to. -/
lemma mem_closure_iff (hf : StepsOver text p f) {n : Nat} (h : IsSearch text p reached fresh)
    (j : Nat) : j ∈ closure f n reached fresh ↔
      ∃ k ≤ n, ∃ i ∈ reached, Spans text (repeated p k) i j := by
  have hstay {n : Nat} (hj : j ∈ reached) :
      ∃ k ≤ n, ∃ i ∈ reached, Spans text (repeated p k) i j :=
    ⟨0, Nat.zero_le n, j, hj, spans_nothing_iff.mpr ⟨rfl, h.inText.inside j hj⟩⟩
  induction n generalizing reached fresh with
  | zero =>
    refine ⟨hstay, ?_⟩
    rintro ⟨k, hk, i, hi, hspans⟩
    obtain rfl : k = 0 := Nat.le_zero.mp hk
    obtain ⟨rfl, -⟩ := spans_nothing_iff.mp hspans
    exact hi
  | succ n ih =>
    rw [Pattern.closure]
    split_ifs with hempty
    · refine ⟨hstay, ?_⟩
      rintro ⟨k, -, i, hi, hspans⟩
      refine mem_of_spans_repeated (fun i hi j hj => ?_) hi hspans
      exact (mem_or_mem_next hf h hi hj).resolve_right (by simp [List.isEmpty_iff.mp hempty])
    · have hnext := isSearch_next hf h
      refine (ih hnext fun hj => ⟨0, Nat.zero_le _, j, hj,
        spans_nothing_iff.mpr ⟨rfl, hnext.inText.inside j hj⟩⟩).trans ⟨?_, ?_⟩
      · rintro ⟨k, hk, i, hi, hspans⟩
        rcases mem_mergePositions.mp hi with hi | hi
        · exact ⟨k, by omega, i, hi, hspans⟩
        · obtain ⟨⟨m, hm, hmi⟩, -⟩ := (mem_next_iff hf h i).mp hi
          exact ⟨k + 1, by omega, m, h.subset m hm, spans_repeated_succ_iff.mpr ⟨i, hmi, hspans⟩⟩
      · rintro ⟨k, hk, i, hi, hspans⟩
        cases k with
        | zero => exact ⟨0, Nat.zero_le n, i, mem_mergePositions.mpr (.inl hi), hspans⟩
        | succ k =>
          obtain ⟨m, hm, hrest⟩ := spans_repeated_succ_iff.mp hspans
          exact ⟨k, by omega, m, mem_mergePositions.mpr (mem_or_mem_next hf h hi hm), hrest⟩

/-- The search from positions for repetitions: first the least number, then as many more as there
may be. -/
lemma stepsOver_times (hf : StepsOver text p f) (min : Nat) (max : Option Nat) :
    StepsOver text (fun before part after => ∃ extra, (∀ m ∈ max, extra ≤ m - min) ∧
        repeated p (min + extra) before part after) fun positions =>
      closure f ((max.map (· - min)).getD (text.toArray.size + 1)) (iterate f min positions)
        (iterate f min positions) := by
  have hstart := stepsOver_repeated hf min
  have hsearch {positions : Positions} (h : IsPositions text positions) :
      IsSearch text p (iterate f min positions) (iterate f min positions) :=
    have hin := isPositions_step hstart h
    ⟨hin, hin, fun _ => id, fun _ hi hnew => absurd hi hnew⟩
  -- a repetition without a bound is found within as many steps as there are characters
  have hbound (k i j : Nat) (h : Spans text (repeated p k) i j) (hmax : ∀ m ∈ max, k ≤ m - min) :
      ∃ k ≤ (max.map (· - min)).getD (text.toArray.size + 1), Spans text (repeated p k) i j := by
    cases max with
    | none =>
      obtain ⟨k, hk, hspans⟩ := exists_spans_repeated_le h
      exact ⟨k, by simp; omega, hspans⟩
    | some m => exact ⟨k, hmax m rfl, h⟩
  constructor
  · exact fun h => (isPositions_closure hf _ (hsearch h)).ordered
  · intro positions h j
    simp only [mem_closure_iff hf (hsearch h), hstart.mem_iff h]
    constructor
    · rintro ⟨k, hk, m, ⟨i, hi, hm⟩, hj⟩
      obtain ⟨before, part, after, hsplit, hi', hj', hrepeated⟩ :=
        spans_repeated_add_iff.mpr ⟨m, hm, hj⟩
      refine ⟨i, hi, before, part, after, hsplit, hi', hj', k, ?_, hrepeated⟩
      rintro m hmax
      rw [Option.mem_def.mp hmax] at hk
      exact hk
    · rintro ⟨i, hi, before, part, after, hsplit, hi', hj', extra, hmax, hrepeated⟩
      obtain ⟨m, hm, hrest⟩ :=
        spans_repeated_add_iff.mp ⟨before, part, after, hsplit, hi', hj', hrepeated⟩
      obtain ⟨k, hk, hj⟩ := hbound extra m j hrest hmax
      exact ⟨k, hk, m, ⟨i, hi, hm⟩, hj⟩

theorem stepsOver_ends (text : List Char) (node : Node) :
    StepsOver text (Matches node) (node.ends text.toArray) := by
  induction node with
  | empty => exact stepsOver_nothing
  | literal chars => exact stepsOver_literal chars
  | set chars => exact stepsOver_char fun c => chars.contains c.toNat
  | anchor kind ascii =>
    exact stepsOver_anchor kind fun c => isWord c && (!ascii || c.toNat < 128)
  | group _ a ih => exact ih
  | seq a b iha ihb =>
    have h := stepsOver_followedBy iha ihb
    exact h
  | alt a b iha ihb => exact stepsOver_or iha ihb
  | times a min max _ ih => exact stepsOver_times ih min max

theorem occursIn_iff_matches (node : Node) (text : List Char) : node.occursIn text = true ↔
    ∃ before part after, text = before ++ (part ++ after) ∧ Matches node before part after := by
  have hall : IsPositions text (List.range (text.length + 1)) := by
    refine ⟨List.pairwise_lt_range, fun i hi => ?_⟩
    have := List.mem_range.mp hi
    omega
  have hends : node.occursIn text = true ↔
      ∃ j, j ∈ node.ends text.toArray (List.range (text.length + 1)) := by
    rw [Node.occursIn, Bool.not_eq_true', List.isEmpty_eq_false_iff_exists_mem]
  rw [hends]
  simp only [(stepsOver_ends text node).mem_iff hall]
  constructor
  · rintro ⟨j, i, -, before, part, after, hsplit, -, -, hmatches⟩
    exact ⟨before, part, after, hsplit, hmatches⟩
  · rintro ⟨before, part, after, hsplit, hmatches⟩
    refine ⟨_, before.length, List.mem_range.mpr ?_, before, part, after, hsplit, rfl, rfl,
      hmatches⟩
    rw [hsplit]
    simp

end Steps

end Autograder.Proofs
