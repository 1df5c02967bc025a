import Autograder.Json.Reader
import Autograder.Proofs.Text.Scanning

/-!
# Numerals read back

A numeral of the usual form is read back from its text, up to whatever cannot continue it. The
numerals of natural numbers and of doubles are of that form, and that of a natural number below the
limit is read as the number.
-/

namespace Autograder.Proofs

open Autograder.Json Autograder.Numeral

/-- The digits of a whole number: at least one, and no zero in front of others. -/
structure IsWhole (digits : List Char) : Prop where
  isDigit : ∀ c ∈ digits, c.isDigit = true
  ne_nil : digits ≠ []
  leading : digits.head? = some '0' → digits.length ≤ 1

/-- The numerals that the data format knows. -/
structure IsWritten (n : Numeral) : Prop where
  whole : IsWhole n.whole
  fraction : ∀ c ∈ n.fraction, c.isDigit = true
  exponent : ∀ negative digits, n.exponent = some (negative, digits) →
    digits ≠ [] ∧ ∀ c ∈ digits, c.isDigit = true

/-- Whether the character behind a numeral would be read as part of it. -/
def continuesNumeral (c : Char) : Bool :=
  c.isDigit || c == '.' || c == 'e' || c == 'E'

section Reading

variable {digits rest s : List Char}

lemma readDigits_append (hne : digits ≠ []) (hdigits : ∀ c ∈ digits, c.isDigit = true)
    (hrest : StartsOutside Char.isDigit rest) :
    readDigits (digits ++ rest) = some (digits, rest) := by
  unfold readDigits
  rw [takeWhile_run_append hdigits hrest, dropWhile_run_append hdigits hrest]
  cases digits with
  | nil => exact absurd rfl hne
  | cons c digits => rfl

lemma readWhole_append (h : IsWhole digits) (hrest : StartsOutside Char.isDigit rest) :
    readWhole (digits ++ rest) = some (digits, rest) := by
  have hleading : ¬ ((digits.head? == some '0') = true ∧ 1 < digits.length) := by
    rintro ⟨hzero, hlong⟩
    exact absurd (h.leading (beq_iff_eq.mp hzero)) (Nat.not_le.mpr hlong)
  unfold readWhole
  rw [readDigits_append h.ne_nil h.isDigit hrest]
  simp only [Option.bind_eq_bind, Option.bind_some, Bool.and_eq_true, decide_eq_true_eq,
    if_neg hleading]

/-- The text of the digits behind the point, and of the point if there are any. -/
def fractionText (fraction : List Char) : List Char :=
  if fraction.isEmpty then [] else '.' :: fraction

/-- The text of the exponent, if there is one. -/
def exponentText : Option (Bool × List Char) → List Char
  | none => []
  | some (negative, digits) => 'e' :: (if negative then ['-'] else []) ++ digits

lemma write_eq (n : Numeral) : n.write = (if n.negative then ['-'] else []) ++ n.whole ++
    fractionText n.fraction ++ exponentText n.exponent := by
  obtain ⟨negative, whole, fraction, exponent⟩ := n
  cases exponent <;> rfl

lemma readFraction_append {fraction : List Char} (hfraction : ∀ c ∈ fraction, c.isDigit = true)
    (hrest : StartsOutside (fun c => c.isDigit || c == '.') rest) :
    readFraction (fractionText fraction ++ rest) = some (fraction, rest) := by
  cases fraction with
  | nil =>
    cases rest with
    | nil => rfl
    | cons c rest =>
      have hpoint : c ≠ '.' := by
        rintro rfl
        exact absurd (startsOutside_cons.mp hrest) (by decide)
      change readFraction (c :: rest) = _
      unfold readFraction
      split
      · next heq => exact absurd (List.cons.inj heq).1 hpoint
      · rfl
  | cons c fraction =>
    refine readDigits_append (List.cons_ne_nil _ _) hfraction fun d hd => ?_
    have := hrest d hd
    simp only [Bool.or_eq_false_iff] at this
    exact this.1

lemma readExponent_of_isDigit {c : Char} (h : c.isDigit = true) :
    readExponent ('e' :: c :: s) =
      (readDigits (c :: s)).map fun (digits, rest) => (some (false, digits), rest) := by
  have hminus : c ≠ '-' := by rintro rfl; exact absurd h (by decide)
  have hplus : c ≠ '+' := by rintro rfl; exact absurd h (by decide)
  simp only [readExponent, beq_self_eq_true, Bool.true_or, if_true]
  split
  · next heq => exact absurd (List.cons.inj heq).1 hminus
  · next heq => exact absurd (List.cons.inj heq).1 hplus
  · rfl

lemma readExponent_append {exponent : Option (Bool × List Char)}
    (hexponent : ∀ negative digits, exponent = some (negative, digits) →
      digits ≠ [] ∧ ∀ c ∈ digits, c.isDigit = true)
    (hrest : StartsOutside continuesNumeral rest) :
    readExponent (exponentText exponent ++ rest) = some (exponent, rest) := by
  cases exponent with
  | none =>
    cases rest with
    | nil => rfl
    | cons c rest =>
      have houtside := startsOutside_cons.mp hrest
      simp only [continuesNumeral, Bool.or_eq_false_iff] at houtside
      simp [exponentText, readExponent, houtside.1.2, houtside.2]
  | some e =>
    obtain ⟨negative, digits⟩ := e
    obtain ⟨hne, hdigits⟩ := hexponent negative digits rfl
    have hread : readDigits (digits ++ rest) = some (digits, rest) := by
      refine readDigits_append hne hdigits fun c hc => ?_
      have := hrest c hc
      simp only [continuesNumeral, Bool.or_eq_false_iff] at this
      exact this.1.1.1
    cases negative with
    | true =>
      change (readDigits (digits ++ rest)).map _ = _
      rw [hread]
      rfl
    | false =>
      obtain ⟨c, others, rfl⟩ := List.exists_cons_of_ne_nil hne
      change readExponent ('e' :: c :: (others ++ rest)) = _
      rw [readExponent_of_isDigit (hdigits c List.mem_cons_self), ← List.cons_append, hread]
      rfl

lemma startsOutside_fractionText {p : Char → Bool} (hpoint : p '.' = false) (fraction : List Char)
    (hs : StartsOutside p s) : StartsOutside p (fractionText fraction ++ s) := by
  cases fraction with
  | nil => exact hs
  | cons c fraction => exact startsOutside_cons.mpr hpoint

lemma startsOutside_exponentText {p : Char → Bool} (hmark : p 'e' = false)
    (exponent : Option (Bool × List Char)) (hs : StartsOutside p s) :
    StartsOutside p (exponentText exponent ++ s) := by
  cases exponent with
  | none => exact hs
  | some e => exact startsOutside_cons.mpr hmark

/-- A numeral is read back from its text, up to what cannot continue it. -/
theorem readNumeral_write {n : Numeral} (h : IsWritten n)
    (hrest : StartsOutside continuesNumeral rest) :
    readNumeral (n.write ++ rest) = some (n, rest) := by
  have hnone : StartsOutside (fun c => c.isDigit || c == '.') rest := by
    intro c hc
    have := hrest c hc
    simp only [continuesNumeral, Bool.or_eq_false_iff] at this ⊢
    exact this.1.1
  have hbehind : StartsOutside (fun c => c.isDigit || c == '.')
      (exponentText n.exponent ++ rest) := startsOutside_exponentText rfl _ hnone
  have hdigit : StartsOutside Char.isDigit
      (fractionText n.fraction ++ (exponentText n.exponent ++ rest)) := by
    refine startsOutside_fractionText rfl _ fun c hc => ?_
    have := hbehind c hc
    simp only [Bool.or_eq_false_iff] at this
    exact this.1
  have hunsigned : ((readWhole
        (n.whole ++ (fractionText n.fraction ++ (exponentText n.exponent ++ rest)))).bind fun whole =>
      (readFraction whole.2).bind fun fraction => (readExponent fraction.2).bind fun exponent =>
        some ((⟨n.negative, whole.1, fraction.1, exponent.1⟩ : Numeral), exponent.2)) =
      some (n, rest) := by
    rw [readWhole_append h.whole hdigit, Option.bind_some, readFraction_append h.fraction hbehind,
      Option.bind_some, readExponent_append h.exponent hrest, Option.bind_some]
  rw [write_eq, List.append_assoc, List.append_assoc, List.append_assoc]
  unfold readNumeral
  cases hnegative : n.negative with
  | true =>
    rw [hnegative] at hunsigned
    exact hunsigned
  | false =>
    rw [hnegative] at hunsigned
    obtain ⟨c, digits, hwhole⟩ := List.exists_cons_of_ne_nil h.whole.ne_nil
    have hminus : c ≠ '-' := by
      rintro rfl
      exact absurd (h.whole.isDigit '-' (hwhole ▸ List.mem_cons_self)) (by decide)
    rw [hwhole] at hunsigned ⊢
    simp only [Bool.false_eq_true, if_false, List.nil_append, List.cons_append]
    split
    · next heq => exact absurd (List.cons.inj heq).1 hminus
    · exact hunsigned

end Reading

section Writing

variable {n : Nat}

lemma isDigit_of_mem_digitsOf : ∀ c ∈ digitsOf n, c.isDigit = true :=
  fun _ => Nat.isDigit_of_mem_toDigits (by decide) (by decide)

lemma digitsOf_ne_nil : digitsOf n ≠ [] :=
  Nat.toDigits_ne_nil

lemma head?_digitsOf (hn : n ≠ 0) : (digitsOf n).head? ≠ some '0' := by
  induction n using Nat.strong_induction_on with
  | _ n ih =>
    unfold digitsOf
    rw [Nat.toDigits_eq_if (by decide)]
    split_ifs with hsmall
    · have hall : ∀ d < 10, d ≠ 0 → d.digitChar ≠ '0' := by decide
      simpa using hall n hsmall hn
    · rw [List.head?_append_of_ne_nil _ Nat.toDigits_ne_nil]
      exact ih (n / 10) (by omega) (by omega)

lemma isWhole_digitsOf (n : Nat) : IsWhole (digitsOf n) where
  isDigit := isDigit_of_mem_digitsOf
  ne_nil := digitsOf_ne_nil
  leading h := by
    have hzero : n = 0 := by
      by_contra hn
      exact head?_digitsOf hn h
    subst hzero
    decide

lemma isWritten_ofNat (n : Nat) : IsWritten (Numeral.ofNat n) where
  whole := isWhole_digitsOf n
  fraction := by simp [Numeral.ofNat]
  exponent := by simp [Numeral.ofNat]

lemma valueOf_digitsOf (n : Nat) : valueOf (digitsOf n) = n :=
  Nat.ofDigitChars_toDigits (by decide) (by decide)

theorem toNat?_ofNat {limit : Nat} (h : n ≤ limit) :
    (Numeral.ofNat n).toNat? limit = some n := by
  simp [toNat?, Numeral.ofNat, valueOf_digitsOf, h]

lemma isWhole_of_head? {digits : List Char} (hdigits : ∀ c ∈ digits, c.isDigit = true)
    (hne : digits ≠ []) (hhead : digits.head? ≠ some '0') : IsWhole digits :=
  ⟨hdigits, hne, fun h => absurd h hhead⟩

theorem isWritten_ofParts (negative : Bool) (mantissa : Nat) (exponent : Int) :
    IsWritten (ofParts negative mantissa exponent) := by
  unfold ofParts
  generalize Number.shortest mantissa exponent = d
  have hdigits : ∀ c ∈ digitsOf d.coefficient, c.isDigit = true := isDigit_of_mem_digitsOf
  have hzeros (k : Nat) : ∀ c ∈ List.replicate k '0', c.isDigit = true :=
    fun c hc => by rw [List.eq_of_mem_replicate hc]; decide
  have htake (k : Nat) : ∀ c ∈ (digitsOf d.coefficient).take k, c.isDigit = true :=
    fun c hc => hdigits c (List.mem_of_mem_take hc)
  have hdrop (k : Nat) : ∀ c ∈ (digitsOf d.coefficient).drop k, c.isDigit = true :=
    fun c hc => hdigits c (List.mem_of_mem_drop hc)
  have hzero : IsWhole ['0'] := isWhole_digitsOf 0
  dsimp only
  by_cases hcoefficient : d.coefficient = 0
  · simp only [hcoefficient, beq_self_eq_true, if_true]
    exact ⟨hzero, hzero.isDigit, by simp⟩
  · have hhead := head?_digitsOf hcoefficient
    have hnonzero : (d.coefficient == 0) = false := by simpa using hcoefficient
    -- a first part of the digits starts with no zero, as all of them do
    have hfront {k : Nat} (hk : 0 < k) : IsWhole ((digitsOf d.coefficient).take k) := by
      refine isWhole_of_head? (htake k) ?_ ?_
      · rw [Ne, List.take_eq_nil_iff]
        rintro (rfl | hnil)
        · exact absurd hk (lt_irrefl 0)
        · exact digitsOf_ne_nil hnil
      · rwa [List.head?_take, if_neg hk.ne']
    simp only [hnonzero, Bool.false_eq_true, if_false]
    split_ifs with hwhole hpoint hsmall
    · refine ⟨isWhole_of_head? ?_ ?_ ?_, hzero.isDigit, by simp⟩
      · exact List.forall_mem_append.mpr ⟨hdigits, hzeros _⟩
      · simp [digitsOf_ne_nil]
      · rwa [List.head?_append_of_ne_nil _ digitsOf_ne_nil]
    · simp only [Bool.and_eq_true, decide_eq_true_eq] at hpoint
      exact ⟨hfront (by omega), hdrop _, by simp⟩
    · exact ⟨hzero, List.forall_mem_append.mpr ⟨hzeros _, hdigits⟩, by simp⟩
    · refine ⟨hfront one_pos, hdrop _, ?_⟩
      rintro negative digits heq
      obtain ⟨-, rfl⟩ := Prod.mk.inj (Option.some.inj heq)
      exact ⟨digitsOf_ne_nil, isDigit_of_mem_digitsOf⟩

end Writing

end Autograder.Proofs
