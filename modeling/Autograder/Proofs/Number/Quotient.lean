import Autograder.Proofs.Number.Exact

/-!
# Quotients of whole numbers

A quotient of whole numbers is rounded once to 53 bits when it is computed, and once more when it is
read as a whole number. The first rounding is too fine to disturb the second: together they round
the exact quotient, halves upwards. The proofs follow a fraction through the shifts of a mantissa,
of which each doubles the denominator.
-/

namespace Autograder.Proofs

open Float.Model Float.Model.UnpackedFloat Autograder.Number

/-- What a double unpacked into its parts stands for. -/
def unpackedValue : UnpackedFloat → Value
  | .notANumber => .nan
  | .infinity sign => .infinite (sign matches .negative)
  | .zero sign => .finite (sign matches .negative) 0 (-1074)
  | .finite sign mantissa exponent _ => .finite (sign matches .negative) mantissa exponent

section Bits

variable (b : BitVec Format.binary64.numBits)

lemma toNat_unpackExponent : (unpackExponent b).toNat = b.toNat / 2 ^ 52 % 2 ^ 11 := by
  rw [unpackExponent_def, BitVec.extractLsb'_toNat, Nat.shiftRight_eq_div_pow]

lemma toNat_unpackMantissa : (unpackMantissa b).toNat = b.toNat % 2 ^ 52 := by
  rw [unpackMantissa_def, BitVec.extractLsb'_toNat, Nat.shiftRight_zero]

lemma isNegative_unpackSign :
    (Sign.ofBitVec (unpackSign b) matches .negative) = decide (2 ^ 63 ≤ b.toNat) := by
  have hb : b.toNat < 2 ^ 64 := b.isLt
  have hsign : (unpackSign b).toNat = b.toNat / 2 ^ 63 := by
    rw [unpackSign_def, BitVec.extractLsb'_toNat, Nat.shiftRight_eq_div_pow]
    change b.toNat / 2 ^ 63 % 2 ^ 1 = _
    omega
  by_cases h : 2 ^ 63 ≤ b.toNat
  · have hone : unpackSign b = 1#1 := by
      apply BitVec.eq_of_toNat_eq
      rw [hsign]
      change _ = 1
      omega
    rw [hone, decide_eq_true h]
    rfl
  · have hzero : unpackSign b = 0#1 := by
      apply BitVec.eq_of_toNat_eq
      rw [hsign]
      change _ = 0
      omega
    rw [hzero, decide_eq_false h]
    rfl

lemma ofBits_eq_unpackedValue :
    Value.ofBits b.toNat = unpackedValue (UnpackedFloat.unpack Format.binary64 b) := by
  have hexponent := toNat_unpackExponent b
  have hmantissa := toNat_unpackMantissa b
  have hones : unpackExponent b = -(BitVec.ofNat Format.binary64.exponentBits 1) ↔
      b.toNat / 2 ^ 52 % 2 ^ 11 = 2047 := by
    rw [← hexponent, BitVec.toNat_eq]
    rfl
  have hzeros : unpackExponent b = BitVec.ofNat Format.binary64.exponentBits 0 ↔
      b.toNat / 2 ^ 52 % 2 ^ 11 = 0 := by
    rw [← hexponent, BitVec.toNat_eq]
    rfl
  have hnone : unpackMantissa b = BitVec.ofNat Format.binary64.mantissaBitsWithoutImplicit 0 ↔
      b.toNat % 2 ^ 52 = 0 := by
    rw [← hmantissa, BitVec.toNat_eq]
    rfl
  have himplicit : (1#1 ++ unpackMantissa b).toNat = 2 ^ 52 + b.toNat % 2 ^ 52 := by
    rw [BitVec.toNat_append, ← Nat.shiftLeft_add_eq_or_of_lt (BitVec.isLt _), Nat.shiftLeft_eq,
      hmantissa]
    rfl
  have hbias : (Format.binary64.exponentBias : ℤ) + Format.binary64.mantissaBitsWithoutImplicit =
      1075 := rfl
  simp only [UnpackedFloat.unpack, Value.ofBits, Nat.pow_eq, beq_iff_eq, ← isNegative_unpackSign,
    hones, hzeros, hnone, hbias]
  split_ifs with hspecial hfraction hsmall hnonzero
  · rfl
  · rfl
  · simp only [unpackedValue, hnonzero]
  · simp only [unpackedValue, hmantissa, hexponent, hsmall]
    rfl
  · simp only [unpackedValue, himplicit, hexponent]

end Bits

lemma value_eq_unpackedValue (x : Float) : value x = unpackedValue x.toModel.unpack :=
  ofBits_eq_unpackedValue x.toModel.toBits.toBitVec

/-- The mantissa of a fraction, with what the residual bits tell of the rest. -/
def fractionMantissa (num den : Nat) : ExtendedMantissa :=
  .ofMantissaAndAccuracy (num / den) (accuracyOfFraction (num % den) den)

section Fraction

variable {num den : Nat}

lemma shiftRightOne_inexact (mantissa : Nat) (order : Ordering) :
    (ExtendedMantissa.ofMantissaAndAccuracy mantissa (.inexact order)).shiftRightOne =
      ⟨mantissa / 2, mantissa % 2 != 0, true⟩ := by
  cases order <;> rfl

/-- Dropping a bit of the mantissa doubles the denominator. -/
lemma shiftRightOne_fractionMantissa (hden : 0 < den) :
    (fractionMantissa num den).shiftRightOne = fractionMantissa num (den * 2) := by
  have hlt := Nat.mod_lt num hden
  have hquotient : num / (den * 2) = num / den / 2 := (Nat.div_div_eq_div_mul _ _ _).symm
  have hremainder : num % (den * 2) = num % den + den * (num / den % 2) := Nat.mod_mul
  have hparity : num / den % 2 = 0 ∨ num / den % 2 = 1 := by omega
  simp only [fractionMantissa, accuracyOfFraction, hquotient, hremainder]
  rcases Nat.eq_zero_or_pos (num % den) with hzero | hpos
  · rcases hparity with heven | hodd
    · simp [hzero, heven, ExtendedMantissa.ofMantissaAndAccuracy, ExtendedMantissa.shiftRightOne]
    · have hcompare : compare (2 * den) (den * 2) = .eq := by rw [mul_comm]; simp
      simp [hzero, hodd, ExtendedMantissa.ofMantissaAndAccuracy, ExtendedMantissa.shiftRightOne,
        hden.ne', hcompare]
  · rw [if_neg hpos.ne', shiftRightOne_inexact]
    rcases hparity with heven | hodd
    · have hcompare : compare (2 * (num % den)) (den * 2) = .lt :=
        Nat.compare_eq_lt.mpr (by omega)
      simp [heven, hpos.ne', ExtendedMantissa.ofMantissaAndAccuracy, hcompare]
    · have hcompare : compare (2 * (num % den + den)) (den * 2) = .gt :=
        Nat.compare_eq_gt.mpr (by omega)
      simp [hodd, hden.ne', ExtendedMantissa.ofMantissaAndAccuracy, hcompare]

lemma shiftRight_fractionMantissa (hden : 0 < den) (k : Nat) :
    fractionMantissa num den >>> k = fractionMantissa num (den * 2 ^ k) := by
  induction k with
  | zero => simp [HShiftRight.hShiftRight, Nat.repeat]
  | succ k ih =>
    change (fractionMantissa num den >>> k).shiftRightOne = _
    rw [ih, shiftRightOne_fractionMantissa (by positivity), mul_assoc, pow_succ]

lemma roundedMantissa_ofMantissaAndAccuracy (mantissa : Nat) (accuracy : Accuracy) :
    (ExtendedMantissa.ofMantissaAndAccuracy mantissa accuracy).roundedMantissa =
      accuracy.roundToNearestEven mantissa := by
  rcases accuracy with _ | (_ | _ | _) <;> rfl

lemma roundedMantissa_fractionMantissa (hden : 0 < den) :
    (fractionMantissa num den).roundedMantissa = divHalfEven num den := by
  rw [fractionMantissa, roundedMantissa_ofMantissaAndAccuracy]
  simp only [accuracyOfFraction, divHalfEven, Bool.or_eq_true, decide_eq_true_eq, Bool.and_eq_true,
    beq_iff_eq]
  rcases Nat.eq_zero_or_pos (num % den) with hzero | hpos
  · have hexact : ¬ (den < 0 ∨ 0 = den ∧ num / den % 2 = 1) := by omega
    simp only [hzero, if_true, mul_zero, if_neg hexact, Accuracy.roundToNearestEven]
  · rw [if_neg hpos.ne']
    rcases lt_trichotomy (2 * (num % den)) den with hless | htie | hmore
    · rw [Nat.compare_eq_lt.mpr hless, if_neg (by omega)]
      rfl
    · have hparity : num / den % 2 = 0 ∨ num / den % 2 = 1 := by omega
      rw [Nat.compare_eq_eq.mpr htie]
      simp only [Accuracy.roundToNearestEven, htie, lt_irrefl, true_and, false_or]
      split_ifs <;> omega
    · rw [Nat.compare_eq_gt.mpr hmore, if_pos (.inl hmore)]
      rfl

lemma le_divHalfEven : num / den ≤ divHalfEven num den := by
  simp only [divHalfEven]
  split_ifs <;> omega

lemma divHalfEven_le : divHalfEven num den ≤ num / den + 1 := by
  simp only [divHalfEven]
  split_ifs <;> omega

lemma two_mul_divHalfEven_mul_le :
    2 * (divHalfEven num den * den) ≤ 2 * num + den := by
  have hsplit : num / den * den + num % den = num := by
    rw [mul_comm]; exact Nat.div_add_mod num den
  simp only [divHalfEven, Bool.or_eq_true, decide_eq_true_eq, Bool.and_eq_true, beq_iff_eq]
  split_ifs with hup
  · have hhalf : den ≤ 2 * (num % den) := by omega
    rw [add_mul]
    omega
  · omega

lemma divHalfEven_mul_right {c : Nat} (hc : 0 < c) :
    divHalfEven (num * c) (den * c) = divHalfEven num den := by
  have hquotient : num * c / (den * c) = num / den := Nat.mul_div_mul_right _ _ hc
  have hremainder : 2 * (num * c % (den * c)) = 2 * (num % den) * c := by
    rw [Nat.mul_mod_mul_right, mul_assoc]
  have hless : den * c < 2 * (num % den) * c ↔ den < 2 * (num % den) := Nat.mul_lt_mul_right hc
  have htie : 2 * (num % den) * c = den * c ↔ 2 * (num % den) = den := Nat.mul_left_inj hc.ne'
  simp only [divHalfEven, hquotient, hremainder, Bool.or_eq_true, decide_eq_true_eq,
    Bool.and_eq_true, beq_iff_eq, hless, htie]

lemma divHalfUp_mul_right {c : Nat} (hc : 0 < c) :
    divHalfUp (num * c) (den * c) = divHalfUp num den := by
  have hnum : 2 * (num * c) + den * c = (2 * num + den) * c := by ring
  rw [divHalfUp, hnum, ← mul_assoc, Nat.mul_div_mul_right _ _ hc, divHalfUp]

lemma divHalfUp_le_divHalfUp {a : Nat} (h : num ≤ a) : divHalfUp num den ≤ divHalfUp a den :=
  Nat.div_le_div_right (by omega)

lemma divHalfUp_eq_round (hden : 0 < den) : (divHalfUp num den : ℤ) = round ((num : ℚ) / den) := by
  have hhalves : (num : ℚ) / den + 1 / 2 = ((2 * num + den : ℕ) : ℚ) / ((2 * den : ℕ) : ℚ) := by
    push_cast
    field_simp
  rw [round_eq, hhalves, Rat.floor_natCast_div_natCast]
  rfl

/-- Rounding to a binary grid that is finer than `1 / b` does not disturb rounding to a whole
number. -/
lemma divHalfUp_divHalfEven {a b j : Nat} (hb : 0 < b) (hj : b < 2 ^ j) :
    divHalfUp (divHalfEven (a * 2 ^ j) b) (2 ^ j) = divHalfUp a b := by
  obtain ⟨i, rfl⟩ : ∃ i, j = i + 1 := by
    cases j with
    | zero => omega
    | succ i => exact ⟨i, rfl⟩
  rw [pow_succ] at hj ⊢
  set h := 2 ^ i
  set m := divHalfEven (a * (h * 2)) b
  set n := divHalfUp a b with hdef
  have hn : n * (2 * b) ≤ 2 * a + b := Nat.div_mul_le_self _ _
  have hn' : 2 * a + b < (n + 1) * (2 * b) := by
    rw [mul_comm (n + 1)]
    exact Nat.lt_mul_div_succ (2 * a + b) (by omega)
  -- `n - 1 / 2` is on the grid, so it is not passed from above
  have hlow : n * (2 * (h * 2)) ≤ 2 * m + h * 2 := by
    have hm : a * (h * 2) / b ≤ m := le_divHalfEven
    cases hcases : n with
    | zero => omega
    | succ k =>
      have hgrid : (2 * k + 1) * h ≤ a * (h * 2) / b := by
        rw [Nat.le_div_iff_mul_le hb]
        rw [hcases] at hn
        have hscaled : (2 * k + 1) * b ≤ 2 * a := by linarith
        nlinarith
      linarith
  -- `n + 1 / 2` is on the grid as well, and farther away than the error
  have hhigh : 2 * m + h * 2 < (n + 1) * (2 * (h * 2)) := by
    have hm : 2 * (m * b) ≤ 2 * (a * (h * 2)) + b := two_mul_divHalfEven_mul_le
    have hscaled : 2 * a + 1 ≤ (2 * n + 1) * b := by linarith
    have hproduct : m * b < (2 * n + 1) * h * b := by nlinarith
    have hless : m < (2 * n + 1) * h := lt_of_mul_lt_mul_right hproduct (Nat.zero_le b)
    linarith
  exact Nat.div_eq_of_lt_le hlow hhigh

end Fraction

section Round

variable {num den k : Nat} {e : ℤ}

lemma ne_zero_of_log2_eq {n : Nat} (h : n.log2 = 52 + k) : n ≠ 0 := by
  rintro rfl
  rw [Nat.log2_zero] at h
  omega

/-- Rounding a fraction to 53 bits. A mantissa that is rounded up to 54 bits is shifted once
more. -/
lemma roundWithAccuracy_fraction (sign : Sign) (hden : 0 < den) (hlog : (num / den).log2 = 52 + k)
    (he : -1074 ≤ e + k) : ∃ (m s : Nat) (hpos : 0 < m), m.log2 = 52 ∧ s ≤ 1 ∧
      m * 2 ^ s = divHalfEven num (den * 2 ^ k) ∧
      roundWithAccuracy Format.binary64 sign (num / den) e (accuracyOfFraction (num % den) den) =
        .finite sign m (e + k + s) hpos := by
  have htarget : Format.binary64.targetExponent (totalExponent (num / den) e) = e + k := by
    rw [targetExponent_binary64, totalExponent, hlog]
    push_cast
    omega
  have hamount : (e + k - e).toNat = k := by omega
  have hfirst : shiftToTargetExponent Format.binary64 (num / den) e
      (accuracyOfFraction (num % den) den) = (fractionMantissa num (den * 2 ^ k), e + k) := by
    simp only [shiftToTargetExponent, shiftToExponent, htarget, hamount]
    rw [← shiftRight_fractionMantissa hden]
    rfl
  have hquotient : num / (den * 2 ^ k) = num / den / 2 ^ k := (Nat.div_div_eq_div_mul _ _ _).symm
  obtain ⟨hlow, hhigh⟩ := (Nat.log2_eq_iff (ne_zero_of_log2_eq hlog)).mp hlog
  have hlow' : 2 ^ 52 ≤ num / den / 2 ^ k := by
    rw [Nat.le_div_iff_mul_le (by positivity), ← pow_add]
    exact hlow
  have hhigh' : num / den / 2 ^ k < 2 ^ 53 := by
    rw [Nat.div_lt_iff_lt_mul (by positivity), ← pow_add]
    convert hhigh using 2
    omega
  set r := divHalfEven num (den * 2 ^ k) with hr
  have hrlow : 2 ^ 52 ≤ r := (hquotient ▸ hlow').trans le_divHalfEven
  have hrhigh : r ≤ 2 ^ 53 := divHalfEven_le.trans (hquotient ▸ hhigh')
  have hround : (fractionMantissa num (den * 2 ^ k)).roundedMantissa = r :=
    roundedMantissa_fractionMantissa (by positivity)
  rcases hrhigh.lt_or_eq with hless | htop
  · have hlogr : r.log2 = 52 := (Nat.log2_eq_iff (by omega)).mpr ⟨hrlow, hless⟩
    have hsecond := shiftToTargetExponent_mul_two_pow (k := 0) (e := e + k) hlogr (by omega)
      (by simpa using he)
    rw [pow_zero, mul_one] at hsecond
    refine ⟨r, 0, by omega, hlogr, by omega, by simp, ?_⟩
    simp only [roundWithAccuracy, hfirst, hround, hsecond]
    rw [dif_neg (by omega)]
  · have hsecond := shiftToTargetExponent_mul_two_pow (a := 2 ^ 52) (k := 1) (e := e + k)
      (by decide) (by norm_num) (by push_cast; omega)
    have hsum : 2 ^ 52 * 2 ^ 1 = r := by rw [htop]; norm_num
    rw [hsum] at hsecond
    refine ⟨2 ^ 52, 1, by norm_num, by decide, le_rfl, hsum, ?_⟩
    simp only [roundWithAccuracy, hfirst, hround, hsecond]
    rw [dif_neg (by norm_num)]

end Round

section Quotient

variable {a b : Nat}

lemma divCore_wholeParts (i : Nat) (ha : 0 < a) (ha' : a < 2 ^ 53) (hb : 0 < b)
    (hb' : b < 2 ^ 53) :
    divCore Format.binary64 (a * 2 ^ (52 - a.log2)) ((a.log2 : ℤ) - 52 + i)
        (b * 2 ^ (52 - b.log2)) ((b.log2 : ℤ) - 52) =
      (a * 2 ^ (52 - a.log2) * 2 ^ 53 / (b * 2 ^ (52 - b.log2)), (a.log2 : ℤ) + i - b.log2 - 53,
        accuracyOfFraction (a * 2 ^ (52 - a.log2) * 2 ^ 53 % (b * 2 ^ (52 - b.log2)))
          (b * 2 ^ (52 - b.log2))) := by
  have hla := log2_lt_of_lt ha ha'
  have hlb := log2_lt_of_lt hb hb'
  have htarget : min ((a.log2 : ℤ) - 52 + i - ((b.log2 : ℤ) - 52))
      (Format.binary64.targetExponent
        (totalExponent (a * 2 ^ (52 - a.log2)) ((a.log2 : ℤ) - 52 + i) -
          totalExponent (b * 2 ^ (52 - b.log2)) ((b.log2 : ℤ) - 52))) =
      (a.log2 : ℤ) + i - b.log2 - 53 := by
    rw [totalExponent, totalExponent, log2_wholeParts ha ha', log2_wholeParts hb hb',
      targetExponent_binary64]
    omega
  have hamount : ((a.log2 : ℤ) - 52 + i - ((b.log2 : ℤ) - 52) -
      ((a.log2 : ℤ) + i - b.log2 - 53)).toNat = 53 := by omega
  simp only [divCore, htarget, hamount, Nat.shiftLeft_eq]

/-- A quotient of mantissas of 53 bits, taken to 53 more, has 53 or 54 bits. -/
lemma log2_div_wholeParts (ha : 0 < a) (ha' : a < 2 ^ 53) (hb : 0 < b) (hb' : b < 2 ^ 53) :
    ∃ k ≤ 1, (a * 2 ^ (52 - a.log2) * 2 ^ 53 / (b * 2 ^ (52 - b.log2))).log2 = 52 + k := by
  have ham : a * 2 ^ (52 - a.log2) ≠ 0 := by positivity
  have hbm : b * 2 ^ (52 - b.log2) ≠ 0 := by positivity
  obtain ⟨halow, hahigh⟩ := (Nat.log2_eq_iff ham).mp (log2_wholeParts ha ha')
  obtain ⟨hblow, hbhigh⟩ := (Nat.log2_eq_iff hbm).mp (log2_wholeParts hb hb')
  set am := a * 2 ^ (52 - a.log2)
  set bm := b * 2 ^ (52 - b.log2)
  have hlow : 2 ^ 52 ≤ am * 2 ^ 53 / bm := by
    rw [Nat.le_div_iff_mul_le (by omega)]
    omega
  have hhigh : am * 2 ^ 53 / bm < 2 ^ 54 := by
    rw [Nat.div_lt_iff_lt_mul (by omega)]
    omega
  have hne : am * 2 ^ 53 / bm ≠ 0 := by omega
  have hloglow := (Nat.le_log2 hne).mpr hlow
  have hloghigh := (Nat.log2_lt hne).mpr hhigh
  exact ⟨(am * 2 ^ 53 / bm).log2 - 52, by omega, by omega⟩

/-- A quotient is rounded to 53 bits, a half to the even neighbour: in units of `2 ^ (i - j)` to a
whole number. -/
theorem value_scaledDouble_div {i : Nat} (ha : 0 < a) (ha' : a < 2 ^ 53) (hb : 0 < b)
    (hb' : b < 2 ^ 53) (hi : i ≤ 900) :
    ∃ m s j : Nat, s ≤ 1 ∧ 2 ^ 52 * b ≤ a * 2 ^ j ∧ m * 2 ^ s = divHalfEven (a * 2 ^ j) b ∧
      value (scaledDouble a ha i / wholeDouble b hb) = .finite false m ((s : ℤ) - j + i) := by
  have hla := log2_lt_of_lt ha ha'
  have hlb := log2_lt_of_lt hb hb'
  obtain ⟨k, hk, hlog⟩ := log2_div_wholeParts ha ha' hb hb'
  obtain ⟨m, s, hpos, hm, hs, hround, hresult⟩ := roundWithAccuracy_fraction
    (e := (a.log2 : ℤ) + i - b.log2 - 53) .positive (by positivity) hlog (by omega)
  -- the unit `2 ^ -j` in which the mantissa counts
  obtain ⟨j, hj⟩ : ∃ j : Nat, j = 53 + b.log2 - a.log2 - k := ⟨_, rfl⟩
  have hnum : a * 2 ^ (52 - a.log2) * 2 ^ 53 = a * 2 ^ j * 2 ^ (52 - b.log2 + k) := by
    rw [mul_assoc, mul_assoc, ← pow_add, ← pow_add]
    congr 2
    omega
  have hden : b * 2 ^ (52 - b.log2) * 2 ^ k = b * 2 ^ (52 - b.log2 + k) := by
    rw [mul_assoc, ← pow_add]
  have hquotient : 2 ^ 52 ≤ a * 2 ^ j / b := by
    rw [← Nat.mul_div_mul_right (a * 2 ^ j) b (by positivity : 0 < 2 ^ (52 - b.log2 + k)), ← hnum,
      ← hden, ← Nat.div_div_eq_div_mul, Nat.le_div_iff_mul_le (by positivity), ← pow_add, ← hlog]
    exact Nat.log2_self_le (ne_zero_of_log2_eq hlog)
  rw [Nat.le_div_iff_mul_le hb] at hquotient
  rw [hnum, hden, divHalfEven_mul_right (by positivity)] at hround
  refine ⟨m, s, j, hs, hquotient, hround, ?_⟩
  have hunpack : (scaledDouble a ha i / wholeDouble b hb).toModel.unpack =
      .finite .positive m ((a.log2 : ℤ) + i - b.log2 - 53 + k + s) hpos := by
    change (Float.Model.pack (UnpackedFloat.div Format.binary64
      (scaledDouble a ha i).toModel.unpack (wholeDouble b hb).toModel.unpack)).unpack = _
    rw [unpack_scaledDouble ha ha' hi, unpack_wholeDouble hb hb']
    simp only [scaledParts, wholeParts, UnpackedFloat.div, divCore_wholeParts i ha ha' hb hb']
    rw [show Sign.positive / Sign.positive = Sign.positive from rfl, hresult]
    exact unpack_pack hm hpos (by omega) (by omega)
  rw [value_eq_unpackedValue, hunpack]
  change Value.finite false m _ = _
  congr 1
  omega

/-- The unit in which a quotient of whole numbers is rounded is finer than `1 / b`. -/
theorem value_ofNat_div_ofNat (ha : 0 < a) (ha' : a < 2 ^ 52) (hb : 0 < b) (hb' : b < 2 ^ 53) :
    ∃ m s j : Nat, s ≤ j ∧ b < 2 ^ j ∧ m * 2 ^ s = divHalfEven (a * 2 ^ j) b ∧
      value (Float.ofNat a / Float.ofNat b) = .finite false m ((s : ℤ) - j) := by
  obtain ⟨m, s, j, hs, hquotient, hround, hvalue⟩ :=
    value_scaledDouble_div (i := 0) ha (by omega) hb hb' (by norm_num)
  have hfine : b < 2 ^ j := by
    have : 2 ^ 52 * b < 2 ^ 52 * 2 ^ j :=
      hquotient.trans_lt (Nat.mul_lt_mul_of_pos_right ha' (by positivity))
    exact Nat.lt_of_mul_lt_mul_left this
  have hj : j ≠ 0 := by
    rintro rfl
    omega
  rw [scaledDouble_zero, ← ofNat_eq_wholeDouble ha (by omega), ← ofNat_eq_wholeDouble hb hb',
    Nat.cast_zero, add_zero] at hvalue
  exact ⟨m, s, j, by omega, hfine, hround, hvalue⟩

lemma roundClamped_le (limit : Nat) (x : Float) : roundClamped limit x ≤ limit := by
  unfold roundClamped
  split
  · exact Nat.zero_le _
  · split_ifs
    · exact Nat.zero_le _
    · exact le_rfl
  · exact Nat.zero_le _
  · exact Nat.min_le_left _ _

/-- The quotient of whole numbers, rounded twice, is the exact quotient rounded once. -/
theorem roundClamped_ofNat_div_ofNat (limit : Nat) (ha : 0 < a) (ha' : a < 2 ^ 52) (hb : 0 < b)
    (hb' : b < 2 ^ 53) :
    roundClamped limit (Float.ofNat a / Float.ofNat b) = min limit (divHalfUp a b) := by
  obtain ⟨m, s, j, hs, hj, hm, hvalue⟩ := value_ofNat_div_ofNat ha ha' hb hb'
  have hexponent : ((s : ℤ) - j).toNat = 0 := by omega
  have hunits : (-((s : ℤ) - j)).toNat = j - s := by omega
  simp only [roundClamped, hvalue, hexponent, hunits, Nat.pow_eq, pow_zero, mul_one]
  rw [← divHalfUp_mul_right (c := 2 ^ s) (by positivity), ← pow_add, Nat.sub_add_cancel hs, hm,
    divHalfUp_divHalfEven hb hj]

end Quotient

end Autograder.Proofs
