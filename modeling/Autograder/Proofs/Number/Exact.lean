import Mathlib
import Autograder.Number.Rounding

/-!
# Exact arithmetic on whole doubles

Every whole number below `2 ^ 53` is a double. As long as a product or a quotient of two of them
is a whole number below `2 ^ 53` again, it is computed without any rounding. The proofs follow the
mantissas: an operation shifts its exact result to 53 bits, and only zeros are shifted out.
-/

namespace Autograder.Proofs

open Float.Model Float.Model.UnpackedFloat

/-- A positive whole number with a mantissa of 53 bits. -/
def wholeParts (n : Nat) (hn : 0 < n) : UnpackedFloat :=
  .finite .positive (n * 2 ^ (52 - n.log2)) ((n.log2 : Int) - 52) (by positivity)

/-- The double of a positive whole number below `2 ^ 53`. -/
def wholeDouble (n : Nat) (hn : 0 < n) : Float :=
  .ofModel (.pack (wholeParts n hn))

/-- The same mantissa with an exponent that is greater by `i`. -/
def scaledParts (n : Nat) (hn : 0 < n) (i : Nat) : UnpackedFloat :=
  .finite .positive (n * 2 ^ (52 - n.log2)) ((n.log2 : Int) - 52 + i) (by positivity)

/-- The double of a positive whole number below `2 ^ 53`, times a power of two. -/
def scaledDouble (n : Nat) (hn : 0 < n) (i : Nat) : Float :=
  .ofModel (.pack (scaledParts n hn i))

lemma scaledDouble_zero (n : Nat) (hn : 0 < n) : scaledDouble n hn 0 = wholeDouble n hn := by
  simp [scaledDouble, scaledParts, wholeDouble, wholeParts]

lemma targetExponent_binary64 (t : Int) :
    Format.binary64.targetExponent t = max (t - 53) (-1074) := by
  simp [Format.targetExponent, Format.mantissaBits, Format.minExponent]

lemma log2_mul_two_pow {n : Nat} (hn : 0 < n) (k : Nat) : (n * 2 ^ k).log2 = n.log2 + k := by
  have hlow := Nat.log2_self_le hn.ne'
  have hhigh := Nat.lt_log2_self (n := n)
  rw [Nat.log2_eq_iff (by positivity)]
  constructor
  · rw [pow_add]
    exact Nat.mul_le_mul_right _ hlow
  · rw [show n.log2 + k + 1 = n.log2 + 1 + k by omega, pow_add]
    exact Nat.mul_lt_mul_of_pos_right hhigh (by positivity)

lemma log2_lt_of_lt {n : Nat} (hn : 0 < n) (h : n < 2 ^ 53) : n.log2 ≤ 52 := by
  have := (Nat.log2_lt hn.ne').mpr h
  omega

lemma log2_mul_bounds {a b : Nat} (ha : 0 < a) (hb : 0 < b) :
    a.log2 + b.log2 ≤ (a * b).log2 ∧ (a * b).log2 ≤ a.log2 + b.log2 + 1 := by
  have hab : a * b ≠ 0 := by positivity
  constructor
  · rw [Nat.le_log2 hab, pow_add]
    exact Nat.mul_le_mul (Nat.log2_self_le ha.ne') (Nat.log2_self_le hb.ne')
  · have hlt : a * b < 2 ^ (a.log2 + 1) * 2 ^ (b.log2 + 1) :=
      Nat.mul_lt_mul'' Nat.lt_log2_self Nat.lt_log2_self
    rw [← pow_add] at hlt
    have := (Nat.log2_lt hab).mpr hlt
    omega

lemma shiftRight_mul_two_pow (a k : Nat) :
    (⟨a * 2 ^ k, false, false⟩ : ExtendedMantissa) >>> k = ⟨a, false, false⟩ := by
  induction k generalizing a with
  | zero => simp [HShiftRight.hShiftRight, Nat.repeat]
  | succ k ih =>
    have hstep : a * 2 ^ (k + 1) = a * 2 * 2 ^ k := by ring
    change ((⟨a * 2 ^ (k + 1), false, false⟩ : ExtendedMantissa) >>> k).shiftRightOne = _
    rw [hstep, ih]
    simp [ExtendedMantissa.shiftRightOne]

/-- Shifting to the target exponent drops the `k` zeros at the end of a mantissa of `53 + k`
bits. -/
lemma shiftToTargetExponent_mul_two_pow {a k : Nat} {e : Int} (ha : a.log2 = 52)
    (hpos : 0 < a) (he : -1074 ≤ e + k) :
    shiftToTargetExponent Format.binary64 (a * 2 ^ k) e .exact =
      (⟨a, false, false⟩, e + k) := by
  have htarget : Format.binary64.targetExponent (totalExponent (a * 2 ^ k) e) = e + k := by
    rw [targetExponent_binary64, totalExponent, log2_mul_two_pow hpos, ha]
    push_cast
    omega
  have hamount : (e + k - e).toNat = k := by omega
  simp only [shiftToTargetExponent, shiftToExponent, htarget, hamount,
    ExtendedMantissa.ofMantissaAndAccuracy, shiftRight_mul_two_pow]

lemma roundWithAccuracy_mul_two_pow {a k : Nat} {e : Int} (sign : Sign) (ha : a.log2 = 52)
    (hpos : 0 < a) (he : -1074 ≤ e + k) :
    roundWithAccuracy Format.binary64 sign (a * 2 ^ k) e .exact = .finite sign a (e + k) hpos := by
  have hfirst := shiftToTargetExponent_mul_two_pow ha hpos he
  have hsecond := shiftToTargetExponent_mul_two_pow (k := 0) (e := e + k) ha hpos
    (by simpa using he)
  simp only [pow_zero, mul_one, Nat.cast_zero, add_zero] at hsecond
  have hrounded : (⟨a, false, false⟩ : ExtendedMantissa).roundedMantissa = a := rfl
  simp only [roundWithAccuracy, hfirst, hrounded, hsecond, hpos.ne', dite_false]

@[simp] lemma unpackSign_packComponents {format : Format} {sign : Sign}
    {exponent : BitVec format.exponentBits}
    {mantissa : BitVec format.mantissaBitsWithoutImplicit} :
    Sign.ofBitVec (unpackSign (packComponents format sign exponent mantissa)) = sign := by
  have hbit : unpackSign (packComponents format sign exponent mantissa) = sign.toBitVec := by
    ext i hi
    obtain rfl : i = 0 := by omega
    simp [unpackSign, packComponents, BitVec.getLsbD_append, BitVec.getElem_append]
  rw [hbit]
  cases sign <;> rfl

/-- A mantissa of 53 bits is put together again from its leading one and the rest. -/
lemma implicitOne_append {m : Nat} (hm : m.log2 = 52) (hpos : 0 < m) :
    (1#1 ++ BitVec.ofNat 52 m).toNat = m := by
  have hbounds := (Nat.log2_eq_iff hpos.ne').mp hm
  rw [BitVec.toNat_append, ← Nat.shiftLeft_add_eq_or_of_lt (BitVec.isLt _), Nat.shiftLeft_eq]
  simp only [BitVec.toNat_ofNat]
  omega

lemma unpack_pack {sign : Sign} {m : Nat} {e : Int} (hm : m.log2 = 52) (hpos : 0 < m)
    (hlow : -1074 ≤ e) (hhigh : e ≤ 971) :
    (Float.Model.pack (.finite sign m e hpos)).unpack = .finite sign m e hpos := by
  let biased := (e + 1023 + 52).toNat
  have hbiased : (biased : Int) = e + 1075 := by omega
  have hfits : ¬ 2 ^ 11 ≤ biased + 1 := by omega
  have hexponent : (BitVec.ofNat 11 biased).toNat = biased := by
    rw [BitVec.toNat_ofNat, Nat.mod_eq_of_lt (by omega)]
  have hnotZero : BitVec.ofNat 11 biased ≠ 0#11 := by
    intro h
    have := congrArg BitVec.toNat h
    simp only [hexponent, BitVec.toNat_ofNat, Nat.zero_mod] at this
    omega
  have hnotOnes : BitVec.ofNat 11 biased ≠ -1#11 := by
    intro h
    have := congrArg BitVec.toNat h
    rw [hexponent] at this
    change biased = 2047 at this
    omega
  have hpack : UnpackedFloat.pack Format.binary64 (.finite sign m e hpos) =
      packComponents Format.binary64 sign (BitVec.ofNat 11 biased) (BitVec.ofNat 52 m) := by
    have hbias : (e + Format.binary64.exponentBias + (52 : Nat)).toNat = biased := rfl
    simp only [UnpackedFloat.pack, hbias]
    rw [if_neg hfits, if_pos (by rw [hm]; rfl)]
  unfold Float.Model.unpack Float.Model.pack
  simp only [hpack, UnpackedFloat.unpack, unpackExponent_packComponents,
    unpackMantissa_packComponents, unpackSign_packComponents, hnotOnes, hnotZero, if_false,
    implicitOne_append hm hpos, hexponent]
  congr 1
  change (biased : Int) - (1023 + 52) = e
  omega

lemma log2_wholeParts {n : Nat} (hn : 0 < n) (h : n < 2 ^ 53) :
    (n * 2 ^ (52 - n.log2)).log2 = 52 := by
  have := log2_lt_of_lt hn h
  rw [log2_mul_two_pow hn]
  omega

lemma unpack_wholeDouble {n : Nat} (hn : 0 < n) (h : n < 2 ^ 53) :
    (wholeDouble n hn).toModel.unpack = wholeParts n hn := by
  have := log2_lt_of_lt hn h
  exact unpack_pack (log2_wholeParts hn h) (by positivity) (by omega) (by omega)

lemma unpack_scaledDouble {n i : Nat} (hn : 0 < n) (h : n < 2 ^ 53) (hi : i ≤ 900) :
    (scaledDouble n hn i).toModel.unpack = scaledParts n hn i := by
  have := log2_lt_of_lt hn h
  exact unpack_pack (log2_wholeParts hn h) (by positivity) (by omega) (by omega)

lemma wholeDouble_mul_eq_scaledDouble {a b c i : Nat} (ha : 0 < a) (ha' : a < 2 ^ 53) (hb : 0 < b)
    (hb' : b < 2 ^ 53) (hc : 0 < c) (hc' : c < 2 ^ 53) (hab : a * b = c * 2 ^ i) :
    wholeDouble a ha * wholeDouble b hb = scaledDouble c hc i := by
  have hlog := log2_lt_of_lt hc hc'
  have hbounds := log2_mul_bounds ha hb
  rw [hab, log2_mul_two_pow hc] at hbounds
  have hla := log2_lt_of_lt ha ha'
  have hlb := log2_lt_of_lt hb hb'
  have hzeros : a * 2 ^ (52 - a.log2) * (b * 2 ^ (52 - b.log2)) =
      c * 2 ^ (52 - c.log2) * 2 ^ (52 + c.log2 + i - a.log2 - b.log2) := by
    have hexponents : i + (52 - a.log2 + (52 - b.log2)) =
        52 - c.log2 + (52 + c.log2 + i - a.log2 - b.log2) := by omega
    calc a * 2 ^ (52 - a.log2) * (b * 2 ^ (52 - b.log2))
        = a * b * 2 ^ (52 - a.log2 + (52 - b.log2)) := by rw [pow_add]; ring
      _ = c * 2 ^ (i + (52 - a.log2 + (52 - b.log2))) := by rw [hab, mul_assoc, ← pow_add]
      _ = _ := by rw [hexponents, pow_add]; ring
  have hround := roundWithAccuracy_mul_two_pow
    (k := 52 + c.log2 + i - a.log2 - b.log2)
    (e := (a.log2 : Int) - 52 + ((b.log2 : Int) - 52)) .positive
    (log2_wholeParts hc hc') (by positivity) (by omega)
  change Float.ofModel (.pack (UnpackedFloat.mul Format.binary64
    (wholeDouble a ha).toModel.unpack (wholeDouble b hb).toModel.unpack)) = _
  rw [unpack_wholeDouble ha ha', unpack_wholeDouble hb hb']
  simp only [wholeParts, UnpackedFloat.mul, hzeros]
  rw [show Sign.positive * Sign.positive = Sign.positive from rfl, hround]
  simp only [scaledDouble, scaledParts]
  congr 3
  omega

lemma wholeDouble_mul {a b : Nat} (ha : 0 < a) (hb : 0 < b) (hab : a * b < 2 ^ 53) :
    wholeDouble a ha * wholeDouble b hb = wholeDouble (a * b) (by positivity) := by
  have haLt : a < 2 ^ 53 := lt_of_le_of_lt (Nat.le_mul_of_pos_right a hb) hab
  have hbLt : b < 2 ^ 53 := lt_of_le_of_lt (Nat.le_mul_of_pos_left b ha) hab
  rw [wholeDouble_mul_eq_scaledDouble (i := 0) ha haLt hb hbLt (by positivity) hab (by simp),
    scaledDouble_zero]

/-- The quotient core finds an exact quotient with one or no zero behind its 53 bits. -/
lemma divCore_whole {a b : Nat} (i : Nat) (ha : 0 < a) (hb : 0 < b) (hab : a * b < 2 ^ 53) :
    divCore Format.binary64 (a * b * 2 ^ (52 - (a * b).log2)) (((a * b).log2 : Int) - 52 + i)
        (b * 2 ^ (52 - b.log2)) ((b.log2 : Int) - 52) =
      (a * 2 ^ (52 - a.log2) * 2 ^ (1 + b.log2 + a.log2 - (a * b).log2),
        ((a * b).log2 : Int) + i - b.log2 - 53, .exact) := by
  have hpos : 0 < a * b := by positivity
  have hlog := log2_lt_of_lt hpos hab
  have hbounds := log2_mul_bounds ha hb
  have hbLt : b < 2 ^ 53 := lt_of_le_of_lt (Nat.le_mul_of_pos_left b ha) hab
  have htarget : min (((a * b).log2 : Int) - 52 + i - ((b.log2 : Int) - 52))
      (Format.binary64.targetExponent
        (totalExponent (a * b * 2 ^ (52 - (a * b).log2)) (((a * b).log2 : Int) - 52 + i) -
          totalExponent (b * 2 ^ (52 - b.log2)) ((b.log2 : Int) - 52))) =
      ((a * b).log2 : Int) + i - b.log2 - 53 := by
    rw [totalExponent, totalExponent, log2_wholeParts hpos hab, log2_wholeParts hb hbLt,
      targetExponent_binary64]
    omega
  have hamount : (((a * b).log2 : Int) - 52 + i - ((b.log2 : Int) - 52) -
      (((a * b).log2 : Int) + i - b.log2 - 53)).toNat = 53 := by omega
  have hproduct : (a * b * 2 ^ (52 - (a * b).log2)) <<< 53 =
      a * 2 ^ (52 - a.log2) * 2 ^ (1 + b.log2 + a.log2 - (a * b).log2) *
        (b * 2 ^ (52 - b.log2)) := by
    have hexponents : 52 - (a * b).log2 + 53 =
        52 - a.log2 + (1 + b.log2 + a.log2 - (a * b).log2) + (52 - b.log2) := by omega
    calc (a * b * 2 ^ (52 - (a * b).log2)) <<< 53
        = a * b * 2 ^ (52 - (a * b).log2 + 53) := by rw [Nat.shiftLeft_eq, pow_add]; ring
      _ = _ := by rw [hexponents, pow_add, pow_add]; ring
  have hdenominator : 0 < b * 2 ^ (52 - b.log2) := by positivity
  simp only [divCore, htarget, hamount, hproduct, Nat.mul_div_cancel _ hdenominator,
    Nat.mul_mod_left]
  rfl

lemma scaledDouble_div {a b i : Nat} (ha : 0 < a) (hb : 0 < b) (hab : a * b < 2 ^ 53)
    (hi : i ≤ 900) :
    scaledDouble (a * b) (by positivity) i / wholeDouble b hb = scaledDouble a ha i := by
  have hpos : 0 < a * b := by positivity
  have hlog := log2_lt_of_lt hpos hab
  have hbounds := log2_mul_bounds ha hb
  have haLt : a < 2 ^ 53 := lt_of_le_of_lt (Nat.le_mul_of_pos_right a hb) hab
  have hbLt : b < 2 ^ 53 := lt_of_le_of_lt (Nat.le_mul_of_pos_left b ha) hab
  have hround := roundWithAccuracy_mul_two_pow
    (k := 1 + b.log2 + a.log2 - (a * b).log2) (e := ((a * b).log2 : Int) + i - b.log2 - 53)
    .positive (log2_wholeParts ha haLt) (by positivity) (by omega)
  change Float.ofModel (.pack (UnpackedFloat.div Format.binary64
    (scaledDouble (a * b) hpos i).toModel.unpack (wholeDouble b hb).toModel.unpack)) = _
  rw [unpack_scaledDouble hpos hab hi, unpack_wholeDouble hb hbLt]
  simp only [scaledParts, wholeParts, UnpackedFloat.div, divCore_whole i ha hb hab]
  rw [show Sign.positive / Sign.positive = Sign.positive from rfl, hround]
  simp only [scaledDouble, scaledParts]
  congr 3
  omega

lemma wholeDouble_div {a b : Nat} (ha : 0 < a) (hb : 0 < b) (hab : a * b < 2 ^ 53) :
    wholeDouble (a * b) (by positivity) / wholeDouble b hb = wholeDouble a ha := by
  rw [← scaledDouble_zero, ← scaledDouble_zero a, scaledDouble_div ha hb hab (by norm_num)]

lemma toFloat_eq_wholeDouble {n : Nat} (hn : 0 < n) (h : n < 2 ^ 53) :
    n.toUInt64.toFloat = wholeDouble n hn := by
  have hlog := log2_lt_of_lt hn h
  have hround := roundWithAccuracy_mul_two_pow (k := 0) (e := (n.log2 : Int) - 52) .positive
    (log2_wholeParts hn h) (by positivity) (by omega)
  simp only [pow_zero, mul_one, Nat.cast_zero, add_zero] at hround
  have hnat : n.toUInt64.toNat = n := by
    rw [Nat.toUInt64, UInt64.toNat_ofNat', Nat.mod_eq_of_lt (by omega)]
  have htarget : Format.binary64.targetExponent (totalExponent n 0) = (n.log2 : Int) - 52 := by
    rw [targetExponent_binary64, totalExponent]
    omega
  have hamount : (0 - ((n.log2 : Int) - 52)).toNat = 52 - n.log2 := by omega
  have hexponent : (0 : Int) - (52 - n.log2 : Nat) = (n.log2 : Int) - 52 := by omega
  change Float.ofModel (.pack (UnpackedFloat.normalize Format.binary64 n.toUInt64.toNat 0
    .positive)) = _
  rw [hnat, UnpackedFloat.normalize, Int.compare_eq_gt.mpr (by omega)]
  simp only [Int.toNat_natCast, UnpackedFloat.round, htarget, decreaseExponent, hamount,
    Nat.shiftLeft_eq, hexponent, hround]
  rfl

/-- Whole numbers below `2 ^ 53` are doubles. -/
theorem ofNat_eq_wholeDouble {n : Nat} (hn : 0 < n) (h : n < 2 ^ 53) :
    Float.ofNat n = wholeDouble n hn := by
  have hone : (Float.exactlyRepresentablePowersOfTen[0]) = wholeDouble 1 one_pos := by
    decide +kernel
  change Float.ofScientific n false 0 = _
  simp only [Float.ofScientific, h, true_and, Nat.zero_le, dite_true, Bool.false_eq_true, if_false]
  rw [hone, toFloat_eq_wholeDouble hn h, wholeDouble_mul hn one_pos (by omega)]
  simp only [mul_one]

theorem ofNat_mul_ofNat {a b : Nat} (ha : 0 < a) (hb : 0 < b) (hab : a * b < 2 ^ 53) :
    Float.ofNat a * Float.ofNat b = Float.ofNat (a * b) := by
  have haLt : a < 2 ^ 53 := lt_of_le_of_lt (Nat.le_mul_of_pos_right a hb) hab
  have hbLt : b < 2 ^ 53 := lt_of_le_of_lt (Nat.le_mul_of_pos_left b ha) hab
  rw [ofNat_eq_wholeDouble ha haLt, ofNat_eq_wholeDouble hb hbLt, wholeDouble_mul ha hb hab,
    ofNat_eq_wholeDouble (by positivity) hab]

theorem ofNat_mul_div_ofNat {a b : Nat} (ha : 0 < a) (hb : 0 < b) (hab : a * b < 2 ^ 53) :
    Float.ofNat (a * b) / Float.ofNat b = Float.ofNat a := by
  have haLt : a < 2 ^ 53 := lt_of_le_of_lt (Nat.le_mul_of_pos_right a hb) hab
  have hbLt : b < 2 ^ 53 := lt_of_le_of_lt (Nat.le_mul_of_pos_left b ha) hab
  rw [ofNat_eq_wholeDouble (by positivity) hab, ofNat_eq_wholeDouble hb hbLt,
    wholeDouble_div ha hb hab, ofNat_eq_wholeDouble ha haLt]

theorem zero_div_ofNat {n : Nat} (hn : 0 < n) (h : n < 2 ^ 53) :
    Float.ofNat 0 / Float.ofNat n = Float.ofNat 0 := by
  have hzero : (Float.ofNat 0).toModel.unpack = .zero .positive := by rfl
  rw [ofNat_eq_wholeDouble hn h]
  change Float.ofModel (.pack (UnpackedFloat.div Format.binary64
    (Float.ofNat 0).toModel.unpack (wholeDouble n hn).toModel.unpack)) = _
  rw [hzero, unpack_wholeDouble hn h]
  change Float.ofModel (.pack (.zero .positive)) = Float.ofNat 0
  decide +kernel

end Autograder.Proofs
