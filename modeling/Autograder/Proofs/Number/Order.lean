import Autograder.Proofs.Number.Exact

/-!
# The order of doubles

Doubles that are numbers are ordered by a key: their class, then the exponent, then the mantissa,
the latter two the other way round for negative doubles. Keys are linearly ordered, and so are the
numbers. On whole numbers below `2 ^ 53` the order is the usual one.
-/

namespace Autograder.Proofs

open Float.Model Float.Model.UnpackedFloat

section Key

/-- The place of a number in the order: class, exponent and mantissa. Both zeros share one place. -/
def partsKey : UnpackedFloat → ℤ ×ₗ ℤ ×ₗ ℤ
  | .infinity .negative => toLex (-2, toLex (0, 0))
  | .finite .negative mantissa exponent _ => toLex (-1, toLex (-exponent, -mantissa))
  | .zero _ | .notANumber => toLex (0, toLex (0, 0))
  | .finite .positive mantissa exponent _ => toLex (1, toLex (exponent, mantissa))
  | .infinity .positive => toLex (2, toLex (0, 0))

lemma compare_toLex {α β : Type} [LinearOrder α] [LinearOrder β] (a a' : α) (b b' : β) :
    compare (toLex (a, b)) (toLex (a', b')) = (compare a a').then (compare b b') := by
  rw [Prod.Lex.compare_def]
  rfl

lemma compare_natCast (m n : ℕ) : compare (m : ℤ) (n : ℤ) = compare m n := by
  simpa only [cmp_eq_compare] using (Nat.strictMono_cast (α := ℤ)).cmp_map_eq m n

lemma compare_neg_neg (a b : ℤ) : compare (-a) (-b) = (compare a b).swap := by
  have hanti : StrictAnti (fun a : ℤ => -a) := fun _ _ h => neg_lt_neg h
  rw [← cmp_eq_compare, ← cmp_eq_compare, hanti.cmp_map_eq, cmp_swap]

lemma compare_eq_compare_partsKey {a b : UnpackedFloat} (ha : a ≠ .notANumber)
    (hb : b ≠ .notANumber) : a.compare b = some (compare (partsKey a) (partsKey b)) := by
  cases a with
  | notANumber => exact absurd rfl ha
  | infinity s =>
    cases b with
    | notANumber => exact absurd rfl hb
    | infinity t => cases s <;> cases t <;> rfl
    | zero t => cases s <;> rfl
    | finite t m e h => cases s <;> cases t <;> rfl
  | zero s =>
    cases b with
    | notANumber => exact absurd rfl hb
    | infinity t => cases t <;> rfl
    | zero t => rfl
    | finite t m e h => cases t <;> rfl
  | finite s m e h =>
    cases b with
    | notANumber => exact absurd rfl hb
    | infinity t => cases s <;> cases t <;> rfl
    | zero t => cases s <;> rfl
    | finite t m' e' h' =>
      cases s <;> cases t
      -- only numbers of one sign are compared by exponent and mantissa
      · simp only [UnpackedFloat.compare, partsKey, compare_toLex, compare_neg_neg,
          compare_natCast, Ordering.swap_then]
        rfl
      · rfl
      · rfl
      · simp only [UnpackedFloat.compare, partsKey, compare_toLex, compare_natCast]
        rfl

/-- The key of a double. -/
def orderKey (x : Float) : ℤ ×ₗ ℤ ×ₗ ℤ :=
  partsKey x.toModel.unpack

variable {x y : Float}

lemma isNaN_eq_false_iff : x.isNaN = false ↔ x.toModel.unpack ≠ .notANumber := by
  change x.toModel.unpack.isNaN = false ↔ _
  cases x.toModel.unpack <;> simp [UnpackedFloat.isNaN]

lemma float_le_iff (hx : x.isNaN = false) (hy : y.isNaN = false) :
    x ≤ y ↔ orderKey x ≤ orderKey y := by
  have hcompare := compare_eq_compare_partsKey (isNaN_eq_false_iff.mp hx)
    (isNaN_eq_false_iff.mp hy)
  change decide ((x.toModel.unpack.compare y.toModel.unpack).any (·.isLE) = true) = true ↔ _
  simp [hcompare, orderKey, Ordering.isLE_iff_ne_gt, compare_le_iff_le]

lemma float_lt_iff (hx : x.isNaN = false) (hy : y.isNaN = false) :
    x < y ↔ orderKey x < orderKey y := by
  have hcompare := compare_eq_compare_partsKey (isNaN_eq_false_iff.mp hx)
    (isNaN_eq_false_iff.mp hy)
  change decide ((x.toModel.unpack.compare y.toModel.unpack == some .lt) = true) = true ↔ _
  simp [hcompare, orderKey, compare_lt_iff_lt]

/-- Numbers are linearly ordered; only what is not a number is neither below nor above. -/
theorem float_lt_iff_not_le (hx : x.isNaN = false) (hy : y.isNaN = false) :
    x < y ↔ ¬ y ≤ x := by
  rw [float_lt_iff hx hy, float_le_iff hy hx, not_le]

lemma float_le_trans {z : Float} (hx : x.isNaN = false) (hy : y.isNaN = false)
    (hz : z.isNaN = false) (hxy : x ≤ y) (hyz : y ≤ z) : x ≤ z := by
  rw [float_le_iff hx hy] at hxy
  rw [float_le_iff hy hz] at hyz
  exact (float_le_iff hx hz).mpr (hxy.trans hyz)

end Key

section Whole

variable {a b : Nat}

lemma orderKey_ofNat (ha : 0 < a) (ha' : a < 2 ^ 53) : orderKey (Float.ofNat a) =
    toLex (1, toLex ((a.log2 : ℤ) - 52, ((a * 2 ^ (52 - a.log2) : ℕ) : ℤ))) := by
  rw [orderKey, ofNat_eq_wholeDouble ha ha', unpack_wholeDouble ha ha']
  rfl

lemma isNaN_ofNat (ha : a < 2 ^ 53) : (Float.ofNat a).isNaN = false := by
  rcases Nat.eq_zero_or_pos a with rfl | hpos
  · decide +kernel
  · rw [isNaN_eq_false_iff, ofNat_eq_wholeDouble hpos ha, unpack_wholeDouble hpos ha]
    simp [wholeParts]

lemma orderKey_ofNat_lt (hb : b < 2 ^ 53) (h : a < b) :
    orderKey (Float.ofNat a) < orderKey (Float.ofNat b) := by
  rw [orderKey_ofNat (by omega) hb]
  rcases Nat.eq_zero_or_pos a with rfl | hpos
  · have hzero : orderKey (Float.ofNat 0) = toLex (0, toLex (0, 0)) := rfl
    rw [hzero, Prod.Lex.toLex_lt_toLex]
    exact .inl one_pos
  · rw [orderKey_ofNat hpos (by omega), Prod.Lex.toLex_lt_toLex]
    refine .inr ⟨rfl, ?_⟩
    rw [Prod.Lex.toLex_lt_toLex]
    have hmono : a.log2 ≤ b.log2 :=
      (Nat.le_log2 (by omega)).mpr ((Nat.log2_self_le hpos.ne').trans h.le)
    rcases hmono.lt_or_eq with hlog | hlog
    · exact .inl (by simpa using hlog)
    · have hmantissa : a * 2 ^ (52 - a.log2) < b * 2 ^ (52 - b.log2) := by
        rw [hlog]
        exact Nat.mul_lt_mul_of_pos_right h (by positivity)
      exact .inr ⟨by simp [hlog], Int.ofNat_lt.mpr hmantissa⟩

theorem ofNat_le_ofNat_iff (ha : a < 2 ^ 53) (hb : b < 2 ^ 53) :
    Float.ofNat a ≤ Float.ofNat b ↔ a ≤ b := by
  rw [float_le_iff (isNaN_ofNat ha) (isNaN_ofNat hb)]
  constructor
  · intro hkey
    by_contra hlt
    exact absurd (orderKey_ofNat_lt ha (not_le.mp hlt)) (not_lt.mpr hkey)
  · intro hle
    rcases hle.lt_or_eq with hlt | rfl
    · exact (orderKey_ofNat_lt hb hlt).le
    · exact le_rfl

end Whole

end Autograder.Proofs
