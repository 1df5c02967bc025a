import Autograder.Proofs.Json.Decode
import Autograder.Proofs.Number.Quotient

/-!
# Values that can be held as a whole

Where a text may stand for one of several things, its value is held as a whole before it is decoded.
That asks of it that all its strings and numbers can be read, also those that nobody looks at, and
that it is not nested too deeply.
-/

namespace Autograder.Proofs

open Autograder.Json Autograder.Number

/-- The value can be held as a whole, and at most `n` arrays and objects are nested in it. -/
structure IsHeld (n : Nat) (j : Json) : Prop where
  readable : j.isReadable = true
  depth : j.depth ≤ n

section Numbers

variable {n : Nat}

lemma le_foldl_digitValue (digits : List Char) (k : Nat) :
    k ≤ digits.foldl (fun n c => 10 * n + Numeral.digitValue c) k := by
  induction digits generalizing k with
  | nil => exact le_rfl
  | cons c digits ih => exact le_trans (by omega) (ih (10 * k + Numeral.digitValue c))

lemma takeDigits_eq {digits : List Char} {k : Nat}
    (h : digits.foldl (fun n c => 10 * n + Numeral.digitValue c) k ≤ Numeral.wholeLimit) :
    Numeral.takeDigits k digits =
      ⟨digits.foldl (fun n c => 10 * n + Numeral.digitValue c) k, []⟩ := by
  induction digits generalizing k with
  | nil => rfl
  | cons c digits ih =>
    rw [List.foldl_cons] at h ⊢
    rw [Numeral.takeDigits, if_pos ((le_foldl_digitValue digits _).trans h), ih h]

lemma takeDigits_digitsOf (h : n ≤ Numeral.wholeLimit) :
    Numeral.takeDigits 0 (Numeral.digitsOf n) = ⟨n, []⟩ := by
  have hvalue : (Numeral.digitsOf n).foldl (fun n c => 10 * n + Numeral.digitValue c) 0 = n :=
    valueOf_digitsOf n
  rw [takeDigits_eq (by rwa [hvalue]), hvalue]

lemma isFinite_wholeDouble (hn : 0 < n) (h : n < 2 ^ 53) :
    isFinite (wholeDouble n hn) = true := by
  rw [isFinite, value_eq_unpackedValue, unpack_wholeDouble hn h]
  rfl

lemma isSome_scale?_zero (h : n < 2 ^ 53) : (Numeral.scale? n 0).isSome = true := by
  rcases Nat.eq_zero_or_pos n with rfl | hpos
  · decide +kernel
  · have hone : Numeral.powerOfTen 0 = wholeDouble 1 one_pos :=
      ofNat_eq_wholeDouble one_pos (by norm_num)
    have hproduct : (UInt64.ofNat n).toFloat * Numeral.powerOfTen 0 = wholeDouble n hpos := by
      change n.toUInt64.toFloat * _ = _
      rw [hone, toFloat_eq_wholeDouble hpos h, wholeDouble_mul hpos one_pos (by omega)]
      simp only [mul_one]
    simp [Numeral.scale?, hproduct, isFinite_wholeDouble hpos h]

lemma isReadable_ofNat (h : n < 2 ^ 53) : (Json.ofNat n).isReadable = true := by
  have hlimit : n ≤ Numeral.wholeLimit := by
    unfold Numeral.wholeLimit
    rw [Nat.pow_eq]
    omega
  have hmagnitude : (Numeral.ofNat n).toFloat? = (Numeral.scale? n 0).map id := by
    unfold Numeral.toFloat? Numeral.ofNat
    simp only [takeDigits_digitsOf hlimit]
    rfl
  rw [Json.ofNat, Json.isReadable, hmagnitude, Option.isSome_map]
  exact isSome_scale?_zero h

end Numbers

section Values

variable {n : Nat}

lemma itemsReadable_of_forall {items : List Json} (h : ∀ item ∈ items, item.isReadable = true) :
    itemsReadable items = true := by
  induction items with
  | nil => rfl
  | cons item items ih =>
    obtain ⟨hitem, hitems⟩ := List.forall_mem_cons.mp h
    rw [itemsReadable, hitem, ih hitems]
    rfl

lemma depthOfItems_le {items : List Json} (h : ∀ item ∈ items, item.depth ≤ n) :
    depthOfItems items ≤ n := by
  induction items with
  | nil => exact Nat.zero_le n
  | cons item items ih =>
    obtain ⟨hitem, hitems⟩ := List.forall_mem_cons.mp h
    rw [depthOfItems]
    exact max_le hitem (ih hitems)

lemma fieldsReadable_named {fields : List (String × Json)}
    (h : ∀ field ∈ fields, field.2.isReadable = true) : fieldsReadable (named fields) = true := by
  induction fields with
  | nil => rfl
  | cons field fields ih =>
    obtain ⟨hfield, hfields⟩ := List.forall_mem_cons.mp h
    change ((some field.1).isSome && field.2.isReadable && fieldsReadable (named fields)) = true
    rw [hfield, ih hfields]
    rfl

lemma depthOfFields_named_le {fields : List (String × Json)}
    (h : ∀ field ∈ fields, field.2.depth ≤ n) : depthOfFields (named fields) ≤ n := by
  induction fields with
  | nil => exact Nat.zero_le n
  | cons field fields ih =>
    obtain ⟨hfield, hfields⟩ := List.forall_mem_cons.mp h
    exact max_le hfield (ih hfields)

lemma isHeld_ofString (n : Nat) (s : String) : IsHeld n (ofString s) :=
  ⟨rfl, Nat.zero_le n⟩

lemma isHeld_ofNat (n : Nat) {k : Nat} (h : k < 2 ^ 32) : IsHeld n (ofNat k) :=
  ⟨isReadable_ofNat (by omega), Nat.zero_le n⟩

lemma isHeld_array {items : List Json} (h : ∀ item ∈ items, IsHeld n item) :
    IsHeld (n + 1) (.array items) where
  readable := by
    rw [Json.isReadable]
    exact itemsReadable_of_forall fun item hitem => (h item hitem).readable
  depth := by
    rw [Json.depth]
    exact Nat.succ_le_succ (depthOfItems_le fun item hitem => (h item hitem).depth)

lemma isHeld_ofFields {fields : List (String × Json)} (h : ∀ field ∈ fields, IsHeld n field.2) :
    IsHeld (n + 1) (.ofFields fields) where
  readable := by
    rw [Json.ofFields, Json.isReadable]
    exact fieldsReadable_named fun field hfield => (h field hfield).readable
  depth := by
    rw [Json.ofFields, Json.depth]
    exact Nat.succ_le_succ (depthOfFields_named_le fun field hfield => (h field hfield).depth)

end Values

end Autograder.Proofs
