import Autograder.Json.Reader
import Autograder.Json.Writer
import Mathlib.Tactic

/-!
# Quoted strings read back

Every character of a string is read back from what is written for it, be it the character itself, an
escape by letter or one by number. Only the first code points are escaped by number, so no escape is
taken for half of a surrogate pair.
-/

namespace Autograder.Proofs

open Autograder.Json

/-- The unit is written as the text and stands for the character. -/
structure IsUnitOf (unit : Unit16) (written : List Char) (c : Char) : Prop where
  read : ∀ s, readUnits (written ++ s) =
    (readUnits s).map fun (units, rest) => (unit :: units, rest)
  joined : ∀ units, joinUnits (unit :: units) = (joinUnits units).map (c :: ·)

section Units

variable {c letter : Char}

lemma isUnitOf_letter (hletter : letter ≠ 'u') (h : unescape? letter = some c) :
    IsUnitOf (.char c) ['\\', letter] c where
  read s := by
    change readUnits ('\\' :: letter :: s) = _
    rw [readUnits, h]
    · cases readUnits s <;> rfl
    · intro _ _ _ _ _ hu
      exact absurd hu hletter
  joined units := rfl

lemma isUnitOf_plain (hquote : c ≠ '"') (hescape : c ≠ '\\') (hvisible : 32 ≤ c.toNat) :
    IsUnitOf (.char c) [c] c where
  read s := by
    change readUnits (c :: s) = _
    rw [readUnits]
    · simp [Nat.not_lt.mpr hvisible, hescape]
    all_goals simp [hquote, hescape]
  joined units := rfl

/-- A code unit below the surrogates is a character of its own. -/
lemma joinUnits_escaped {n : Nat} (h : n < 0xD800) (units : List Unit16) :
    joinUnits (.escaped n :: units) = (joinUnits units).map (Char.ofNat n :: ·) := by
  cases units with
  | nil => simp [joinUnits, Nat.not_le.mpr h]
  | cons unit units =>
    cases unit with
    | char c => simp [joinUnits, Nat.not_le.mpr h]
    | escaped low =>
      have hlow : ¬ 0xDC00 ≤ n := by omega
      simp [joinUnits, Nat.not_le.mpr h, hlow]

lemma isUnitOf_numbered (hcontrol : c.toNat < 32) :
    IsUnitOf (.escaped c.toNat) ('\\' :: 'u' :: hexDigits c.toNat) c where
  read s := by
    have hall : ∀ n < 32, hexNumber? (n / 4096 % 16).digitChar (n / 256 % 16).digitChar
        (n / 16 % 16).digitChar (n % 16).digitChar = some n := by decide
    simp only [hexDigits, List.map_cons, List.map_nil, List.cons_append, List.nil_append, readUnits,
      hall c.toNat hcontrol, Option.bind_eq_bind, Option.bind_some]
    cases readUnits s <;> rfl
  joined units := by
    rw [joinUnits_escaped (by omega), Char.ofNat_toNat]

lemma exists_isUnitOf_escape (c : Char) : ∃ unit, IsUnitOf unit (escape c) c := by
  unfold escape
  simp only [beq_iff_eq]
  split_ifs with hquote hescape hline hreturn htab hback hfeed hcontrol
  · subst hquote
    exact ⟨_, isUnitOf_letter (by decide) (by decide)⟩
  · subst hescape
    exact ⟨_, isUnitOf_letter (by decide) (by decide)⟩
  · subst hline
    exact ⟨_, isUnitOf_letter (by decide) (by decide)⟩
  · subst hreturn
    exact ⟨_, isUnitOf_letter (by decide) (by decide)⟩
  · subst htab
    exact ⟨_, isUnitOf_letter (by decide) (by decide)⟩
  · obtain rfl : c = '\x08' := Char.toNat_inj.mp hback
    exact ⟨_, isUnitOf_letter (by decide) (by decide)⟩
  · obtain rfl : c = '\x0c' := Char.toNat_inj.mp hfeed
    exact ⟨_, isUnitOf_letter (by decide) (by decide)⟩
  · exact ⟨_, isUnitOf_numbered hcontrol⟩
  · exact ⟨_, isUnitOf_plain hquote hescape (by omega)⟩

lemma exists_units (s rest : List Char) : ∃ units,
    readUnits (s.flatMap escape ++ '"' :: rest) = some (units, rest) ∧
      joinUnits units = some s := by
  induction s with
  | nil => exact ⟨[], rfl, rfl⟩
  | cons c s ih =>
    obtain ⟨units, hread, hjoined⟩ := ih
    obtain ⟨unit, hunit⟩ := exists_isUnitOf_escape c
    refine ⟨unit :: units, ?_, ?_⟩
    · rw [List.flatMap_cons, List.append_assoc, hunit.read, hread]
      rfl
    · rw [hunit.joined, hjoined]
      rfl

end Units

theorem readString_quote (s : String) (rest : List Char) :
    readString (s.toList.flatMap escape ++ '"' :: rest) = some (some s, rest) := by
  obtain ⟨units, hread, hjoined⟩ := exists_units s.toList rest
  simp only [readString, hread, Option.map_some, hjoined, String.ofList_toList]

end Autograder.Proofs
