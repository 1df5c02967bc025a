import Autograder.Json.Decode
import Autograder.Proofs.Json.RoundTrip

/-!
# Decoding what was encoded

An encoder and a decoder agree on a value when its encoding can be written and is decoded as the
value; then the value is read back from its text. The leaves of records agree, and so do lists.
-/

namespace Autograder.Proofs

open Autograder.Json

/-- The encoding of the value can be written, and is decoded as the value. -/
structure RoundTrips {α : Type} (encode : α → Json) (decode : Json → Option α) (a : α) : Prop where
  proper : IsProper (encode a)
  decoded : decode (encode a) = some a

/-- The value is read back from its text, on one line or over several. -/
structure IsReadBack {α : Type} (encode : α → Json) (decode : Json → Option α) (a : α) : Prop where
  compact : (parse? (encode a).compact).bind decode = some a
  pretty : (parse? (encode a).pretty).bind decode = some a

/-- The two values have different texts, on one line and over several. -/
structure TextsDiffer (j k : Json) : Prop where
  compact : j.compact ≠ k.compact
  pretty : j.pretty ≠ k.pretty

section Texts

variable {α : Type} {encode : α → Json} {decode : Json → Option α} {a b : α}

theorem RoundTrips.isReadBack (h : RoundTrips encode decode a) : IsReadBack encode decode a where
  compact := by
    rw [Json.compact, parse?_writeAt isPlainLayout_compact h.proper]
    exact h.decoded
  pretty := by
    rw [Json.pretty, parse?_writeAt isPlainLayout_indented h.proper]
    exact h.decoded

theorem IsReadBack.textsDiffer (ha : IsReadBack encode decode a) (hb : IsReadBack encode decode b)
    (hne : a ≠ b) : TextsDiffer (encode a) (encode b) where
  compact heq := hne (Option.some.inj (ha.compact.symm.trans (heq ▸ hb.compact)))
  pretty heq := hne (Option.some.inj (ha.pretty.symm.trans (heq ▸ hb.pretty)))

end Texts

section Leaves

lemma roundTrips_string (s : String) : RoundTrips ofString string? s where
  proper := .string s
  decoded := rfl

lemma roundTrips_bool (b : Bool) : RoundTrips .bool bool? b where
  proper := .bool b
  decoded := rfl

lemma roundTrips_nat {limit n : Nat} (h : n ≤ limit) : RoundTrips ofNat (nat? limit) n where
  proper := .number (isWritten_ofNat n)
  decoded := toNat?_ofNat h

lemma roundTrips_nat32 {n : Nat} (h : n < 2 ^ 32) : RoundTrips ofNat nat32? n :=
  roundTrips_nat (Nat.le_sub_one_of_lt h)

lemma roundTrips_nat64 {n : Nat} (h : n < 2 ^ 64) : RoundTrips ofNat nat64? n :=
  roundTrips_nat (Nat.le_sub_one_of_lt h)

/-- The double is finite, and its digits are read as the double. -/
structure IsPrinted (x : Float) : Prop where
  finite : Number.isFinite x = true
  readBack : (ofFloat x).float? = some x

lemma exists_ofFloat_eq {x : Float} (h : Number.isFinite x = true) :
    ∃ n, IsWritten n ∧ ofFloat x = .number n := by
  unfold Number.isFinite at h
  unfold ofFloat
  cases hvalue : Number.value x with
  | finite negative mantissa exponent =>
    exact ⟨_, isWritten_ofParts negative mantissa exponent, rfl⟩
  | infinite negative | nan => simp [hvalue] at h

lemma ofFloat_ne_null {x : Float} (h : Number.isFinite x = true) : ofFloat x ≠ .null := by
  obtain ⟨n, -, heq⟩ := exists_ofFloat_eq h
  rw [heq]
  exact Json.noConfusion

lemma roundTrips_float {x : Float} (h : IsPrinted x) : RoundTrips ofFloat float? x where
  proper := by
    obtain ⟨n, hwritten, heq⟩ := exists_ofFloat_eq h.finite
    exact heq ▸ .number hwritten
  decoded := h.readBack

variable {α : Type} {encode : α → Json} {decode : Json → Option α}

lemma mapM_map_of_decoded {items : List α} (h : ∀ a ∈ items, decode (encode a) = some a) :
    (items.map encode).mapM decode = some items := by
  induction items with
  | nil => rfl
  | cons a items ih =>
    have htail := ih fun b hb => h b (List.mem_cons_of_mem a hb)
    rw [List.map_cons, List.mapM_cons, h a List.mem_cons_self, htail]
    rfl

lemma roundTrips_list {items : List α} (h : ∀ a ∈ items, RoundTrips encode decode a) :
    RoundTrips (ofList encode) (list? decode) items where
  proper := by
    refine .array fun j hj => ?_
    obtain ⟨a, ha, rfl⟩ := List.mem_map.mp hj
    exact (h a ha).proper
  decoded := mapM_map_of_decoded fun a ha => (h a ha).decoded

lemma roundTrips_strings (texts : List String) :
    RoundTrips (ofList ofString) (list? string?) texts :=
  roundTrips_list fun s _ => roundTrips_string s

lemma nullable_of_ne_null {j : Json} (h : j ≠ .null) :
    nullable decode (some j) = (decode j).map some := by
  unfold nullable
  split
  · next heq => exact absurd heq (Option.some_ne_none j)
  · next heq => exact absurd (Option.some.inj heq) h
  · next heq => rw [Option.some.inj heq]

/-- A field that is null when there is no value is read back if no value is encoded as null. -/
lemma roundTrips_ofOption {o : Option α} (hnull : ∀ a, encode a ≠ .null)
    (h : ∀ a, o = some a → RoundTrips encode decode a) :
    RoundTrips (ofOption encode) (fun j => nullable decode (some j)) o := by
  cases o with
  | none => exact ⟨.null, rfl⟩
  | some a =>
    refine ⟨(h a rfl).proper, ?_⟩
    change nullable decode (some (encode a)) = _
    rw [nullable_of_ne_null (hnull a), (h a rfl).decoded, Option.map_some]

/-- A field that is left out when there is no value is read back if no value is encoded as null. -/
lemma nullable_map {o : Option α} (hnull : ∀ a, o = some a → encode a ≠ .null)
    (h : ∀ a, o = some a → RoundTrips encode decode a) :
    nullable decode (o.map encode) = some o := by
  cases o with
  | none => rfl
  | some a =>
    rw [Option.map_some, nullable_of_ne_null (hnull a rfl), (h a rfl).decoded, Option.map_some]

lemma forall_mem_optionalField {p : Json → Prop} {o : Option α} (name : String)
    (h : ∀ a, o = some a → p (encode a)) : ∀ field ∈ optionalField name encode o, p field.2 := by
  cases o with
  | none => exact fun _ hfield => absurd hfield List.not_mem_nil
  | some a =>
    intro field hfield
    rw [List.mem_singleton.mp hfield]
    exact h a rfl

end Leaves

section Records

lemma record?_ofFields (declared : List (List String)) (fields : List (String × Json)) :
    (ofFields fields).record? declared = declared.mapM (lookup? · (named fields)) := by
  simp [record?, ofFields, named]

lemma lookup?_perm {fields fields' : List (Option String × Json)} (names : List String)
    (h : fields.Perm fields') : lookup? names fields = lookup? names fields' := by
  unfold lookup?
  generalize hfound : fields.filter _ = found
  generalize hfound' : fields'.filter _ = found'
  have hperm : found.Perm found' := hfound ▸ hfound' ▸ h.filter _
  -- only how many fields were found counts, and the value if there is one
  rcases found' with _ | ⟨first, _ | ⟨second, others⟩⟩
  · rw [List.perm_nil.mp hperm]
  · rw [List.perm_singleton.mp hperm]
  · have hlength := hperm.length_eq
    rcases found with _ | ⟨first', _ | ⟨second', others'⟩⟩
    · simp at hlength
    · simp at hlength
    · rfl

/-- The order in which the fields of an object stand does not matter to a record. -/
theorem record?_perm {fields fields' : List (String × Json)} (declared : List (List String))
    (h : fields.Perm fields') : (ofFields fields).record? declared =
      (ofFields fields').record? declared := by
  have hlookup (names : List String) : lookup? names (named fields) =
      lookup? names (named fields') := lookup?_perm names (h.map _)
  simp only [record?_ofFields, hlookup]

end Records

end Autograder.Proofs
