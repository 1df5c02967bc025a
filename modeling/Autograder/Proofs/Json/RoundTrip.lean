import Autograder.Proofs.Json.Numeral
import Autograder.Proofs.Json.Quoted

/-!
# Values read back

A value whose strings can be read and whose numerals are of the usual form is read back from its
text, however the layout sets its parts apart with spaces. The reader never runs out of fuel, as
every part of a text is shorter than the whole.
-/

namespace Autograder.Proofs

open Autograder.Json

/-- The values that the program writes. -/
inductive IsProper : Json → Prop where
  | null : IsProper .null
  | bool (value : Bool) : IsProper (.bool value)
  | number {n : Numeral} (written : IsWritten n) : IsProper (.number n)
  | string (s : String) : IsProper (.string (some s))
  | array {items : List Json} (proper : ∀ item ∈ items, IsProper item) : IsProper (.array items)
  | object {fields : List (String × Json)} (proper : ∀ field ∈ fields, IsProper field.2) :
      IsProper (.ofFields fields)

/-- Spaces only. -/
def IsGap (gap : List Char) : Prop :=
  ∀ c ∈ gap, isSpace c = true

/-- The layout sets parts apart with spaces only. -/
structure IsPlainLayout (layout : Layout) : Prop where
  lineBreak : ∀ depth, IsGap (layout.lineBreak depth)
  colon : ∃ gap, IsGap gap ∧ layout.colon = ':' :: gap

lemma isPlainLayout_compact : IsPlainLayout .compact where
  lineBreak _ := by simp [IsGap, Layout.compact]
  colon := ⟨[], by simp [IsGap], rfl⟩

lemma isPlainLayout_indented : IsPlainLayout .indented where
  lineBreak depth c hc := by
    rcases List.mem_cons.mp hc with rfl | hspace
    · rfl
    · rw [List.eq_of_mem_replicate hspace]
      rfl
  colon := ⟨[' '], by simp [IsGap, isSpace], rfl⟩

section Spaces

variable {gap s rest : List Char} {c : Char}

lemma skipSpaces_gap (hgap : IsGap gap) : skipSpaces (gap ++ s) = skipSpaces s :=
  List.dropWhile_append_of_pos hgap

lemma skipSpaces_cons (h : isSpace c = false) : skipSpaces (c :: s) = c :: s :=
  dropWhile_of_startsOutside (startsOutside_cons.mpr h)

lemma readValue_gap (hgap : IsGap gap) (fuel : Nat) :
    readValue fuel (gap ++ s) = readValue fuel s := by
  cases fuel with
  | zero => rfl
  | succ fuel => rw [readValue, readValue, skipSpaces_gap hgap]

lemma readFields_gap (hgap : IsGap gap) (fuel : Nat) :
    readFields fuel (gap ++ s) = readFields fuel s := by
  cases fuel with
  | zero => rfl
  | succ fuel => rw [readFields, readFields, skipSpaces_gap hgap]

lemma readItems_gap (hgap : IsGap gap) (fuel : Nat) :
    readItems fuel (gap ++ s) = readItems fuel s := by
  cases fuel with
  | zero => rfl
  | succ fuel => rw [readItems, readItems, readValue_gap hgap]

lemma startsOutside_gap (hgap : IsGap gap) (hs : StartsOutside continuesNumeral s) :
    StartsOutside continuesNumeral (gap ++ s) := by
  refine startsOutside_append (fun c hc => ?_) hs
  have hspace := hgap c hc
  simp only [isSpace, Bool.or_eq_true, beq_iff_eq] at hspace
  rcases hspace with ((rfl | rfl) | rfl) | rfl <;> rfl

end Spaces

section Leaves

variable {rest : List Char} {fuel : Nat}

lemma exists_cons_write {n : Numeral} (h : IsWritten n) :
    ∃ c s, n.write = c :: s ∧ (c = '-' ∨ c.isDigit = true) := by
  obtain ⟨c, digits, hwhole⟩ := List.exists_cons_of_ne_nil h.whole.ne_nil
  rw [write_eq, hwhole]
  cases n.negative with
  | true => exact ⟨_, _, rfl, .inl rfl⟩
  | false => exact ⟨_, _, rfl, .inr (h.whole.isDigit c (hwhole ▸ List.mem_cons_self))⟩

lemma isSpace_eq_false_of_isDigit {c : Char} (h : c.isDigit = true) : isSpace c = false := by
  by_contra hspace
  simp only [isSpace, Bool.not_eq_false, Bool.or_eq_true, beq_iff_eq] at hspace
  rcases hspace with ((rfl | rfl) | rfl) | rfl <;> exact absurd h (by decide)

lemma readValue_write {n : Numeral} (h : IsWritten n)
    (hrest : StartsOutside continuesNumeral rest) :
    readValue (fuel + 1) (n.write ++ rest) = some (.number n, rest) := by
  have hread := readNumeral_write h hrest
  obtain ⟨c, s, hwrite, hstart⟩ := exists_cons_write h
  have hspace : isSpace c = false := by
    rcases hstart with rfl | hdigit
    · rfl
    · exact isSpace_eq_false_of_isDigit hdigit
  rw [hwrite, List.cons_append] at hread ⊢
  rw [readValue, skipSpaces_cons hspace]
  split
  all_goals first
    | (next heq =>
        obtain ⟨rfl, -⟩ := List.cons.inj heq
        rcases hstart with hminus | hdigit
        · exact absurd hminus (by decide)
        · exact absurd hdigit (by decide))
    | (rw [hread]; rfl)

end Leaves

section Values

variable {layout : Layout} {rest : List Char}

/-- The text of a value starts with none of the characters that end or set apart values. -/
lemma exists_cons_writeAt {j : Json} (h : IsProper j) (layout : Layout) (depth : Nat) :
    ∃ c s, writeAt layout depth j = c :: s ∧ isSpace c = false ∧ c ≠ ']' := by
  cases h with
  | null => exact ⟨_, _, rfl, by decide, by decide⟩
  | bool value => cases value <;> exact ⟨_, _, rfl, by decide, by decide⟩
  | string s => exact ⟨_, _, rfl, by decide, by decide⟩
  | number written =>
    obtain ⟨c, s, hwrite, rfl | hdigit⟩ := exists_cons_write written
    · exact ⟨_, s, hwrite, by decide, by decide⟩
    · refine ⟨c, s, hwrite, isSpace_eq_false_of_isDigit hdigit, ?_⟩
      rintro rfl
      exact absurd hdigit (by decide)
  | @array items proper =>
    cases items <;> exact ⟨_, _, rfl, by decide, by decide⟩
  | @object fields proper =>
    cases fields <;> exact ⟨_, _, rfl, by decide, by decide⟩

lemma length_writeAt_pos {j : Json} (h : IsProper j) (layout : Layout) (depth : Nat) :
    0 < (writeAt layout depth j).length := by
  obtain ⟨c, s, hwrite, -⟩ := exists_cons_writeAt h layout depth
  simp [hwrite]

/-- The value is read back from its text, with as much fuel as the text is long. -/
structure ReadsBack (layout : Layout) (j : Json) : Prop where
  proper : IsProper j
  read : ∀ depth fuel rest, (writeAt layout depth j).length ≤ fuel →
    StartsOutside continuesNumeral rest →
    readValue fuel (writeAt layout depth j ++ rest) = some (j, rest)

lemma readItems_step {item : Json} {behind : List Char} {fuel : Nat} (hitem : ReadsBack layout item)
    (depth : Nat) (hfuel : (writeAt layout depth item).length ≤ fuel)
    (hbehind : StartsOutside continuesNumeral behind) :
    readItems (fuel + 1) (writeAt layout depth item ++ behind) =
      match skipSpaces behind with
      | ',' :: rest => (readItems fuel rest).map fun (items, rest) => (item :: items, rest)
      | ']' :: rest => some ([item], rest)
      | _ => none := by
  rw [readItems, hitem.read depth fuel behind hfuel hbehind]
  rfl

lemma readFields_step (hlayout : IsPlainLayout layout) (name : String) {value : Json}
    {behind : List Char} {fuel : Nat} (hvalue : ReadsBack layout value) (depth : Nat)
    (hfuel : (writeAt layout depth value).length ≤ fuel)
    (hbehind : StartsOutside continuesNumeral behind) :
    readFields (fuel + 1)
        (quote (some name) ++ (layout.colon ++ (writeAt layout depth value ++ behind))) =
      match skipSpaces behind with
      | ',' :: rest =>
        (readFields fuel rest).map fun (fields, rest) => ((some name, value) :: fields, rest)
      | '}' :: rest => some ([(some name, value)], rest)
      | _ => none := by
  obtain ⟨gap, hgap, hcolon⟩ := hlayout.colon
  have hvalueRead : readValue fuel (gap ++ (writeAt layout depth value ++ behind)) =
      some (value, behind) := by
    rw [readValue_gap hgap, hvalue.read depth fuel behind hfuel hbehind]
  have hname : readString (name.toList.flatMap escape ++
      '"' :: (layout.colon ++ (writeAt layout depth value ++ behind))) =
      some (some name, layout.colon ++ (writeAt layout depth value ++ behind)) :=
    readString_quote name _
  have hquote : quote (some name) ++ (layout.colon ++ (writeAt layout depth value ++ behind)) =
      '"' :: (name.toList.flatMap escape ++
        '"' :: (layout.colon ++ (writeAt layout depth value ++ behind))) := by
    simp [quote]
  rw [hquote, readFields, skipSpaces_cons (by decide)]
  simp only [hname, Option.bind_eq_bind, Option.bind_some]
  rw [hcolon, List.cons_append, skipSpaces_cons (by decide)]
  exact (congrArg (Option.bind · _) hvalueRead).trans rfl

lemma readItems_write (hlayout : IsPlainLayout layout) (rest : List Char) {items : List Json}
    {item : Json} {gap : List Char} (hgap : IsGap gap) (depth : Nat) {fuel : Nat}
    (hitem : ReadsBack layout item) (hitems : ∀ item ∈ items, ReadsBack layout item)
    (hfuel : (writeAt layout depth item ++ writeItems layout depth items).length < fuel) :
    readItems fuel (writeAt layout depth item ++
      (writeItems layout depth items ++ (gap ++ ']' :: rest))) = some (item :: items, rest) := by
  -- each item costs one unit of fuel and has at least one character, so the fuel outlasts the text
  obtain ⟨fuel, rfl⟩ := Nat.exists_eq_succ_of_ne_zero (Nat.ne_zero_of_lt hfuel)
  induction items generalizing item fuel with
  | nil =>
    have hbehind : StartsOutside continuesNumeral (gap ++ ']' :: rest) :=
      startsOutside_gap hgap (startsOutside_cons.mpr rfl)
    rw [List.length_append] at hfuel
    rw [writeItems, List.nil_append, readItems_step hitem depth (by omega) hbehind,
      skipSpaces_gap hgap]
    rfl
  | cons next items ih =>
    obtain ⟨hnext, hrest⟩ := List.forall_mem_cons.mp hitems
    have hpos := length_writeAt_pos hitem.proper layout depth
    simp only [writeItems, List.length_append, List.length_cons] at hfuel
    obtain ⟨fuel, rfl⟩ := Nat.exists_eq_succ_of_ne_zero (show fuel ≠ 0 by omega)
    have hread := ih hnext hrest fuel (by rw [List.length_append]; omega)
    simp only [writeItems, List.append_assoc, List.cons_append]
    rw [readItems_step hitem depth (by omega) (startsOutside_cons.mpr rfl)]
    change (readItems (fuel + 1) _).map _ = _
    rw [readItems_gap (hlayout.lineBreak depth), hread]
    rfl

/-- The fields as they stand in a value. -/
def named (fields : List (String × Json)) : List (Option String × Json) :=
  fields.map fun (name, value) => (some name, value)

lemma readFields_write (hlayout : IsPlainLayout layout) (rest : List Char)
    {fields : List (String × Json)} (name : String) {value : Json} {gap : List Char}
    (hgap : IsGap gap) (depth : Nat) {fuel : Nat}
    (hvalue : ReadsBack layout value) (hfields : ∀ field ∈ fields, ReadsBack layout field.2)
    (hfuel : (writeAt layout depth value ++ writeFields layout depth (named fields)).length <
      fuel) :
    readFields fuel (quote (some name) ++ (layout.colon ++ (writeAt layout depth value ++
      (writeFields layout depth (named fields) ++ (gap ++ '}' :: rest))))) =
      some ((some name, value) :: named fields, rest) := by
  obtain ⟨fuel, rfl⟩ := Nat.exists_eq_succ_of_ne_zero (Nat.ne_zero_of_lt hfuel)
  induction fields generalizing name value fuel with
  | nil =>
    have hbehind : StartsOutside continuesNumeral (gap ++ '}' :: rest) :=
      startsOutside_gap hgap (startsOutside_cons.mpr rfl)
    rw [List.length_append] at hfuel
    change readFields _ (_ ++ (_ ++ (_ ++ ([] ++ _)))) = _
    rw [List.nil_append, readFields_step hlayout name hvalue depth (by omega) hbehind,
      skipSpaces_gap hgap]
    rfl
  | cons next fields ih =>
    obtain ⟨hnext, hrest⟩ := List.forall_mem_cons.mp hfields
    have hpos := length_writeAt_pos hvalue.proper layout depth
    simp only [named, List.map_cons, writeFields, List.length_append, List.length_cons] at hfuel
    obtain ⟨fuel, rfl⟩ := Nat.exists_eq_succ_of_ne_zero (show fuel ≠ 0 by omega)
    have hread := ih next.1 hnext hrest fuel
      (by simp only [named, List.length_append]; omega)
    simp only [named, List.map_cons, writeFields, List.append_assoc, List.cons_append] at hread ⊢
    rw [readFields_step hlayout name hvalue depth (by omega) (startsOutside_cons.mpr rfl)]
    change (readFields (fuel + 1) _).map _ = _
    rw [readFields_gap (hlayout.lineBreak depth), hread]
    rfl

lemma readValue_of_readItems {c : Char} {s gap : List Char} {items : List Json} {fuel : Nat}
    (hgap : IsGap gap) (hspace : isSpace c = false) (hclose : c ≠ ']')
    (h : readItems fuel (c :: s) = some (items, rest)) :
    readValue (fuel + 1) ('[' :: (gap ++ c :: s)) = some (.array items, rest) := by
  rw [readValue, skipSpaces_cons (by decide)]
  simp only [skipSpaces_gap hgap, skipSpaces_cons hspace]
  split
  · next heq => exact absurd (List.cons.inj heq).1 hclose
  · rw [h]
    rfl

lemma readValue_of_readFields {s gap : List Char} {fields : List (Option String × Json)}
    {fuel : Nat} (hgap : IsGap gap) (h : readFields fuel ('"' :: s) = some (fields, rest)) :
    readValue (fuel + 1) ('\x7b' :: (gap ++ '"' :: s)) = some (.object fields, rest) := by
  rw [readValue, skipSpaces_cons (by decide)]
  simp only [skipSpaces_gap hgap, skipSpaces_cons (c := '"') rfl]
  change (readFields fuel ('"' :: s)).map _ = _
  rw [h]
  rfl

lemma readsBack_array (hlayout : IsPlainLayout layout) {items : List Json}
    (h : ∀ item ∈ items, ReadsBack layout item) : ReadsBack layout (.array items) := by
  refine ⟨.array fun item hitem => (h item hitem).proper, fun depth fuel rest hfuel _ => ?_⟩
  cases items with
  | nil =>
    obtain ⟨fuel, rfl⟩ := Nat.exists_eq_add_of_le' hfuel
    rfl
  | cons item items =>
    obtain ⟨hitem, hitems⟩ := List.forall_mem_cons.mp h
    simp only [writeAt, List.length_append, List.length_cons] at hfuel
    obtain ⟨fuel, rfl⟩ := Nat.exists_eq_succ_of_ne_zero (show fuel ≠ 0 by omega)
    have hlength : (writeAt layout (depth + 1) item ++
        writeItems layout (depth + 1) items).length < fuel := by
      rw [List.length_append]
      omega
    have hread := readItems_write hlayout rest (hlayout.lineBreak depth) (depth + 1)
      hitem hitems hlength
    obtain ⟨c, s, hstart, hspace, hclose⟩ := exists_cons_writeAt hitem.proper layout (depth + 1)
    simp only [writeAt, List.append_assoc, List.cons_append, List.nil_append]
    rw [hstart, List.cons_append] at hread ⊢
    exact readValue_of_readItems (hlayout.lineBreak (depth + 1)) hspace hclose hread

lemma readsBack_object (hlayout : IsPlainLayout layout) {fields : List (String × Json)}
    (h : ∀ field ∈ fields, ReadsBack layout field.2) : ReadsBack layout (.ofFields fields) := by
  refine ⟨.object fun field hfield => (h field hfield).proper, fun depth fuel rest hfuel _ => ?_⟩
  cases fields with
  | nil =>
    obtain ⟨fuel, rfl⟩ := Nat.exists_eq_add_of_le' hfuel
    rfl
  | cons field fields =>
    obtain ⟨hvalue, hfields⟩ := List.forall_mem_cons.mp h
    have hwrite : writeAt layout depth (.ofFields (field :: fields)) =
        '\x7b' :: (layout.lineBreak (depth + 1) ++ (quote (some field.1) ++ (layout.colon ++
          (writeAt layout (depth + 1) field.2 ++ (writeFields layout (depth + 1) (named fields) ++
            (layout.lineBreak depth ++ ['\x7d'])))))) := by
      simp [Json.ofFields, writeAt, named]
    rw [hwrite] at hfuel ⊢
    simp only [List.length_append, List.length_cons] at hfuel
    obtain ⟨fuel, rfl⟩ := Nat.exists_eq_succ_of_ne_zero (show fuel ≠ 0 by omega)
    have hlength : (writeAt layout (depth + 1) field.2 ++
        writeFields layout (depth + 1) (named fields)).length < fuel := by
      rw [List.length_append]
      omega
    have hread := readFields_write hlayout rest field.1 (hlayout.lineBreak depth)
      (depth + 1) hvalue hfields hlength
    simp only [List.append_assoc, List.cons_append, List.nil_append]
    exact readValue_of_readFields (hlayout.lineBreak (depth + 1)) hread

theorem readsBack_of_isProper (hlayout : IsPlainLayout layout) {j : Json} (h : IsProper j) :
    ReadsBack layout j := by
  induction h with
  | null =>
    refine ⟨.null, fun depth fuel rest hfuel _ => ?_⟩
    obtain ⟨fuel, rfl⟩ := Nat.exists_eq_add_of_le' hfuel
    rfl
  | bool value =>
    refine ⟨.bool value, fun depth fuel rest hfuel _ => ?_⟩
    cases value <;>
      obtain ⟨fuel, rfl⟩ := Nat.exists_eq_add_of_le' hfuel <;> rfl
  | number written =>
    refine ⟨.number written, fun depth fuel rest hfuel hrest => ?_⟩
    have hpos := length_writeAt_pos (.number written) layout depth
    obtain ⟨fuel, rfl⟩ := Nat.exists_eq_succ_of_ne_zero (show fuel ≠ 0 by omega)
    exact readValue_write written hrest
  | string s =>
    refine ⟨.string s, fun depth fuel rest hfuel _ => ?_⟩
    have hpos := length_writeAt_pos (.string s) layout depth
    obtain ⟨fuel, rfl⟩ := Nat.exists_eq_succ_of_ne_zero (show fuel ≠ 0 by omega)
    have hquote : writeAt layout depth (.string (some s)) ++ rest =
        '"' :: (s.toList.flatMap escape ++ '"' :: rest) := by
      simp [writeAt, quote]
    rw [hquote, readValue, skipSpaces_cons (by decide)]
    simp only [readString_quote, Option.map_some]
  | array _ ih => exact readsBack_array hlayout ih
  | object _ ih => exact readsBack_object hlayout ih

theorem parse?_writeAt (hlayout : IsPlainLayout layout) {j : Json} (h : IsProper j)
    (depth : Nat) : parse? (String.ofList (writeAt layout depth j)) = some j := by
  have hread := (readsBack_of_isProper hlayout h).read depth
    ((writeAt layout depth j).length + 1) [] (Nat.le_succ _) startsOutside_nil
  rw [List.append_nil] at hread
  unfold parse?
  simp only [String.toList_ofList, hread]
  rfl

end Values

end Autograder.Proofs
