import Autograder.Format.Exercise
import Autograder.Proofs.Json.Readable

/-!
# Written rubrics

What an author may write for a list of rules, said without the readers: an object or a row for each
rule, and around them either nothing or an object with a date and a total. Whatever was written is
read as the rules, also where it first has to be found out which of the two it is.
-/

namespace Autograder.Proofs

open Autograder.Json Autograder.Number Autograder.Time

/-- The values of a rule in a row; the feedback may be missing. -/
def ruleRow (rule : Rule) (feedback : Option String) : List Json :=
  [.ofString rule.label, .ofString rule.pattern, .ofNat rule.points] ++
    (feedback.map .ofString).toList

/-- What may be written for a rule: its fields in any order, or their values in a row. The pattern
goes by two names, and a feedback that is empty may be left out. -/
inductive WritesRule (rule : Rule) : Json → Prop where
  | object {name : String} {feedback : Option String} {fields : List (String × Json)}
      (named : name = "pattern" ∨ name = "regex") (told : feedback.getD "" = rule.feedback)
      (order : fields.Perm ([("label", .ofString rule.label), (name, .ofString rule.pattern),
        ("points", .ofNat rule.points)] ++ optionalField "feedback" .ofString feedback)) :
      WritesRule rule (.ofFields fields)
  | row {feedback : Option String} (told : feedback.getD "" = rule.feedback) :
      WritesRule rule (.array (ruleRow rule feedback))

/-- What may be written for a rubric: the rules in order, and in any place a date and a total, which
need not be that of the rules. -/
inductive WritesRubric (rules : List Rule) : Json → Prop where
  | object {items : List Json} {date : Option String} {total : Option Nat}
      {fields : List (String × Json)} (written : List.Forall₂ WritesRule rules items)
      (dated : ∀ text, date = some text → (Timestamp.parse? text).isSome = true)
      (fits : ∀ n, total = some n → n < 2 ^ 32)
      (order : fields.Perm ([("rules", .array items)] ++
        optionalField "updated_at" .ofString date ++ optionalField "total_points" .ofNat total)) :
      WritesRubric rules (.ofFields fields)

section Rules

variable {rule : Rule} {j : Json}

lemma ofJson?_of_record? {feedback : Option String} (hpoints : rule.points < 2 ^ 32)
    (told : feedback.getD "" = rule.feedback)
    (h : j.record? [["label"], ["pattern", "regex"], ["points"], ["feedback"]] =
      some [some (ofString rule.label), some (ofString rule.pattern), some (ofNat rule.points),
        feedback.map ofString]) : Rule.ofJson? j = some rule := by
  have hfeedback : withDefault "" string? (feedback.map ofString) = some rule.feedback := by
    rw [← told]
    cases feedback <;> rfl
  simp only [Rule.ofJson?, h, required, Option.bind_eq_bind, Option.bind_some, hfeedback,
    (roundTrips_nat32 hpoints).decoded, (roundTrips_string _).decoded]
  rfl

lemma ofJson?_of_writesRule (hpoints : rule.points < 2 ^ 32) (h : WritesRule rule j) :
    Rule.ofJson? j = some rule := by
  cases h with
  | @object name feedback fields hname told order =>
    refine ofJson?_of_record? hpoints told ?_
    rw [record?_perm _ order]
    rcases hname with rfl | rfl <;> cases feedback <;> rfl
  | @row feedback told =>
    refine ofJson?_of_record? hpoints told ?_
    cases feedback <;> rfl

lemma isHeld_of_mem_ruleRow {feedback : Option String} (hpoints : rule.points < 2 ^ 32)
    (h : j ∈ ruleRow rule feedback) : IsHeld 0 j := by
  simp only [ruleRow, List.mem_append, List.mem_cons, List.not_mem_nil, or_false,
    Option.mem_toList, Option.map_eq_some_iff] at h
  rcases h with (rfl | rfl | rfl) | ⟨text, -, rfl⟩
  exacts [isHeld_ofString 0 _, isHeld_ofString 0 _, isHeld_ofNat 0 hpoints, isHeld_ofString 0 text]

lemma isHeld_of_writesRule (hpoints : rule.points < 2 ^ 32) (h : WritesRule rule j) :
    IsHeld 1 j := by
  cases h with
  | @object name feedback fields hname told order =>
    have hrow : (fields.map Prod.snd).Perm (ruleRow rule feedback) := by
      have hvalues := order.map Prod.snd
      cases feedback <;> exact hvalues
    refine isHeld_ofFields fun field hfield => ?_
    exact isHeld_of_mem_ruleRow hpoints (hrow.mem_iff.mp (List.mem_map_of_mem hfield))
  | @row feedback told => exact isHeld_array fun item => isHeld_of_mem_ruleRow hpoints

lemma timestamp_of_writesRule (h : WritesRule rule j) : Timestamp.ofJson? j = none := by
  cases h <;> rfl

end Rules

section Rubrics

variable {rules : List Rule} {items : List Json} {j : Json}

lemma list?_of_writesRules (hpoints : ∀ rule ∈ rules, rule.points < 2 ^ 32)
    (h : List.Forall₂ WritesRule rules items) :
    (Json.array items).list? Rule.ofJson? = some rules := by
  change items.mapM Rule.ofJson? = some rules
  induction h with
  | nil => rfl
  | cons hitem _ ih =>
    obtain ⟨hrule, hrules⟩ := List.forall_mem_cons.mp hpoints
    rw [List.mapM_cons, ofJson?_of_writesRule hrule hitem, ih hrules]
    rfl

lemma isHeld_of_writesRules (hpoints : ∀ rule ∈ rules, rule.points < 2 ^ 32)
    (h : List.Forall₂ WritesRule rules items) : IsHeld 2 (.array items) := by
  refine isHeld_array fun item hitem => ?_
  induction h with
  | nil => exact absurd hitem List.not_mem_nil
  | cons hwritten _ ih =>
    obtain ⟨hrule, hrules⟩ := List.forall_mem_cons.mp hpoints
    rcases List.mem_cons.mp hitem with rfl | hlater
    · exact isHeld_of_writesRule hrule hwritten
    · exact ih hrules hlater

/-- A list of rules is not taken for a rubric in a row, whose first value would be its date. -/
lemma rubricFile_of_writesRules (h : List.Forall₂ WritesRule rules items) :
    RubricFile.ofJson? (.array items) = none := by
  cases h with
  | nil => rfl
  | @cons rule item rules items hitem hitems =>
    have hdate : withDefault .epoch Timestamp.ofJson? (some item) = none :=
      timestamp_of_writesRule hitem
    -- a row of up to three values is decoded from its date on, and a longer one is no rubric
    match items with
    | [] | [_] | [_, _] =>
      change (withDefault .epoch Timestamp.ofJson? (some item)).bind _ = none
      rw [hdate]
      rfl
    | _ :: _ :: _ :: _ => rfl

lemma ofJson?_of_writesRubric (hpoints : ∀ rule ∈ rules, rule.points < 2 ^ 32)
    (h : WritesRubric rules j) :
    ∃ file, RubricFile.ofJson? j = some file ∧ file.rules = rules := by
  cases h with
  | @object items date total fields written dated fits order =>
    have hlist := list?_of_writesRules hpoints written
    have hfields : (ofFields fields).record? [["updated_at"], ["rules"], ["total_points"]] =
        some [date.map ofString, some (.array items), total.map ofNat] := by
      rw [record?_perm _ order]
      cases date <;> cases total <;> rfl
    have hdate : ∃ t, withDefault .epoch Timestamp.ofJson? (date.map ofString) = some t := by
      cases date with
      | none => exact ⟨.epoch, rfl⟩
      | some text => exact Option.isSome_iff_exists.mp (dated text rfl)
    have htotal : ∃ n, withDefault 0 nat32? (total.map ofNat) = some n := by
      cases total with
      | none => exact ⟨0, rfl⟩
      | some n => exact ⟨n, (roundTrips_nat32 (fits n rfl)).decoded⟩
    obtain ⟨t, ht⟩ := hdate
    obtain ⟨n, hn⟩ := htotal
    refine ⟨⟨t, rules, n⟩, ?_, rfl⟩
    simp only [RubricFile.ofJson?, hfields, required, Option.bind_eq_bind, Option.bind_some, ht, hn,
      hlist]
    rfl

lemma isHeld_of_writesRubric (hpoints : ∀ rule ∈ rules, rule.points < 2 ^ 32)
    (h : WritesRubric rules j) : IsHeld 3 j := by
  cases h with
  | @object items date total fields written dated fits order =>
    refine isHeld_ofFields fun field hfield => ?_
    rcases List.mem_append.mp (order.mem_iff.mp hfield) with hfront | htotal
    · rcases List.mem_append.mp hfront with hrules | hdate
      · rw [List.mem_singleton.mp hrules]
        exact isHeld_of_writesRules hpoints written
      · exact forall_mem_optionalField _ (fun text _ => isHeld_ofString 2 text) field hdate
    · exact forall_mem_optionalField _ (fun n hn => isHeld_ofNat 2 (fits n hn)) field htotal

end Rubrics

end Autograder.Proofs
