import Autograder.Proofs.Rubric.Authored

/-!
# Faults in an author's rules

A rubric is refused for its first bad rule, whatever stands behind it, and a rule that is worth
nothing is refused for that, whatever its pattern. What is submitted has no say: a rubric is refused
for every submission or for none, and for the same fault.
-/

namespace Autograder.Proofs

/-- The rule cannot be graded by. -/
def IsBad (rule : Rule) : Prop :=
  rule.points = 0 ∨ ∃ refusal, Pattern.parse rule.pattern = .error refusal

/-- What a rule is refused for. The pattern is looked at only if the rule is worth something. -/
inductive IsFaultOfRule (rule : Rule) : RubricFault → Prop
  | worthless : rule.points = 0 → IsFaultOfRule rule (.worthless rule.label)
  | badPattern {refusal : Pattern.Refusal} : rule.points ≠ 0 →
      Pattern.parse rule.pattern = .error refusal →
      IsFaultOfRule rule (.badPattern rule.label refusal)

/-- What a rubric is refused for: that it has no rules, or else its first bad rule. -/
inductive IsFaultOf : List Rule → RubricFault → Prop
  | noRules : IsFaultOf [] .noRules
  | firstBad {before : List Rule} {rule : Rule} {fault : RubricFault} (after : List Rule) :
      (∀ other ∈ before, ¬ IsBad other) → IsFaultOfRule rule fault →
      IsFaultOf (before ++ rule :: after) fault

section Traversal

variable {α β ε : Type} {f : α → Except ε β} {xs before : List α} {x : α} {fault : ε}

lemma mapM_append_error (hbefore : ∀ y ∈ before, ∃ b, f y = .ok b) (hx : f x = .error fault)
    (after : List α) : (before ++ x :: after).mapM f = .error fault := by
  induction before with
  | nil =>
    rw [List.nil_append, List.mapM_cons, hx]
    rfl
  | cons y rest ih =>
    obtain ⟨⟨b, hb⟩, hrest⟩ := List.forall_mem_cons.mp hbefore
    rw [List.cons_append, List.mapM_cons, hb, ih hrest]
    rfl

lemma mapM_eq_error_iff : xs.mapM f = .error fault ↔ ∃ before x after, xs = before ++ x :: after ∧
    (∀ y ∈ before, ∃ b, f y = .ok b) ∧ f x = .error fault := by
  constructor
  · intro h
    induction xs with
    | nil => cases h
    | cons y rest ih =>
      rw [List.mapM_cons] at h
      cases hy : f y with
      | error first =>
        rw [hy] at h
        obtain rfl : first = fault := Except.error.inj h
        exact ⟨[], y, rest, rfl, List.forall_mem_nil _, hy⟩
      | ok b =>
        cases hrest : rest.mapM f with
        | ok others =>
          rw [hy, hrest] at h
          cases h
        | error first =>
          rw [hy, hrest] at h
          obtain rfl : first = fault := Except.error.inj h
          obtain ⟨before, x, after, rfl, hbefore, hx⟩ := ih hrest
          exact ⟨y :: before, x, after, rfl, List.forall_mem_cons.mpr ⟨⟨b, hy⟩, hbefore⟩, hx⟩
  · rintro ⟨before, x, after, rfl, hbefore, hx⟩
    exact mapM_append_error hbefore hx after

end Traversal

section Rule

variable {rule : Rule} {fault : RubricFault}

lemma check_rule_eq_error_iff : rule.check = .error fault ↔ IsFaultOfRule rule fault := by
  constructor
  · intro h
    unfold Rule.check at h
    split_ifs at h with hworthless
    · obtain rfl : RubricFault.worthless rule.label = fault := Except.error.inj h
      exact .worthless (beq_iff_eq.mp hworthless)
    · split at h
      · cases h
      · next refusal hrefusal =>
        obtain rfl : RubricFault.badPattern rule.label refusal = fault := Except.error.inj h
        exact .badPattern (fun hzero => hworthless (beq_iff_eq.mpr hzero)) hrefusal
  · intro h
    unfold Rule.check
    cases h with
    | worthless hzero => rw [if_pos (beq_iff_eq.mpr hzero)]
    | badPattern hpoints hrefusal => rw [if_neg (by simpa using hpoints), hrefusal]

lemma exists_isFaultOfRule_iff : (∃ fault, IsFaultOfRule rule fault) ↔ IsBad rule := by
  constructor
  · rintro ⟨fault, hzero | ⟨-, hrefusal⟩⟩
    · exact .inl hzero
    · exact .inr ⟨_, hrefusal⟩
  · intro hbad
    by_cases hzero : rule.points = 0
    · exact ⟨_, .worthless hzero⟩
    · obtain ⟨refusal, hrefusal⟩ := hbad.resolve_left hzero
      exact ⟨_, .badPattern hzero hrefusal⟩

lemma exists_check_rule_iff : (∃ kept, rule.check = .ok kept) ↔ ¬ IsBad rule := by
  rw [← exists_isFaultOfRule_iff]
  simp only [← check_rule_eq_error_iff]
  cases rule.check with
  | ok kept => simp
  | error fault => simp

lemma message_worthless (label : String) : (RubricFault.worthless label).message =
    "invalid rubric: rule '" ++ label ++ "' awards no points" := rfl

lemma message_badPattern (label : String) (refusal : Pattern.Refusal) :
    (RubricFault.badPattern label refusal).message =
      "invalid pattern for rubric rule '" ++ label ++ ("': " ++ refusal.message) :=
  String.append_assoc ..

lemma toList_infix_append (before text after : String) :
    text.toList <:+: (before ++ text ++ after).toList := by
  rw [String.toList_append, String.toList_append]
  exact List.infix_append _ _ _

lemma label_infix_message (h : IsFaultOfRule rule fault) :
    rule.label.toList <:+: fault.message.toList := by
  cases h with
  | worthless =>
    rw [message_worthless]
    apply toList_infix_append
  | badPattern =>
    rw [message_badPattern]
    apply toList_infix_append

end Rule

section Rubric

variable {rules before : List Rule} {rule : Rule} {fault : RubricFault}

lemma check_append_error (hbefore : ∀ other ∈ before, ¬ IsBad other)
    (hrule : IsFaultOfRule rule fault) (after : List Rule) :
    Rubric.check (before ++ rule :: after) = .error fault := by
  have hchecked : ∀ other ∈ before, ∃ kept, other.check = .ok kept :=
    fun other hother => exists_check_rule_iff.mpr (hbefore other hother)
  rw [Rubric.check, if_neg (by simp)]
  exact mapM_append_error hchecked (check_rule_eq_error_iff.mpr hrule) after

lemma check_rubric_eq_error_iff : Rubric.check rules = .error fault ↔ IsFaultOf rules fault := by
  constructor
  · intro h
    unfold Rubric.check at h
    split_ifs at h with hempty
    · obtain rfl : RubricFault.noRules = fault := Except.error.inj h
      rw [List.isEmpty_iff.mp hempty]
      exact .noRules
    · obtain ⟨before, rule, after, rfl, hbefore, hrule⟩ := mapM_eq_error_iff.mp h
      refine .firstBad after (fun other hother => ?_) (check_rule_eq_error_iff.mp hrule)
      exact exists_check_rule_iff.mp (hbefore other hother)
  · intro h
    cases h with
    | noRules => rfl
    | firstBad after hbefore hrule => exact check_append_error hbefore hrule after

lemma exists_first_bad (h : ∃ rule ∈ rules, IsBad rule) : ∃ before rule after,
    rules = before ++ rule :: after ∧ (∀ other ∈ before, ¬ IsBad other) ∧ IsBad rule := by
  induction rules with
  | nil => simp at h
  | cons first rest ih =>
    by_cases hfirst : IsBad first
    · exact ⟨[], first, rest, rfl, List.forall_mem_nil _, hfirst⟩
    · have hrest : ∃ rule ∈ rest, IsBad rule := by
        simpa [hfirst] using h
      obtain ⟨before, rule, after, rfl, hbefore, hbad⟩ := ih hrest
      exact ⟨first :: before, rule, after, rfl, List.forall_mem_cons.mpr ⟨hfirst, hbefore⟩, hbad⟩

lemma exists_isFaultOf_iff :
    (∃ fault, IsFaultOf rules fault) ↔ rules = [] ∨ ∃ rule ∈ rules, IsBad rule := by
  constructor
  · rintro ⟨fault, h⟩
    cases h with
    | noRules => exact .inl rfl
    | @firstBad before rule _ after _ hrule =>
      exact .inr ⟨rule, by simp, exists_isFaultOfRule_iff.mp ⟨fault, hrule⟩⟩
  · rintro (rfl | hbad)
    · exact ⟨.noRules, .noRules⟩
    · obtain ⟨before, rule, after, rfl, hbefore, hrule⟩ := exists_first_bad hbad
      obtain ⟨fault, hfault⟩ := exists_isFaultOfRule_iff.mpr hrule
      exact ⟨fault, .firstBad after hbefore hfault⟩

lemma gradeBy_eq_error_iff (code : List Char) :
    Rubric.gradeBy rules code = .error fault ↔ Rubric.check rules = .error fault := by
  unfold Rubric.gradeBy
  cases Rubric.check rules with
  | ok checked => simp [Except.map]
  | error first => simp [Except.map]

/-- A rubric is refused exactly if it is empty or has a bad rule, and then for its first bad rule,
by name. The rules behind that one change nothing about it, nor does what is submitted. -/
theorem rubric_refused_for_first_bad :
    (∀ rules fault, Rubric.check rules = .error fault ↔ IsFaultOf rules fault) ∧
    (∀ rules, (∃ fault, Rubric.check rules = .error fault) ↔
      rules = [] ∨ ∃ rule ∈ rules, IsBad rule) ∧
    (∀ before rule, (∀ other ∈ before, ¬ IsBad other) → IsBad rule →
      ∃ fault, IsFaultOfRule rule fault ∧ rule.label.toList <:+: fault.message.toList ∧
        ∀ after, Rubric.check (before ++ rule :: after) = .error fault) ∧
    ∀ rules code fault,
      Rubric.gradeBy rules code = .error fault ↔ Rubric.check rules = .error fault := by
  refine ⟨fun _ _ => check_rubric_eq_error_iff, fun rules => ?_, ?_,
    fun _ code _ => gradeBy_eq_error_iff code⟩
  · simp only [check_rubric_eq_error_iff]
    exact exists_isFaultOf_iff
  · intro before rule hbefore hbad
    obtain ⟨fault, hfault⟩ := exists_isFaultOfRule_iff.mpr hbad
    exact ⟨fault, hfault, label_infix_message hfault, check_append_error hbefore hfault⟩

/-- The second rule is worth nothing and writes no pattern either; it is refused for the former, and
the third is not looked at. -/
theorem rubric_refused_for_first_bad_worthless :
    let sound : Rule := ⟨"Suma", "suma *=", 60, "Declara suma"⟩
    let idle : Rule := ⟨"Nada", "[", 0, ""⟩
    let broken : Rule := ⟨"Roto", "(", 40, ""⟩
    (∀ other ∈ [sound], ¬ IsBad other) ∧ IsBad idle ∧
      (∃ refusal, Pattern.parse idle.pattern = .error refusal) ∧
      Rubric.check [sound, idle, broken] = .error (.worthless "Nada") ∧
      ∀ code, Rubric.gradeBy [sound, idle] code = .error (.worthless "Nada") := by
  intro sound idle broken
  have hsound : ∀ other ∈ [sound], ¬ IsBad other := by
    intro other hother
    rw [List.mem_singleton.mp hother]
    rintro (hzero | ⟨refusal, hrefusal⟩)
    · cases hzero
    · have hok : (Pattern.parse sound.pattern).isOk = true := by decide +kernel
      rw [hrefusal] at hok
      cases hok
  have hidle : IsBad idle := .inl rfl
  have hrefusal : Pattern.parse idle.pattern = .error .unreadable := by decide +kernel
  obtain ⟨-, -, hfirst, hcodes⟩ := rubric_refused_for_first_bad
  obtain ⟨fault, hfault, -, hcheck⟩ := hfirst [sound] idle hsound hidle
  obtain rfl : fault = .worthless "Nada" := by
    cases hfault with
    | worthless => rfl
    | badPattern hpoints => exact absurd rfl hpoints
  exact ⟨hsound, hidle, ⟨_, hrefusal⟩, hcheck [broken],
    fun code => (hcodes _ code _).mpr (hcheck [])⟩

end Rubric

end Autograder.Proofs
