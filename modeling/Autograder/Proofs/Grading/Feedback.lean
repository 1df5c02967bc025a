import Autograder.Grading.Feedback
import Autograder.Proofs.Text.Scanning

/-!
# What feedback tells

The messages of the standard style tell of every criterion once, under the heading that says whether
it was met, by its label and with the points that it earned. A heading stands only above lines of
its own, and no line of a criterion is taken for a heading, whatever the criterion is called. So all
of this can be read back from the messages.
-/

namespace Autograder.Proofs

open Autograder.Check Autograder.Number

/-- How the lines of criteria begin. -/
def itemMark : String := "  • "

def isItem (line : String) : Bool :=
  itemMark.toList.isPrefixOf line.toList

/-- The lines of criteria right below a heading. -/
def itemsUnder (heading : String) (messages : List String) : List String :=
  ((messages.dropWhile (· != heading)).drop 1).takeWhile isItem

/-- The labels of the criteria that were met, and what they earned. -/
def earned (assessments : List Assessment) : List (String × Nat) :=
  (assessments.filter (·.satisfied)).map fun assessment =>
    (assessment.criterion.label, assessment.awarded)

/-- The labels of the criteria that were not met. -/
def missed (assessments : List Assessment) : List String :=
  (assessments.filter (!·.satisfied)).map fun assessment => assessment.criterion.label

def earnedItem : String × Nat → String
  | (label, points) => itemMark ++ label ++ (" (+" ++ toString points ++ " pts)")

def missedItem (label : String) : String :=
  itemMark ++ label

def itemOf (assessment : Assessment) : String :=
  if assessment.satisfied then earnedItem (assessment.criterion.label, assessment.awarded)
  else missedItem assessment.criterion.label

/-- The messages tell of all assessments, and of nothing else. -/
structure TellsAll (comparison : Comparison) (assessments : List Assessment)
    (messages : List String) : Prop where
  layout : messages = [Feedback.headline comparison.similarity]
    ++ (if earned assessments = [] then []
        else Feedback.metHeading :: (earned assessments).map earnedItem)
    ++ (if missed assessments = [] then []
        else Feedback.missedHeading :: (missed assessments).map missedItem)
    ++ [Feedback.similarityLine comparison.similarity]
  length : messages.length = 2 + assessments.length
    + (if earned assessments = [] then 0 else 1) + (if missed assessments = [] then 0 else 1)
  met : itemsUnder Feedback.metHeading messages = (earned assessments).map earnedItem
  unmet : itemsUnder Feedback.missedHeading messages = (missed assessments).map missedItem
  placed : messages.filter isItem = itemsUnder Feedback.metHeading messages
    ++ itemsUnder Feedback.missedHeading messages
  once : (messages.filter isItem).Perm (assessments.map itemOf)

/-- A line that is neither of a criterion nor a heading. -/
structure IsPlainLine (line : String) : Prop where
  isItem : isItem line = false
  met : line ≠ Feedback.metHeading
  missed : line ≠ Feedback.missedHeading

/-- The message tells of the fault, with its line if it has one. -/
def TellsFault (fault : Fault) (message : String) : Prop :=
  (0 < fault.line ∧ message = "Línea " ++ toString fault.line ++ ": " ++ fault.message) ∨
    (fault.line = 0 ∧ message = fault.message)

section Item

variable {line : String}

lemma isItem_itemMark_append (rest : String) : isItem (itemMark ++ rest) = true := by
  rw [isItem, String.toList_append, List.isPrefixOf_iff_prefix]
  exact List.prefix_append _ _

lemma isItem_earnedItem (p : String × Nat) : isItem (earnedItem p) = true := by
  rw [earnedItem, String.append_assoc]
  exact isItem_itemMark_append _

lemma isItem_of_head? (h : line.toList.head? ≠ some ' ') : isItem line = false := by
  rw [isItem, Bool.eq_false_iff, Ne, List.isPrefixOf_iff_prefix]
  rintro ⟨rest, hline⟩
  apply h
  rw [← hline]
  rfl

lemma isItem_metHeading : isItem Feedback.metHeading = false := by
  decide

lemma isItem_missedHeading : isItem Feedback.missedHeading = false := by
  decide

lemma isPlainLine_headline (similarity : Float) : IsPlainLine (Feedback.headline similarity) := by
  unfold Feedback.headline
  split_ifs <;> exact ⟨by decide, by decide, by decide⟩

lemma head?_similarityLine (similarity : Float) :
    (Feedback.similarityLine similarity).toList.head? = some '📊' := by
  have hline : Feedback.similarityLine similarity =
      "📊 Similitud con la solución: " ++ (onePlace similarity ++ "%") := String.append_assoc ..
  have hmark : "📊 Similitud con la solución: ".toList.head? = some '📊' := by decide
  rw [hline, String.toList_append, List.head?_append, hmark]
  rfl

lemma isPlainLine_similarityLine (similarity : Float) :
    IsPlainLine (Feedback.similarityLine similarity) := by
  have hhead := head?_similarityLine similarity
  have hmark {line : String} (hline : line.toList.head? ≠ some '📊') :
      Feedback.similarityLine similarity ≠ line := by
    rintro rfl
    exact hline hhead
  refine ⟨isItem_of_head? ?_, hmark (by decide), hmark (by decide)⟩
  rw [hhead]
  decide

lemma append_plus_digits_inj {s t : List Char} {n m : Nat}
    (h : s ++ '+' :: Nat.toDigits 10 n = t ++ '+' :: Nat.toDigits 10 m) : s = t ∧ n = m := by
  have hdigits (n : Nat) : ∀ c ∈ (Nat.toDigits 10 n).reverse, c.isDigit = true := by
    intro c hc
    exact Nat.isDigit_of_mem_toDigits (by norm_num) (by norm_num) (List.mem_reverse.mp hc)
  -- read from the end, the digits go back to the plus sign
  have hplus (u : List Char) : StartsOutside Char.isDigit ('+' :: u) :=
    startsOutside_cons.mpr (by decide)
  have hreverse : (Nat.toDigits 10 n).reverse ++ '+' :: s.reverse =
      (Nat.toDigits 10 m).reverse ++ '+' :: t.reverse := by
    simpa using congrArg List.reverse h
  have hnumber := congrArg (List.takeWhile Char.isDigit) hreverse
  have hrest := congrArg (List.dropWhile Char.isDigit) hreverse
  rw [takeWhile_run_append (hdigits n) (hplus _), takeWhile_run_append (hdigits m) (hplus _)]
    at hnumber
  rw [dropWhile_run_append (hdigits n) (hplus _), dropWhile_run_append (hdigits m) (hplus _)]
    at hrest
  refine ⟨List.reverse_inj.mp (List.cons.inj hrest).2, ?_⟩
  apply Nat.repr_inj.mp
  rw [Nat.repr, Nat.repr, List.reverse_inj.mp hnumber]

lemma earnedItem_injective : Function.Injective earnedItem := by
  rintro ⟨label, points⟩ ⟨other, others⟩ h
  have hline (label : String) (points : Nat) : (earnedItem (label, points)).toList =
      itemMark.toList ++ (label.toList ++ [' ', '('] ++ '+' :: Nat.toDigits 10 points) ++
        " pts)".toList := by
    simp [earnedItem, Nat.repr]
  have hlines := congrArg String.toList h
  rw [hline, hline] at hlines
  have hparts := List.append_cancel_left (List.append_cancel_right hlines)
  obtain ⟨hlabel, hpoints⟩ := append_plus_digits_inj hparts
  rw [String.toList_inj.mp (List.append_cancel_right hlabel), hpoints]

lemma missedItem_injective : Function.Injective missedItem := by
  intro label other h
  rw [missedItem, missedItem, ← String.toList_inj, String.toList_append, String.toList_append] at h
  exact String.toList_inj.mp (List.append_cancel_left h)

end Item

section Sections

variable {heading other next : String} {items before rest messages : List String}

lemma itemsUnder_of_notMem (h : heading ∉ messages) : itemsUnder heading messages = [] := by
  have hdrop : messages.dropWhile (· != heading) = [] := by
    rw [List.dropWhile_eq_nil_iff]
    intro line hline
    simpa using ne_of_mem_of_not_mem hline h
  rw [itemsUnder, hdrop]
  rfl

lemma itemsUnder_append (hbefore : heading ∉ before) (hitems : ∀ item ∈ items, isItem item = true)
    (hnext : isItem next = false) (rest : List String) :
    itemsUnder heading (before ++ heading :: (items ++ next :: rest)) = items := by
  have hskip : ∀ line ∈ before, (line != heading) = true := by
    intro line hline
    simpa using ne_of_mem_of_not_mem hline hbefore
  rw [itemsUnder, List.dropWhile_append_of_pos hskip, List.dropWhile_cons_of_neg (by simp),
    List.drop_one, List.tail_cons, List.takeWhile_append_of_pos hitems,
    List.takeWhile_cons_of_neg (by simp [hnext]), List.append_nil]

lemma notMem_titled (hne : heading ≠ other) (hheading : isItem heading = false)
    (hitems : ∀ item ∈ items, isItem item = true) : heading ∉ Feedback.titled other items := by
  intro hmem
  cases items with
  | nil => cases hmem
  | cons item others =>
    rcases List.mem_cons.mp hmem with hhead | hmem
    · exact hne hhead
    · rw [hitems heading hmem] at hheading
      cases hheading

lemma itemsUnder_titled (hbefore : heading ∉ before) (hitems : ∀ item ∈ items, isItem item = true)
    (hrest : heading ∉ next :: rest) (hnext : isItem next = false) :
    itemsUnder heading (before ++ (Feedback.titled heading items ++ next :: rest)) = items := by
  cases items with
  | nil => exact itemsUnder_of_notMem (List.not_mem_append hbefore hrest)
  | cons item others => exact itemsUnder_append hbefore hitems hnext rest

lemma filter_titled (hheading : isItem heading = false)
    (hitems : ∀ item ∈ items, isItem item = true) :
    (Feedback.titled heading items).filter isItem = items := by
  cases items with
  | nil => rfl
  | cons item others =>
    rw [Feedback.titled, List.filter_cons_of_neg (by simp [hheading])]
    exact List.filter_eq_self.mpr hitems

lemma length_titled (heading : String) (items : List String) :
    (Feedback.titled heading items).length = items.length + if items = [] then 0 else 1 := by
  cases items <;> rfl

lemma titled_eq (heading : String) (items : List String) :
    Feedback.titled heading items = if items = [] then [] else heading :: items := by
  cases items <;> rfl

end Sections

section Messages

variable {assessments : List Assessment}

lemma isItem_of_mem_earned : ∀ item ∈ (earned assessments).map earnedItem, isItem item = true :=
  List.forall_mem_map.mpr fun p _ => isItem_earnedItem p

lemma isItem_of_mem_missed : ∀ item ∈ (missed assessments).map missedItem, isItem item = true :=
  List.forall_mem_map.mpr fun label _ => isItem_itemMark_append label

lemma metLine_eq (assessment : Assessment) : Feedback.metLine assessment =
    earnedItem (assessment.criterion.label, assessment.awarded) := by
  unfold Feedback.metLine earnedItem itemMark
  simp only [String.append_assoc]

lemma messages_eq (comparison : Comparison) (assessments : List Assessment) :
    Feedback.messages comparison assessments = [Feedback.headline comparison.similarity] ++
      (Feedback.titled Feedback.metHeading ((earned assessments).map earnedItem) ++
        (Feedback.titled Feedback.missedHeading ((missed assessments).map missedItem) ++
          [Feedback.similarityLine comparison.similarity])) := by
  have hmissed : (fun assessment => missedItem assessment.criterion.label) =
      Feedback.missedLine := rfl
  simp only [Feedback.messages, List.partition_eq_filter_filter, earned, missed, List.map_map,
    Function.comp_def, ← metLine_eq, hmissed, List.cons_append, List.nil_append, List.append_assoc]

/-- Whether there is a section or not, the line behind it is no item. -/
lemma exists_next {heading last : String} (hheading : isItem heading = false)
    (hlast : isItem last = false) (items : List String) : ∃ next rest,
      Feedback.titled heading items ++ [last] = next :: rest ∧ isItem next = false := by
  cases items with
  | nil => exact ⟨last, [], rfl, hlast⟩
  | cons item others => exact ⟨heading, item :: others ++ [last], rfl, hheading⟩

lemma itemsUnder_metHeading (comparison : Comparison) (assessments : List Assessment) :
    itemsUnder Feedback.metHeading (Feedback.messages comparison assessments) =
      (earned assessments).map earnedItem := by
  have hheadline := isPlainLine_headline comparison.similarity
  have hlast := isPlainLine_similarityLine comparison.similarity
  have hmissed : Feedback.metHeading ∉
      Feedback.titled Feedback.missedHeading ((missed assessments).map missedItem) :=
    notMem_titled (by decide) isItem_metHeading isItem_of_mem_missed
  obtain ⟨next, rest, hrest, hnext⟩ :=
    exists_next isItem_missedHeading hlast.isItem ((missed assessments).map missedItem)
  rw [messages_eq, hrest]
  apply itemsUnder_titled _ isItem_of_mem_earned _ hnext
  · simpa using hheadline.met.symm
  · rw [← hrest, List.mem_append, List.mem_singleton]
    rintro (hmem | heq)
    · exact hmissed hmem
    · exact hlast.met heq.symm

lemma itemsUnder_missedHeading (comparison : Comparison) (assessments : List Assessment) :
    itemsUnder Feedback.missedHeading (Feedback.messages comparison assessments) =
      (missed assessments).map missedItem := by
  have hheadline := isPlainLine_headline comparison.similarity
  have hlast := isPlainLine_similarityLine comparison.similarity
  have hmet : Feedback.missedHeading ∉
      Feedback.titled Feedback.metHeading ((earned assessments).map earnedItem) :=
    notMem_titled (by decide) isItem_missedHeading isItem_of_mem_earned
  rw [messages_eq, ← List.append_assoc]
  apply itemsUnder_titled _ isItem_of_mem_missed _ hlast.isItem
  · rw [List.singleton_append, List.mem_cons]
    rintro (heq | hmem)
    · exact hheadline.missed heq.symm
    · exact hmet hmem
  · simpa using hlast.missed.symm

lemma filter_isItem_messages (comparison : Comparison) (assessments : List Assessment) :
    (Feedback.messages comparison assessments).filter isItem =
      (earned assessments).map earnedItem ++ (missed assessments).map missedItem := by
  have hheadline := (isPlainLine_headline comparison.similarity).isItem
  have hlast := (isPlainLine_similarityLine comparison.similarity).isItem
  rw [messages_eq, List.filter_append, List.filter_append, List.filter_append,
    filter_titled isItem_metHeading isItem_of_mem_earned,
    filter_titled isItem_missedHeading isItem_of_mem_missed]
  simp [hheadline, hlast]

lemma earned_append_missed_perm (assessments : List Assessment) :
    ((earned assessments).map earnedItem ++ (missed assessments).map missedItem).Perm
      (assessments.map itemOf) := by
  have hmet : (earned assessments).map earnedItem =
      (assessments.filter Assessment.satisfied).map itemOf := by
    rw [earned, List.map_map]
    apply List.map_congr_left
    intro assessment hmem
    exact (if_pos (List.mem_filter.mp hmem).2).symm
  have hmissed : (missed assessments).map missedItem =
      (assessments.filter (!Assessment.satisfied ·)).map itemOf := by
    rw [missed, List.map_map]
    apply List.map_congr_left
    intro assessment hmem
    have hfailed := (List.mem_filter.mp hmem).2
    exact (if_neg (by simpa using hfailed)).symm
  rw [hmet, hmissed, ← List.map_append]
  exact (List.filter_append_perm Assessment.satisfied assessments).map itemOf

lemma tellsAll_messages (comparison : Comparison) (assessments : List Assessment) :
    TellsAll comparison assessments (Feedback.messages comparison assessments) where
  layout := by
    rw [messages_eq]
    simp only [titled_eq, List.map_eq_nil_iff, List.append_assoc]
  length := by
    have hlength := (earned_append_missed_perm assessments).length_eq
    rw [messages_eq]
    simp only [List.length_append, length_titled, List.length_map, List.length_singleton,
      List.map_eq_nil_iff] at hlength ⊢
    omega
  met := itemsUnder_metHeading comparison assessments
  unmet := itemsUnder_missedHeading comparison assessments
  placed := by
    rw [itemsUnder_metHeading, itemsUnder_missedHeading]
    exact filter_isItem_messages comparison assessments
  once := by
    rw [filter_isItem_messages]
    exact earned_append_missed_perm assessments

lemma tellsFault_faultMessage (fault : Fault) : TellsFault fault (Feedback.faultMessage fault) := by
  unfold Feedback.faultMessage
  split_ifs with hline
  · exact .inl ⟨hline, rfl⟩
  · exact .inr ⟨by omega, rfl⟩

/-- The messages tell of every assessment once, in its section, and of every fault once. Assessments
of which they say the same have the same labels, verdicts and points. -/
theorem feedback_loses_nothing :
    (∀ comparison assessments,
      TellsAll comparison assessments (Feedback.standard.messages comparison assessments)) ∧
    (∀ comparison other assessments others,
      Feedback.standard.messages comparison assessments = Feedback.standard.messages other others →
        earned assessments = earned others ∧ missed assessments = missed others) ∧
    ∀ faults, List.Forall₂ TellsFault faults (Feedback.standard.faultMessages faults) := by
  refine ⟨tellsAll_messages, ?_, fun faults => ?_⟩
  · intro comparison other assessments others h
    have htold := tellsAll_messages comparison assessments
    have hothers := tellsAll_messages other others
    have hmessages : Feedback.messages comparison assessments = Feedback.messages other others := h
    constructor
    · apply List.map_injective_iff.mpr earnedItem_injective
      rw [← htold.met, ← hothers.met, hmessages]
    · apply List.map_injective_iff.mpr missedItem_injective
      rw [← htold.unmet, ← hothers.unmet, hmessages]
  · change List.Forall₂ TellsFault faults (faults.map Feedback.faultMessage)
    rw [List.forall₂_map_right_iff, List.forall₂_same]
    exact fun fault _ => tellsFault_faultMessage fault

/-- Criteria that are called like the headings, with other points that nobody earned and in another
order. -/
theorem feedback_loses_nothing_headed :
    let comparison : Comparison := ⟨50.0, [], []⟩
    let met : Assessment := ⟨⟨"❌ Aspectos a mejorar:", 30, .loop, none⟩, 5, true⟩
    let valued : Assessment := ⟨⟨"❌ Aspectos a mejorar:", 40, .logic, none⟩, 5, true⟩
    let failed : Assessment := ⟨⟨"✅ Aspectos correctos:", 25, .conditional, none⟩, 0, false⟩
    let messages := Feedback.standard.messages comparison [failed, met]
    messages = Feedback.standard.messages comparison [valued, failed] ∧
      earned [failed, met] = earned [valued, failed] ∧ messages.length = 6 ∧
      itemsUnder Feedback.metHeading messages = ["  • ❌ Aspectos a mejorar: (+5 pts)"] ∧
      itemsUnder Feedback.missedHeading messages = ["  • ✅ Aspectos correctos:"] := by
  intro comparison met valued failed messages
  obtain ⟨htells, hlossless, -⟩ := feedback_loses_nothing
  have hsame : messages = Feedback.standard.messages comparison [valued, failed] := rfl
  have htold := htells comparison [failed, met]
  refine ⟨hsame, (hlossless _ _ _ _ hsame).1, htold.length, htold.met.trans ?_, htold.unmet⟩
  decide

end Messages

end Autograder.Proofs
