import Autograder.Proofs.Check.Identifiers
import Autograder.Proofs.Check.LineForms
import Autograder.Proofs.Source.InPlace

/-!
# Findings in C

The findings in a C program are determined by what its masked lines look like and by where its
identifiers stand: first the lines that lack a semicolon, in order, and then the names that are used
without a declaration, each at its first use. A declaration counts for the whole text, also for what
stands above it.
-/

namespace Autograder.Proofs

open Autograder.Check Autograder.Text Autograder.Source

/-- An initial value goes up to the semicolon. -/
def initialized : Shape :=
  inOrder [exactly "=", blanks, fun s => s ≠ [] ∧ ';' ∉ s]

/-- A type, the name and perhaps an initial value, with the first semicolon at the end. -/
def declares (name : List Char) : Shape :=
  inOrder [fun s => ∃ type ∈ C.typeNames, s = type.toList, gap,
    fun s => s = name ∧ plainIdentifier s, blanks, optional initialized, exactly ";"]

/-- A line that lacks its semicolon: nothing says that it needs none. -/
structure IsIncomplete (line : List Char) : Prop where
  visible : line ≠ []
  program : line.head? ≠ some '#'
  undeclared : ∀ name, ¬ declares name line
  unended : ∀ c ∈ line.getLast?, c ≠ ';' ∧ c ≠ '{' ∧ c ≠ '}'
  uncontrolled : ∀ word ∈ C.controlWords, ¬ headed (exactly word) line
  unclosed : line ≠ [')']

/-- What the findings in a text say: the numbers of lines and the names. -/
structure IsCReport (code : List Char) (numbers : List Nat) (names : List (List Char)) : Prop where
  findings : C.check code =
    numbers.map (⟨·, .missingSemicolon⟩) ++ names.map (⟨0, .undeclared ·⟩)
  ordered : numbers.Pairwise (· < ·)
  numbered : ∀ n, n ∈ numbers ↔
    ∃ m line, n = m + 1 ∧ (lines (mask code))[m]? = some line ∧ IsIncomplete (trim line)
  /-- The lines of the masked text are where those of the text are. -/
  original : (mask code).length = code.length ∧
    ∀ place : Nat, (mask code)[place]? = some '\n' ↔ code[place]? = some '\n'
  once : names.Nodup
  named : ∀ name, name ∈ names ↔ (∃ place, IsUsedAt (mask code) name place) ∧
    (∀ word ∈ C.reserved, name ≠ word.toList) ∧
      ∀ line ∈ lines (mask code), ¬ declares name (trim line)
  appearing : names.Pairwise fun name other =>
    ∃ place, IsUsedAt (mask code) name place ∧ ∀ m, IsUsedAt (mask code) other m → place < m

section Declaration

variable {s rest name line : List Char}

lemma takeIdent?_eq_some_iff : takeIdent? s = some (name, rest) ↔
    s = name ++ rest ∧ plainIdentifier name ∧ StartsOutside isWord rest := by
  constructor
  · intro h
    cases s with
    | nil => cases h
    | cons c others =>
      simp only [takeIdent?, Option.ite_none_right_eq_some, Option.some.injEq, Prod.mk.injEq] at h
      obtain ⟨hstart, rfl, rfl⟩ := h
      refine ⟨?_, ⟨c, _, rfl, hstart, fun _ => List.mem_takeWhile_imp⟩, startsOutside_dropWhile _ _⟩
      rw [List.cons_append, List.takeWhile_append_dropWhile]
  · rintro ⟨rfl, ⟨c, others, rfl, hstart, hothers⟩, hrest⟩
    simp only [List.cons_append, takeIdent?, hstart, if_true, takeWhile_run_append hothers hrest,
      dropWhile_run_append hothers hrest]

lemma firstSemicolon_iff : (s.dropWhile (· != ';') == [';'] && s.head? != some ';') = true ↔
    ∃ value, s = value ++ [';'] ∧ value ≠ [] ∧ ';' ∉ value := by
  rw [Bool.and_eq_true, beq_iff_eq, bne_iff_ne, ne_eq]
  constructor
  · rintro ⟨hend, hhead⟩
    have hsplit : s.takeWhile (· != ';') ++ [';'] = s := by
      rw [← hend, List.takeWhile_append_dropWhile]
    refine ⟨_, hsplit.symm, fun hnil => ?_, fun hmem => ?_⟩
    · rw [hnil, List.nil_append] at hsplit
      exact hhead (hsplit ▸ rfl)
    · exact absurd (List.mem_takeWhile_imp hmem) (by decide)
  · rintro ⟨value, rfl, hne, hvalue⟩
    have hinside : ∀ c ∈ value, (c != ';') = true :=
      fun c hc => bne_iff_ne.mpr (ne_of_mem_of_not_mem hc hvalue)
    refine ⟨dropWhile_run_append hinside (startsOutside_cons.mpr (by decide)), ?_⟩
    obtain ⟨c, others, rfl⟩ := List.exists_cons_of_ne_nil hne
    simpa using hinside c List.mem_cons_self

lemma endsDeclaration_eq_true_iff : C.endsDeclaration s = true ↔
    inOrder [optional initialized, exactly ";"] s := by
  constructor
  · intro h
    unfold C.endsDeclaration at h
    split at h
    · exact ⟨[], [';'], rfl, .inl rfl, [';'], [], rfl, rfl, rfl⟩
    · obtain ⟨value, rfl, hvalue⟩ := firstSemicolon_iff.mp h
      exact ⟨'=' :: value, [';'], rfl, .inr ⟨['='], value, rfl, rfl, [], value, rfl,
        List.forall_mem_nil _, value, [], (List.append_nil _).symm, hvalue, rfl⟩, [';'], [], rfl,
        rfl, rfl⟩
    · cases h
  · rintro ⟨_, _, rfl, rfl | ⟨_, _, rfl, rfl, blank, _, rfl, hblank, value, _, rfl, ⟨hne, hvalue⟩,
      rfl⟩, _, _, rfl, rfl, rfl⟩
    · rfl
    · have hsplit : "=".toList ++ (blank ++ (value ++ [])) ++ (";".toList ++ []) =
          '=' :: (blank ++ value ++ [';']) := by simp
      have hsemicolon : ';' ∉ blank ++ value := by
        rw [List.mem_append, not_or]
        exact ⟨fun hmem => absurd (hblank _ hmem) (by decide), hvalue⟩
      rw [hsplit]
      exact firstSemicolon_iff.mpr ⟨blank ++ value, rfl, by simp [hne], hsemicolon⟩

lemma declaredName?_eq_some_iff_reads : C.declaredName? line = some name ↔
    (∃ type ∈ C.typeNames, line.takeWhile isWord = type.toList) ∧
      (∃ c ∈ (line.dropWhile isWord).head?, isBlank c = true) ∧
        ∃ after, takeIdent? (trimStart (line.dropWhile isWord)) = some (name, after) ∧
          C.endsDeclaration (trimStart after) = true := by
  have hguard : ((C.typeNames.map String.toList).contains (C.firstWord line) &&
      (line.dropWhile isWord).head?.any isBlank) = true ↔
        (∃ type ∈ C.typeNames, line.takeWhile isWord = type.toList) ∧
          ∃ c ∈ (line.dropWhile isWord).head?, isBlank c = true := by
    rw [Bool.and_eq_true, List.contains_eq_mem, decide_eq_true_eq, List.mem_map,
      Option.any_eq_true]
    exact and_congr_left' (exists_congr fun type => and_congr_right' eq_comm)
  simp only [C.declaredName?, C.declarationHead?, Option.bind_eq_bind, Option.bind_eq_some_iff,
    Prod.exists, Option.pure_def, Option.ite_none_right_eq_some, Option.some.injEq,
    Prod.mk.injEq, hguard]
  constructor
  · rintro ⟨_, _, _, ⟨hhead, _, after, hname, rfl, rfl, rfl⟩, hend, rfl⟩
    exact ⟨hhead.1, hhead.2, after, hname, hend⟩
  · rintro ⟨htype, hblank, after, hname, hend⟩
    exact ⟨_, _, _, ⟨⟨htype, hblank⟩, name, after, hname, rfl, rfl, rfl⟩, hend, rfl⟩

/-- Neither the name nor the blanks behind it go on with what ends a declaration. -/
lemma startsOutside_of_ending (h : inOrder [optional initialized, exactly ";"] s) :
    StartsOutside isWord s ∧ StartsOutside isBlank s := by
  obtain ⟨_, _, rfl, rfl | ⟨_, _, rfl, rfl, -⟩, _, _, rfl, rfl, rfl⟩ := h
  · exact ⟨startsOutside_cons.mpr (by decide), startsOutside_cons.mpr (by decide)⟩
  · exact ⟨startsOutside_cons.mpr (by decide), startsOutside_cons.mpr (by decide)⟩

theorem declaredName?_eq_some_iff : C.declaredName? line = some name ↔ declares name line := by
  rw [declaredName?_eq_some_iff_reads]
  constructor
  · rintro ⟨⟨type, htype, hword⟩, ⟨c, hc, hblank⟩, after, hname, hend⟩
    obtain ⟨hsplit, hidentifier, -⟩ := takeIdent?_eq_some_iff.mp hname
    obtain ⟨first, hfirst, hblanks⟩ := exists_blanks_trimStart (line.dropWhile isWord)
    obtain ⟨second, hsecond, hblanks'⟩ := exists_blanks_trimStart after
    have hne : first ≠ [] := by
      rintro rfl
      rw [hfirst, List.nil_append] at hc
      rw [startsOutside_dropWhile isBlank _ c hc] at hblank
      cases hblank
    rw [hsplit] at hfirst
    obtain ⟨value, _, hvalue, hoptional, hsemicolon⟩ := endsDeclaration_eq_true_iff.mp hend
    refine ⟨type.toList, line.dropWhile isWord, ?_, ⟨type, htype, rfl⟩, first, _, hfirst,
      ⟨hne, hblanks⟩, name, after, rfl, ⟨rfl, hidentifier⟩, second, _, hsecond, hblanks', value,
      _, hvalue, hoptional, hsemicolon⟩
    rw [← hword, List.takeWhile_append_dropWhile]
  · rintro ⟨_, _, rfl, ⟨type, htype, rfl⟩, first, _, rfl, hfirst, _, _, rfl, ⟨rfl, hidentifier⟩,
      second, _, rfl, hsecond, value, _, rfl, hoptional, hsemicolon⟩
    have htypes : ∀ type ∈ C.typeNames, type.toList.all isWord = true := by decide
    have htypeWord := List.all_eq_true.mp (htypes type htype)
    obtain ⟨hne, hnameWord⟩ := isWord_of_plainIdentifier hidentifier
    have hending : inOrder [optional initialized, exactly ";"] _ :=
      ⟨value, _, rfl, hoptional, hsemicolon⟩
    obtain ⟨hword, hblank⟩ := startsOutside_of_ending hending
    obtain ⟨c, others, rfl⟩ := List.exists_cons_of_ne_nil hfirst.1
    rw [takeWhile_run_append htypeWord (startsOutside_isWord_of_gap hfirst),
      dropWhile_run_append htypeWord (startsOutside_isWord_of_gap hfirst),
      trimStart_append hfirst.2 (startsOutside_isBlank hne hnameWord)]
    refine ⟨⟨type, htype, rfl⟩, ⟨c, rfl, hfirst.2 c List.mem_cons_self⟩, _,
      takeIdent?_eq_some_iff.mpr ⟨rfl, hidentifier, startsOutside_isWord_of_blanks hsecond hword⟩,
      ?_⟩
    rw [trimStart_append hsecond hblank]
    exact endsDeclaration_eq_true_iff.mpr hending

end Declaration

section Lines

variable {line name masked : List Char}

lemma controlled_iff : (C.controlWords.map String.toList).contains (C.firstWord line) = true ↔
    ∃ word ∈ C.controlWords, headed (exactly word) line := by
  rw [List.contains_eq_mem, decide_eq_true_eq, List.mem_map]
  refine exists_congr fun word => and_congr_right fun hword => ⟨fun h => ?_, ?_⟩
  · exact ⟨line.takeWhile isWord, line.dropWhile isWord, List.takeWhile_append_dropWhile.symm,
      h.symm, startsOutside_dropWhile _ _⟩
  · rintro ⟨_, rest, rfl, rfl, hrest⟩
    have hwords : ∀ word ∈ C.controlWords, word.toList.all isWord = true := by decide
    exact (takeWhile_run_append (List.all_eq_true.mp (hwords word hword)) hrest).symm

lemma head?_of_declares (h : declares name line) : line ≠ [] ∧ line.head? ≠ some '#' := by
  obtain ⟨_, rest, rfl, ⟨type, htype, rfl⟩, -⟩ := h
  have htypes : ∀ type ∈ C.typeNames, type.toList ≠ [] ∧ type.toList.head? ≠ some '#' := by decide
  obtain ⟨hne, hhead⟩ := htypes type htype
  exact ⟨by simp [hne], by rwa [List.head?_append_of_ne_nil _ hne]⟩

lemma skips_iff : (line.isEmpty || line.head? == some '#') = true ↔
    line = [] ∨ line.head? = some '#' := by
  simp

lemma visible_of_classify (h : C.classify line ≠ .skipped) :
    ¬ (line.isEmpty || line.head? == some '#') = true :=
  fun hskips => h (if_pos hskips)

theorem classify_eq_declaration_iff : C.classify line = .declaration name ↔ declares name line := by
  rw [← declaredName?_eq_some_iff]
  constructor
  · intro h
    have hvisible := visible_of_classify (by rw [h]; exact C.LineForm.noConfusion)
    rw [C.classify, if_neg hvisible] at h
    cases hname : C.declaredName? line with
    | some other =>
      simp only [hname] at h
      rw [C.LineForm.declaration.inj h]
    | none =>
      simp only [hname] at h
      split_ifs at h
  · intro h
    have hvisible := not_or.mpr (head?_of_declares (declaredName?_eq_some_iff.mp h))
    rw [C.classify, if_neg (mt skips_iff.mp hvisible), h]

theorem classify_eq_incomplete_iff : C.classify line = .incomplete ↔ IsIncomplete line := by
  have hnone : C.declaredName? line = none ↔ ∀ name, ¬ declares name line := by
    rw [Option.eq_none_iff_forall_ne_some]
    exact forall_congr' fun name => declaredName?_eq_some_iff.not
  have hunended : line.getLast?.any [';', '{', '}'].contains = true ↔
      ¬ ∀ c ∈ line.getLast?, c ≠ ';' ∧ c ≠ '{' ∧ c ≠ '}' := by
    cases line.getLast? with
    | none => simp
    | some c =>
      simp
      tauto
  constructor
  · intro h
    have hvisible := visible_of_classify (by rw [h]; exact C.LineForm.noConfusion)
    rw [C.classify, if_neg hvisible] at h
    obtain ⟨hne, hprogram⟩ := not_or.mp (mt skips_iff.mpr hvisible)
    cases hname : C.declaredName? line with
    | some name =>
      simp only [hname] at h
      cases h
    | none =>
      simp only [hname] at h
      split_ifs at h with hcomplete
      simp only [Bool.or_eq_true, not_or, beq_iff_eq, hunended, controlled_iff] at hcomplete
      obtain ⟨⟨hend, hcontrol⟩, hclosed⟩ := hcomplete
      exact ⟨hne, hprogram, hnone.mp hname, not_not.mp hend,
        fun word hword hhead => hcontrol ⟨word, hword, hhead⟩, hclosed⟩
  · rintro ⟨hne, hprogram, hundeclared, hend, hcontrol, hclosed⟩
    rw [C.classify, if_neg (mt skips_iff.mp (not_or.mpr ⟨hne, hprogram⟩)), hnone.mpr hundeclared]
    refine if_neg ?_
    simp only [Bool.or_eq_true, not_or, beq_iff_eq, hunended, controlled_iff]
    exact ⟨⟨not_not.mpr hend, fun ⟨word, hword, hhead⟩ => hcontrol word hword hhead⟩, hclosed⟩

lemma incompleteLines_eq_map (masked : List Char) : C.incompleteLines masked =
    (((lines masked).zipIdx 1).filter fun p =>
      C.classify (trim p.1) = .incomplete).map Prod.snd := by
  rw [C.incompleteLines, C.lineForms, List.zipIdx_map, List.filterMap_map, ← List.filterMap_eq_map,
    List.filterMap_filter]
  refine List.filterMap_congr fun p _ => ?_
  simp

lemma pairwise_incompleteLines (masked : List Char) :
    (C.incompleteLines masked).Pairwise (· < ·) := by
  have hnumbers : (((lines masked).zipIdx 1).map Prod.snd).Pairwise (· < ·) := by
    rw [List.zipIdx_map_snd]
    exact List.pairwise_lt_range'
  rw [incompleteLines_eq_map]
  exact hnumbers.sublist (List.filter_sublist.map Prod.snd)

lemma mem_incompleteLines {n : Nat} : n ∈ C.incompleteLines masked ↔
    ∃ m line, n = m + 1 ∧ (lines masked)[m]? = some line ∧ IsIncomplete (trim line) := by
  simp only [incompleteLines_eq_map, List.mem_map, List.mem_filter, decide_eq_true_eq, Prod.exists,
    List.mem_zipIdx_iff_le_and_getElem?_sub, classify_eq_incomplete_iff]
  constructor
  · rintro ⟨line, m, ⟨⟨hm, hline⟩, hincomplete⟩, rfl⟩
    exact ⟨m - 1, line, by omega, hline, hincomplete⟩
  · rintro ⟨m, line, rfl, hline, hincomplete⟩
    exact ⟨line, m + 1, ⟨⟨by omega, by simpa using hline⟩, hincomplete⟩, rfl⟩

lemma mem_declaredNames :
    name ∈ C.declaredNames masked ↔ ∃ line ∈ lines masked, declares name (trim line) := by
  simp only [C.declaredNames, C.lineForms, List.filterMap_map, List.mem_filterMap,
    Function.comp_apply, ← classify_eq_declaration_iff]
  refine exists_congr fun line => and_congr_right fun _ => ?_
  cases C.classify (trim line) <;> simp

end Lines

section Names

variable {masked name : List Char}

lemma unknown_iff :
    (!(C.declaredNames masked ++ C.reserved.map String.toList).contains name) = true ↔
      (∀ word ∈ C.reserved, name ≠ word.toList) ∧
        ∀ line ∈ lines masked, ¬ declares name (trim line) := by
  have hreserved : (∃ word ∈ C.reserved, word.toList = name) ↔
      ¬ ∀ word ∈ C.reserved, name ≠ word.toList := by
    push Not
    exact exists_congr fun word => and_congr_right fun _ => eq_comm
  have hdeclared : (∃ line ∈ lines masked, declares name (trim line)) ↔
      ¬ ∀ line ∈ lines masked, ¬ declares name (trim line) := by
    push Not
    rfl
  rw [Bool.not_eq_true', List.contains_eq_mem, decide_eq_false_iff_not, List.mem_append,
    mem_declaredNames, List.mem_map, hreserved, hdeclared, not_or, not_not, not_not, and_comm]

lemma exists_lists_undeclaredNames (masked : List Char) :
    ∃ found, (found.map Prod.fst).eraseDups = C.undeclaredNames masked ∧
      Lists found fun name place => IsUsedAt masked name place ∧
        (∀ word ∈ C.reserved, name ≠ word.toList) ∧
          ∀ line ∈ lines masked, ¬ declares name (trim line) := by
  obtain ⟨found, hfound, hlists⟩ := exists_lists_identifiers masked
  have hunknown := lists_filter hlists fun name =>
    !(C.declaredNames masked ++ C.reserved.map String.toList).contains name
  simp only [unknown_iff] at hunknown
  refine ⟨_, ?_, hunknown⟩
  rw [C.undeclaredNames, ← hfound, List.filter_map]
  rfl

end Names

lemma getElem?_mask (code : List Char) : (mask code).length = code.length ∧
    ∀ place : Nat, (mask code)[place]? = some '\n' ↔ code[place]? = some '\n' := by
  have hchars : List.Forall₂ IsLeftOrBlanked code (mask code) := forall₂_maskFrom .code code
  exact ⟨hchars.length_eq.symm, newline_iff_of_forall₂ hchars⟩

/-- The findings in a C program, described by its masked text. -/
theorem exists_isCReport (code : List Char) : ∃ numbers names, IsCReport code numbers names := by
  obtain ⟨found, hnames, hordered, hcomplete⟩ := exists_lists_undeclaredNames (mask code)
  have hmem (name : List Char) : name ∈ C.undeclaredNames (mask code) ↔
      ∃ place, (name, place) ∈ found := by
    rw [← hnames, List.mem_eraseDups, List.mem_map]
    simp
  have hfirst := pairwise_eraseDups found hordered
  rw [hnames] at hfirst
  refine ⟨C.incompleteLines (mask code), C.undeclaredNames (mask code), rfl,
    pairwise_incompleteLines _, fun n => mem_incompleteLines, getElem?_mask code, ?_, ?_, ?_⟩
  · refine hfirst.imp ?_
    rintro name _ ⟨place, hplace, hlater⟩ rfl
    exact lt_irrefl _ (hlater place hplace)
  · intro name
    simp only [hmem, hcomplete, exists_and_right]
  · -- the other name is reported too, so all its uses are among those that were found
    refine hfirst.imp_of_mem fun {name other} _ hother ⟨place, hplace, hlater⟩ => ?_
    obtain ⟨_, hmember⟩ := (hmem other).mp hother
    have hunknown := ((hcomplete _ _).mp hmember).2
    refine ⟨place, ((hcomplete _ _).mp hplace).1, fun m huse => hlater m ?_⟩
    exact (hcomplete other m).mpr ⟨huse, hunknown⟩

/-- The declaration counts for the line above it, and the other name is reported once. -/
example : C.check "b = a;\nint a;\nputs(b)".toList =
    [⟨3, .missingSemicolon⟩, ⟨0, .undeclared ['b']⟩] := by
  decide +kernel

end Autograder.Proofs
