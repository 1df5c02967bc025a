import Autograder.Check.PseintLine
import Autograder.Proofs.Text.Scanning

/-!
# Shapes of lines

The shapes that the lines of pseudocode must have, as concatenations of parts, and the readers that
look for them. A reader takes the longest run that a part allows; that never costs a match, because
each part ends where the next one cannot continue it.
-/

namespace Autograder.Proofs

open Autograder.Check.Pseint Autograder.Text

abbrev Shape := List Char → Prop

/-- The texts that consist of parts in order. -/
def inOrder : List Shape → Shape
  | [] => fun s => s = []
  | part :: others => fun s => ∃ first rest, s = first ++ rest ∧ part first ∧ inOrder others rest

def optional (shape : Shape) : Shape := fun s => s = [] ∨ shape s

def exactly (text : String) : Shape := fun s => s = text.toList

def blanks : Shape := fun s => ∀ c ∈ s, isBlank c = true

/-- At least one blank. -/
def gap : Shape := fun s => s ≠ [] ∧ blanks s

def something : Shape := fun s => s ≠ []

/-- A keyword in any letter case. -/
def key (word : String) : Shape := fun s => keyText s = word.toList

instance (word : String) (s : List Char) : Decidable (key word s) :=
  inferInstanceAs (Decidable (keyText s = word.toList))

def identifier : Shape := fun s =>
  ∃ c rest, s = c :: rest ∧ isIdentStart (keyLetter c) = true ∧ ∀ d ∈ rest, isWord d = true

/-- The given names, each after a comma. -/
def moreNames : List (List Char) → Shape
  | [] => fun s => s = []
  | name :: others => inOrder
      [blanks, exactly ",", blanks, fun s => s = name ∧ identifier s, moreNames others]

/-- The given names, set apart by commas. -/
def nameList : List (List Char) → Shape
  | [] => fun _ => False
  | name :: others => inOrder [fun s => s = name ∧ identifier s, moreNames others]

/-- One of the types, in any letter case. -/
def typeName : Shape := fun s => ∃ type ∈ typeNames, key type s

/-- A type after `Como`. -/
def typeClause : Shape :=
  inOrder [gap, key "como", gap, typeName, blanks, optional (exactly ";")]

/-- `Definir`, the given names, `Como` and a type. -/
def declaration (names : List (List Char)) : Shape :=
  inOrder [key "definir", gap, nameList names, typeClause]

/-- `Para`, a name, an arrow, a start, `Hasta` and an end, perhaps with a step and `Hacer`. -/
def forHeader : Shape :=
  inOrder [key "para", gap, identifier, blanks, exactly "<-", blanks, something, gap, key "hasta",
    gap, something, optional (inOrder [gap, key "con", gap, key "paso", gap, something]),
    optional (inOrder [gap, key "hacer"]), blanks]

/-- What a `Si` without a condition goes on with: perhaps an `Entonces`. -/
def noCondition : Shape :=
  inOrder [blanks, optional (key "entonces"), blanks]

section Readers

variable {s rest : List Char} {word : String}

lemma afterKey?_eq_some_iff :
    afterKey? word s = some rest ↔ ∃ first, s = first ++ rest ∧ key word first := by
  unfold afterKey?
  dsimp only
  constructor
  · intro h
    simp only [beq_iff_eq, Option.ite_none_right_eq_some, Option.some.injEq] at h
    obtain ⟨hkey, rfl⟩ := h
    exact ⟨s.take word.toList.length, (List.take_append_drop _ s).symm, hkey⟩
  · rintro ⟨first, rfl, hkey⟩
    have hlength : word.toList.length = first.length := by
      rw [← hkey, keyText, List.length_map]
    rw [hlength, List.take_left, List.drop_left]
    simp [show keyText first = word.toList from hkey]

lemma afterBlanks?_eq_some_iff : afterBlanks? s = some rest ↔
    ∃ first, s = first ++ rest ∧ gap first ∧ StartsOutside isBlank rest := by
  constructor
  · intro h
    cases s with
    | nil => cases h
    | cons c others =>
      simp only [afterBlanks?, Option.ite_none_right_eq_some, Option.some.injEq] at h
      obtain ⟨hblank, rfl⟩ := h
      refine ⟨c :: others.takeWhile isBlank, ?_, ⟨by simp, ?_⟩, startsOutside_dropWhile _ _⟩
      · rw [List.cons_append, trimStart, List.takeWhile_append_dropWhile]
      · exact List.forall_mem_cons.mpr ⟨hblank, fun _ => List.mem_takeWhile_imp⟩
  · rintro ⟨first, rfl, ⟨hne, hblank⟩, hrest⟩
    cases first with
    | nil => exact absurd rfl hne
    | cons c others =>
      obtain ⟨hc, hothers⟩ := List.forall_mem_cons.mp hblank
      simp only [List.cons_append, afterBlanks?, hc, if_true, trimStart,
        dropWhile_run_append hothers hrest]

lemma trimStart_append {first : List Char} (h : blanks first) (hrest : StartsOutside isBlank rest) :
    trimStart (first ++ rest) = rest :=
  dropWhile_run_append h hrest

lemma takeName?_eq_some_iff {name : List Char} : takeName? s = some (name, rest) ↔
    s = name ++ rest ∧ identifier name ∧ StartsOutside isWord rest := by
  constructor
  · intro h
    cases s with
    | nil => cases h
    | cons c others =>
      simp only [takeName?, Option.ite_none_right_eq_some, Option.some.injEq,
        Prod.mk.injEq] at h
      obtain ⟨hstart, rfl, rfl⟩ := h
      refine ⟨?_, ⟨c, _, rfl, hstart, fun _ => List.mem_takeWhile_imp⟩,
        startsOutside_dropWhile _ _⟩
      rw [List.cons_append, List.takeWhile_append_dropWhile]
  · rintro ⟨rfl, ⟨c, others, rfl, hstart, hothers⟩, hrest⟩
    simp only [List.cons_append, takeName?, hstart, if_true,
      takeWhile_run_append hothers hrest, dropWhile_run_append hothers hrest]

lemma afterArrow?_eq_some_iff : afterArrow? s = some rest ↔ s = "<-".toList ++ rest := by
  constructor
  · intro h
    unfold afterArrow? at h
    split at h
    · obtain rfl := Option.some.inj h
      rfl
    · cases h
  · rintro rfl
    rfl

end Readers

section Parts

variable {s rest word : List Char} {name : String}

lemma isWord_of_keyLetter {c : Char} (h : isIdentStart (keyLetter c) = true) : isWord c = true := by
  unfold keyLetter at h
  split_ifs at h with hs hk
  · rw [beq_iff_eq.mp hs]
    decide +kernel
  · rw [beq_iff_eq.mp hk]
    decide +kernel
  · by_cases hupper : c.isUpper = true
    · apply isWord_of_isIdentStart
      simp [isIdentStart, Char.isAlpha, hupper]
    · have hsame : c.toLower = c := dif_neg (by simpa [Char.isUpper] using hupper)
      rw [hsame] at h
      exact isWord_of_isIdentStart h

lemma isWord_of_key (hname : name.toList.all isIdentStart = true) (h : key name s) :
    ∀ c ∈ s, isWord c = true := by
  intro c hc
  apply isWord_of_keyLetter
  apply List.all_eq_true.mp hname
  rw [← show keyText s = name.toList from h]
  exact List.mem_map_of_mem hc

lemma ne_nil_of_key (hname : name ≠ "") (h : key name s) : s ≠ [] := by
  rintro rfl
  apply hname
  exact String.toList_eq_nil_iff.mp h.symm

lemma ne_nil_of_identifier (h : identifier s) : s ≠ [] := by
  obtain ⟨c, others, rfl, -⟩ := h
  exact List.cons_ne_nil c others

lemma isWord_of_identifier (h : identifier s) : ∀ c ∈ s, isWord c = true := by
  obtain ⟨c, others, rfl, hstart, hothers⟩ := h
  exact List.forall_mem_cons.mpr ⟨isWord_of_keyLetter hstart, hothers⟩

lemma startsOutside_isBlank (hne : word ≠ []) (hword : ∀ c ∈ word, isWord c = true) :
    StartsOutside isBlank (word ++ rest) := by
  cases word with
  | nil => exact absurd rfl hne
  | cons c others =>
    exact startsOutside_cons.mpr (not_isBlank_of_isWord (hword c List.mem_cons_self))

lemma startsOutside_isWord_of_blanks (h : blanks s) (hrest : StartsOutside isWord rest) :
    StartsOutside isWord (s ++ rest) :=
  startsOutside_append (fun c hc => not_isWord_of_isBlank (h c hc)) hrest

lemma startsOutside_isWord_of_gap (h : gap s) : StartsOutside isWord (s ++ rest) := by
  obtain ⟨hne, hblanks⟩ := h
  cases s with
  | nil => exact absurd rfl hne
  | cons c others =>
    exact startsOutside_cons.mpr (not_isWord_of_isBlank (hblanks c List.mem_cons_self))

end Parts

section Declaration

variable {s rest : List Char} {names : List (List Char)}

lemma keyword_append (hword : ∀ c ∈ s, isWord c = true) (hrest : StartsOutside isWord rest) :
    keyword (s ++ rest) = String.ofList (keyText s) := by
  rw [keyword, takeWhile_run_append hword hrest]

lemma isTypeClause_eq_true_iff_reads : isTypeClause s = true ↔
    ∃ afterGap afterComo type, afterBlanks? s = some afterGap ∧
      afterKey? "como" afterGap = some afterComo ∧ afterBlanks? afterComo = some type ∧
      keyword type ∈ typeNames ∧ trimStart (type.dropWhile isWord) ∈ [[], [';']] := by
  unfold isTypeClause
  cases hgap : afterBlanks? s with
  | none => simp
  | some afterGap =>
    cases hcomo : afterKey? "como" afterGap with
    | none => simp [hcomo]
    | some afterComo =>
      cases htype : afterBlanks? afterComo with
      | none => simp [hcomo, htype]
      | some type => simp [hcomo, htype]

lemma isWord_of_typeName (h : typeName s) : s ≠ [] ∧ ∀ c ∈ s, isWord c = true := by
  obtain ⟨type, hmem, hkey⟩ := h
  have hletters : typeNames.all (fun type => type ≠ "" && type.toList.all isIdentStart) = true := by
    decide
  have htype := List.all_eq_true.mp hletters type hmem
  simp only [Bool.and_eq_true, decide_eq_true_eq] at htype
  exact ⟨ne_nil_of_key htype.1 hkey, isWord_of_key htype.2 hkey⟩

lemma isTypeClause_eq_true_iff : isTypeClause s = true ↔ typeClause s := by
  rw [isTypeClause_eq_true_iff_reads]
  constructor
  · rintro ⟨afterGap, afterComo, type, hgap, hcomo, hgap', htype, hend⟩
    obtain ⟨first, rfl, hfirst, -⟩ := afterBlanks?_eq_some_iff.mp hgap
    obtain ⟨como, rfl, hkey⟩ := afterKey?_eq_some_iff.mp hcomo
    obtain ⟨second, rfl, hsecond, -⟩ := afterBlanks?_eq_some_iff.mp hgap'
    obtain ⟨third, hthird, hblanks⟩ := exists_blanks_trimStart (type.dropWhile isWord)
    refine ⟨first, _, rfl, hfirst, como, _, rfl, hkey, second, _, rfl, hsecond,
      type.takeWhile isWord, type.dropWhile isWord, List.takeWhile_append_dropWhile.symm,
      ⟨keyword type, htype, ?_⟩, third, trimStart (type.dropWhile isWord), hthird, hblanks,
      trimStart (type.dropWhile isWord), [], (List.append_nil _).symm, ?_, rfl⟩
    · simp [key, keyword]
    · simpa [optional, exactly] using hend
  · rintro ⟨first, _, rfl, hfirst, como, _, rfl, hcomo, second, _, rfl, hsecond, type, _, rfl,
      htype, third, _, rfl, hthird, semicolon, _, rfl, hsemicolon, rfl⟩
    obtain ⟨hne, hword⟩ := isWord_of_typeName htype
    rw [List.append_nil]
    have hend : StartsOutside isWord semicolon ∧ StartsOutside isBlank semicolon := by
      rcases hsemicolon with rfl | rfl
      · exact ⟨startsOutside_nil, startsOutside_nil⟩
      · exact ⟨startsOutside_cons.mpr (by decide), startsOutside_cons.mpr (by decide)⟩
    have hafter : StartsOutside isWord (third ++ semicolon) :=
      startsOutside_isWord_of_blanks hthird hend.1
    refine ⟨_, _, type ++ (third ++ semicolon), afterBlanks?_eq_some_iff.mpr
      ⟨first, rfl, hfirst, startsOutside_isBlank (ne_nil_of_key (by decide) hcomo)
        (isWord_of_key (by decide) hcomo)⟩, afterKey?_eq_some_iff.mpr ⟨como, rfl, hcomo⟩,
      afterBlanks?_eq_some_iff.mpr ⟨second, rfl, hsecond, startsOutside_isBlank hne hword⟩,
      ?_, ?_⟩
    · obtain ⟨name, hmem, hkey⟩ := htype
      rw [keyword_append hword hafter, show keyText type = name.toList from hkey,
        String.ofList_toList]
      exact hmem
    · rw [dropWhile_run_append hword hafter, trimStart_append hthird hend.2]
      simpa [optional, exactly] using hsemicolon

lemma moreNames_of_moreNames? {fuel : Nat} (h : moreNames? fuel s = some (names, rest)) :
    ∃ first, s = first ++ rest ∧ moreNames names first := by
  induction fuel generalizing s names with
  | zero =>
    simp only [moreNames?, Option.some.injEq, Prod.mk.injEq] at h
    obtain ⟨rfl, rfl⟩ := h
    exact ⟨[], rfl, rfl⟩
  | succ fuel ih =>
    unfold moreNames? at h
    split at h
    · next afterComma hcomma =>
      simp only [Option.bind_eq_bind, Option.bind_eq_some_iff, Prod.exists, Option.pure_def,
        Option.some.injEq, Prod.mk.injEq] at h
      obtain ⟨name, afterName, hname, others, _, hothers, rfl, rfl⟩ := h
      obtain ⟨hsplit, hidentifier, -⟩ := takeName?_eq_some_iff.mp hname
      obtain ⟨first, rfl, hmore⟩ := ih hothers
      obtain ⟨before, hbefore, hblanks⟩ := exists_blanks_trimStart s
      obtain ⟨after, hafter, hblanks'⟩ := exists_blanks_trimStart afterComma
      rw [hcomma] at hbefore
      rw [hsplit] at hafter
      refine ⟨before ++ (',' :: (after ++ (name ++ first))), ?_, before, _, rfl, hblanks, [','], _,
        rfl, rfl, after, _, rfl, hblanks', name, _, rfl, ⟨rfl, hidentifier⟩, first, [],
        (List.append_nil _).symm, hmore, rfl⟩
      rw [hbefore, hafter]
      simp
    · simp only [Option.some.injEq, Prod.mk.injEq] at h
      obtain ⟨rfl, rfl⟩ := h
      exact ⟨[], rfl, rfl⟩

lemma startsOutside_isWord_of_moreNames (h : moreNames names s)
    (hrest : StartsOutside isWord rest) : StartsOutside isWord (s ++ rest) := by
  cases names with
  | nil =>
    obtain rfl : s = [] := h
    exact hrest
  | cons name others =>
    obtain ⟨before, _, rfl, hblanks, comma, _, rfl, rfl, -⟩ := h
    rw [List.append_assoc]
    exact startsOutside_isWord_of_blanks hblanks (startsOutside_cons.mpr (by decide))

lemma length_le_of_moreNames (h : moreNames names s) : names.length ≤ s.length := by
  induction names generalizing s with
  | nil => simp
  | cons name others ih =>
    obtain ⟨before, _, rfl, -, comma, _, rfl, rfl, after, _, rfl, -, _, _, rfl, -, more, _, rfl,
      hmore, rfl⟩ := h
    have := ih hmore
    simp
    omega

lemma moreNames?_append {fuel : Nat} (h : moreNames names s) (hfuel : names.length ≤ fuel)
    (hword : StartsOutside isWord rest) (hcomma : StartsOutside (· == ',') (trimStart rest)) :
    moreNames? fuel (s ++ rest) = some (names, rest) := by
  induction names generalizing fuel s with
  | nil =>
    obtain rfl : s = [] := h
    cases fuel with
    | zero => rfl
    | succ fuel =>
      rw [List.nil_append]
      unfold moreNames?
      split
      · next afterComma heq =>
        rw [heq, startsOutside_cons] at hcomma
        cases hcomma
      · rfl
  | cons name others ih =>
    obtain ⟨before, _, rfl, hblanks, comma, _, rfl, rfl, after, _, rfl, hblanks', name, _, rfl,
      ⟨rfl, hidentifier⟩, more, _, rfl, hmore, rfl⟩ := h
    have hname := isWord_of_identifier hidentifier
    have hne := ne_nil_of_identifier hidentifier
    cases fuel with
    | zero => simp at hfuel
    | succ fuel =>
      have hothers := ih hmore (Nat.le_of_succ_le_succ hfuel)
      have hsplit : before ++ (",".toList ++ (after ++ (name ++ (more ++ [])))) ++ rest =
          before ++ (',' :: (after ++ (name ++ (more ++ rest)))) := by simp
      have htrim : trimStart (before ++ (',' :: (after ++ (name ++ (more ++ rest))))) =
          ',' :: (after ++ (name ++ (more ++ rest))) :=
        trimStart_append hblanks (startsOutside_cons.mpr (by decide))
      have htrim' : trimStart (after ++ (name ++ (more ++ rest))) = name ++ (more ++ rest) :=
        trimStart_append hblanks' (startsOutside_isBlank hne hname)
      have htake : takeName? (name ++ (more ++ rest)) = some (name, more ++ rest) :=
        takeName?_eq_some_iff.mpr
          ⟨rfl, hidentifier, startsOutside_isWord_of_moreNames hmore hword⟩
      rw [hsplit, moreNames?, htrim]
      simp [htrim', htake, hothers]

lemma startsOutside_of_typeClause (h : typeClause s) :
    StartsOutside isWord s ∧ StartsOutside (· == ',') (trimStart s) := by
  obtain ⟨first, _, rfl, hfirst, como, after, rfl, hcomo, -⟩ := h
  have hword := isWord_of_key (by decide) hcomo
  have hne := ne_nil_of_key (by decide) hcomo
  refine ⟨startsOutside_isWord_of_gap hfirst, ?_⟩
  rw [trimStart_append hfirst.2 (startsOutside_isBlank hne hword)]
  cases como with
  | nil => exact absurd rfl hne
  | cons c others =>
    refine startsOutside_cons.mpr (beq_eq_false_iff_ne.mpr ?_)
    rintro rfl
    have := hword ',' List.mem_cons_self
    exact absurd this (by decide)

lemma definedNames?_eq_some_iff_reads {line : List Char} : definedNames? line = some names ↔
    ∃ afterKey afterGap name afterName others afterNames,
      afterKey? "definir" line = some afterKey ∧ afterBlanks? afterKey = some afterGap ∧
      takeName? afterGap = some (name, afterName) ∧
      moreNames? afterName.length afterName = some (others, afterNames) ∧
      isTypeClause afterNames = true ∧ names = name :: others := by
  simp only [definedNames?, Option.bind_eq_bind, Option.bind_eq_some_iff, Prod.exists,
    Option.ite_none_right_eq_some, Option.some.injEq]
  constructor
  · rintro ⟨afterKey, hkey, afterGap, hgap, name, afterName, hname, others, afterNames, hothers,
      htype, rfl⟩
    exact ⟨afterKey, afterGap, name, afterName, others, afterNames, hkey, hgap, hname, hothers,
      htype, rfl⟩
  · rintro ⟨afterKey, afterGap, name, afterName, others, afterNames, hkey, hgap, hname, hothers,
      htype, rfl⟩
    exact ⟨afterKey, hkey, afterGap, hgap, name, afterName, hname, others, afterNames, hothers,
      htype, rfl⟩

theorem definedNames?_eq_some_iff {line : List Char} :
    definedNames? line = some names ↔ declaration names line := by
  rw [definedNames?_eq_some_iff_reads]
  constructor
  · rintro ⟨afterKey, afterGap, name, afterName, others, afterNames, hkey, hgap, hname, hothers,
      htype, rfl⟩
    obtain ⟨definir, rfl, hdefinir⟩ := afterKey?_eq_some_iff.mp hkey
    obtain ⟨first, rfl, hfirst, -⟩ := afterBlanks?_eq_some_iff.mp hgap
    obtain ⟨rfl, hidentifier, -⟩ := takeName?_eq_some_iff.mp hname
    obtain ⟨more, rfl, hmore⟩ := moreNames_of_moreNames? hothers
    refine ⟨definir, _, rfl, hdefinir, first, _, rfl, hfirst, name ++ more, afterNames, by simp,
      ⟨name, more, rfl, ⟨rfl, hidentifier⟩, more, [], (List.append_nil _).symm, hmore, rfl⟩,
      afterNames, [], (List.append_nil _).symm, isTypeClause_eq_true_iff.mp htype, rfl⟩
  · rintro ⟨definir, _, rfl, hdefinir, first, _, rfl, hfirst, list, _, rfl, hlist, clause, _, rfl,
      hclause, rfl⟩
    cases names with
    | nil => cases hlist
    | cons name others =>
      obtain ⟨name, _, rfl, ⟨rfl, hidentifier⟩, more, _, rfl, hmore, rfl⟩ := hlist
      obtain ⟨hword, hcomma⟩ := startsOutside_of_typeClause hclause
      have hafter : StartsOutside isWord (more ++ clause) :=
        startsOutside_isWord_of_moreNames hmore hword
      -- every further name costs a comma at least, so the fuel does not run out
      have hfuel : others.length ≤ (more ++ clause).length := by
        have := length_le_of_moreNames hmore
        rw [List.length_append]
        omega
      refine ⟨first ++ (name ++ (more ++ clause)), name ++ (more ++ clause), name, more ++ clause,
        others, clause, afterKey?_eq_some_iff.mpr ⟨definir, by simp, hdefinir⟩,
        afterBlanks?_eq_some_iff.mpr ⟨first, rfl, hfirst, startsOutside_isBlank
          (ne_nil_of_identifier hidentifier) (isWord_of_identifier hidentifier)⟩,
        takeName?_eq_some_iff.mpr ⟨rfl, hidentifier, hafter⟩,
        moreNames?_append hmore hfuel hword hcomma, isTypeClause_eq_true_iff.mpr hclause, rfl⟩

end Declaration

section Header

variable {s line : List Char}

lemma startsUpperBound_eq_true_iff : startsUpperBound s = true ↔ ∃ b hasta d e rest,
    s = b :: (hasta ++ d :: e :: rest) ∧ isBlank b = true ∧ key "hasta" hasta ∧
      isBlank d = true := by
  constructor
  · intro h
    cases s with
    | nil => cases h
    | cons b others =>
      simp only [startsUpperBound, Bool.and_eq_true] at h
      obtain ⟨hb, h⟩ := h
      split at h
      · next d e rest hkey =>
        obtain ⟨hasta, rfl, hhasta⟩ := afterKey?_eq_some_iff.mp hkey
        exact ⟨b, hasta, d, e, rest, rfl, hb, hhasta, h⟩
      · cases h
  · rintro ⟨b, hasta, d, e, rest, rfl, hb, hhasta, hd⟩
    have hkey : afterKey? "hasta" (hasta ++ d :: e :: rest) = some (d :: e :: rest) :=
      afterKey?_eq_some_iff.mpr ⟨hasta, rfl, hhasta⟩
    simp [startsUpperBound, hkey, hb, hd]

lemma isForHeader_eq_true_iff_reads : isForHeader line = true ↔
    ∃ afterKey afterGap name afterName c rest,
      afterKey? "para" line = some afterKey ∧ afterBlanks? afterKey = some afterGap ∧
      takeName? afterGap = some (name, afterName) ∧
      afterArrow? (trimStart afterName) = some (c :: rest) ∧
      anySuffix startsUpperBound rest = true := by
  unfold isForHeader
  cases hkey : afterKey? "para" line with
  | none => simp
  | some afterKey =>
    cases hgap : afterBlanks? afterKey with
    | none => simp [hgap]
    | some afterGap =>
      cases hname : takeName? afterGap with
      | none => simp [hgap, hname]
      | some named =>
        obtain ⟨name, afterName⟩ := named
        cases harrow : afterArrow? (trimStart afterName) with
        | none => simp [hgap, hname, harrow]
        | some bounds => cases bounds <;> simp [hgap, hname, harrow]

/-- What follows the arrow: a start of any kind, `Hasta` between blanks, and anything. -/
lemma upperBound_of_shape (h : inOrder [blanks, something, gap, key "hasta", gap, something,
      optional (inOrder [gap, key "con", gap, key "paso", gap, something]),
      optional (inOrder [gap, key "hacer"]), blanks] s) :
    ∃ c rest, s = c :: rest ∧ anySuffix startsUpperBound rest = true := by
  obtain ⟨before, _, rfl, -, start, _, rfl, hstart, first, _, rfl, ⟨hfirst, hblanks⟩, hasta, _, rfl,
    hhasta, second, _, rfl, ⟨hsecond, hblanks'⟩, bound, rest, rfl, hbound, -⟩ := h
  -- only the last blank before `Hasta` and the first one behind it matter to the reader
  rcases List.eq_nil_or_concat' first with rfl | ⟨others, b, rfl⟩
  · exact absurd rfl hfirst
  obtain ⟨d, more, rfl⟩ := List.exists_cons_of_ne_nil hsecond
  have hbefore : before ++ (start ++ others) ≠ [] := by simp [show start ≠ [] from hstart]
  have hafter : more ++ (bound ++ rest) ≠ [] := by simp [show bound ≠ [] from hbound]
  obtain ⟨c, upto, hupto⟩ := List.exists_cons_of_ne_nil hbefore
  obtain ⟨e, behind, hbehind⟩ := List.exists_cons_of_ne_nil hafter
  have hupper : startsUpperBound (b :: (hasta ++ d :: e :: behind)) = true :=
    startsUpperBound_eq_true_iff.mpr ⟨b, hasta, d, e, behind, rfl, hblanks b (by simp), hhasta,
      hblanks' d List.mem_cons_self⟩
  refine ⟨c, upto ++ b :: (hasta ++ d :: e :: behind), ?_,
    anySuffix_eq_true_iff.mpr ⟨upto, _, rfl, hupper⟩⟩
  rw [← List.cons_append, ← hupto, ← hbehind]
  simp

theorem isForHeader_eq_true_iff : isForHeader line = true ↔ forHeader line := by
  rw [isForHeader_eq_true_iff_reads]
  constructor
  · rintro ⟨afterKey, afterGap, name, afterName, c, rest, hkey, hgap, hname, harrow, hbound⟩
    obtain ⟨para, rfl, hpara⟩ := afterKey?_eq_some_iff.mp hkey
    obtain ⟨first, rfl, hfirst, -⟩ := afterBlanks?_eq_some_iff.mp hgap
    obtain ⟨rfl, hidentifier, -⟩ := takeName?_eq_some_iff.mp hname
    obtain ⟨second, hsecond, hblanks⟩ := exists_blanks_trimStart afterName
    rw [afterArrow?_eq_some_iff.mp harrow] at hsecond
    obtain ⟨start, _, rfl, hupper⟩ := anySuffix_eq_true_iff.mp hbound
    obtain ⟨b, hasta, d, e, others, rfl, hb, hhasta, hd⟩ := startsUpperBound_eq_true_iff.mp hupper
    refine ⟨para, _, rfl, hpara, first, _, rfl, hfirst, name, _, rfl, hidentifier, second, _,
      hsecond, hblanks, _, _, rfl, rfl, [], _, rfl, List.forall_mem_nil _, c :: start,
      b :: (hasta ++ d :: e :: others), rfl, List.cons_ne_nil _ _, [b], _, rfl, ?_, hasta, _, rfl,
      hhasta, [d], e :: others, rfl, ?_, e :: others, [], (List.append_nil _).symm,
      List.cons_ne_nil _ _, [], [], rfl, .inl rfl, [], [], rfl, .inl rfl, [], [], rfl,
      List.forall_mem_nil _, rfl⟩
    · exact ⟨List.cons_ne_nil _ _, List.forall_mem_singleton.mpr hb⟩
    · exact ⟨List.cons_ne_nil _ _, List.forall_mem_singleton.mpr hd⟩
  · rintro ⟨para, _, rfl, hpara, first, _, rfl, hfirst, name, _, rfl, hidentifier, second, _, rfl,
      hsecond, arrow, bounds, rfl, rfl, hbounds⟩
    obtain ⟨c, rest, rfl, hupper⟩ := upperBound_of_shape hbounds
    have harrow (p : Char → Bool) (hp : p '<' = false) :
        StartsOutside p ("<-".toList ++ c :: rest) := startsOutside_cons.mpr hp
    refine ⟨_, name ++ (second ++ ("<-".toList ++ c :: rest)), name,
      second ++ ("<-".toList ++ c :: rest), c, rest, afterKey?_eq_some_iff.mpr ⟨para, rfl, hpara⟩,
      afterBlanks?_eq_some_iff.mpr ⟨first, rfl, hfirst, startsOutside_isBlank
        (ne_nil_of_identifier hidentifier) (isWord_of_identifier hidentifier)⟩,
      takeName?_eq_some_iff.mpr ⟨rfl, hidentifier,
        startsOutside_isWord_of_blanks hsecond (harrow isWord (by decide))⟩, ?_, hupper⟩
    rw [trimStart_append hsecond (harrow isBlank (by decide))]
    exact afterArrow?_eq_some_iff.mpr rfl

lemma blanks_of_trimEnd_eq_nil (h : trimEnd s = []) : blanks s := by
  rw [trimEnd, List.reverse_eq_nil_iff, List.dropWhile_eq_nil_iff] at h
  exact fun c hc => h c (List.mem_reverse.mpr hc)

lemma take_append_of_append_eq {before word : List Char} (h : before ++ word = s) :
    s.take (s.length - word.length) ++ word = s := by
  subst h
  simp

lemma take_append_lastWord (s : List Char) :
    s.take (s.length - (s.reverse.takeWhile isWord).reverse.length) ++
      (s.reverse.takeWhile isWord).reverse = s := by
  have hsplit : (s.reverse.dropWhile isWord).reverse ++ (s.reverse.takeWhile isWord).reverse =
      s := by
    rw [← List.reverse_append, List.takeWhile_append_dropWhile, List.reverse_reverse]
  exact take_append_of_append_eq hsplit

/-- A `Si` lacks its condition exactly if blanks and an `Entonces` are all that follows. -/
theorem conditionOf_eq_nil_iff : conditionOf s = [] ↔ noCondition s := by
  unfold conditionOf
  dsimp only
  constructor
  · intro h
    obtain ⟨before, after, hsplit, hbefore, hafter⟩ := exists_blanks_trim s
    split_ifs at h with hkey
    · have hblanks := blanks_of_trimEnd_eq_nil h
      rw [← take_append_lastWord (trim s), List.append_assoc, ← List.append_assoc] at hsplit
      refine ⟨_, _, hsplit, ?_, _, after, rfl, .inr (beq_iff_eq.mp hkey), after, [],
        (List.append_nil _).symm, hafter, rfl⟩
      exact List.forall_mem_append.mpr ⟨hbefore, hblanks⟩
    · rw [h] at hsplit
      exact ⟨before, _, hsplit, hbefore, [], after, rfl, .inl rfl, after, [],
        (List.append_nil _).symm, hafter, rfl⟩
  · rintro ⟨before, _, rfl, hbefore, word, _, rfl, hword, after, _, rfl, hafter, rfl⟩
    have hletters : ∀ c ∈ word, isWord c = true := by
      rcases hword with rfl | hkey
      · exact List.forall_mem_nil _
      · exact isWord_of_key (by decide) hkey
    have htrim : trim (before ++ (word ++ after)) = word :=
      trim_append hbefore (fun c hc => not_isBlank_of_isWord (hletters c hc)) hafter
    have hlast : word.reverse.takeWhile isWord = word.reverse :=
      List.takeWhile_eq_self_iff.mpr fun c hc => hletters c (List.mem_reverse.mp hc)
    rw [List.append_nil, htrim, hlast, List.reverse_reverse, Nat.sub_self, List.take_zero]
    rcases hword with rfl | hkey
    · rfl
    · rw [if_pos (beq_iff_eq.mpr hkey)]
      rfl

end Header

end Autograder.Proofs
