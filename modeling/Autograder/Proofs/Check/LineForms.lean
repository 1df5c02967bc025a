import Autograder.Proofs.Check.LetterCase

/-!
# What the first words of a line decide

A line of pseudocode is told by the words that it starts with. The shapes of these words are those
of the language reference; each reader of the check finds exactly the lines that start with its
shape, and what the check takes a line for follows from them.
-/

namespace Autograder.Proofs

open Autograder.Check Autograder.Check.Pseint Autograder.Text

/-- The line starts with a text of the shape, and no word goes on behind that text. -/
def headed (shape : Shape) : Shape := fun s =>
  ∃ head rest, s = head ++ rest ∧ shape head ∧ StartsOutside isWord rest

/-- What closes a construct. -/
def closing : Construct → Shape
  | .si => key "finsi"
  | .para => key "finpara"
  | .mientras => key "finmientras"
  | .repetir => inOrder [key "hasta", gap, key "que"]
  | .segun => key "finsegun"
  | .proceso => key "finproceso"
  | .algoritmo => key "finalgoritmo"

/-- The word that opens a construct. -/
def openingWord : Construct → String
  | .si => "si"
  | .para => "para"
  | .mientras => "mientras"
  | .repetir => "repetir"
  | .segun => "segun"
  | .proceso => "proceso"
  | .algoritmo => "algoritmo"

/-- `De Otro Modo`, with or without blanks. -/
def otherwise : Shape :=
  inOrder [key "de", blanks, key "otro", blanks, key "modo"]

/-- What separates the branches of a construct. -/
def separating : Shape := fun s => key "sino" s ∨ otherwise s

/-- The words that decide about a line by themselves. -/
def keywords : List String :=
  ["finsi", "finpara", "finmientras", "finsegun", "finproceso", "finalgoritmo", "sino", "definir",
   "si", "para", "mientras", "repetir", "segun", "proceso", "algoritmo"]

/-- All that decides about a line which starts with it. -/
def heads : List Shape :=
  keywords.map key ++ [closing .repetir, otherwise]

/-- A value is assigned to the name. -/
def assigning (name : List Char) : Shape :=
  inOrder [fun s => s = name ∧ identifier s, blanks, exactly "<-", something]

section Words

variable {line : List Char} {word : String} {construct : Construct}

lemma headed_keyword (line : List Char) : headed (key (keyword line)) line :=
  ⟨line.takeWhile isWord, line.dropWhile isWord, List.takeWhile_append_dropWhile.symm,
    by simp [key, keyword], startsOutside_dropWhile _ _⟩

lemma keyword_of_headed (hword : word.toList.all isIdentStart = true)
    (h : headed (key word) line) : keyword line = word := by
  obtain ⟨head, rest, rfl, hkey, hrest⟩ := h
  rw [keyword_append (isWord_of_key hword hkey) hrest, show keyText head = word.toList from hkey,
    String.ofList_toList]

lemma keyword_eq_iff (hword : word.toList.all isIdentStart = true) :
    keyword line = word ↔ headed (key word) line :=
  ⟨fun h => h ▸ headed_keyword line, keyword_of_headed hword⟩

theorem openerOf?_eq_some_iff :
    openerOf? (keyword line) = some construct ↔ headed (key (openingWord construct)) line := by
  rw [← keyword_eq_iff (by cases construct <;> decide)]
  constructor
  · intro h
    unfold openerOf? at h
    split_ifs at h <;> cases h <;> simp_all [openingWord]
  · intro h
    rw [h]
    cases construct <;> rfl

theorem closerOf?_eq_some_iff : closerOf? (keyword line) = some construct ↔
    construct ≠ .repetir ∧ headed (closing construct) line := by
  constructor
  · intro h
    have hhead := headed_keyword line
    unfold closerOf? at h
    split_ifs at h <;> cases h <;> simp_all [closing]
  · rintro ⟨hne, h⟩
    cases construct with
    | repetir => exact absurd rfl hne
    | _ =>
      rw [keyword_of_headed (by decide) h]
      rfl

theorem isUntil_eq_true_iff : isUntil line = true ↔ headed (closing .repetir) line := by
  constructor
  · intro h
    unfold isUntil at h
    split at h
    · next afterGap hread =>
      obtain ⟨afterKey, hkey, hgap⟩ := Option.bind_eq_some_iff.mp hread
      obtain ⟨hasta, rfl, hhasta⟩ := afterKey?_eq_some_iff.mp hkey
      obtain ⟨first, rfl, hfirst, -⟩ := afterBlanks?_eq_some_iff.mp hgap
      obtain ⟨que, rest, rfl, hque, hrest⟩ :=
        (keyword_eq_iff (by decide)).mp (beq_iff_eq.mp h)
      exact ⟨hasta ++ (first ++ que), rest, by simp,
        ⟨hasta, _, rfl, hhasta, first, _, rfl, hfirst, que, [], (List.append_nil _).symm, hque,
          rfl⟩, hrest⟩
    · cases h
  · rintro ⟨_, rest, rfl, ⟨hasta, _, rfl, hhasta, first, _, rfl, hfirst, que, _, rfl, hque, rfl⟩,
      hrest⟩
    have hkey : afterKey? "hasta" (hasta ++ (first ++ (que ++ rest))) =
        some (first ++ (que ++ rest)) := afterKey?_eq_some_iff.mpr ⟨hasta, rfl, hhasta⟩
    have hgap : afterBlanks? (first ++ (que ++ rest)) = some (que ++ rest) :=
      afterBlanks?_eq_some_iff.mpr ⟨first, rfl, hfirst, startsOutside_isBlank
        (ne_nil_of_key (by decide) hque) (isWord_of_key (by decide) hque)⟩
    have hword : keyword (que ++ rest) = "que" :=
      keyword_of_headed (by decide) ⟨que, rest, rfl, hque, hrest⟩
    simp [isUntil, hkey, hgap, hword]

theorem isSeparator_eq_true_iff : isSeparator line = true ↔ headed separating line := by
  unfold isSeparator
  rw [Bool.or_eq_true, beq_iff_eq]
  constructor
  · rintro (h | h)
    · obtain ⟨sino, rest, rfl, hsino, hrest⟩ := (keyword_eq_iff (by decide)).mp h
      exact ⟨sino, rest, rfl, .inl hsino, hrest⟩
    · split at h
      · next afterOtro hread =>
        obtain ⟨afterDe, hafterDe, hafterOtro⟩ := Option.bind_eq_some_iff.mp hread
        obtain ⟨de, rfl, hde⟩ := afterKey?_eq_some_iff.mp hafterDe
        obtain ⟨otro, hotro, hkey⟩ := afterKey?_eq_some_iff.mp hafterOtro
        obtain ⟨first, hfirst, hblanks⟩ := exists_blanks_trimStart afterDe
        obtain ⟨second, hsecond, hblanks'⟩ := exists_blanks_trimStart afterOtro
        obtain ⟨modo, rest, hmodo, hkey', hrest⟩ :=
          (keyword_eq_iff (by decide)).mp (beq_iff_eq.mp h)
        rw [hotro] at hfirst
        rw [hmodo] at hsecond
        refine ⟨de ++ (first ++ (otro ++ (second ++ modo))), rest, ?_, .inr
          ⟨de, _, rfl, hde, first, _, rfl, hblanks, otro, _, rfl, hkey, second, _, rfl, hblanks',
            modo, [], (List.append_nil _).symm, hkey', rfl⟩, hrest⟩
        rw [hfirst, hsecond]
        simp
      · cases h
  · rintro ⟨_, rest, rfl, hsino | ⟨de, _, rfl, hde, first, _, rfl, hfirst, otro, _, rfl, hotro,
      second, _, rfl, hsecond, modo, _, rfl, hmodo, rfl⟩, hrest⟩
    · exact .inl (keyword_of_headed (by decide) ⟨_, rest, rfl, hsino, hrest⟩)
    · right
      have hread : afterKey? "de" (de ++ (first ++ (otro ++ (second ++ (modo ++ rest))))) =
          some (first ++ (otro ++ (second ++ (modo ++ rest)))) :=
        afterKey?_eq_some_iff.mpr ⟨de, rfl, hde⟩
      have htrim : trimStart (first ++ (otro ++ (second ++ (modo ++ rest)))) =
          otro ++ (second ++ (modo ++ rest)) := trimStart_append hfirst
        (startsOutside_isBlank (ne_nil_of_key (by decide) hotro) (isWord_of_key (by decide) hotro))
      have hread' : afterKey? "otro" (otro ++ (second ++ (modo ++ rest))) =
          some (second ++ (modo ++ rest)) := afterKey?_eq_some_iff.mpr ⟨otro, rfl, hotro⟩
      have htrim' : trimStart (second ++ (modo ++ rest)) = modo ++ rest := trimStart_append hsecond
        (startsOutside_isBlank (ne_nil_of_key (by decide) hmodo) (isWord_of_key (by decide) hmodo))
      have hword : keyword (modo ++ rest) = "modo" :=
        keyword_of_headed (by decide) ⟨modo, rest, rfl, hmodo, hrest⟩
      simp [hread, htrim, hread', htrim', hword]

theorem assignedName?_eq_some_iff {name : List Char} :
    assignedName? line = some name ↔ assigning name line := by
  simp only [assignedName?, Option.bind_eq_bind, Option.bind_eq_some_iff, Prod.exists,
    Option.ite_none_left_eq_some, Option.some.injEq]
  constructor
  · rintro ⟨read, afterName, hname, value, harrow, hvalue, rfl⟩
    obtain ⟨rfl, hidentifier, -⟩ := takeName?_eq_some_iff.mp hname
    obtain ⟨first, hfirst, hblanks⟩ := exists_blanks_trimStart afterName
    rw [afterArrow?_eq_some_iff.mp harrow] at hfirst
    exact ⟨read, _, rfl, ⟨rfl, hidentifier⟩, first, _, hfirst, hblanks, _, value, rfl, rfl, value,
      [], (List.append_nil _).symm, by simpa [something] using hvalue, rfl⟩
  · rintro ⟨_, _, rfl, ⟨rfl, hidentifier⟩, first, _, rfl, hfirst, arrow, _, rfl, rfl, value, _, rfl,
      hvalue, rfl⟩
    have harrow (p : Char → Bool) (hp : p '<' = false) :
        StartsOutside p ("<-".toList ++ (value ++ [])) := startsOutside_cons.mpr hp
    refine ⟨_, first ++ ("<-".toList ++ (value ++ [])), takeName?_eq_some_iff.mpr
      ⟨rfl, hidentifier, startsOutside_isWord_of_blanks hfirst (harrow isWord (by decide))⟩,
      value ++ [], ?_, by simpa [something] using hvalue, rfl⟩
    rw [trimStart_append hfirst (harrow isBlank (by decide))]
    exact afterArrow?_eq_some_iff.mpr rfl

lemma keyword_of_isUntil (h : isUntil line = true) : keyword line = "hasta" := by
  obtain ⟨_, rest, rfl, ⟨hasta, _, rfl, hhasta, first, _, rfl, hfirst, -⟩, -⟩ :=
    isUntil_eq_true_iff.mp h
  refine keyword_of_headed (by decide) ⟨hasta, _, List.append_assoc _ _ _, hhasta, ?_⟩
  rw [List.append_assoc]
  exact startsOutside_isWord_of_gap hfirst

lemma keyword_of_isSeparator (h : isSeparator line = true) :
    keyword line ∈ ["sino", "de", "deotro", "deotromodo"] := by
  have hword {word : String} {head rest : List Char} (hmem : word ∈ ["sino", "de", "deotro",
      "deotromodo"]) (hkey : key word head) (hrest : StartsOutside isWord rest)
      (hletters : word.toList.all isIdentStart = true) :
      keyword (head ++ rest) ∈ ["sino", "de", "deotro", "deotromodo"] := by
    rwa [keyword_of_headed hletters ⟨head, rest, rfl, hkey, hrest⟩]
  -- blanks end the first word, and where there are none it goes on
  have hnext {text : List Char} (hblanks : blanks text) :
      text = [] ∨ ∀ rest, StartsOutside isWord (text ++ rest) := by
    rcases eq_or_ne text [] with hnil | hne
    · exact .inl hnil
    · exact .inr fun _ => startsOutside_isWord_of_gap ⟨hne, hblanks⟩
  have hjoin {head next : List Char} {word following : String} (hkey : key word head)
      (hkey' : key following next) : key (word ++ following) (head ++ next) := by
    simp only [key, keyText, List.map_append, String.toList_append] at hkey hkey' ⊢
    rw [hkey, hkey']
  obtain ⟨_, rest, rfl, hsino | ⟨de, _, rfl, hde, first, _, rfl, hfirst, otro, _, rfl, hotro,
    second, _, rfl, hsecond, modo, _, rfl, hmodo, rfl⟩, hrest⟩ := isSeparator_eq_true_iff.mp h
  · exact hword (by decide) hsino hrest (by decide)
  · rcases hnext hfirst with rfl | hfirst
    · rcases hnext hsecond with rfl | hsecond
      · simpa using hword (by decide) (hjoin (hjoin hde hotro) hmodo) hrest (by decide)
      · simpa using hword (by decide) (hjoin hde hotro) (hsecond (modo ++ rest)) (by decide)
    · simpa using hword (by decide) hde (hfirst (otro ++ (second ++ (modo ++ rest)))) (by decide)

end Words

section Forms

variable {line : List Char} {construct : Construct}

lemma classify_of_until (h : headed (closing .repetir) line) :
    classify line = .closer (some .repetir) := by
  have huntil := isUntil_eq_true_iff.mpr h
  have hcloser : (closerOf? (keyword line)).isSome = false := by
    rw [keyword_of_isUntil huntil]
    rfl
  unfold classify
  dsimp only
  rw [hcloser, if_neg (by decide), if_pos huntil]

/-- The word of any other closer is looked up once more, in lowercase. -/
lemma classify_of_closing (hne : construct ≠ .repetir) (h : headed (closing construct) line) :
    classify line = .closer (closerOf? (String.ofList (lowercase (line.takeWhile isWord)))) := by
  have hcloser := closerOf?_eq_some_iff.mpr ⟨hne, h⟩
  unfold classify
  dsimp only
  rw [hcloser]
  rfl

lemma classify_of_separating (h : headed separating line) : classify line = .separator := by
  have hseparator := isSeparator_eq_true_iff.mpr h
  have hword := keyword_of_isSeparator hseparator
  have hcloser : (closerOf? (keyword line)).isSome = false := by
    simp only [List.mem_cons, List.not_mem_nil, or_false] at hword
    rcases hword with hword | hword | hword | hword <;> rw [hword] <;> rfl
  have huntil : isUntil line ≠ true := fun huntil => by
    rw [keyword_of_isUntil huntil] at hword
    exact absurd hword (by decide)
  unfold classify
  dsimp only
  rw [hcloser, if_neg (by decide), if_neg huntil, if_pos hseparator]

lemma not_earlier_of_keyword (h : keyword line ∉ ["hasta", "sino", "de", "deotro", "deotromodo"]) :
    isUntil line ≠ true ∧ isSeparator line ≠ true := by
  constructor
  · intro huntil
    rw [keyword_of_isUntil huntil] at h
    exact h (by decide)
  · intro hseparator
    have hword := keyword_of_isSeparator hseparator
    exact h (List.mem_cons_of_mem _ hword)

lemma classify_of_definition (h : headed (key "definir") line) :
    classify line = .definition ((definedNames? line).map (·.map lowercase)) := by
  have hword := keyword_of_headed (by decide) h
  have hfirst : keyword line ∉ ["hasta", "sino", "de", "deotro", "deotromodo"] := by
    rw [hword]
    decide
  obtain ⟨huntil, hseparator⟩ := not_earlier_of_keyword hfirst
  unfold classify
  dsimp only
  rw [if_neg huntil, if_neg hseparator, hword]
  rfl

lemma classify_of_opening (h : headed (key (openingWord construct)) line) :
    classify line = .header construct (isWellFormedHeader construct line) := by
  have hopener := openerOf?_eq_some_iff.mpr h
  have hword := keyword_of_headed (by cases construct <;> decide) h
  have hfirst : keyword line ∉ ["hasta", "sino", "de", "deotro", "deotromodo"] := by
    rw [hword]
    cases construct <;> decide
  obtain ⟨huntil, hseparator⟩ := not_earlier_of_keyword hfirst
  have hothers : (closerOf? (keyword line)).isSome = false ∧
      (keyword line == "definir") = false := by
    rw [hword]
    cases construct <;> exact ⟨rfl, rfl⟩
  unfold classify
  dsimp only
  rw [hothers.1, hothers.2, if_neg huntil, if_neg hseparator, hopener]
  rfl

lemma mem_heads {word : String} (h : word ∈ keywords) : key word ∈ heads :=
  List.mem_append_left _ (List.mem_map_of_mem h)

lemma takeWhile_of_assigning {name : List Char} (h : assigning name line) :
    line.takeWhile isWord = name ∧
      ∃ rest, trimStart (line.dropWhile isWord) = '<' :: rest := by
  obtain ⟨_, _, rfl, ⟨rfl, hidentifier⟩, first, _, rfl, hfirst, _, rest, rfl, rfl, -⟩ := h
  have hword := isWord_of_identifier hidentifier
  have hafter : StartsOutside isWord (first ++ ("<-".toList ++ rest)) :=
    startsOutside_isWord_of_blanks hfirst (startsOutside_cons.mpr (by decide))
  refine ⟨takeWhile_run_append hword hafter, '-' :: rest, ?_⟩
  rw [dropWhile_run_append hword hafter]
  exact trimStart_append hfirst (startsOutside_cons.mpr (by decide))

lemma trimStart_of_until (h : headed (closing .repetir) line) :
    ∃ c rest, trimStart (line.dropWhile isWord) = c :: rest ∧ isWord c = true := by
  obtain ⟨_, rest, rfl, ⟨hasta, _, rfl, hhasta, first, _, rfl, hfirst, que, _, rfl, hque, rfl⟩,
    -⟩ := h
  have hword := isWord_of_key (by decide) hque
  obtain ⟨c, others, rfl⟩ := List.exists_cons_of_ne_nil (ne_nil_of_key (by decide) hque)
  have hc := hword c List.mem_cons_self
  refine ⟨c, others ++ rest, ?_, hc⟩
  have hsplit : hasta ++ (first ++ (c :: others ++ [])) ++ rest =
      hasta ++ (first ++ (c :: (others ++ rest))) := by simp
  rw [hsplit, dropWhile_run_append (isWord_of_key (by decide) hhasta)
    (startsOutside_isWord_of_gap hfirst)]
  exact trimStart_append hfirst.2 (startsOutside_cons.mpr (not_isBlank_of_isWord hc))

lemma isUntil_of_assigning {name : List Char} (h : assigning name line) : isUntil line = false := by
  by_contra huntil
  rw [Bool.not_eq_false] at huntil
  obtain ⟨-, rest, harrow⟩ := takeWhile_of_assigning h
  obtain ⟨c, others, hword, hc⟩ := trimStart_of_until (isUntil_eq_true_iff.mp huntil)
  obtain ⟨rfl, -⟩ := List.cons.inj (harrow.symm.trans hword)
  exact absurd hc (by decide)

/-- An assignment to a name that is no keyword is read as one, except that the name may be that of
a separator without blanks. -/
lemma classify_of_assigning {name : List Char} (h : assigning name line)
    (hname : ∀ word ∈ keywords, ¬ key word name) :
    classify line = .assignment name ∨ classify line = .separator := by
  have hword : ∀ word ∈ keywords, keyword line ≠ word := by
    rintro word hmem hword
    refine hname word hmem ?_
    rw [← (takeWhile_of_assigning h).1, ← hword]
    simp [key, keyword]
  simp only [keywords, List.forall_mem_cons] at hword
  unfold classify
  simp only [closerOf?, openerOf?, hword, isUntil_of_assigning h, assignedName?_eq_some_iff.mpr h,
    beq_iff_eq, if_false, Option.isSome_none, Bool.false_eq_true]
  split_ifs
  · exact .inr rfl
  · exact .inl rfl

lemma headed_separating_iff : headed separating line ↔
    headed (key "sino") line ∨ headed otherwise line := by
  constructor
  · rintro ⟨head, rest, rfl, hsino | hotherwise, hrest⟩
    · exact .inl ⟨head, rest, rfl, hsino, hrest⟩
    · exact .inr ⟨head, rest, rfl, hotherwise, hrest⟩
  · rintro (⟨head, rest, rfl, hsino, hrest⟩ | ⟨head, rest, rfl, hotherwise, hrest⟩)
    · exact ⟨head, rest, rfl, .inl hsino, hrest⟩
    · exact ⟨head, rest, rfl, .inr hotherwise, hrest⟩

lemma headless_iff : (∀ head ∈ heads, ¬ headed head line) ↔
    keyword line ∉ keywords ∧ isUntil line = false ∧ isSeparator line = false := by
  rw [Bool.eq_false_iff, Bool.eq_false_iff, ne_eq, ne_eq, isUntil_eq_true_iff,
    isSeparator_eq_true_iff, headed_separating_iff]
  constructor
  · intro h
    have hmem {word : String} (hword : word ∈ keywords) := h _ (mem_heads hword)
    refine ⟨fun hword => hmem hword (headed_keyword line), h _ (by simp [heads]), ?_⟩
    rintro (hsino | hotherwise)
    · exact hmem (by decide) hsino
    · exact h _ (by simp [heads]) hotherwise
  · rintro ⟨hword, huntil, hseparator⟩
    rw [not_or] at hseparator
    refine List.forall_mem_append.mpr ⟨List.forall_mem_map.mpr fun word hmem hhead => ?_, ?_⟩
    · have hletters : ∀ word ∈ keywords, word.toList.all isIdentStart = true := by decide
      exact hword (keyword_of_headed (hletters word hmem) hhead ▸ hmem)
    · exact List.forall_mem_cons.mpr ⟨huntil, List.forall_mem_singleton.mpr hseparator.2⟩

lemma unassigning_iff : (∀ name, ¬ assigning name line) ↔ assignedName? line = none := by
  rw [Option.eq_none_iff_forall_ne_some]
  exact forall_congr' fun name => assignedName?_eq_some_iff.not.symm

lemma classify_of_plain (hheads : ∀ head ∈ heads, ¬ headed head line)
    (hassigning : ∀ name, ¬ assigning name line) :
    classify line = .statement (line.getLast? == some ';') := by
  obtain ⟨hmem, huntil, hseparator⟩ := headless_iff.mp hheads
  simp only [keywords, List.mem_cons, List.not_mem_nil, or_false, not_or] at hmem
  unfold classify
  simp [closerOf?, openerOf?, hmem, huntil, hseparator, unassigning_iff.mp hassigning]

end Forms

end Autograder.Proofs
