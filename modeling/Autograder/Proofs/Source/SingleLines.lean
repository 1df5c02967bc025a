import Autograder.Proofs.Source.LineComments

/-!
# The comment of a single line

The scan of a single line knows neither escapes nor block comments. On a line that has none of them
it cuts where masking enters its first line comment. It can also be run over the bytes of the line,
with a memory for the last slash in place of the look ahead; the cut, one byte before the second
slash, then falls between two characters in every line.
-/

namespace Autograder.Proofs

open Autograder.Text Autograder.Source

/-- The quote of the literal that a character leaves the scan in. -/
def quoteBehind : Option Char → Char → Option Char
  | none, c => if isQuote c then some c else none
  | some quote, c => if c == quote then none else some quote

/-- The character and the next one are the marker of a comment. -/
def StartsComment (quote : Option Char) (c : Char) (s : List Char) : Prop :=
  quote = none ∧ c = '/' ∧ s.head? = some '/'

section Step

variable {quote : Option Char} {c : Char} {s : List Char}

lemma isQuote_of_mem_quoteBehind (hquote : ∀ q ∈ quote, isQuote q = true) (c : Char) :
    ∀ q ∈ quoteBehind quote c, isQuote q = true := by
  intro q hq
  cases quote with
  | none =>
    simp only [quoteBehind] at hq
    split_ifs at hq with hc
    · exact Option.some.inj hq ▸ hc
    · cases hq
  | some quote =>
    simp only [quoteBehind] at hq
    split_ifs at hq
    · cases hq
    · exact Option.some.inj hq ▸ hquote quote rfl

lemma eq_none_of_quoteBehind_slash (hquote : ∀ q ∈ quote, isQuote q = true)
    (h : quoteBehind quote '/' = none) : quote = none := by
  cases quote with
  | none => rfl
  | some quote =>
    have hne : ('/' == quote) = false := by
      rw [beq_eq_false_iff_ne]
      rintro rfl
      exact absurd (hquote '/' rfl) (by decide)
    simp [quoteBehind, hne] at h

lemma stripCommentFrom_step (h : ¬ StartsComment quote c s) :
    stripCommentFrom quote (c :: s) = c :: stripCommentFrom (quoteBehind quote c) s := by
  cases quote with
  | none => exact stripCommentFrom_cons fun hpair => h ⟨rfl, hpair⟩
  | some quote =>
    rw [stripCommentFrom]
    rfl

lemma quoteAfter?_step (h : ¬ StartsComment quote c s) :
    quoteAfter? quote (c :: s) = quoteAfter? (quoteBehind quote c) s := by
  cases quote with
  | none =>
    rw [quoteAfter?]
    · rfl
    · rintro rest rfl rfl
      exact h ⟨rfl, rfl, rfl⟩
  | some quote =>
    rw [quoteAfter?]
    rfl

lemma exists_eq_of_startsComment (h : StartsComment quote c s) :
    quote = none ∧ ∃ comment, c :: s = '/' :: '/' :: comment := by
  obtain ⟨rfl, rfl, hhead⟩ := h
  obtain ⟨comment, rfl⟩ := List.head?_eq_some_iff.mp hhead
  exact ⟨rfl, comment, rfl⟩

lemma not_startsComment_of_append {t : List Char} (h : ¬ StartsComment quote c (s ++ t)) :
    ¬ StartsComment quote c s := by
  rintro ⟨hquote, hc, hhead⟩
  refine h ⟨hquote, hc, ?_⟩
  rw [List.head?_append, hhead]
  rfl

end Step

section Cut

variable {quote : Option Char}

/-- The scan reads what it leaves of a line to the end. What it cuts off is a comment that starts
outside literals, and no slash stands before that comment. -/
theorem stripCommentFrom_cases (hquote : ∀ q ∈ quote, isQuote q = true) (line : List Char) :
    (stripCommentFrom quote line = line ∧ ∃ q, quoteAfter? quote line = some q) ∨
      ∃ comment, line = stripCommentFrom quote line ++ '/' :: '/' :: comment ∧
        quoteAfter? quote (stripCommentFrom quote line) = some none ∧
        (stripCommentFrom quote line).getLast? ≠ some '/' := by
  induction line generalizing quote with
  | nil => exact .inl ⟨by cases quote <;> rfl, quote, by cases quote <;> rfl⟩
  | cons c rest ih =>
    by_cases hstart : StartsComment quote c rest
    · obtain ⟨rfl, comment, heq⟩ := exists_eq_of_startsComment hstart
      rw [heq]
      exact .inr ⟨comment, rfl, rfl, by simp [stripCommentFrom]⟩
    · rw [stripCommentFrom_step hstart]
      obtain ⟨heq, q, hq⟩ | ⟨comment, hsplit, hread, hslash⟩ :=
        ih (isQuote_of_mem_quoteBehind hquote c)
      · exact .inl ⟨congrArg (c :: ·) heq, q, (quoteAfter?_step hstart).trans hq⟩
      · generalize stripCommentFrom (quoteBehind quote c) rest = kept at hsplit hread hslash ⊢
        subst hsplit
        have hkept := not_startsComment_of_append hstart
        refine .inr ⟨comment, rfl, (quoteAfter?_step hkept).trans hread, ?_⟩
        cases kept with
        | nil =>
          -- the comment starts right behind the character, which is no slash of its own
          intro hlast
          obtain rfl : c = '/' := by simpa using hlast
          have houtside : quoteBehind quote '/' = none := by
            cases hbehind : quoteBehind quote '/' with
            | none => rfl
            | some q => simp [hbehind, quoteAfter?] at hread
          exact hstart ⟨eq_none_of_quoteBehind_slash hquote houtside, rfl, rfl⟩
        | cons d others => rwa [List.getLast?_cons_cons]

lemma stripLineComment_cases (line : List Char) :
    (stripLineComment line = line ∧ ∃ q, quoteAfter? none line = some q) ∨
      ∃ comment, line = stripLineComment line ++ '/' :: '/' :: comment ∧
        quoteAfter? none (stripLineComment line) = some none ∧
        (stripLineComment line).getLast? ≠ some '/' :=
  stripCommentFrom_cases (fun _ hq => absurd hq (Option.not_mem_none _)) line

theorem stripLineComment_isPrefix (line : List Char) : stripLineComment line <+: line := by
  obtain ⟨heq, -⟩ | ⟨comment, hsplit, -⟩ := stripLineComment_cases line
  · rw [heq]
  · exact ⟨_, hsplit.symm⟩

theorem stripLineComment_stripLineComment (line : List Char) :
    stripLineComment (stripLineComment line) = stripLineComment line := by
  obtain ⟨heq, -⟩ | ⟨-, -, hread, -⟩ := stripLineComment_cases line
  · rw [heq, heq]
  · exact stripCommentFrom_eq_self hread

end Cut

section Bytes

/-- The scan over the bytes of a line, of which `offset` are read already. It remembers the quote of
the literal that it is in, and whether the last character was a slash outside literals. It finds the
offset of the second slash of a comment. -/
def secondSlash? : Option Char → Bool → Nat → List Char → Option Nat
  | _, _, _, [] => none
  | quote, slash, offset, c :: rest =>
    if quote.isNone && slash && c == '/' then some offset
    else
      let behind := quoteBehind quote c
      secondSlash? behind (behind.isNone && c == '/') (offset + c.utf8Size) rest

/-- The slice of a line that ends one byte before the second slash of its comment, and the whole
line if it has none. There is no such slice if the offset is negative or falls inside a
character. -/
def sliceBeforeComment? (line : List Char) : Option (List Char) :=
  match secondSlash? none false 0 line with
  | none => some line
  | some offset =>
    let text := String.ofList line
    if h : 0 < offset ∧ (⟨offset - 1⟩ : String.Pos.Raw).IsValid text then
      some (text.sliceTo (text.pos ⟨offset - 1⟩ h.2)).copy.toList
    else none

def byteLength (s : List Char) : Nat :=
  (String.ofList s).utf8ByteSize

variable {quote : Option Char} {c : Char} {s line : List Char} {offset : Nat}

lemma byteLength_cons (c : Char) (s : List Char) :
    byteLength (c :: s) = c.utf8Size + byteLength s := by
  have happend : String.ofList (c :: s) = String.ofList [c] ++ String.ofList s := by
    rw [← String.ofList_append, List.singleton_append]
  rw [byteLength, happend, String.utf8ByteSize_append]
  simp [byteLength]

/-- A remembered slash means nothing if no second one follows. -/
lemma secondSlash?_slash (h : s.head? ≠ some '/') (slash : Bool) :
    secondSlash? quote slash offset s = secondSlash? quote false offset s := by
  cases s with
  | nil => rfl
  | cons d rest =>
    have hd : (d == '/') = false := by simpa using h
    simp [secondSlash?, hd]

lemma secondSlash?_step (hquote : ∀ q ∈ quote, isQuote q = true) (h : ¬ StartsComment quote c s) :
    secondSlash? quote false offset (c :: s) =
      secondSlash? (quoteBehind quote c) false (offset + c.utf8Size) s := by
  rw [secondSlash?]
  simp only [Bool.and_false, Bool.false_and, Bool.false_eq_true, if_false]
  by_cases hslash : quoteBehind quote c = none ∧ c = '/'
  · obtain ⟨houtside, rfl⟩ := hslash
    exact secondSlash?_slash
      (fun hhead => h ⟨eq_none_of_quoteBehind_slash hquote houtside, rfl, hhead⟩) _
  · have hflag : ((quoteBehind quote c).isNone && c == '/') = false := by
      rw [Bool.eq_false_iff]
      simpa using hslash
    rw [hflag]

/-- Remembering a slash comes to the same as looking ahead for the next one. -/
theorem secondSlash?_cases (hquote : ∀ q ∈ quote, isQuote q = true) (offset : Nat)
    (line : List Char) :
    (stripCommentFrom quote line = line ∧ secondSlash? quote false offset line = none) ∨
      secondSlash? quote false offset line =
        some (offset + byteLength (stripCommentFrom quote line) + 1) := by
  induction line generalizing quote offset with
  | nil => exact .inl ⟨by cases quote <;> rfl, rfl⟩
  | cons c rest ih =>
    by_cases hstart : StartsComment quote c rest
    · obtain ⟨rfl, comment, heq⟩ := exists_eq_of_startsComment hstart
      rw [heq]
      exact .inr rfl
    · rw [stripCommentFrom_step hstart, secondSlash?_step hquote hstart]
      obtain ⟨heq, hnone⟩ | hsome :=
        ih (isQuote_of_mem_quoteBehind hquote c) (offset + c.utf8Size)
      · exact .inl ⟨congrArg (c :: ·) heq, hnone⟩
      · rw [hsome, byteLength_cons, Nat.add_assoc offset]
        exact .inr rfl

lemma exists_slice_of_isPrefix (h : s <+: line) :
    ∃ hvalid : (⟨byteLength s⟩ : String.Pos.Raw).IsValid (String.ofList line),
      ((String.ofList line).sliceTo ((String.ofList line).pos ⟨byteLength s⟩ hvalid)).copy =
        String.ofList s := by
  obtain ⟨rest, rfl⟩ := h
  refine ⟨String.Pos.Raw.isValid_iff_exists_append.mpr
    ⟨String.ofList s, String.ofList rest, String.ofList_append, rfl⟩, ?_⟩
  rw [String.copy_sliceTo_eq_iff_exists_splits]
  exact ⟨String.ofList rest, String.ofList_append, rfl⟩

theorem sliceBeforeComment?_eq (line : List Char) :
    sliceBeforeComment? line = some (stripLineComment line) := by
  obtain ⟨heq, hnone⟩ | hsome :=
    secondSlash?_cases (fun _ hq => absurd hq (Option.not_mem_none _)) 0 line
  · rw [sliceBeforeComment?, hnone]
    exact congrArg some heq.symm
  · obtain ⟨hvalid, hslice⟩ := exists_slice_of_isPrefix (stripLineComment_isPrefix line)
    have hoffset : 0 + byteLength (stripCommentFrom none line) + 1 - 1 =
      byteLength (stripLineComment line) := by rw [Nat.zero_add]; rfl
    rw [sliceBeforeComment?, hsome]
    simp only [hoffset]
    rw [dif_pos ⟨Nat.succ_pos _, hvalid⟩, hslice, String.toList_ofList]

end Bytes

/-- A single line without backslashes and openings of block comments. -/
structure IsSimpleLine (line : List Char) : Prop where
  noNewline : '\n' ∉ line
  noEscape : '\\' ∉ line
  noOpening : ¬ ['/', '*'] <:+: line

/-- What masking is inside of where the scan of a single line is in the literal, or in none. -/
def maskStateIn : Option Char → MaskState
  | none => .code
  | some quote => .literal quote

/-- The text that masking has read of a line when it comes across the first marker of a line
comment, or all of the line if it enters no line comment. -/
structure IsBeforeLineComment (line before : List Char) : Prop where
  isPrefix : before <+: line
  outside : ∀ n ≤ before.length + 1, stateAfter .code (line.take n) ≠ .lineComment
  enters : before = line ∨ ['/', '/'] <+: line.drop before.length ∧
    stateAfter .code (line.take (before.length + 2)) = .lineComment

section Mask

variable {quote q : Option Char} {c : Char} {state : MaskState} {s t line before other : List Char}

lemma isSimpleLine_of_isInfix (h : IsSimpleLine line) (hs : s <:+: line) : IsSimpleLine s where
  noNewline hmem := h.noNewline (hs.subset hmem)
  noEscape hmem := h.noEscape (hs.subset hmem)
  noOpening hopen := h.noOpening (hopen.trans hs)

lemma readOne_maskStateIn (hnewline : c ≠ '\n') (hescape : c ≠ '\\') :
    (readOne (maskStateIn quote) c).2 = maskStateIn (quoteBehind quote c) := by
  cases quote with
  | none =>
    simp only [maskStateIn, readOne, quoteBehind]
    split_ifs <;> rfl
  | some quote =>
    simp only [maskStateIn, readOne, quoteBehind, beq_iff_eq, hnewline, hescape, if_false]
    split_ifs <;> rfl

lemma isPair_maskStateIn (h : IsSimpleLine (c :: s)) (hstart : ¬ StartsComment quote c s) :
    ∀ d ∈ s.head?, isPair (maskStateIn quote) c d = false := by
  intro d hd
  obtain ⟨rest, rfl⟩ := List.head?_eq_some_iff.mp hd
  cases quote with
  | none =>
    by_contra hpair
    simp only [maskStateIn, isPair, Bool.not_eq_false, Bool.and_eq_true, Bool.or_eq_true,
      beq_iff_eq] at hpair
    obtain ⟨rfl, rfl | rfl⟩ := hpair
    · exact hstart ⟨rfl, rfl, rfl⟩
    · exact h.noOpening ⟨[], rest, rfl⟩
  | some quote =>
    have hescape : c ≠ '\\' := by
      rintro rfl
      exact h.noEscape List.mem_cons_self
    simpa [maskStateIn, isPair] using hescape

theorem stateAfter_maskStateIn (h : IsSimpleLine s) (hread : quoteAfter? quote s = some q) :
    stateAfter (maskStateIn quote) s = maskStateIn q := by
  induction s generalizing quote with
  | nil =>
    obtain rfl : quote = q := by cases quote <;> simpa [quoteAfter?] using hread
    rfl
  | cons c rest ih =>
    have hstart : ¬ StartsComment quote c rest := by
      intro hstart
      obtain ⟨rfl, comment, heq⟩ := exists_eq_of_startsComment hstart
      rw [heq, quoteAfter?] at hread
      cases hread
    have hnewline : c ≠ '\n' := fun hc => h.noNewline (hc ▸ List.mem_cons_self)
    have hescape : c ≠ '\\' := fun hc => h.noEscape (hc ▸ List.mem_cons_self)
    rw [quoteAfter?_step hstart] at hread
    rw [stateAfter_one (isPair_maskStateIn h hstart), readOne_maskStateIn hnewline hescape]
    exact ih (isSimpleLine_of_isInfix h (List.suffix_cons c rest).isInfix) hread

lemma stateAfter_lineComment (h : '\n' ∉ s) : stateAfter .lineComment s = .lineComment := by
  induction s with
  | nil => rfl
  | cons c rest ih =>
    rw [List.mem_cons, not_or] at h
    have hc : (c == '\n') = false := beq_eq_false_iff_ne.mpr (Ne.symm h.1)
    rw [stateAfter_one fun _ _ => rfl]
    simpa [readOne, hc] using ih h.2

lemma stateAfter_append_of_lineComment (h : stateAfter state s = .lineComment) (ht : '\n' ∉ t) :
    stateAfter state (s ++ t) = .lineComment := by
  have hcut : IsCut state s t := by
    intro c _ d _
    rw [h]
    rfl
  rw [stateAfter_append hcut, h, stateAfter_lineComment ht]

lemma stateAfter_take_ne (hline : '\n' ∉ line) (h : stateAfter state line ≠ .lineComment)
    (n : Nat) : stateAfter state (line.take n) ≠ .lineComment := by
  intro htake
  apply h
  rw [← List.take_append_drop n line]
  exact stateAfter_append_of_lineComment htake fun hmem => hline (List.mem_of_mem_drop hmem)

theorem isBeforeLineComment_unique (h : IsBeforeLineComment line before)
    (h' : IsBeforeLineComment line other) : before = other := by
  have hle {a b : List Char} (ha : IsBeforeLineComment line a) (hb : IsBeforeLineComment line b) :
      a.length ≤ b.length := by
    by_contra hlt
    rcases hb.enters with rfl | ⟨-, henters⟩
    · exact hlt ha.isPrefix.length_le
    · exact ha.outside (b.length + 2) (by omega) henters
  exact (List.prefix_of_prefix_length_le h.isPrefix h'.isPrefix (hle h h')).eq_of_length
    (Nat.le_antisymm (hle h h') (hle h' h))

end Mask

section Agreement

variable {q : Option Char} {line kept comment : List Char}

lemma isBeforeLineComment_self (hline : '\n' ∉ line)
    (hstate : stateAfter .code line ≠ .lineComment) : IsBeforeLineComment line line where
  isPrefix := List.prefix_rfl
  outside n _ := stateAfter_take_ne hline hstate n
  enters := .inl rfl

lemma isBeforeLineComment_append (hline : '\n' ∉ kept) (houtside : stateAfter .code kept = .code)
    (hslash : kept.getLast? ≠ some '/') :
    IsBeforeLineComment (kept ++ '/' :: '/' :: comment) kept := by
  have hbehind (rest : List Char) : stateAfter .code (kept ++ rest) = stateAfter .code rest := by
    rw [stateAfter_append (isCut_of_outside houtside hslash), houtside]
  refine ⟨List.prefix_append _ _, fun n hn => ?_, .inr ⟨by simp, ?_⟩⟩
  · -- the first slash alone does not lead into the comment
    have htake : (kept ++ '/' :: '/' :: comment).take n = (kept ++ ['/']).take n := by
      rw [List.append_cons, List.take_append_of_le_length (by simpa using hn)]
    rw [htake]
    exact stateAfter_take_ne (by simpa using hline) (by rw [hbehind]; decide) n
  · have htake : (kept ++ '/' :: '/' :: comment).take (kept.length + 2) = kept ++ ['/', '/'] := by
      simp [List.take_append]
    rw [htake, hbehind]
    rfl

lemma stateAfter_ne_lineComment (h : IsSimpleLine line) (hread : quoteAfter? none line = some q) :
    stateAfter .code line ≠ .lineComment := by
  have hstate : stateAfter .code line = maskStateIn q := stateAfter_maskStateIn h hread
  rw [hstate]
  cases q <;> exact MaskState.noConfusion

/-- On a simple line the scan cuts where masking enters its first line comment. -/
theorem isBeforeLineComment_stripLineComment (h : IsSimpleLine line) :
    IsBeforeLineComment line (stripLineComment line) := by
  have hkept : IsSimpleLine (stripLineComment line) :=
    isSimpleLine_of_isInfix h (stripLineComment_isPrefix line).isInfix
  obtain ⟨heq, q, hread⟩ | ⟨comment, hsplit, hread, hslash⟩ := stripLineComment_cases line
  · rw [heq]
    exact isBeforeLineComment_self h.noNewline (stateAfter_ne_lineComment h hread)
  · generalize stripLineComment line = kept at hkept hsplit hread hslash ⊢
    subst hsplit
    exact isBeforeLineComment_append hkept.noNewline (stateAfter_maskStateIn hkept hread) hslash

/-- Masked, the comment that is cut off a simple line is blanks behind what is left. -/
theorem mask_eq_mask_stripLineComment_append (h : IsSimpleLine line) :
    mask line = mask (stripLineComment line) ++
      List.replicate (line.length - (stripLineComment line).length) ' ' := by
  obtain ⟨heq, -⟩ | ⟨comment, hsplit, hread, hslash⟩ := stripLineComment_cases line
  · simp [heq]
  · generalize stripLineComment line = kept at hsplit hread hslash ⊢
    subst hsplit
    have houtside : stateAfter .code kept = .code :=
      stateAfter_maskStateIn (isSimpleLine_of_isInfix h (List.prefix_append _ _).isInfix) hread
    have hcomment : '\n' ∉ comment := fun hmem => h.noNewline (by simp [hmem])
    have hmasked := mask_insert hcomment (.inl rfl) hslash houtside
    simpa [mask, maskFrom] using hmasked

/-- What the scan of a single line leaves of it. -/
structure IsCutOff (line kept : List Char) : Prop where
  /-- Over the bytes of the line, the scan ends its slice between two characters. -/
  sliced : sliceBeforeComment? line = some kept
  isPrefix : kept <+: line
  settled : stripLineComment kept = kept

/-- What is left of a line as masking sees it. -/
structure IsCutWhereMasked (line kept : List Char) : Prop where
  isBefore_iff : ∀ before, IsBeforeLineComment line before ↔ before = kept
  masked : mask line = mask kept ++ List.replicate (line.length - kept.length) ' '

/-- Every line is cut between two of its characters, and what is left of it is not cut again. A
line without backslashes and openings of block comments is cut where masking enters its first line
comment. -/
theorem stripLineComment_agrees_with_mask (line : List Char) :
    IsCutOff line (stripLineComment line) ∧
      (IsSimpleLine line → IsCutWhereMasked line (stripLineComment line)) := by
  constructor
  · exact ⟨sliceBeforeComment?_eq line, stripLineComment_isPrefix line,
      stripLineComment_stripLineComment line⟩
  · intro h
    have hstrip := isBeforeLineComment_stripLineComment h
    refine ⟨fun before => ⟨fun hbefore => isBeforeLineComment_unique hbefore hstrip, ?_⟩,
      mask_eq_mask_stripLineComment_append h⟩
    rintro rfl
    exact hstrip

/-- A slash in a literal and one right behind it, markers in a literal, characters of several bytes,
and a comment that starts with three slashes. -/
theorem stripLineComment_agrees_with_mask_slashes :
    IsSimpleLine "'/'/ \"ñ//'é\" ///\"x".toList ∧
      IsCutOff "'/'/ \"ñ//'é\" ///\"x".toList "'/'/ \"ñ//'é\" ".toList ∧
      IsCutWhereMasked "'/'/ \"ñ//'é\" ///\"x".toList "'/'/ \"ñ//'é\" ".toList := by
  have hsimple : IsSimpleLine "'/'/ \"ñ//'é\" ///\"x".toList := ⟨by decide, by decide, by decide⟩
  have hkept : stripLineComment "'/'/ \"ñ//'é\" ///\"x".toList = "'/'/ \"ñ//'é\" ".toList := by
    decide
  obtain ⟨hcut, hmasked⟩ := stripLineComment_agrees_with_mask "'/'/ \"ñ//'é\" ///\"x".toList
  rw [hkept] at hcut hmasked
  exact ⟨hsimple, hcut, hmasked hsimple⟩

end Agreement

end Autograder.Proofs
