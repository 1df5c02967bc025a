import Autograder.Proofs.Check.Acceptance
import Autograder.Proofs.Check.Closers
import Autograder.Proofs.Check.Phrases

/-!
# Structured programs

A structured program is a tree: a block with statements and further blocks in it. It is written down
one line for each header, closer and statement, with silent lines in between. The check accepts
every such text; and without any one of its headers and closers the text is not accepted.
-/

namespace Autograder.Proofs

open Autograder.Check Autograder.Check.Pseint Autograder.Text Autograder.Source

/-- What stands for an expression: any phrase, words of the language included. -/
structure Expression where
  text : List Char
  phrase : IsPhrase text

structure Name where
  text : List Char
  named : identifier text

/-- A name that can be assigned to. -/
structure Variable extends Name where
  free : ∀ word ∈ keywords, ¬ key word text

/-- A phrase that nothing is known about: no word of the language heads it, and it assigns to
nothing. -/
structure PlainLine extends Expression where
  headless : ∀ head ∈ heads, ¬ headed head text
  unassigning : ∀ name, ¬ assigning name text

/-- A line that does not belong to a construct. -/
inductive Statement where
  | definition (names : List (List Char))
  | assignment (target : Variable) (value : Expression)
  | plain (line : PlainLine)
  | separator

/-- A construct with what its header and closer say. -/
inductive Block where
  | si (condition : Expression)
  | para (counter : Name) (first last : Expression) (step : Option Expression) (hacer : Bool)
  | mientras (condition : Expression) (hacer : Bool)
  | repetir (condition : Expression)
  | segun (value : Expression) (hacer : Bool)
  | proceso (title : Option Expression)
  | algoritmo (title : Option Expression)

/-- A sequence of statements and of blocks with their insides. -/
inductive Body where
  | done
  | line (statement : Statement) (behind : Body)
  | block (around : Block) (inside behind : Body)

/-- What a single line of a program is to say. -/
inductive Clause where
  | statement (statement : Statement)
  | opening (block : Block)
  | closing (block : Block)

/-- A word in any mix of ASCII capitals and small letters. -/
def spelled (word : String) : Shape := fun s => SameLetters s word.toList

def Expression.shape (expression : Expression) : Shape := fun s => s = expression.text

/-- A name, an arrow and an expression. -/
def assigned (name : List Char) (value : Expression) : Shape :=
  inOrder [fun s => s = name, blanks, exactly "<-", blanks, value.shape]

namespace Statement

def words : Statement → List Shape
  | definition names => [fun s => IsPhrase s ∧ declaration names s]
  | assignment target value => [assigned target.text value]
  | plain line => [line.shape]
  | separator => [fun s => IsPhrase s ∧ headed separating s]

end Statement

namespace Block

def construct : Block → Construct
  | si _ => .si
  | para _ _ _ _ _ => .para
  | mientras _ _ => .mientras
  | repetir _ => .repetir
  | segun _ _ => .segun
  | proceso _ => .proceso
  | algoritmo _ => .algoritmo

def hacerWords (hacer : Bool) : List Shape :=
  if hacer then [key "hacer"] else []

def stepWords (step : Option Expression) : List Shape :=
  match step with
  | some step => [key "con", key "paso", step.shape]
  | none => []

/-- What follows the first word of the header. -/
def headerRest : Block → List Shape
  | si condition => [condition.shape, key "entonces"]
  | para counter first last step hacer =>
    assigned counter.text first :: key "hasta" :: last.shape :: (stepWords step ++ hacerWords hacer)
  | mientras condition hacer => condition.shape :: hacerWords hacer
  | repetir _ => []
  | segun value hacer => value.shape :: hacerWords hacer
  | proceso title => (title.map Expression.shape).toList
  | algoritmo title => (title.map Expression.shape).toList

def headerWords (block : Block) : List Shape :=
  key (openingWord block.construct) :: block.headerRest

/-- The closers are looked up in lowercase, so only ASCII letters stand for theirs. -/
def closerWords : Block → List Shape
  | repetir condition => [spelled "Hasta", spelled "Que", condition.shape]
  | block => [spelled block.construct.closer]

end Block

namespace Clause

def words : Clause → List Shape
  | .statement content => content.words
  | .opening block => block.headerWords
  | .closing block => block.closerWords

def bracket? : Clause → Option Bracket
  | .statement _ => none
  | .opening block => some (.opening block.construct)
  | .closing block => some (.closing block.construct)

end Clause

/-- The lines of a sequence, in order. -/
def Body.clauses : Body → List Clause
  | .done => []
  | .line statement behind => .statement statement :: behind.clauses
  | .block around inside behind =>
    .opening around :: (inside.clauses ++ .closing around :: behind.clauses)

/-- Every variable that is assigned to is defined above, in whatever letter case. -/
def DefinedAbove (clauses : List Clause) : Prop :=
  ∀ above target value below,
    clauses = above ++ .statement (.assignment target value) :: below →
      ∃ names, .statement (.definition names) ∈ above ∧
        lowercase target.text ∈ names.map lowercase

/-- A program: everything is in one block. -/
structure Program where
  root : Block
  inside : Body
  defined : DefinedAbove (Body.block root inside .done).clauses

def Program.clauses (program : Program) : List Clause :=
  (Body.block program.root program.inside .done).clauses

/-- A line of a text, with what it says; silent lines say nothing. -/
structure Line where
  clause? : Option Clause
  text : List Char
  single : '\n' ∉ text
  shown : (clause?.elim silent fun clause => saying (spaced clause.words)) text

/-- What a line does to the nesting, if it is a header or a closer. -/
def Line.bracket? (line : Line) : Option Bracket :=
  line.clause?.bind Clause.bracket?

def textOf (lines : List Line) : List Char :=
  joinRows (lines.map Line.text)

/-- The lines of a program, with silent lines anywhere between them. -/
structure Rendering (program : Program) where
  lines : List Line
  complete : lines.filterMap Line.clause? = program.clauses

/-- What the check may take the line of a clause for. An assignment to `DeOtroModo` looks like a
separator. -/
def Reads : Clause → LineForm → Prop
  | .statement (.definition names), form => form = .definition (some (names.map lowercase))
  | .statement (.assignment target _), form => form = .assignment target.text ∨ form = .separator
  | .statement (.plain _), form => ∃ terminated, form = .statement terminated
  | .statement .separator, form => form = .separator
  | .opening block, form => form = .header block.construct true
  | .closing block, form => form = .closer (some block.construct)

section Phrases

variable {s : List Char} {word lower : String}

lemma isPhrasal_key (hname : word ≠ "") (hword : word.toList.all isIdentStart = true) :
    IsPhrasal (key word) :=
  fun _ h => isPhrase_of_words (ne_nil_of_key hname h) (isWord_of_key hword h)

lemma key_of_spelled (h : spelled word s) (hlower : keyText word.toList = lower.toList) :
    key lower s := by
  rw [key, ← hlower, ← keyText_small, h, keyText_small]

lemma isPhrasal_spelled (lower : String) (hlower : keyText word.toList = lower.toList)
    (hname : lower ≠ "") (hword : lower.toList.all isIdentStart = true) :
    IsPhrasal (spelled word) :=
  fun s h => isPhrasal_key hname hword s (key_of_spelled h hlower)

lemma isPhrasal_shape (expression : Expression) : IsPhrasal expression.shape := by
  rintro _ rfl
  exact expression.phrase

lemma isPhrasal_assigned (name : Name) (value : Expression) :
    IsPhrasal (assigned name.text value) := by
  rintro _ ⟨_, _, rfl, rfl, before, _, rfl, hbefore, _, _, rfl, rfl, after, _, rfl, hafter, _, _,
    rfl, rfl, rfl⟩
  have hword := isWord_of_identifier name.named
  have harrow : IsPhrase "<-".toList := by decide
  rw [List.append_nil]
  refine isPhrase_append (isPhrase_of_words (ne_nil_of_identifier name.named) hword) hbefore
    (isPhrase_append harrow hafter value.phrase fun _ => by decide) fun _ hlast => ?_
  exact absurd (hword '/' (List.mem_of_mem_getLast? hlast)) (by decide)

lemma isPhrasal_statementWords (statement : Statement) :
    ∀ part ∈ statement.words, IsPhrasal part := by
  cases statement with
  | definition names => exact List.forall_mem_singleton.mpr fun _ h => h.1
  | assignment target value =>
    exact List.forall_mem_singleton.mpr (isPhrasal_assigned target.toName value)
  | plain line => exact List.forall_mem_singleton.mpr (isPhrasal_shape line.toExpression)
  | separator => exact List.forall_mem_singleton.mpr fun _ h => h.1

lemma isPhrasal_hacerWords (hacer : Bool) : ∀ part ∈ Block.hacerWords hacer, IsPhrasal part := by
  cases hacer with
  | false => exact List.forall_mem_nil _
  | true => exact List.forall_mem_singleton.mpr (isPhrasal_key (by decide) (by decide))

lemma isPhrasal_stepWords (step : Option Expression) :
    ∀ part ∈ Block.stepWords step, IsPhrasal part := by
  cases step with
  | none => exact List.forall_mem_nil _
  | some step =>
    simp only [Block.stepWords, List.forall_mem_cons]
    exact ⟨isPhrasal_key (by decide) (by decide), isPhrasal_key (by decide) (by decide),
      isPhrasal_shape step, List.forall_mem_nil _⟩

lemma isPhrasal_openingWord (construct : Construct) : IsPhrasal (key (openingWord construct)) :=
  isPhrasal_key (by cases construct <;> decide) (by cases construct <;> decide)

lemma isPhrasal_headerWords (block : Block) : ∀ part ∈ block.headerWords, IsPhrasal part := by
  have htitle (title : Option Expression) :
      ∀ part ∈ (title.map Expression.shape).toList, IsPhrasal part := by
    cases title with
    | none => exact List.forall_mem_nil _
    | some title => exact List.forall_mem_singleton.mpr (isPhrasal_shape title)
  refine List.forall_mem_cons.mpr ⟨isPhrasal_openingWord block.construct, ?_⟩
  cases block with
  | si condition =>
    simp only [Block.headerRest, List.forall_mem_cons]
    exact ⟨isPhrasal_shape condition, isPhrasal_key (by decide) (by decide), List.forall_mem_nil _⟩
  | para counter first last step hacer =>
    simp only [Block.headerRest, List.forall_mem_cons, List.forall_mem_append]
    exact ⟨isPhrasal_assigned counter first, isPhrasal_key (by decide) (by decide),
      isPhrasal_shape last, isPhrasal_stepWords step, isPhrasal_hacerWords hacer⟩
  | mientras value hacer | segun value hacer =>
    exact List.forall_mem_cons.mpr ⟨isPhrasal_shape value, isPhrasal_hacerWords hacer⟩
  | repetir => exact List.forall_mem_nil _
  | proceso title | algoritmo title => exact htitle title

lemma closing_of_spelled {construct : Construct} (hne : construct ≠ .repetir)
    (h : spelled construct.closer s) : closing construct s := by
  cases construct with
  | repetir => exact absurd rfl hne
  | _ => exact key_of_spelled h (by decide)

lemma isPhrasal_closer {construct : Construct} (hne : construct ≠ .repetir) :
    IsPhrasal (spelled construct.closer) := by
  intro s h
  have hclosing := closing_of_spelled hne h
  cases construct with
  | repetir => exact absurd rfl hne
  | _ => exact isPhrasal_key (by decide) (by decide) s hclosing

lemma isPhrasal_closerWords (block : Block) : ∀ part ∈ block.closerWords, IsPhrasal part := by
  cases block with
  | repetir condition =>
    simp only [Block.closerWords, List.forall_mem_cons]
    exact ⟨isPhrasal_spelled "hasta" (by decide) (by decide) (by decide),
      isPhrasal_spelled "que" (by decide) (by decide) (by decide),
      isPhrasal_shape condition, List.forall_mem_nil _⟩
  | _ => exact List.forall_mem_singleton.mpr (isPhrasal_closer Construct.noConfusion)

theorem isPhrasal_clause (clause : Clause) : IsPhrasal (spaced clause.words) := by
  cases clause with
  | statement content =>
    refine isPhrasal_spaced ?_ (isPhrasal_statementWords content)
    cases content <;> exact List.cons_ne_nil _ _
  | opening block => exact isPhrasal_spaced (List.cons_ne_nil _ _) (isPhrasal_headerWords block)
  | closing block =>
    refine isPhrasal_spaced ?_ (isPhrasal_closerWords block)
    cases block <;> exact List.cons_ne_nil _ _

end Phrases

section Classify

variable {s : List Char}

lemma headed_definir {names : List (List Char)} (h : declaration names s) :
    headed (key "definir") s := by
  obtain ⟨definir, _, rfl, hkey, between, _, rfl, hgap, -⟩ := h
  exact ⟨definir, _, rfl, hkey, startsOutside_isWord_of_gap hgap⟩

lemma assigning_of_assigned (name : Name) {value : Expression}
    (h : assigned name.text value s) : assigning name.text s := by
  obtain ⟨_, _, rfl, rfl, before, _, rfl, hbefore, arrow, _, rfl, harrow, after, _, rfl, -, _, _,
    rfl, rfl, rfl⟩ := h
  refine ⟨name.text, _, rfl, ⟨rfl, name.named⟩, before, _, rfl, hbefore, arrow, _, rfl, harrow, _,
    [], (List.append_nil _).symm, ?_, rfl⟩
  simp [something, value.phrase.visible]

/-- An expression between `Si` and `Entonces` is a condition, even if it is another `Entonces`. -/
lemma not_noCondition_of_si {condition : Expression}
    (h : spaced [key "si", condition.shape, key "entonces"] s) :
    ¬ noCondition (s.dropWhile isWord) := by
  have hphrase : IsPhrasal (spaced [condition.shape, key "entonces"]) := by
    refine isPhrasal_spaced (List.cons_ne_nil _ _) (List.forall_mem_cons.mpr
      ⟨isPhrasal_shape condition, List.forall_mem_singleton.mpr ?_⟩)
    exact isPhrasal_key (by decide) (by decide)
  obtain ⟨si, first, said, rfl, hsi, hfirst, hsaid⟩ := spaced_cons_cons.mp h
  rw [dropWhile_run_append (isWord_of_key (by decide) hsi) (startsOutside_isWord_of_gap hfirst)]
  rintro ⟨before, _, hsplit, hbefore, word, _, rfl, hword, after, _, rfl, hafter, rfl⟩
  have hletters : ∀ c ∈ word, isBlank c = false := by
    rcases hword with rfl | hkey
    · exact List.forall_mem_nil _
    · exact fun c hc => not_isBlank_of_isWord (isWord_of_key (by decide) hkey c hc)
  -- what is said would be a single word, but there is a gap in it
  have hone : said = word := by
    rw [← trim_eq_self (hphrase said hsaid).start (hphrase said hsaid).stop,
      ← trim_blanks_append hfirst.2, hsplit, List.append_nil, trim_append hbefore hletters hafter]
  obtain ⟨text, second, entonces, rfl, -, hsecond, -⟩ := spaced_cons_cons.mp hsaid
  obtain ⟨c, others, rfl⟩ := List.exists_cons_of_ne_nil hsecond.1
  have hblank := hsecond.2 c List.mem_cons_self
  rw [hletters c (hone ▸ by simp)] at hblank
  cases hblank

lemma forHeader_of_para {counter : Name} {first last : Expression} {others : List Shape}
    (h : spaced
      (key "para" :: assigned counter.text first :: key "hasta" :: last.shape :: others) s)
    (hothers : ∀ part ∈ others, IsPhrasal part) : forHeader s := by
  obtain ⟨para, gap₁, _, rfl, hpara, hgap₁, h⟩ := spaced_cons_cons.mp h
  obtain ⟨_, gap₂, _, rfl, ⟨_, _, rfl, rfl, before, _, rfl, hbefore, arrow, _, rfl, harrow, after,
    _, rfl, hafter, _, _, rfl, rfl, rfl⟩, hgap₂, h⟩ := spaced_cons_cons.mp h
  obtain ⟨hasta, gap₃, bound, rfl, hhasta, hgap₃, h⟩ := spaced_cons_cons.mp h
  -- a step and `Hacer` may be taken for a part of the bound
  have hbound : IsPhrase bound := isPhrasal_spaced (List.cons_ne_nil _ _)
    (List.forall_mem_cons.mpr ⟨isPhrasal_shape last, hothers⟩) bound h
  simp only [List.append_assoc, List.nil_append]
  exact ⟨para, _, rfl, hpara, gap₁, _, rfl, hgap₁, counter.text, _, rfl, counter.named, before, _,
    rfl, hbefore, arrow, _, rfl, harrow, after, _, rfl, hafter, first.text, _, rfl,
    first.phrase.visible, gap₂, _, rfl, hgap₂, hasta, _, rfl, hhasta, gap₃, _, rfl, hgap₃, bound,
    [], (List.append_nil _).symm, hbound.visible, [], [], rfl, .inl rfl, [], [], rfl, .inl rfl, [],
    [], rfl, List.forall_mem_nil _, rfl⟩

lemma isWellFormedHeader_of_header {block : Block} (h : spaced block.headerWords s) :
    isWellFormedHeader block.construct s = true := by
  cases block with
  | si condition => exact isWellFormedHeader_si_iff.mpr (not_noCondition_of_si h)
  | para counter first last step hacer =>
    refine isForHeader_eq_true_iff.mpr (forHeader_of_para h ?_)
    exact List.forall_mem_append.mpr ⟨isPhrasal_stepWords step, isPhrasal_hacerWords hacer⟩
  | _ => rfl

/-- The check looks the closers up once more, and finds those in ASCII letters. -/
lemma classify_of_spelled {construct : Construct} (hne : construct ≠ .repetir)
    (h : spelled construct.closer s) : classify s = .closer (some construct) := by
  have hlong : 'ſ' ∉ s := by
    intro hmem
    have hsmall : 'ſ' ∈ small s := List.mem_map.mpr ⟨'ſ', hmem, by decide⟩
    rw [h] at hsmall
    revert hsmall
    cases construct <;> decide
  have hheaded : headed (closing construct) s :=
    ⟨s, [], (List.append_nil s).symm, closing_of_spelled hne h, startsOutside_nil⟩
  rw [classify_of_closer hheaded, if_neg]
  exact fun hmem => hlong ((List.takeWhile_prefix _).subset hmem.2)

lemma headed_until {condition : Expression}
    (h : spaced (Block.repetir condition).closerWords s) : headed (closing .repetir) s := by
  obtain ⟨hasta, first, _, rfl, hhasta, hfirst, h⟩ := spaced_cons_cons.mp h
  obtain ⟨que, second, _, rfl, hque, hsecond, -⟩ := spaced_cons_cons.mp h
  rw [← List.append_assoc first, ← List.append_assoc hasta]
  exact ⟨hasta ++ (first ++ que), _, rfl, ⟨hasta, _, rfl, key_of_spelled hhasta (by decide), first,
    _, rfl, hfirst, que, [], (List.append_nil _).symm, key_of_spelled hque (by decide), rfl⟩,
    startsOutside_isWord_of_gap hsecond⟩

theorem reads_classify {clause : Clause} (h : spaced clause.words s) :
    Reads clause (classify s) := by
  cases clause with
  | statement content =>
    cases content with
    | definition names =>
      have hdeclaration : declaration names s := h.2
      change classify s = _
      rw [classify_of_definition (headed_definir hdeclaration),
        definedNames?_eq_some_iff.mpr hdeclaration]
      rfl
    | assignment target value =>
      exact classify_of_assigning (assigning_of_assigned target.toName h) target.free
    | plain line =>
      obtain rfl : s = line.text := h
      exact ⟨_, classify_of_plain line.headless line.unassigning⟩
    | separator => exact classify_of_separating h.2
  | opening block =>
    change classify s = _
    rw [classify_of_opening (headed_of_spaced h), isWellFormedHeader_of_header h]
  | closing block =>
    cases block with
    | repetir condition => exact classify_of_until (headed_until h)
    | _ => exact classify_of_spelled Construct.noConfusion h

end Classify

section Texts

lemma forall₂_reads_rows (lines : List Line) : List.Forall₂ Reads (lines.filterMap Line.clause?)
    (((lines.map fun line => statementOf line.text).filter fun s => !s.isEmpty).map classify) := by
  induction lines with
  | nil => exact .nil
  | cons line others ih =>
    obtain ⟨clause?, text, -, hshown⟩ := line
    rw [List.map_cons, List.filter_cons, List.filterMap_cons]
    cases clause? with
    | none => simpa [statementOf_silent hshown] using ih
    | some clause =>
      have hsaid := statementOf_saying (isPhrasal_clause clause) hshown
      have hvisible := (isPhrasal_clause clause _ hsaid).visible
      simpa [hvisible] using List.Forall₂.cons (reads_classify hsaid) ih

theorem forall₂_reads (lines : List Line) : List.Forall₂ Reads (lines.filterMap Line.clause?)
    ((numberedForms (textOf lines)).map Prod.fst) := by
  have hrows : ((segments (textOf lines)).map statementOf).filter (fun s => !s.isEmpty) =
      (lines.map fun line => statementOf line.text).filter fun s => !s.isEmpty := by
    cases lines with
    | nil => rfl
    | cons line others =>
      have hsingle : ∀ row ∈ (line :: others).map Line.text, '\n' ∉ row :=
        List.forall_mem_map.mpr fun line _ => line.single
      rw [textOf, segments_joinRows (by simp) hsingle, List.map_map]
      rfl
  rw [numberedForms_eq_segments, map_fst_filterMap_classify, hrows]
  exact forall₂_reads_rows lines

end Texts

section Nesting

variable {clauses : List Clause} {forms : List LineForm}

lemma bracketOf_of_reads {clause : Clause} {form : LineForm} (h : Reads clause form) :
    bracketOf form = clause.bracket? := by
  cases clause with
  | statement content =>
    cases content with
    | definition names | separator =>
      obtain rfl := h
      rfl
    | assignment target value => obtain rfl | rfl := h <;> rfl
    | plain line =>
      obtain ⟨terminated, rfl⟩ := h
      rfl
  | opening block | closing block =>
    obtain rfl := h
    rfl

lemma brackets_of_reads (h : List.Forall₂ Reads clauses forms) :
    brackets forms = clauses.filterMap Clause.bracket? := by
  induction h with
  | nil => rfl
  | cons hreads _ ih =>
    rw [brackets] at ih ⊢
    rw [List.filterMap_cons, List.filterMap_cons, bracketOf_of_reads hreads, ih]

theorem wellNested_clauses (body : Body) :
    WellNested (body.clauses.filterMap Clause.bracket?) := by
  induction body with
  | done => exact .nil
  | line statement behind ih => exact ih
  | block around inside behind ihInside ihBehind =>
    have hblock : WellNested (.opening around.construct :: _) := .block ihInside ihBehind
    simpa [Body.clauses, Clause.bracket?] using hblock

end Nesting

section Acceptance

variable {program : Program} {clauses : List Clause} {forms : List LineForm}

lemma nest_ne_nil_above {above below : List Clause} {content : Statement}
    (hsplit : program.clauses = above ++ .statement content :: below) :
    nest [] (above.filterMap Clause.bracket?) ≠ some [] := by
  cases above with
  | nil => cases hsplit
  | cons first above =>
    obtain ⟨rfl, hrest⟩ := List.cons.inj hsplit
    rcases List.append_eq_append_iff.mp hrest with ⟨between, rfl, hlast⟩ | ⟨between, hinside, -⟩
    · -- the last clause is the closer of the block and not the statement
      cases between with
      | nil => cases hlast
      | cons => simp [Body.clauses] at hlast
    · have hnested := wellNested_clauses program.inside
      rw [hinside, List.filterMap_append] at hnested
      exact nest_ne_nil_of_inside hnested

lemma exists_innermost_above {above below : List Clause} {block : Block}
    (hsplit : program.clauses = above ++ .closing block :: below) :
    ∃ outer, nest [] (above.filterMap Clause.bracket?) = some (block.construct :: outer) := by
  have hnested := wellNested_clauses (.block program.root program.inside .done)
  rw [← Program.clauses, hsplit, List.filterMap_append] at hnested
  exact exists_innermost_of_wellNested (v := below.filterMap Clause.bracket?) hnested

lemma definition_mem_of_reads {names : List (List Char)} (h : List.Forall₂ Reads clauses forms)
    (hmem : .statement (.definition names) ∈ clauses) :
    .definition (some (names.map lowercase)) ∈ forms := by
  induction h with
  | nil => cases hmem
  | cons hreads _ ih =>
    rcases List.mem_cons.mp hmem with rfl | hmem
    · obtain rfl := hreads
      exact List.mem_cons_self
    · exact List.mem_cons_of_mem _ (ih hmem)

lemma exists_split_of_reads {before after : List LineForm} {form : LineForm}
    (h : List.Forall₂ Reads clauses (before ++ form :: after)) : ∃ above clause below,
      clauses = above ++ clause :: below ∧ List.Forall₂ Reads above before ∧ Reads clause form := by
  induction before generalizing clauses with
  | nil =>
    obtain ⟨clause, below, hclause, -, rfl⟩ := List.forall₂_cons_right_iff.mp h
    exact ⟨[], clause, below, rfl, .nil, hclause⟩
  | cons first before ih =>
    obtain ⟨top, rest, htop, hrest, rfl⟩ := List.forall₂_cons_right_iff.mp h
    obtain ⟨above, clause, below, rfl, habove, hclause⟩ := ih hrest
    exact ⟨top :: above, clause, below, rfl, .cons htop habove, hclause⟩

theorem allFine_of_reads (h : List.Forall₂ Reads program.clauses forms) : AllFine [] forms := by
  rw [allFine_iff_splits]
  rintro before form after rfl
  obtain ⟨above, clause, below, hsplit, habove, hclause⟩ := exists_split_of_reads h
  have hbrackets := brackets_of_reads habove
  rw [List.nil_append]
  cases clause with
  | statement content =>
    cases content with
    | definition names =>
      obtain rfl := hclause
      rfl
    | assignment target value =>
      obtain rfl | rfl := hclause
      · obtain ⟨names, hmem, htarget⟩ := program.defined above target value below hsplit
        exact ⟨_, definition_mem_of_reads habove hmem, htarget⟩
      · trivial
    | plain line =>
      obtain ⟨terminated, rfl⟩ := hclause
      exact fun houtside => absurd (hbrackets ▸ houtside) (nest_ne_nil_above hsplit)
    | separator =>
      obtain rfl := hclause
      trivial
  | opening block =>
    obtain rfl := hclause
    rfl
  | closing block =>
    obtain rfl := hclause
    obtain ⟨outer, houter⟩ := exists_innermost_above hsplit
    exact ⟨outer, hbrackets ▸ houter⟩

lemma check_ne_nil_of_odd {lines : List Line}
    (h : Odd (lines.filterMap Line.bracket?).length) :
    Pseint.check (textOf lines) ≠ [] := by
  intro hcheck
  have hnested := ((check_eq_nil_iff_allFine _).mp hcheck).2
  rw [brackets_of_reads (forall₂_reads lines), List.filterMap_filterMap] at hnested
  exact Nat.not_even_iff_odd.mpr h (even_length_of_wellNested hnested)

/-- The check finds nothing in a program, however it is written down, and finds something as soon as
the line of a header or a closer is left out. -/
theorem program_accepted_and_guarded (program : Program) (rendering : Rendering program) :
    Pseint.check (textOf rendering.lines) = [] ∧
      ∀ above line below, rendering.lines = above ++ line :: below →
        line.bracket?.isSome = true → Pseint.check (textOf (above ++ below)) ≠ [] := by
  have hnested := wellNested_clauses (.block program.root program.inside .done)
  have hreads := forall₂_reads rendering.lines
  rw [rendering.complete] at hreads
  constructor
  · rw [check_eq_nil_iff_allFine, brackets_of_reads hreads]
    exact ⟨allFine_of_reads hreads, hnested⟩
  · intro above line below hsplit hsome
    obtain ⟨bracket, hbracket⟩ := Option.isSome_iff_exists.mp hsome
    have heven := even_length_of_wellNested hnested
    rw [← Program.clauses, ← rendering.complete, List.filterMap_filterMap] at heven
    change Even (rendering.lines.filterMap Line.bracket?).length at heven
    rw [hsplit, List.filterMap_append, List.filterMap_cons_some hbracket, List.length_append,
      List.length_cons, ← Nat.add_assoc, Nat.even_add_one, Nat.not_even_iff_odd] at heven
    refine check_ne_nil_of_odd ?_
    rwa [List.filterMap_append, List.length_append]

end Acceptance

section ShortProgram

def shortTitle : Expression := ⟨"saludo".toList, by decide⟩

def shortTarget : Variable := ⟨⟨"N".toList, 'N', [], rfl, by decide, by simp⟩, by decide⟩

def shortValue : Expression := ⟨"3".toList, by decide⟩

def shortPlain : PlainLine where
  text := "Escribir n".toList
  phrase := by decide
  headless := headless_iff.mpr (by decide +kernel)
  unassigning := unassigning_iff.mpr (by decide +kernel)

def shortCondition : Expression := ⟨"n > 2".toList, by decide⟩

def shortGoal : Expression := ⟨"n = 3".toList, by decide⟩

def shortLoop : Body :=
  .block (.repetir shortGoal) (.line (.plain shortPlain) .done) .done

/-- A program that defines a variable, assigns to it, and under a condition writes it out in a
loop. -/
def shortProgram : Program where
  root := .proceso (some shortTitle)
  inside := .line (.definition ["n".toList]) (.line (.assignment shortTarget shortValue)
    (.block (.si shortCondition) shortLoop .done))
  defined := by
    intro above target value below h
    match above with
    | [_, _] =>
      cases h
      exact ⟨["n".toList], by simp, by decide +kernel⟩
    -- no other clause is an assignment
    | [] | [_] | [_, _, _] | [_, _, _, _] | [_, _, _, _, _] | [_, _, _, _, _, _]
    | [_, _, _, _, _, _, _] | [_, _, _, _, _, _, _, _] => cases h
    | _ :: _ :: _ :: _ :: _ :: _ :: _ :: _ :: _ :: _ => simp [Body.clauses, shortLoop] at h

/-- A line that says a clause, with what stands around it. -/
def lineSaying (clause : Clause) (before phrase after : List Char) (hbefore : blanks before)
    (h : spaced clause.words phrase) (hafter : trailing after)
    (hsingle : '\n' ∉ before ++ (phrase ++ after)) : Line :=
  ⟨some clause, _, hsingle, saying_append hbefore h hafter⟩

lemma short_header : spaced (Block.proceso (some shortTitle)).headerWords "PROCESO saludo".toList :=
  spaced_cons_cons.mpr ⟨"PROCESO".toList, " ".toList, "saludo".toList, by decide,
    (by decide : key "proceso" _), ⟨by decide, by decide⟩, rfl⟩

lemma short_definition : declaration ["n".toList] "Definir n Como Entero;".toList :=
  definedNames?_eq_some_iff.mp (by decide +kernel)

lemma short_assignment : assigned shortTarget.text shortValue "N <- 3".toList :=
  ⟨"N".toList, " <- 3".toList, by decide, rfl, " ".toList, "<- 3".toList, by decide, by decide,
    "<-".toList, " 3".toList, by decide, rfl, " ".toList, "3".toList, by decide, by decide,
    "3".toList, [], by decide, rfl, rfl⟩

lemma short_if : spaced (Block.si shortCondition).headerWords "Si n > 2 Entonces".toList := by
  refine spaced_cons_cons.mpr ⟨"Si".toList, " ".toList, "n > 2 Entonces".toList, by decide,
    (by decide : key "si" _), ⟨by decide, by decide⟩, ?_⟩
  exact spaced_cons_cons.mpr ⟨"n > 2".toList, " ".toList, "Entonces".toList, by decide, rfl,
    ⟨by decide, by decide⟩, (by decide : key "entonces" _)⟩

lemma short_until : spaced (Block.repetir shortGoal).closerWords "HASTA que n = 3".toList := by
  refine spaced_cons_cons.mpr ⟨"HASTA".toList, " ".toList, "que n = 3".toList, by decide,
    (by decide : small _ = small _), ⟨by decide, by decide⟩, ?_⟩
  exact spaced_cons_cons.mpr ⟨"que".toList, " ".toList, "n = 3".toList, by decide,
    (by decide : small _ = small _), ⟨by decide, by decide⟩, rfl⟩

lemma short_comment : comment "// tres".toList :=
  ⟨"//".toList, " tres".toList, by decide, rfl, " tres".toList, [], by decide, trivial, rfl⟩

lemma short_silent : silent "// tres".toList :=
  ⟨[], "// tres".toList, by decide, by decide, "// tres".toList, [], by decide, .inr short_comment,
    rfl⟩

lemma short_trailing : trailing " // tres".toList :=
  .inr ⟨" ".toList, "// tres".toList, by decide, ⟨by decide, by decide⟩, "// tres".toList, [],
    by decide, short_comment, rfl⟩

/-- The program with letters in either case, indented lines and comments. -/
def shortRendering : Rendering shortProgram where
  lines := [
    lineSaying (.opening (.proceso (some shortTitle))) [] "PROCESO saludo".toList []
      (by decide) short_header (.inl (by decide)) (by decide),
    ⟨none, "// tres".toList, by decide, short_silent⟩,
    lineSaying (.statement (.definition ["n".toList])) "\t".toList "Definir n Como Entero;".toList
      "\r".toList (by decide) ⟨by decide, short_definition⟩ (.inl (by decide)) (by decide),
    lineSaying (.statement (.assignment shortTarget shortValue)) "\t".toList "N <- 3".toList
      " // tres".toList (by decide) short_assignment short_trailing (by decide),
    lineSaying (.opening (.si shortCondition)) "\t".toList "Si n > 2 Entonces".toList []
      (by decide) short_if (.inl (by decide)) (by decide),
    lineSaying (.opening (.repetir shortGoal)) "\t ".toList "Repetir".toList []
      (by decide) (by decide : key "repetir" _) (.inl (by decide)) (by decide),
    lineSaying (.statement (.plain shortPlain)) "\t\t".toList shortPlain.text []
      (by decide) rfl (.inl (by decide)) (by decide),
    lineSaying (.closing (.repetir shortGoal)) "\t ".toList "HASTA que n = 3".toList
      " // tres".toList (by decide) short_until short_trailing (by decide),
    lineSaying (.closing (.si shortCondition)) "\t".toList "finsi".toList []
      (by decide) (by decide : small _ = small _) (.inl (by decide)) (by decide),
    lineSaying (.closing (.proceso (some shortTitle))) [] "finPROCESO".toList []
      (by decide) (by decide : small _ = small _) (.inl (by decide)) (by decide)]
  complete := rfl

/-- The text is accepted. Without its first line it is not, nor without its `Hasta Que`. -/
theorem shortProgram_accepted_and_guarded :
    Pseint.check (textOf shortRendering.lines) = [] ∧
      Pseint.check (textOf shortRendering.lines.tail) ≠ [] ∧
      Pseint.check (textOf (shortRendering.lines.eraseIdx 7)) ≠ [] := by
  obtain ⟨haccepted, hguarded⟩ := program_accepted_and_guarded shortProgram shortRendering
  exact ⟨haccepted, hguarded [] _ shortRendering.lines.tail rfl rfl,
    hguarded (shortRendering.lines.take 7) _ (shortRendering.lines.drop 8) rfl rfl⟩

end ShortProgram

end Autograder.Proofs
