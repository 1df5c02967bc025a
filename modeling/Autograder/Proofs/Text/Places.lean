import Autograder.Proofs.Text.Rows

/-!
# Where the words of a text stand

A word stands in a text where it can be continued on neither side. The words of a text are listed
from left to right, each place once; and when repetitions are dropped, the words that remain are in
the order of their first places.
-/

namespace Autograder.Proofs

open Autograder.Text

/-- The word is a whole one between what stands before and behind it. -/
structure IsWholeWord (before word after : List Char) : Prop where
  visible : word ≠ []
  letters : ∀ c ∈ word, isWord c = true
  start : ∀ c ∈ before.getLast?, isWord c = false
  stop : StartsOutside isWord after

/-- The word stands in the text, behind as many characters as the place says. -/
def StandsAt (s word : List Char) (place : Nat) : Prop :=
  ∃ before after, s = before ++ (word ++ after) ∧ before.length = place ∧
    IsWholeWord before word after

/-- The row that a place is in. -/
def rowAt (s : List Char) (place : Nat) : List Char :=
  lastRow (s.take place) ++ (s.drop place).takeWhile (· != '\n')

/-- The list has what stands somewhere, with its place, from left to right. -/
structure Lists (found : List (List Char × Nat)) (stands : List Char → Nat → Prop) : Prop where
  ordered : (found.map Prod.snd).Pairwise (· < ·)
  complete : ∀ word place, (word, place) ∈ found ↔ stands word place

section Cut

variable {c : Char} {s t before word after : List Char}

lemma append_cons_eq_iff (hword : c ∉ word) (hne : word ≠ []) :
    s ++ c :: t = before ++ (word ++ after) ↔
      (∃ rest, s = before ++ (word ++ rest) ∧ after = rest ++ c :: t) ∨
        ∃ rest, before = s ++ c :: rest ∧ t = rest ++ (word ++ after) := by
  constructor
  · intro h
    rcases List.append_eq_append_iff.mp h with ⟨between, rfl, hcut⟩ | ⟨between, rfl, hcut⟩
    · cases between with
      | nil =>
        obtain ⟨d, others, rfl⟩ := List.exists_cons_of_ne_nil hne
        obtain ⟨rfl, -⟩ := List.cons.inj hcut
        exact absurd List.mem_cons_self hword
      | cons d rest =>
        obtain ⟨rfl, rfl⟩ := List.cons.inj hcut
        exact .inr ⟨rest, rfl, rfl⟩
    · rcases List.append_eq_append_iff.mp hcut with ⟨rest, rfl, rfl⟩ | ⟨others, rfl, hend⟩
      · exact .inl ⟨rest, rfl, rfl⟩
      · cases others with
        | nil =>
          obtain rfl : c :: t = after := hend
          exact .inl ⟨[], by rw [List.append_nil, List.append_nil], rfl⟩
        | cons d rest =>
          obtain ⟨rfl, -⟩ := List.cons.inj hend
          exact absurd (List.mem_append_right _ List.mem_cons_self) hword
  · rintro (⟨rest, rfl, rfl⟩ | ⟨rest, rfl, rfl⟩) <;> simp

lemma isWholeWord_before (hc : isWord c = false) :
    IsWholeWord before word (after ++ c :: t) ↔ IsWholeWord before word after := by
  have hstop : StartsOutside isWord (after ++ c :: t) ↔ StartsOutside isWord after := by
    cases after with
    | nil => simp [startsOutside_cons, startsOutside_nil, hc]
    | cons d rest => rw [List.cons_append, startsOutside_cons, startsOutside_cons]
  exact ⟨fun h => ⟨h.visible, h.letters, h.start, hstop.mp h.stop⟩,
    fun h => ⟨h.visible, h.letters, h.start, hstop.mpr h.stop⟩⟩

lemma isWholeWord_behind (hc : isWord c = false) :
    IsWholeWord (s ++ c :: before) word after ↔ IsWholeWord before word after := by
  have hstart : (∀ d ∈ (s ++ c :: before).getLast?, isWord d = false) ↔
      ∀ d ∈ before.getLast?, isWord d = false := by
    rw [List.getLast?_append_of_ne_nil _ (List.cons_ne_nil _ _)]
    cases before with
    | nil => simp [hc]
    | cons d rest => rw [List.getLast?_cons_cons]
  exact ⟨fun h => ⟨h.visible, h.letters, hstart.mp h.start, h.stop⟩,
    fun h => ⟨h.visible, h.letters, hstart.mpr h.start, h.stop⟩⟩

lemma notMem_of_isWholeWord (hc : isWord c = false) (h : IsWholeWord before word after) :
    c ∉ word := by
  intro hmem
  rw [h.letters c hmem] at hc
  cases hc

/-- The words on either side of a separator do not see it. -/
theorem standsAt_append_cons (hc : isWord c = false) {place : Nat} :
    StandsAt (s ++ c :: t) word place ↔
      StandsAt s word place ∨ ∃ m, place = (s.length + 1) + m ∧ StandsAt t word m := by
  constructor
  · rintro ⟨before, after, h, rfl, hwhole⟩
    rcases (append_cons_eq_iff (notMem_of_isWholeWord hc hwhole) hwhole.visible).mp h with
      ⟨rest, rfl, rfl⟩ | ⟨rest, rfl, rfl⟩
    · exact .inl ⟨before, rest, rfl, rfl, (isWholeWord_before hc).mp hwhole⟩
    · exact .inr ⟨rest.length, by simp; omega, rest, after, rfl, rfl,
        (isWholeWord_behind hc).mp hwhole⟩
  · rintro (⟨before, after, rfl, rfl, hwhole⟩ | ⟨m, rfl, before, after, rfl, rfl, hwhole⟩)
    · exact ⟨before, after ++ c :: t, by simp, rfl, (isWholeWord_before hc).mpr hwhole⟩
    · exact ⟨s ++ c :: before, after, by simp, by simp; omega, (isWholeWord_behind hc).mpr hwhole⟩

lemma standsAt_run {place : Nat} (hs : ∀ c ∈ s, isWord c = true) :
    StandsAt s word place ↔ s ≠ [] ∧ word = s ∧ place = 0 := by
  constructor
  · rintro ⟨before, after, rfl, rfl, hwhole⟩
    obtain ⟨hbefore, hafter⟩ := List.forall_mem_append.mp hs
    have hfirst : before = [] := by
      by_contra hne
      have hlast := hwhole.start _ (List.getLast?_eq_some_getLast hne)
      rw [hbefore _ (List.getLast_mem hne)] at hlast
      cases hlast
    have hlast : after = [] := by
      by_contra hne
      have hhead := hwhole.stop _ (List.head?_eq_some_head hne)
      rw [hafter _ (List.mem_append_right _ (List.head_mem hne))] at hhead
      cases hhead
    subst hfirst hlast
    exact ⟨by simp [hwhole.visible], by simp, rfl⟩
  · rintro ⟨hne, rfl, rfl⟩
    exact ⟨[], [], by simp, rfl, hne, hs, by simp, startsOutside_nil⟩

end Cut

section Row

variable {row s t : List Char} {place : Nat}

lemma rowAt_row (h : '\n' ∉ row) (place : Nat) : rowAt row place = row := by
  have hdrop : ∀ c ∈ row.drop place, (c != '\n') = true :=
    fun c hc => bne_iff_ne.mpr (ne_of_mem_of_not_mem (List.mem_of_mem_drop hc) h)
  rw [rowAt, lastRow_row fun hmem => h (List.mem_of_mem_take hmem),
    List.takeWhile_eq_self_iff.mpr hdrop, List.take_append_drop]

lemma rowAt_before (h : place ≤ s.length) : rowAt (s ++ '\n' :: t) place = rowAt s place := by
  have hend (s : List Char) :
      (s ++ '\n' :: t).takeWhile (· != '\n') = s.takeWhile (· != '\n') := by
    rw [List.takeWhile_append]
    split_ifs with hall
    · rw [List.takeWhile_cons_of_neg (by simp), List.append_nil,
        (List.takeWhile_prefix _).eq_of_length hall]
    · rfl
  rw [rowAt, rowAt, List.take_append_of_le_length h, List.drop_append_of_le_length h, hend]

lemma rowAt_behind (s t : List Char) (m : Nat) :
    rowAt (s ++ '\n' :: t) (s.length + 1 + m) = rowAt t m := by
  have hcut : s ++ '\n' :: t = (s ++ ['\n']) ++ t := by simp
  have hlength : s.length + 1 + m = (s ++ ['\n']).length + m := by simp
  rw [rowAt, rowAt, hcut, hlength, List.take_length_add_append, List.drop_length_add_append,
    List.append_assoc, List.singleton_append, lastRow_append_newline]

end Row

section Lists

variable {s : List Char} {found others : List (List Char × Nat)}
  {stands beside : List Char → Nat → Prop}

lemma lists_append {n : Nat} (h : Lists found stands) (hothers : Lists others beside)
    (hbound : ∀ word place, stands word place → place < n) :
    Lists (found ++ others.map fun p => (p.1, n + p.2)) fun word place =>
      stands word place ∨ ∃ m, place = n + m ∧ beside word m where
  ordered := by
    rw [List.map_append, List.map_map, List.pairwise_append]
    refine ⟨h.ordered, ?_, ?_⟩
    · have hshift := hothers.ordered.map (n + ·) fun _ _ hlt => Nat.add_lt_add_left hlt n
      rwa [List.map_map] at hshift
    · intro place hplace other hother
      obtain ⟨p, hp, rfl⟩ := List.mem_map.mp hplace
      obtain ⟨q, -, rfl⟩ := List.mem_map.mp hother
      have := hbound p.1 p.2 ((h.complete p.1 p.2).mp hp)
      simp only [Function.comp_apply]
      omega
  complete word place := by
    rw [List.mem_append, h.complete, List.mem_map]
    refine or_congr_right ⟨?_, ?_⟩
    · rintro ⟨⟨other, m⟩, hmem, heq⟩
      obtain ⟨rfl, rfl⟩ := Prod.mk.inj heq
      exact ⟨m, rfl, (hothers.complete _ m).mp hmem⟩
    · rintro ⟨m, rfl, hm⟩
      exact ⟨(word, m), (hothers.complete word m).mpr hm, rfl⟩

lemma lists_filter (h : Lists found stands) (p : List Char → Bool) :
    Lists (found.filter fun q => p q.1) fun word place => stands word place ∧ p word = true where
  ordered := h.ordered.sublist (List.filter_sublist.map _)
  complete word place := by rw [List.mem_filter, h.complete]

lemma lt_length_of_standsAt {word : List Char} {place : Nat} (h : StandsAt s word place) :
    place < s.length := by
  obtain ⟨before, after, rfl, rfl, hwhole⟩ := h
  have := List.length_pos_iff.mpr hwhole.visible
  simp only [List.length_append]
  omega

lemma words_run (hs : ∀ c ∈ s, isWord c = true) : words s = if s = [] then [] else [s] := by
  rw [words, splitAt_eq_singleton fun c hc => by simp [hs c hc], List.filter_singleton]
  cases s <;> rfl

theorem exists_lists_words (s : List Char) :
    ∃ found, found.map Prod.fst = words s ∧ Lists found (StandsAt s) := by
  have hrun {run : List Char} (h : ∀ c ∈ run, (!isWord c) = false) : ∀ c ∈ run, isWord c = true :=
    fun c hc => by simpa using h c hc
  have hbase {run : List Char} (h : ∀ c ∈ run, isWord c = true) :
      ∃ found, found.map Prod.fst = words run ∧ Lists found (StandsAt run) := by
    rw [words_run h]
    split_ifs with hnil
    · refine ⟨[], rfl, .nil, fun word place => ?_⟩
      rw [standsAt_run h]
      simp [hnil]
    · refine ⟨[(run, 0)], rfl, List.pairwise_singleton _ _, fun word place => ?_⟩
      rw [standsAt_run h]
      simp [hnil]
  induction s using pieceInduction (!isWord ·) with
  | last run h => exact hbase (hrun h)
  | more run c rest h hc ih =>
    have hc : isWord c = false := by simpa using hc
    obtain ⟨found, hfound, hlists⟩ := hbase (hrun h)
    obtain ⟨others, hothers, hrest⟩ := ih
    refine ⟨found ++ others.map fun p => (p.1, run.length + 1 + p.2), ?_, ?_⟩
    · rw [words_append_cons hc, List.map_append, hfound, List.map_map, ← hothers]
      rfl
    · have happend := lists_append hlists hrest (n := run.length + 1) fun word place hstands =>
        Nat.lt_succ_of_lt (lt_length_of_standsAt hstands)
      simpa only [← standsAt_append_cons hc] using happend

/-- Without repetitions words are in the order of their first places. -/
lemma pairwise_eraseDups (found : List (List Char × Nat))
    (h : (found.map Prod.snd).Pairwise (· < ·)) :
    (found.map Prod.fst).eraseDups.Pairwise fun word other =>
      ∃ place, (word, place) ∈ found ∧ ∀ m, (other, m) ∈ found → place < m := by
  induction hlength : found.length using Nat.strong_induction_on generalizing found with
  | h n ih =>
    cases found with
    | nil => exact .nil
    | cons first rest =>
      obtain ⟨word, place⟩ := first
      obtain ⟨hfirst, hrest⟩ := List.pairwise_cons.mp h
      have hothers : (rest.map Prod.fst).filter (fun other => !other == word) =
          (rest.filter fun p => !p.1 == word).map Prod.fst := List.filter_map
      have hmem {other : List Char} {m : Nat} (hne : other ≠ word)
          (hm : (other, m) ∈ (word, place) :: rest) : (other, m) ∈ rest := by
        refine (List.mem_cons.mp hm).resolve_left fun heq => ?_
        exact hne (Prod.mk.inj heq).1
      rw [List.map_cons, List.eraseDups_cons, hothers, List.pairwise_cons]
      have hne {other : List Char}
          (h : other ∈ ((rest.filter fun p => !p.1 == word).map Prod.fst).eraseDups) :
          other ≠ word := by
        obtain ⟨p, hp, rfl⟩ := List.mem_map.mp (List.mem_eraseDups.mp h)
        simpa using (List.mem_filter.mp hp).2
      constructor
      · intro other hother
        refine ⟨place, List.mem_cons_self, fun m hm => ?_⟩
        exact hfirst m (List.mem_map_of_mem (hmem (hne hother) hm))
      · -- the words that are left stand at the same places as before
        have hlt : (rest.filter fun p => !p.1 == word).length < n := by
          have := List.length_filter_le (fun p => !p.1 == word) rest
          simp only [List.length_cons] at hlength
          omega
        have htail := ih _ hlt _ (hrest.sublist (List.filter_sublist.map _)) rfl
        refine htail.imp_of_mem fun hword hother => ?_
        rintro ⟨m, hm, hlater⟩
        refine ⟨m, List.mem_cons_of_mem _ (List.mem_of_mem_filter hm), fun k hk => hlater k ?_⟩
        exact List.mem_filter.mpr ⟨hmem (hne hother) hk, by simpa using hne hother⟩

end Lists

end Autograder.Proofs
