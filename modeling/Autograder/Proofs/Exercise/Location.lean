import Autograder.Exercise.Location
import Autograder.Proofs.Text.Rows
import Autograder.Storage.FileTree

/-!
# Where paths of exercises lead

A joined path leads where the left path leads and on from there by the names of the right one,
whether or not the left one ends in a slash. Where no slash stands in the names of a unit and an
exercise, each is one step down, and the location that is reached tells both. With slashes many
names lead to the same location: one more slash at the end of a path to a directory makes no
difference.
-/

namespace Autograder.Proofs

open Autograder.Storage

section Walk

variable {tree : FileTree} {location next : Location} {name left right : String}

/-- The name leads one step down, if it leads anywhere. -/
structure LeadsDown (name : String) : Prop where
  ne_empty : name ≠ ""
  ne_dot : name ≠ "."
  ne_dots : name ≠ ".."

lemma eq_of_follow (hname : LeadsDown name) (h : tree.follow location name = .ok next) :
    next = location ++ [name] := by
  unfold FileTree.follow at h
  split at h
  · cases h
  · cases h
  · simp only [hname.ne_empty, hname.ne_dot, hname.ne_dots, beq_iff_eq, Bool.or_eq_true, or_self,
      if_false] at h
    split_ifs at h
    exact (Except.ok.inj h).symm

lemma follow_empty (h : tree.entry? location = some .directory) :
    tree.follow location "" = .ok location := by
  simp [FileTree.follow, h]

/-- An empty name asks for a directory, as does every name behind it. -/
lemma follow_empty_bind (tree : FileTree) (location : Location) (name : String) :
    (tree.follow location "" >>= fun next => tree.follow next name) =
      tree.follow location name := by
  cases hentry : tree.entry? location with
  | none => simp only [FileTree.follow, hentry]; rfl
  | some entry =>
    cases entry with
    | directory =>
      rw [follow_empty hentry]
      rfl
    | file => simp only [FileTree.follow, hentry]; rfl

lemma bind_eq_ok_iff {ε α β : Type} {x : Except ε α} {f : α → Except ε β} {b : β} :
    x >>= f = .ok b ↔ ∃ a, x = .ok a ∧ f a = .ok b := by
  cases x <;> simp [bind, Except.bind]

lemma walk_append (names more : List String) : tree.walk (names ++ more) =
    tree.walk names >>= fun location => more.foldlM tree.follow location :=
  List.foldlM_append

lemma walk_append_empty (names : List String) {more : List String} (hmore : more ≠ []) :
    (tree.walk (names ++ [""]) >>= fun location => more.foldlM tree.follow location) =
      tree.walk (names ++ more) := by
  obtain ⟨name, rest, rfl⟩ := List.exists_cons_of_ne_nil hmore
  simp only [walk_append, bind_assoc, List.foldlM_cons, List.foldlM_nil, bind_pure]
  simp only [← bind_assoc, follow_empty_bind]

lemma segments_ne_nil (path : String) : Path.segments path ≠ [] := by
  simp [Path.segments, splitAt_ne_nil]

lemma segments_eq_singleton_of_notMem_slash (h : '/' ∉ name.toList) :
    Path.segments name = [name] := by
  rw [Path.segments, splitAt_eq_singleton fun c hc => beq_eq_false_iff_ne.mpr
    (ne_of_mem_of_not_mem hc h), List.map_singleton, String.ofList_toList]

lemma segments_append_slash (path : String) (front : List Char) (right : String)
    (h : path.toList = front ++ '/' :: right.toList) :
    Path.segments path = Path.segments (String.ofList front) ++ Path.segments right := by
  rw [Path.segments, h, splitAt_append_cons rfl, List.map_append, Path.segments,
    String.toList_ofList, Path.segments]

theorem walk_segments_join (left : String) (hright : Path.isAbsolute right = false) :
    tree.walk (Path.segments (Path.join left right)) =
      tree.walk (Path.segments left) >>= fun location =>
        (Path.segments right).foldlM tree.follow location := by
  simp only [Path.join, hright, Bool.false_eq_true, if_false]
  split
  case h_1 hlast =>
    have hleft : left = "" := by simpa using hlast
    subst hleft
    rfl
  case h_2 hlast =>
    obtain ⟨front, hfront⟩ := List.getLast?_eq_some_iff.mp hlast
    have hjoined := segments_append_slash (left ++ right) front right (by simp [hfront])
    have hleft := segments_append_slash left front "" (by simp [hfront])
    have hempty : Path.segments "" = [""] := rfl
    simp only [hjoined, hleft, hempty, walk_append_empty _ (segments_ne_nil right)]
  case h_3 =>
    have hjoined := segments_append_slash (left ++ "/" ++ right) left.toList right (by simp)
    rw [hjoined, String.ofList_toList, walk_append]

lemma checkPath_append_slash {path : String} (h : FileTree.checkPath path = .ok ())
    (hlimit : (path ++ "/").utf8ByteSize ≤ FileTree.pathLimit) :
    FileTree.checkPath (path ++ "/") = .ok () := by
  unfold FileTree.checkPath at h
  split_ifs at h with hnul hempty
  have hnul' : ¬ (path ++ "/").toList.contains '\x00' = true := by simpa using hnul
  have hempty' : ¬ (path ++ "/").isEmpty = true := by simp
  rw [FileTree.checkPath, if_neg hnul', if_neg hempty', if_neg (not_lt.mpr hlimit)]

theorem locate_append_slash {path : String} (hlocate : tree.locate path = .ok location)
    (hdirectory : tree.entry? location = some .directory)
    (hlimit : (path ++ "/").utf8ByteSize ≤ FileTree.pathLimit) :
    tree.locate (path ++ "/") = .ok location := by
  obtain ⟨_, hcheck, hwalk⟩ := bind_eq_ok_iff.mp hlocate
  have hsegments := segments_append_slash (path ++ "/") path.toList "" (by simp)
  rw [String.ofList_toList] at hsegments
  refine bind_eq_ok_iff.mpr ⟨(), checkPath_append_slash hcheck hlimit, ?_⟩
  have hempty : Path.segments "" = [""] := rfl
  rw [hsegments, walk_append, hwalk, hempty]
  change tree.follow location "" >>= pure = _
  rw [follow_empty hdirectory]
  rfl

end Walk

section Directory

variable {tree other : FileTree} {location : Location} {root otherRoot : String}
  {id otherId : ExerciseId}

/-- Neither the unit nor the exercise has a slash in its name. -/
structure IsPlain (id : ExerciseId) : Prop where
  unit : '/' ∉ id.unit.toList
  name : '/' ∉ id.name.toList

lemma isAbsolute_unit (unit : String) : Path.isAbsolute ("unit_" ++ unit) = false := by
  simp [Path.isAbsolute]

lemma isAbsolute_exercise (name : String) : Path.isAbsolute ("exercise_" ++ name) = false := by
  simp [Path.isAbsolute]

lemma walk_directory : tree.walk (Path.segments (id.directory root)) =
    tree.walk (Path.segments root) >>= fun base =>
      (Path.segments ("unit_" ++ id.unit)).foldlM tree.follow base >>= fun location =>
        (Path.segments ("exercise_" ++ id.name)).foldlM tree.follow location := by
  rw [ExerciseId.directory, walk_segments_join _ (isAbsolute_exercise id.name),
    ExerciseId.unitDirectory, walk_segments_join _ (isAbsolute_unit id.unit), bind_assoc]

lemma leadsDown_append {first : String} (rest : String) (h : 2 < first.length) :
    LeadsDown (first ++ rest) := by
  have hlength : 2 < (first ++ rest).length := by simp; omega
  constructor
  all_goals
    intro heq
    rw [heq] at hlength
    revert hlength
    decide

lemma eq_append_of_locate (h : IsPlain id)
    (hlocate : tree.locate (id.directory root) = .ok location) :
    ∃ base, location = base ++ ["unit_" ++ id.unit, "exercise_" ++ id.name] := by
  have hunit : '/' ∉ ("unit_" ++ id.unit).toList := by simp [h.unit]
  have hname : '/' ∉ ("exercise_" ++ id.name).toList := by simp [h.name]
  obtain ⟨-, -, hwalk⟩ := bind_eq_ok_iff.mp hlocate
  simp only [walk_directory, segments_eq_singleton_of_notMem_slash hunit,
    segments_eq_singleton_of_notMem_slash hname, List.foldlM_cons, List.foldlM_nil,
    bind_pure] at hwalk
  obtain ⟨base, -, hdown⟩ := bind_eq_ok_iff.mp hwalk
  obtain ⟨unit, hfirst, hsecond⟩ := bind_eq_ok_iff.mp hdown
  obtain rfl := eq_of_follow (leadsDown_append id.unit (by decide)) hfirst
  obtain rfl := eq_of_follow (leadsDown_append id.name (by decide)) hsecond
  exact ⟨base, by simp⟩

/-- Plain exercises at one location are the same exercise, even of different trees. -/
theorem eq_of_locate_eq (h : IsPlain id) (h' : IsPlain otherId)
    (hlocate : tree.locate (id.directory root) = .ok location)
    (hlocate' : other.locate (otherId.directory otherRoot) = .ok location) : id = otherId := by
  obtain ⟨base, hbase⟩ := eq_append_of_locate h hlocate
  obtain ⟨base', hbase'⟩ := eq_append_of_locate h' hlocate'
  obtain ⟨-, hnames⟩ := List.append_inj' (hbase.symm.trans hbase') rfl
  obtain ⟨hunit, hname⟩ : id.unit = otherId.unit ∧ id.name = otherId.name := by
    simpa using hnames
  exact congrArg₂ ExerciseId.mk hunit hname

lemma directory_slash : ExerciseId.directory ⟨id.unit, id.name ++ "/"⟩ root =
    id.directory root ++ "/" := by
  simp only [ExerciseId.directory, Path.join, isAbsolute_exercise, Bool.false_eq_true, if_false]
  split <;> simp [String.append_assoc]

/-- Every stored exercise has another name, so names that are not plain do not follow from the
location. -/
theorem locate_directory_slash (hlocate : tree.locate (id.directory root) = .ok location)
    (hdirectory : tree.entry? location = some .directory)
    (hlimit : (id.directory root ++ "/").utf8ByteSize ≤ FileTree.pathLimit) :
    tree.locate (ExerciseId.directory ⟨id.unit, id.name ++ "/"⟩ root) = .ok location := by
  rw [directory_slash]
  exact locate_append_slash hlocate hdirectory hlimit

end Directory

end Autograder.Proofs
