import DocAnswers.Proofs.Sources.Union
import Mathlib.Data.List.Nodup

/-! Sources that are the same file. A path is listed once however it is spelled, but a file that is
reached along two paths is listed along both, so that it depends on how the arguments are written
whether a file is listed twice. -/
namespace DocAnswers

namespace Path

theorem SortedUnion.subset (union : SortedUnion contributed files) : files ⊆ contributed := by
  intro p member
  have found := union.ascending.find?_components member
  rw [union.spelled] at found
  exact List.mem_of_find?_eq_some found

theorem Ascending.ways_nodup {files : List Path} (ascending : Ascending files) {here : List (List UInt8)}
    (alike : ∀ p ∈ files, ∀ q ∈ files, p.way here = q.way here → p.components = q.components) :
    (files.map (·.way here)).Nodup := by
  refine List.pairwise_map.mpr (ascending.imp_of_mem fun {p q} listed listed' less same => ?_)
  rw [(compare_eq_eq_iff p q).mpr (alike p listed q listed' same)] at less
  contradiction

end Path

namespace Sources
open DocAnswers.Path FileTree

variable {w : Workplace} {arg : String} {args : List String}

/-- Some argument contributes the path. -/
def Reached (w : Workplace) (args : List String) (p : Path) : Prop :=
  ∃ arg ∈ args, ∃ ps, Contributes w arg ps ∧ p ∈ ps

theorem Contributes.find?_file (contributes : Contributes w arg ps) (proper : w.spot.Proper)
    (member : p ∈ ps) : ∃ content around, w.find? p = some ⟨.file content, around⟩ := by
  cases contributes with
  | itself names =>
    obtain rfl := List.mem_singleton.mp member
    exact ⟨_, _, names⟩
  | children names =>
    obtain ⟨e, kept, rfl⟩ := List.mem_map.mp member
    obtain ⟨listed, source⟩ := List.mem_filter.mp kept
    apply Workplace.isFile_iff.mp
    rw [isFile_join proper names listed]
    exact (Bool.and_eq_true_iff.mp source).1
  | found free reads => exact Workplace.isFile_iff.mp (List.mem_filter.mp member).2

theorem Contributes.byNames (contributes : Contributes w arg ps) (proper : w.spot.Proper)
    (plain : Plain arg.toList) (member : p ∈ ps) : p.ByNames (arg.toList.head? == some '/') := by
  cases contributes with
  | itself names =>
    obtain rfl := List.mem_singleton.mp member
    exact Plain.byNames plain
  | children names =>
    obtain ⟨e, kept, rfl⟩ := List.mem_map.mp member
    cases (Workplace.find?_proper proper names).tree with
    | folder _ named _ =>
      exact (Plain.byNames plain).join (named e (List.mem_filter.mp kept).1)
  | found free reads =>
    obtain ⟨found, isFile⟩ := List.mem_filter.mp member
    exact Glob.Query.byNames_of_run proper plain reads found isFile

theorem Contributes.part_of_folder (contributes : Contributes w arg ps) (proper : w.spot.Proper)
    (isFolder : w.isFolder ⟨arg⟩ = true) (member : p ∈ ps) (member' : q ∈ ps) : p.PartByNames q := by
  cases contributes with
  | itself names => simp [Workplace.isFolder, names, FileTree.isFolder] at isFolder
  | children names =>
    cases (Workplace.find?_proper proper names).tree with
    | folder _ named _ =>
      obtain ⟨e, kept, rfl⟩ := List.mem_map.mp member
      obtain ⟨e', kept', rfl⟩ := List.mem_map.mp member'
      exact ⟨_, [e.1], [e'.1], components_join _ (named e (List.mem_filter.mp kept).1),
        components_join _ (named e' (List.mem_filter.mp kept').1)⟩
  | found free reads => simp [Workplace.isFolder, free] at isFolder

/-- No two arguments contribute a file along paths with other components. -/
def SpelledAlike (w : Workplace) (here : List (List UInt8)) (args : List String) : Prop :=
  ∀ p q, Reached w args p → Reached w args q → p.way here = q.way here → p.components = q.components

theorem spelledAlike_of_plain (proper : w.spot.Proper) (here : List (List UInt8)) {absolute : Bool}
    (plain : ∀ arg ∈ args, Plain arg.toList ∧ (arg.toList.head? == some '/') = absolute) :
    SpelledAlike w here args := by
  have byNames {p : Path} (reached : Reached w args p) : p.ByNames absolute := by
    obtain ⟨arg, given, ps, contributes, listed⟩ := reached
    obtain ⟨plain, rooted⟩ := plain arg given
    exact rooted ▸ contributes.byNames proper plain listed
  intro p q reached reached' same
  exact ((byNames reached).partByNames (byNames reached')).components_eq same

theorem spelledAlike_of_folder (proper : w.spot.Proper) (here : List (List UInt8))
    (isFolder : w.isFolder ⟨arg⟩ = true) : SpelledAlike w here [arg] := by
  rintro p q ⟨arg', given, ps, contributes, listed⟩ ⟨arg'', given', qs, contributes', listed'⟩ same
  obtain rfl := List.mem_singleton.mp given
  obtain rfl := List.mem_singleton.mp given'
  obtain rfl := contributes.unique contributes'
  exact (contributes.part_of_folder proper isFolder listed listed').components_eq same

section Listed
variable {files : List Path} (proper : w.spot.Proper)
  (done : (expand w args).run.value = .ok files)
include proper done

theorem reached_of_mem (member : p ∈ files) : Reached w args p := by
  obtain ⟨contributed, all, union⟩ := (expand_ok_iff proper args files).mp done
  exact (all.mem_iff p).mp (union.subset member)

theorem exists_mem_of_reached (reached : Reached w args p) :
    ∃ q ∈ files, q.components = p.components := by
  obtain ⟨arg, given, ps, contributes, listed⟩ := reached
  exact (mem_expand_iff proper done p).mpr ⟨arg, given, ps, contributes, p, listed, rfl⟩

theorem ways_nodup_iff (here : List (List UInt8)) :
    (files.map (·.way here)).Nodup ↔ SpelledAlike w here args := by
  constructor
  · intro apart p q reached reached' same
    obtain ⟨p', member, is⟩ := exists_mem_of_reached proper done reached
    obtain ⟨q', member', is'⟩ := exists_mem_of_reached proper done reached'
    have same' : p'.way here = q'.way here := by
      rw [way_of_components is, way_of_components is', same]
    rw [← is, ← is', List.inj_on_of_nodup_map apart member member' same']
  · intro alike
    apply (expand_ascending done).ways_nodup
    intro p member q member'
    exact alike p q (reached_of_mem proper done member) (reached_of_mem proper done member')

/-- Every source is a file. No file is listed twice exactly if no two arguments contribute it along
paths with other components. That is so if the arguments are plain, and all of them absolute or none,
and if a folder is the only argument. -/
theorem expand_lists_each_file_once_iff {here : List (List UInt8)}
    (stands : Leads w.spot.top here w.spot) :
    (∀ p ∈ files, ∃ content around, Leads w.spot.top (p.way here) ⟨.file content, around⟩) ∧
    ((files.map (·.way here)).Nodup ↔ SpelledAlike w here args) ∧
    (∀ absolute, (∀ arg ∈ args, Plain arg.toList ∧ (arg.toList.head? == some '/') = absolute) →
      (files.map (·.way here)).Nodup) ∧
    ∀ arg, args = [arg] → w.isFolder ⟨arg⟩ = true → (files.map (·.way here)).Nodup := by
  have apart_iff := ways_nodup_iff proper done here
  refine ⟨?_, apart_iff, ?_, ?_⟩
  · intro p member
    obtain ⟨arg, _, ps, contributes, listed⟩ := reached_of_mem proper done member
    obtain ⟨content, around, found⟩ := contributes.find?_file proper listed
    exact ⟨content, around, Workplace.find?_leads stands found⟩
  · intro absolute plain
    exact apart_iff.mpr (spelledAlike_of_plain proper here plain)
  · rintro arg rfl isFolder
    exact apart_iff.mpr (spelledAlike_of_folder proper here isFolder)

end Listed

theorem nestedProject_stands :
    Leads nestedProject.spot.top ["project"] nestedProject.spot := by
  have names : (namesTo ⟨"/project"⟩).reverse = (["project"] : List (List UInt8)) := by decide
  exact names ▸ Workplace.ofTree_leads ⟨"/project"⟩ _

/-- The first two of these arguments reach the same file, and it is listed once. -/
theorem expand_lists_each_file_once_nested :
    let files : List Path := [⟨"b.c"⟩, ⟨"lib//a.c"⟩]
    nestedProject.spot.Proper ∧
      Leads nestedProject.spot.top ["project"] nestedProject.spot ∧
      (expand nestedProject ["lib//a.c", "lib", "*"]).run.value = .ok files ∧
      (files.map (·.way ["project"])).Nodup := by
  obtain ⟨-, -, plain, -⟩ := expand_lists_each_file_once_iff nestedProject_proper
    expand_nestedProject nestedProject_stands
  exact ⟨nestedProject_proper, nestedProject_stands, expand_nestedProject,
    plain false (by decide)⟩

/-- A file that is reached through its folder `.` and by its own name is listed twice. -/
theorem expand_lists_file_twice :
    nestedProject.spot.Proper ∧
      Leads nestedProject.spot.top ["project"] nestedProject.spot ∧
      (expand nestedProject [".", "b.c"]).run.value = .ok [⟨"./b.c"⟩, ⟨"b.c"⟩] ∧
      (Path.mk "./b.c").way ["project"] = (["b.c", "project"] : List (List UInt8)) ∧
      (Path.mk "b.c").way ["project"] = (["b.c", "project"] : List (List UInt8)) ∧
      ∃ around, Leads nestedProject.spot.top ["b.c", "project"] ⟨.file (some []), around⟩ := by
  have folder : Contributes nestedProject "." [⟨"./b.c"⟩] := by
    have children : Contributes nestedProject "." _ := .children rfl
    exact children
  have file : Contributes nestedProject "b.c" [⟨"b.c"⟩] := .itself rfl
  have all := ContributeAll.next folder (.next file .none)
  have value := (expand_ok_iff nestedProject_proper [".", "b.c"] _).mpr
    ⟨_, all, sortedUnion_insertAll _⟩
  obtain ⟨around, found⟩ : ∃ around,
      nestedProject.find? ⟨"b.c"⟩ = some ⟨.file (some []), around⟩ := ⟨_, rfl⟩
  have leads := Workplace.find?_leads nestedProject_stands found
  have way : (Path.mk "b.c").way ["project"] = (["b.c", "project"] : List (List UInt8)) := by decide
  rw [way] at leads
  exact ⟨nestedProject_proper, nestedProject_stands, value, by decide, way, around, leads⟩

end Sources
end DocAnswers
