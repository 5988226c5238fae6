import DocAnswers.Proofs.FileTree.TextNames
import DocAnswers.Proofs.Sources.SameFile

/-! Sources that are given as arguments again. Each of them is a file, whatever its name looks like as a
pattern, and so it stands for itself. Where names are text, the text that is shown of a source is the
source. -/
namespace DocAnswers

namespace Path
variable {files again contributed : List Path}

/-- Of paths that are all different, the same ones are found in any order. -/
theorem Ascending.find?_perm (ascending : Ascending files) (perm : again.Perm files)
    (cs : List Component) :
    again.find? (·.components == cs) = files.find? (·.components == cs) := by
  cases found : again.find? (·.components == cs) with
  | none =>
    refine (List.find?_eq_none.mpr fun p member => ?_).symm
    exact List.find?_eq_none.mp found p (perm.mem_iff.mpr member)
  | some p =>
    have is : p.components = cs := by simpa using List.find?_some found
    have member := perm.mem_iff.mp (List.mem_of_find?_eq_some found)
    rw [← is, ascending.find?_components member]

theorem Ascending.sortedUnion_perm (ascending : Ascending files) (perm : again.Perm files) :
    SortedUnion again files :=
  ⟨ascending, fun cs => (ascending.find?_perm perm cs).symm⟩

/-- What is listed already may be contributed once more before everything else. -/
theorem SortedUnion.prepend (union : SortedUnion contributed files) (perm : again.Perm files) :
    SortedUnion (again ++ contributed) files where
  ascending := union.ascending
  spelled cs := by
    rw [List.find?_append, union.ascending.find?_perm perm, ← union.spelled, Option.or_self]

end Path

namespace Sources
open DocAnswers.Path FileTree

variable {w : Workplace} {args args' : List String} {files : List Path}

/-- Texts that name files are not read as patterns. -/
theorem contributeAll_files {texts : List String}
    (areFiles : ∀ p ∈ texts.map ofText, w.isFile p = true) :
    ContributeAll w texts (texts.map ofText) := by
  induction texts with
  | nil => exact .none
  | cons text texts ih =>
    obtain ⟨first, later⟩ := List.forall_mem_cons.mp areFiles
    obtain ⟨content, around, names⟩ := Workplace.isFile_iff.mp first
    exact .next (.itself names) (ih later)

theorem ContributeAll.append (all : ContributeAll w args ps) (all' : ContributeAll w args' qs) :
    ContributeAll w (args ++ args') (ps ++ qs) := by
  induction all with
  | none => exact all'
  | next first rest ih =>
    rw [List.append_assoc]
    exact .next first ih

theorem isFile_of_mem_expand (proper : w.spot.Proper)
    (done : (expand w args).run.value = .ok files) (member : p ∈ files) : w.isFile p = true := by
  obtain ⟨arg, -, ps, contributes, listed⟩ := reached_of_mem proper done member
  exact Workplace.isFile_iff.mpr (contributes.find?_file proper listed)

theorem isText_of_mem_expand (proper : w.spot.Proper) (names : w.spot.Everywhere TextNames)
    (done : (expand w args).run.value = .ok files) (member : p ∈ files) : p.IsText := by
  obtain ⟨content, around, found⟩ :=
    Workplace.isFile_iff.mp (isFile_of_mem_expand proper done member)
  exact Workplace.isText_of_find? names found

/-- Where all names are text, sources lead to themselves, in whatever order they are given, and with the
arguments that have led to them behind them as well. -/
theorem expand_again (proper : w.spot.Proper) (names : w.spot.Everywhere TextNames)
    (done : (expand w args).run.value = .ok files) {texts : List String}
    (perm : texts.Perm (files.map (·.text))) :
    (expand w texts).run.value = .ok files ∧ (expand w (texts ++ args)).run.value = .ok files := by
  obtain ⟨contributed, all, union⟩ := (expand_ok_iff proper args files).mp done
  have same : files.map shown = files := by
    refine (List.map_congr_left fun p member => ?_).trans (List.map_id files)
    exact (shown_eq_iff p).mpr (isText_of_mem_expand proper names done member)
  have perm : (texts.map ofText).Perm files := by
    have paths := perm.map ofText
    rw [List.map_map] at paths
    exact same ▸ paths
  have own : ContributeAll w texts (texts.map ofText) := contributeAll_files fun p member =>
    isFile_of_mem_expand proper done (perm.mem_iff.mp member)
  constructor
  · exact (expand_ok_iff proper _ files).mpr ⟨_, own, union.ascending.sortedUnion_perm perm⟩
  · exact (expand_ok_iff proper _ files).mpr ⟨_, own.append all, union.prepend perm⟩

/-- The name of the second source of this project is no pattern, and that of the first is one for all
of them. -/
theorem expand_again_bracket :
    let w : Workplace :=
      .ofTree ⟨"/project"⟩ (ofListing [(⟨"[.c"⟩, []), (⟨"*.c"⟩, []), (⟨"lib/a.c"⟩, [])] [])
    let files : List Path := [⟨"./*.c"⟩, ⟨"./[.c"⟩, ⟨"lib/a.c"⟩]
    let texts := ["lib/a.c", "./[.c", "./*.c"]
    w.spot.Proper ∧ w.spot.Everywhere TextNames ∧ (expand w [".", "lib"]).run.value = .ok files ∧
      texts.Perm (files.map (·.text)) ∧ (∃ e, Glob.Query.read "./[.c".toList = .error e) ∧
      (expand w texts).run.value = .ok files ∧
      (expand w (texts ++ [".", "lib"])).run.value = .ok files := by
  intro w files texts
  have proper : w.spot.Proper := Workplace.ofTree_proper _ (proper_ofListing _ _)
  have file : TextNames (.file (some [])) := .file _
  have lib : TextNames (.folder true [("a.c", .file (some []))]) :=
    .folder (by decide) (List.forall_mem_singleton.mpr file)
  have tree : TextNames w.spot.tree := by
    refine .folder (by decide) (List.forall_mem_cons.mpr ⟨file, List.forall_mem_cons.mpr ?_⟩)
    exact ⟨file, List.forall_mem_singleton.mpr lib⟩
  have around : TextNames (.folder true [("project", w.spot.tree)]) :=
    .folder (by decide) (List.forall_mem_singleton.mpr tree)
  have names : w.spot.Everywhere TextNames := ⟨tree, List.forall_mem_singleton.mpr around⟩
  have here : Contributes w "." [⟨"./[.c"⟩, ⟨"./*.c"⟩] := by
    have children : Contributes w "." _ := .children rfl
    exact children
  have folder : Contributes w "lib" [⟨"lib/a.c"⟩] := by
    have children : Contributes w "lib" _ := .children rfl
    exact children
  have done : (expand w [".", "lib"]).run.value = .ok files :=
    (expand_ok_iff proper _ _).mpr ⟨_, .next here (.next folder .none), sortedUnion_insertAll _⟩
  have perm : texts.Perm (files.map (·.text)) := by decide
  have invalid : ∃ e, Glob.Query.read "./[.c".toList = .error e := ⟨⟨2, .openSet⟩, by cbv⟩
  obtain ⟨alone, before⟩ := expand_again proper names done perm
  exact ⟨proper, names, done, perm, invalid, alone, before⟩

end Sources
end DocAnswers
