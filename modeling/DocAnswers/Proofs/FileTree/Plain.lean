import DocAnswers.FileTree.Glob
import DocAnswers.Proofs.FileTree.Way
import DocAnswers.Proofs.Text.Ascii

/-! Paths and patterns in which no segment starts with a dot. Such a path goes down by names only, and
so do the paths that such a pattern finds. -/
namespace DocAnswers

namespace Path
open FileTree.Glob (pieces)

/-- No segment starts with a dot, as do `.`, `..` and the patterns that may stand for them. -/
def Plain (cs : List Char) : Prop := ∀ piece ∈ pieces cs, piece.head? ≠ some '.'

instance (cs : List Char) : Decidable (Plain cs) :=
  inferInstanceAs (Decidable (∀ piece ∈ pieces cs, piece.head? ≠ some '.'))

/-- A path by names only, from the outermost folder or from the one that it is read in. -/
def ByNames (absolute : Bool) (p : Path) : Prop :=
  ∃ names : List (List UInt8), p.components = (if absolute then [.root] else []) ++ names.map .name

namespace ByNames
variable {absolute : Bool} {p q : Path}

theorem of_components (byNames : p.ByNames absolute) (same : q.components = p.components) :
    q.ByNames absolute := by
  obtain ⟨names, is⟩ := byNames
  exact ⟨names, same.trans is⟩

theorem not_here (byNames : p.ByNames absolute) : (p.components == [.here]) = false := by
  obtain ⟨names, is⟩ := byNames
  rw [is]
  cases absolute <;> cases names <;> simp

theorem join (byNames : p.ByNames absolute) (isName : IsName name) :
    (p.join name).ByNames absolute := by
  obtain ⟨names, is⟩ := byNames
  refine ⟨names ++ [name], ?_⟩
  rw [components_join p isName, is, List.map_append, List.append_assoc]
  rfl

theorem partByNames (byNames : p.ByNames absolute) (byNames' : q.ByNames absolute) :
    p.PartByNames q := by
  obtain ⟨names, is⟩ := byNames
  obtain ⟨names', is'⟩ := byNames'
  exact ⟨_, names, names', is, is'⟩

end ByNames

theorem byNames_name (isName : IsName name) : (Path.mk name).ByNames false :=
  ⟨[name], components_append_name (.inl rfl) isName⟩

theorem components_join_empty (p : Path) : (p.join []).components = p.components := by
  rw [join]
  split
  · rename_i none
    exact (components_of_bytes (List.isEmpty_iff.mp none)).symm
  · rename_i some
    split
    · rw [List.append_nil]
    · exact components_append_slash (by simpa using some)

theorem ofSegment?_plain {segment : List UInt8} (plain : segment.head? ≠ some dot) :
    Component.ofSegment? segment = if segment.isEmpty then none else some (.name segment) := by
  cases segment with
  | nil => rfl
  | cons c cs =>
    have other : c ≠ dot := by simpa using plain
    simp [Component.ofSegment?, other]

theorem filterMap_plain {segs : List (List UInt8)}
    (plain : ∀ segment ∈ segs, segment.head? ≠ some dot) :
    ∃ names : List (List UInt8), segs.filterMap Component.ofSegment? = names.map .name := by
  induction segs with
  | nil => exact ⟨[], rfl⟩
  | cons segment segs ih =>
    obtain ⟨first, later⟩ := List.forall_mem_cons.mp plain
    obtain ⟨names, rest⟩ := ih later
    rw [List.filterMap_cons, ofSegment?_plain first]
    cases segment with
    | nil => exact ⟨names, rest⟩
    | cons c cs => exact ⟨(c :: cs) :: names, congrArg (_ :: ·) rest⟩

theorem byNames_of_plain {p : Path}
    (plain : ∀ segment ∈ segments p.bytes, segment.head? ≠ some dot) :
    p.ByNames (p.bytes.head? == some slash) := by
  cases spelled : p.bytes with
  | nil =>
    refine ⟨[], ?_⟩
    rw [components, spelled]
    rfl
  | cons c cs =>
    rw [spelled] at plain
    by_cases first : c = slash
    · subst first
      have inner : ∀ segment ∈ segments cs, segment.head? ≠ some dot := fun segment member =>
        plain segment (List.mem_cons_of_mem [] member)
      obtain ⟨names, is⟩ := filterMap_plain inner
      refine ⟨names, ?_⟩
      rw [components_absolute spelled, is]
      rfl
    · obtain ⟨names, is⟩ := filterMap_plain plain
      have goes : (segments (c :: cs)).head? ≠ some [dot] := fun here =>
        plain [dot] (List.mem_of_head? here) rfl
      have relative : ((c :: cs).head? == some slash) = false := by simpa using first
      rw [relative]
      exact ⟨names, (components_relative spelled first goes).trans is⟩

theorem Plain.byNames {arg : String} (plain : Plain arg.toList) :
    (Path.mk arg).ByNames (arg.toList.head? == some '/') := by
  have split : segments (Path.mk arg).bytes = (pieces arg.toList).map Text.Utf8.encode :=
    Text.Utf8.cut_encode (by decide) arg.toList
  have first : ((Path.mk arg).bytes.head? == some slash) = (arg.toList.head? == some '/') := by
    rw [Bool.eq_iff_iff, beq_iff_eq, beq_iff_eq]
    exact Text.Utf8.head?_encode (by decide) arg.toList
  rw [← first]
  apply byNames_of_plain
  intro segment member
  rw [split] at member
  obtain ⟨piece, listed, rfl⟩ := List.mem_map.mp member
  exact mt (Text.Utf8.head?_encode (by decide) piece).mp (plain piece listed)

end Path
end DocAnswers
