import DocAnswers.FileTree.Listing
import DocAnswers.Proofs.FileTree.Way

/-! Trees that are built from a listing are proper, and so are the folders around them. A workplace
that holds such a tree stands at the end of the way that its own path spells. -/
namespace DocAnswers

namespace Path

theorem isName_of_mem_components {p : Path} (member : .name n ∈ p.components) : IsName n := by
  have ofSegment {segment : List UInt8} (single : slash ∉ segment)
      (kept : Component.ofSegment? segment = some (.name n)) : IsName n := by
    rw [Component.ofSegment?] at kept
    split at kept
    · contradiction
    · rename_i counts
      split at kept
      · simp at kept
      · rename_i down
        obtain rfl := Component.name.inj (Option.some.inj kept)
        simp only [Bool.or_eq_true, List.isEmpty_iff, beq_iff_eq, not_or] at counts down
        exact ⟨counts.1, single, counts.2, down⟩
  rw [components] at member
  cases split : segments p.bytes with
  | nil => exact absurd split (segments_ne_nil _)
  | cons first rest =>
    have single : ∀ segment ∈ first :: rest, slash ∉ segment := fun segment listed =>
      not_mem_of_mem_segments (split ▸ listed)
    rw [split, componentList] at member
    rcases List.mem_append.mp member with start | inner
    · split at start
      · split at start <;> simp at start
      · split at start
        · simp at start
        · exact ofSegment (single first List.mem_cons_self) (Option.mem_toList.mp start)
    · obtain ⟨segment, listed, kept⟩ := List.mem_filterMap.mp inner
      exact ofSegment (single segment (.tail _ listed)) kept

end Path

namespace FileTree
open DocAnswers.Path

theorem isName_of_mem_namesTo {p : Path} (member : n ∈ namesTo p) : IsName n := by
  obtain ⟨c, listed, kept⟩ := List.mem_filterMap.mp member
  split at kept
  · obtain rfl := Option.some.inj kept
    exact isName_of_mem_components listed
  · contradiction

variable {tree : FileTree} {name : List UInt8} {entries : List (List UInt8 × FileTree)}

theorem mem_setEntry (member : e ∈ setEntry name tree entries) : e = (name, tree) ∨ e ∈ entries := by
  induction entries with
  | nil => exact .inl (List.mem_singleton.mp member)
  | cons entry rest ih =>
    obtain ⟨other, t⟩ := entry
    rw [setEntry] at member
    split at member
    · exact (List.mem_cons.mp member).imp id (.tail _)
    · rcases List.mem_cons.mp member with rfl | later
      · exact .inr List.mem_cons_self
      · exact (ih later).imp id (.tail _)

theorem setEntry_distinct (distinct : (entries.map (·.1)).Nodup) :
    ((setEntry name tree entries).map (·.1)).Nodup := by
  induction entries with
  | nil => simp [setEntry]
  | cons entry rest ih =>
    obtain ⟨other, t⟩ := entry
    obtain ⟨fresh, distinct⟩ := List.nodup_cons.mp distinct
    rw [setEntry]
    split
    · rename_i same
      subst same
      exact List.nodup_cons.mpr ⟨fresh, distinct⟩
    · rename_i differs
      refine List.nodup_cons.mpr ⟨fun twice => ?_, ih distinct⟩
      obtain ⟨e, listed, is⟩ := List.mem_map.mp twice
      rcases mem_setEntry listed with rfl | old
      · exact differs is.symm
      · exact fresh (List.mem_map.mpr ⟨e, old, is⟩)

theorem Proper.setEntry (proper : Proper (FileTree.folder listable entries))
    (isName : IsName name) (inside : tree.Proper) :
    Proper (FileTree.folder listable (FileTree.setEntry name tree entries)) := by
  cases proper with
  | folder distinct named below =>
    refine .folder (setEntry_distinct distinct) (fun e member => ?_) (fun e member => ?_)
    · rcases mem_setEntry member with rfl | old
      · exact isName
      · exact named e old
    · rcases mem_setEntry member with rfl | old
      · exact inside
      · exact below e old

theorem proper_empty : empty.Proper := .folder List.nodup_nil (by simp) (by simp)

theorem Proper.put {new old : FileTree} {names : List (List UInt8)} (proper : new.Proper)
    (proper_old : old.Proper) (named : ∀ n ∈ names, IsName n) :
    (put new names old).Proper := by
  induction names generalizing old with
  | nil =>
    rw [FileTree.put]
    split
    · exact proper_old
    · exact proper
  | cons name names ih =>
    obtain ⟨isName, named⟩ := List.forall_mem_cons.mp named
    cases old with
    | file content => exact proper_old
    | folder listable entries =>
      refine proper_old.setEntry isName (ih ?_ named)
      cases found : entries.lookup name with
      | none => exact proper_empty
      | some entry =>
        cases proper_old with
        | folder distinct _ below => exact below _ ((lookup_eq_some_iff distinct).mp found)

theorem proper_ofListing (files : List (Path × List UInt8)) (folders : List Path) :
    (ofListing files folders).Proper := by
  have with_files : (files.foldl putFile empty).Proper :=
    List.foldlRecOn files putFile proper_empty fun _ proper f _ =>
      (Proper.file (some f.2)).put proper fun _ => isName_of_mem_namesTo
  exact List.foldlRecOn folders putFolder with_files fun _ proper _ _ =>
    proper_empty.put proper fun _ => isName_of_mem_namesTo

theorem proper_enclosing {names : List (List UInt8)} (proper : tree.Proper)
    (named : ∀ n ∈ names, IsName n) : ∀ t ∈ enclosing tree names, t.Proper := by
  induction names generalizing tree with
  | nil => simp [enclosing]
  | cons name outer ih =>
    obtain ⟨isName, named⟩ := List.forall_mem_cons.mp named
    have around : Proper (folder true [(name, tree)]) :=
      .folder (by simp) (by simpa using isName) (by simpa using proper)
    exact List.forall_mem_cons.mpr ⟨around, ih around named⟩

/-- The names of the enclosing folders are the way from the outermost of them. -/
theorem leads_enclosing (tree : FileTree) (names : List (List UInt8)) :
    Leads (Spot.mk tree (enclosing tree names)).top names ⟨tree, enclosing tree names⟩ := by
  induction names generalizing tree with
  | nil => exact .start
  | cons name outer ih =>
    have top : (Spot.mk tree (enclosing tree (name :: outer))).top =
        (Spot.mk (folder true [(name, tree)]) (enclosing (folder true [(name, tree)]) outer)).top := by
      rw [Spot.top, Spot.top, enclosing]
      cases enclosing (folder true [(name, tree)]) outer <;> simp [List.getLast?_cons]
    rw [top]
    exact (ih (folder true [(name, tree)])).enter (by simp)

namespace Workplace

theorem ofTree_proper (folder : Path) (proper : tree.Proper) : (ofTree folder tree).spot.Proper where
  tree := proper
  around := proper_enclosing proper fun _ member => isName_of_mem_namesTo (List.mem_reverse.mp member)

theorem ofTree_leads (folder : Path) (tree : FileTree) :
    Leads (ofTree folder tree).spot.top (namesTo folder).reverse (ofTree folder tree).spot :=
  leads_enclosing tree (namesTo folder).reverse

end Workplace
end FileTree
end DocAnswers
