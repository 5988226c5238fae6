import DocAnswers.Proofs.Path.Spelling
import DocAnswers.FileTree.Basic

/-! Walks through a tree of files. In a proper tree a path that is joined to the name of an entry
leads to this entry. -/
namespace DocAnswers.FileTree
open DocAnswers.Path

/-- In every folder, the entries have names, each its own. -/
inductive Proper : FileTree → Prop where
  | file (content : Option (List UInt8)) : Proper (file content)
  | folder {listable : Bool} {entries : List (List UInt8 × FileTree)}
      (distinct : (entries.map (·.1)).Nodup) (named : ∀ e ∈ entries, IsName e.1)
      (inside : ∀ e ∈ entries, Proper e.2) : Proper (folder listable entries)

/-- A property that the entries of a folder have if it has it. -/
def Inherited (P : FileTree → Prop) : Prop :=
  ∀ {listable entries}, P (folder listable entries) → ∀ e ∈ entries, P e.2

theorem Proper.inherited : Inherited Proper := by
  rintro listable entries (_ | ⟨-, -, inside⟩)
  exact inside

theorem mem_of_lookup {entries : List (List UInt8 × FileTree)}
    (found : entries.lookup name = some tree) : (name, tree) ∈ entries := by
  obtain ⟨before, after, rfl, -⟩ := List.lookup_eq_some_iff.mp found
  exact List.mem_append_right _ List.mem_cons_self

theorem lookup_eq_some_iff {entries : List (List UInt8 × FileTree)}
    (distinct : (entries.map (·.1)).Nodup) :
    entries.lookup name = some tree ↔ (name, tree) ∈ entries := by
  constructor
  · exact mem_of_lookup
  · rw [List.lookup_eq_some_iff]
    intro member
    obtain ⟨before, after, rfl⟩ := List.append_of_mem member
    refine ⟨before, after, rfl, fun e earlier => ?_⟩
    rw [List.map_append, List.nodup_append] at distinct
    simpa using (distinct.2.2 e.1 (List.mem_map_of_mem earlier) name (by simp)).symm

namespace Spot

theorem walk?_append (s : Spot) (front back : List (List UInt8)) :
    s.walk? (front ++ back) = (s.walk? front).bind (·.walk? back) := by
  induction front generalizing s with
  | nil => rfl
  | cons segment front ih =>
    simp only [List.cons_append, walk?, Option.bind_assoc, ih]

theorem walk?_singleton (s : Spot) (segment : List UInt8) : s.walk? [segment] = s.step? segment := by
  rw [walk?]
  cases s.step? segment <;> rfl

/-- An empty segment asks for a folder and stays there. -/
theorem eq_of_step?_nil {s next : Spot} (steps : s.step? [] = some next) : next = s := by
  obtain ⟨tree, around⟩ := s
  cases tree with
  | file => contradiction
  | folder => exact (Option.some.inj steps).symm

/-- What stands at a place has a property, and so do the folders around it. -/
structure Everywhere (P : FileTree → Prop) (s : Spot) : Prop where
  tree : P s.tree
  around : ∀ t ∈ s.around, P t

/-- Nothing in what stands at a place, and in the folders around it, is improper. -/
abbrev Proper (s : Spot) : Prop := s.Everywhere FileTree.Proper

theorem step?_name {s : Spot} {segment : List UInt8} (isName : IsName segment) :
    s.step? segment = match s.tree with
      | file _ => none
      | folder _ entries =>
        (entries.lookup segment).map fun entry => ⟨entry, s.tree :: s.around⟩ := by
  obtain ⟨tree, around⟩ := s
  cases tree with
  | file => rfl
  | folder => simp [step?, isName.ne_nil, isName.ne_here, isName.ne_up]

/-- A step that neither stays nor goes up takes the name of an entry. -/
theorem exists_entry_of_step? {s next : Spot} {segment : List UInt8}
    (steps : s.step? segment = some next) (ne_nil : segment ≠ []) (ne_here : segment ≠ [dot])
    (ne_up : segment ≠ [dot, dot]) : ∃ listable entries, s.tree = folder listable entries ∧
      (segment, next.tree) ∈ entries := by
  obtain ⟨tree, around⟩ := s
  cases tree with
  | file => contradiction
  | folder listable entries =>
    have entered : (entries.lookup segment).map
        (fun entry => Spot.mk entry (folder listable entries :: around)) = some next := by
      simpa [step?, ne_nil, ne_here, ne_up] using steps
    obtain ⟨entry, found, rfl⟩ := Option.map_eq_some_iff.mp entered
    exact ⟨listable, entries, rfl, mem_of_lookup found⟩

section Everywhere
variable {P : FileTree → Prop}

theorem Everywhere.top {s : Spot} (everywhere : s.Everywhere P) : s.top.Everywhere P := by
  rw [Spot.top]
  split
  · exact everywhere
  · rename_i tree last
    exact ⟨everywhere.around tree (List.mem_of_getLast? last), by simp⟩

variable (inherited : Inherited P)
include inherited

theorem Everywhere.step {s next : Spot} {segment : List UInt8} (everywhere : s.Everywhere P)
    (steps : s.step? segment = some next) : next.Everywhere P := by
  obtain ⟨tree, around⟩ := s
  cases tree with
  | file => contradiction
  | folder listable entries =>
    simp only [step?] at steps
    split at steps
    · cases steps
      exact everywhere
    · split at steps
      · split at steps
        · cases steps
          exact everywhere
        · cases steps
          obtain ⟨parent, outer⟩ := List.forall_mem_cons.mp everywhere.around
          exact ⟨parent, outer⟩
      · obtain ⟨entry, found, rfl⟩ := Option.map_eq_some_iff.mp steps
        exact ⟨inherited everywhere.tree _ (mem_of_lookup found),
          List.forall_mem_cons.mpr ⟨everywhere.tree, everywhere.around⟩⟩

theorem Everywhere.walk {s last : Spot} {segments : List (List UInt8)} (everywhere : s.Everywhere P)
    (walked : s.walk? segments = some last) : last.Everywhere P := by
  induction segments generalizing s with
  | nil =>
    cases walked
    exact everywhere
  | cons segment segments ih =>
    obtain ⟨next, steps, rest⟩ := Option.bind_eq_some_iff.mp walked
    exact ih (everywhere.step inherited steps) rest

end Everywhere

theorem Proper.isName_of_step? {s next : Spot} {segment : List UInt8} (proper : s.Proper)
    (steps : s.step? segment = some next) (ne_nil : segment ≠ []) (ne_here : segment ≠ [dot])
    (ne_up : segment ≠ [dot, dot]) : IsName segment := by
  obtain ⟨listable, entries, is, member⟩ := exists_entry_of_step? steps ne_nil ne_here ne_up
  have named := is ▸ proper.tree
  cases named with
  | folder distinct named inside => exact named _ member

end Spot

namespace Workplace
variable {w : Workplace} {p : Path} {spot : Spot}

/-- Where the way of a path starts. -/
def start (w : Workplace) (p : Path) : Spot :=
  if p.bytes.head? == some slash then w.spot.top else w.spot

theorem find?_eq_walk? (some : p.bytes ≠ []) :
    w.find? p = (w.start p).walk? (segments p.bytes) := by
  simp [find?, start, some]

theorem find?_eq_some_iff : w.find? p = some spot ↔
    p.bytes ≠ [] ∧ (w.start p).walk? (segments p.bytes) = some spot := by
  by_cases none : p.bytes = []
  · simp [find?, none]
  · simp [find?_eq_walk? none, none]

theorem isFile_iff : w.isFile p = true ↔
    ∃ content around, w.find? p = some ⟨.file content, around⟩ := by
  rw [isFile]
  cases w.find? p with
  | none => simp
  | some spot =>
    obtain ⟨tree, around⟩ := spot
    cases tree <;> simp [FileTree.isFile]

theorem start_everywhere {P : FileTree → Prop} (everywhere : w.spot.Everywhere P) (p : Path) :
    (w.start p).Everywhere P := by
  rw [start]
  split
  · exact everywhere.top
  · exact everywhere

theorem find?_proper (proper : w.spot.Proper) (found : w.find? p = some spot) : spot.Proper :=
  (start_everywhere proper p).walk Proper.inherited (find?_eq_some_iff.mp found).2

/-- Who stands at a folder finds an entry by its name. -/
theorem find?_join {name : List UInt8} (found : w.find? p = some spot) (isName : IsName name) :
    w.find? (p.join name) = spot.step? name := by
  obtain ⟨some, walked⟩ := find?_eq_some_iff.mp found
  obtain ⟨front, spelled, isFront, is⟩ := join_front p name
  have leads : front ≠ [] ∧ front.head? = p.bytes.head? := by
    obtain ⟨c, cs, text⟩ := List.exists_cons_of_ne_nil some
    rcases is with rfl | ⟨-, rfl⟩ <;> simp [text]
  have start : w.start (p.join name) = w.start p := by
    obtain ⟨c, cs, text⟩ := List.exists_cons_of_ne_nil leads.1
    rw [Workplace.start, Workplace.start, spelled, ← leads.2, text]
    rfl
  -- The name follows a slash, and what stands before that slash leads to the folder as well.
  obtain ⟨folder, rfl, there⟩ : ∃ folder, front = folder ++ [slash] ∧
      (w.start p).walk? (segments folder) = .some spot := by
    rcases is with same | ⟨-, is⟩
    · obtain ⟨folder, is⟩ := isFront.resolve_left leads.1
      rw [← same, is, segments_append_slash, Spot.walk?_append] at walked
      obtain ⟨last, walked, stayed⟩ := Option.bind_eq_some_iff.mp walked
      obtain rfl := Spot.eq_of_step?_nil ((Spot.walk?_singleton last []).symm.trans stayed)
      exact ⟨folder, is, walked⟩
    · exact ⟨_, is, walked⟩
  rw [find?_eq_walk? (by simp [spelled]), start, spelled, List.append_assoc, List.singleton_append,
    segments_append_slash, Spot.walk?_append, there, segments_of_not_mem isName.no_slash]
  exact Spot.walk?_singleton _ _

end Workplace
end DocAnswers.FileTree
