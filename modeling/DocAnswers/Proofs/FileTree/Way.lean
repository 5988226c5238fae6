import DocAnswers.Proofs.FileTree.Walk

/-! The way to a place: the names of the folders from the outermost one to it, which no `.`, no `..`
and no other folder to start from can change. Two files are the same if the ways to them are. -/
namespace DocAnswers

namespace Path

/-- One component further from the end of a way, which comes first. -/
def Component.follow (way : List (List UInt8)) : Component → List (List UInt8)
  | .root => []
  | .here => way
  | .up => way.tail
  | .name n => n :: way

/-- The way to which a path leads from the end of another. -/
def way (here : List (List UInt8)) (p : Path) : List (List UInt8) :=
  p.components.foldl Component.follow here

theorem way_of_components {p q : Path} (same : p.components = q.components)
    (here : List (List UInt8)) : p.way here = q.way here := by
  rw [way, way, same]

theorem foldl_follow_names (way names : List (List UInt8)) :
    (names.map Component.name).foldl Component.follow way = names.reverse ++ way := by
  induction names generalizing way with
  | nil => rfl
  | cons n names ih =>
    rw [List.map_cons, List.foldl_cons, ih, Component.follow, List.reverse_cons, List.append_assoc,
      List.singleton_append]

/-- From some folder on, two paths go down by names only. -/
def PartByNames (p q : Path) : Prop :=
  ∃ (common : List Component) (names names' : List (List UInt8)),
    p.components = common ++ names.map .name ∧ q.components = common ++ names'.map .name

theorem PartByNames.components_eq {p q : Path} (part : p.PartByNames q)
    (same : p.way here = q.way here) : p.components = q.components := by
  obtain ⟨common, names, names', is, is'⟩ := part
  rw [way, way, is, is', List.foldl_append, List.foldl_append, foldl_follow_names,
    foldl_follow_names] at same
  rw [is, is', List.reverse_inj.mp (List.append_cancel_right same)]

theorem components_absolute {p : Path} (spelled : p.bytes = slash :: cs) :
    p.components = .root :: (segments cs).filterMap Component.ofSegment? := by
  have split : segments (slash :: cs) = [] :: segments cs := rfl
  rw [components, spelled, split, componentList]
  cases more : segments cs with
  | nil => exact absurd more (segments_ne_nil cs)
  | cons segment rest => rfl

theorem segments_cons_of_ne (other : c ≠ slash) :
    ∃ piece rest, segments (c :: cs) = (c :: piece) :: rest := by
  have joins : (c == slash) = false := by simpa using other
  rw [segments, Text.cut, joins]
  cases Text.cut (· == slash) cs with
  | nil => exact ⟨[], [], rfl⟩
  | cons piece rest => exact ⟨piece, rest, rfl⟩

theorem components_relative {p : Path} (spelled : p.bytes = c :: cs) (other : c ≠ slash)
    (goes : (segments (c :: cs)).head? ≠ some [dot]) :
    p.components = (segments (c :: cs)).filterMap Component.ofSegment? := by
  obtain ⟨piece, rest, split⟩ : ∃ piece rest, segments (c :: cs) = (c :: piece) :: rest :=
    segments_cons_of_ne other
  have first : ((c :: piece) == [dot]) = false := by
    simpa [split] using goes
  rw [components, spelled, split, componentList]
  simp only [List.isEmpty_cons, Bool.false_eq_true, if_false, first]
  cases kept : Component.ofSegment? (c :: piece) <;> simp [kept]

/-- A leading `.` is a component of its own, but it leads nowhere else. -/
theorem way_relative {p : Path} (spelled : p.bytes = c :: cs) (other : c ≠ slash)
    (here : List (List UInt8)) : p.way here =
      ((segments (c :: cs)).filterMap Component.ofSegment?).foldl Component.follow here := by
  by_cases stays : (segments (c :: cs)).head? = some [dot]
  · obtain ⟨rest, split⟩ := List.head?_eq_some_iff.mp stays
    rw [way, components, spelled, split]
    rfl
  · rw [way, components_relative spelled other stays]

end Path

namespace FileTree
open DocAnswers.Path (Component)

/-- The names on the way from the outermost folder to a place, the last one first. -/
inductive Leads (top : Spot) : List (List UInt8) → Spot → Prop where
  | start : Leads top [] top
  | enter {names listable entries around name tree}
      (leads : Leads top names ⟨.folder listable entries, around⟩)
      (found : entries.lookup name = some tree) :
      Leads top (name :: names) ⟨tree, .folder listable entries :: around⟩

namespace Leads
variable {top s : Spot} {names : List (List UInt8)}

theorem unique (leads : Leads top names s) (leads' : Leads top names s') : s = s' := by
  induction leads generalizing s' with
  | start =>
    cases leads'
    rfl
  | enter _ found ih =>
    cases leads' with
    | enter outer found' =>
      cases ih outer
      cases found.symm.trans found'
      rfl

theorem step {segment : List UInt8} (leads : Leads top names s) (outermost : top.around = [])
    (steps : s.step? segment = some next) :
    Leads top ((Component.ofSegment? segment).elim names (Component.follow names)) next := by
  obtain ⟨tree, around⟩ := s
  cases tree with
  | file => contradiction
  | folder listable entries =>
    simp only [Spot.step?] at steps
    split at steps
    · rename_i stays
      cases steps
      rw [Component.ofSegment?, if_pos stays]
      exact leads
    · rename_i moves
      rw [Component.ofSegment?, if_neg moves]
      split at steps
      · rename_i up
        rw [if_pos up]
        cases leads with
        | start =>
          cases outermost
          cases steps
          exact .start
        | enter outer found =>
          cases steps
          exact outer
      · rename_i down
        obtain ⟨tree, found, rfl⟩ := Option.map_eq_some_iff.mp steps
        rw [if_neg down]
        exact leads.enter found

theorem walk {segments : List (List UInt8)} (leads : Leads top names s) (outermost : top.around = [])
    (walked : s.walk? segments = some last) :
    Leads top ((segments.filterMap Component.ofSegment?).foldl Component.follow names) last := by
  induction segments generalizing names s with
  | nil =>
    cases walked
    exact leads
  | cons segment segments ih =>
    obtain ⟨next, steps, rest⟩ := Option.bind_eq_some_iff.mp walked
    have further := ih (leads.step outermost steps) rest
    cases kept : Component.ofSegment? segment <;> simpa [kept] using further

end Leads

theorem Spot.top_around (s : Spot) : s.top.around = [] := by
  rw [Spot.top]
  split
  · rename_i none
    exact List.getLast?_eq_none_iff.mp none
  · rfl

/-- What a path leads to stands at the end of its way. -/
theorem Workplace.find?_leads {w : Workplace} {p : Path} {last : Spot}
    (stands : Leads w.spot.top here w.spot) (found : w.find? p = some last) : Leads w.spot.top (p.way here) last := by
  obtain ⟨some, walked⟩ := find?_eq_some_iff.mp found
  obtain ⟨c, cs, spelled⟩ := List.exists_cons_of_ne_nil some
  rw [spelled] at walked
  by_cases rooted : c = Path.slash
  · subst rooted
    have start : w.start p = w.spot.top := by simp [Workplace.start, spelled]
    rw [Path.way, Path.components_absolute spelled]
    obtain ⟨next, stays, rest⟩ := Option.bind_eq_some_iff.mp walked
    obtain rfl := Spot.eq_of_step?_nil stays
    rw [start] at rest
    exact Leads.start.walk w.spot.top_around rest
  · have start : w.start p = w.spot := by simp [Workplace.start, spelled, rooted]
    rw [Path.way_relative spelled rooted]
    rw [start] at walked
    exact stands.walk w.spot.top_around walked

end FileTree
end DocAnswers
