import DocAnswers.Proofs.FileTree.Walk
import DocAnswers.Proofs.Path.Shown

/-! Trees whose names are all text. A path that leads to something in such a tree is text as well, since
each of its segments is one of these names or moves nowhere but up. -/
namespace DocAnswers.FileTree
open DocAnswers.Path Text.Utf8

/-- Every name in a tree is text. -/
inductive TextNames : FileTree → Prop where
  | file (content : Option (List UInt8)) : TextNames (file content)
  | folder {listable : Bool} {entries : List (List UInt8 × FileTree)}
      (named : ∀ e ∈ entries, isValid e.1 = true) (inside : ∀ e ∈ entries, TextNames e.2) :
      TextNames (folder listable entries)

theorem TextNames.inherited : Inherited TextNames := by
  rintro listable entries (_ | ⟨-, inside⟩)
  exact inside

theorem isValid_of_segments {bs : List UInt8}
    (valid : ∀ segment ∈ segments bs, isValid segment = true) : isValid bs = true := by
  induction size : bs.length using Nat.strongRecOn generalizing bs with
  | ind n ih =>
    subst size
    by_cases split : slash ∈ bs
    · obtain ⟨front, back, rfl⟩ := List.append_of_mem split
      rw [segments_append_slash] at valid
      obtain ⟨before, after⟩ := List.forall_mem_append.mp valid
      have front_valid := ih _ (by simp) before rfl
      have back_valid := ih _ (by simp; omega) after rfl
      exact isValid_append_ascii (by decide) front_valid back_valid
    · rw [segments_of_not_mem split] at valid
      exact valid bs List.mem_cons_self

theorem Spot.isValid_of_step? {s next : Spot} {segment : List UInt8}
    (names : s.Everywhere TextNames) (steps : s.step? segment = some next) :
    isValid segment = true := by
  by_cases unnamed : segment = [] ∨ segment = [dot] ∨ segment = [dot, dot]
  · rcases unnamed with rfl | rfl | rfl <;> decide
  · rw [not_or, not_or] at unnamed
    obtain ⟨listable, entries, is, member⟩ :=
      exists_entry_of_step? steps unnamed.1 unnamed.2.1 unnamed.2.2
    have names := is ▸ names.tree
    cases names with
    | folder named inside => exact named _ member

theorem Spot.isValid_of_walk? {s last : Spot} {segments : List (List UInt8)}
    (names : s.Everywhere TextNames) (walked : s.walk? segments = some last) :
    ∀ segment ∈ segments, isValid segment = true := by
  induction segments generalizing s with
  | nil => simp
  | cons segment segments ih =>
    obtain ⟨next, steps, rest⟩ := Option.bind_eq_some_iff.mp walked
    exact List.forall_mem_cons.mpr
      ⟨isValid_of_step? names steps, ih (names.step TextNames.inherited steps) rest⟩

/-- Where all names are text, so are all paths that lead somewhere. -/
theorem Workplace.isText_of_find? {w : Workplace} {p : Path} {spot : Spot}
    (names : w.spot.Everywhere TextNames) (found : w.find? p = some spot) : p.IsText :=
  isValid_of_segments
    (Spot.isValid_of_walk? (start_everywhere names p) (find?_eq_some_iff.mp found).2)

end DocAnswers.FileTree
