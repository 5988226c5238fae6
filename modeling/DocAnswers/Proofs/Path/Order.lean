import DocAnswers.Path.Basic

/-! Paths are in a total order by their components, in which two paths are equal when their
components are. The order of components compares their ranks and then their names. -/
namespace DocAnswers.Path
open Std

namespace Component

/-- The bytes of a name, and none of the other components. -/
def nameBytes : Component → List UInt8
  | name bytes => bytes
  | _ => []

theorem compare_eq_compareLex :
    Component.compare = compareLex (compareOn rank) (compareOn nameBytes) := by
  funext a b
  cases a <;> cases b <;> rfl

instance : TransCmp Component.compare := compare_eq_compareLex ▸ inferInstance

instance : LawfulEqCmp Component.compare where
  eq_of_compare {a b} equal := by
    cases a <;> cases b <;> simp_all [Component.compare, rank]

end Component

theorem compareComponents_eq_compareLex :
    compareComponents = List.compareLex Component.compare := by
  funext as bs
  induction as generalizing bs with
  | nil => cases bs <;> rfl
  | cons a as ih =>
    cases bs with
    | nil => rfl
    | cons b bs => rw [compareComponents, ih, List.compareLex_cons_cons]

theorem compare_eq_compareLex (p q : Path) :
    p.compare q = List.compareLex Component.compare p.components q.components := by
  rw [compare, compareComponents_eq_compareLex]

instance : TransCmp Path.compare where
  eq_swap {p q} := by
    rw [compare_eq_compareLex, compare_eq_compareLex]
    exact OrientedCmp.eq_swap
  isLE_trans {p q r} := by
    rw [compare_eq_compareLex, compare_eq_compareLex, compare_eq_compareLex]
    exact TransCmp.isLE_trans

/-- Equal in the order are the paths with the same components. -/
theorem compare_eq_eq_iff (p q : Path) : p.compare q = .eq ↔ p.components = q.components := by
  rw [compare_eq_compareLex]
  exact LawfulEqCmp.compare_eq_iff_eq

/-- Every path comes before those that follow it. -/
def Ascending (ps : List Path) : Prop := ps.Pairwise fun p q => p.compare q = .lt

/-- No two paths of a list are the same. -/
def Distinct (ps : List Path) : Prop := ps.Pairwise fun p q => p.components ≠ q.components

instance (ps : List Path) : Decidable (Distinct ps) :=
  inferInstanceAs (Decidable (ps.Pairwise _))

theorem Ascending.distinct (ascending : Ascending ps) : Distinct ps := by
  apply ascending.imp
  intro p q less same
  rw [(compare_eq_eq_iff p q).mpr same] at less
  contradiction

end DocAnswers.Path
