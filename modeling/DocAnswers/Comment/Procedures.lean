/-! Documented procedures in the order in which they were first recorded. Each signature is recorded
once: recording it again keeps its place and replaces its documentation. -/
namespace DocAnswers.Comment

structure Procedure where
  signature : String
  doc : String
deriving DecidableEq, Repr

abbrev Procedures := List Procedure

namespace Procedures

def insert (p : Procedure) : Procedures → Procedures
  | [] => [p]
  | q :: qs => if q.signature = p.signature then p :: qs else q :: insert p qs

@[simp] theorem signatures_insert (p : Procedure) (ps : Procedures) :
    (ps.insert p).map (·.signature) =
      if p.signature ∈ ps.map (·.signature) then ps.map (·.signature)
      else ps.map (·.signature) ++ [p.signature] := by
  induction ps with
  | nil => rfl
  | cons q qs ih =>
    by_cases same : q.signature = p.signature
    · simp [insert, same]
    · simp only [insert, if_neg same, List.map_cons, ih, List.mem_cons, Ne.symm same, false_or]
      split <;> rfl

theorem nodup_insert {p : Procedure} {ps : Procedures} (once : (ps.map (·.signature)).Nodup) :
    ((ps.insert p).map (·.signature)).Nodup := by
  rw [signatures_insert]
  split
  · exact once
  · next fresh => exact List.nodup_append.mpr ⟨once, by simp, by simpa using fresh⟩

/-- With one entry for each signature, an insertion replaces what it shares its signature with. -/
theorem mem_insert {p r : Procedure} {ps : Procedures} (once : (ps.map (·.signature)).Nodup) :
    r ∈ ps.insert p ↔ r = p ∨ r ∈ ps ∧ r.signature ≠ p.signature := by
  induction ps with
  | nil => simp [insert]
  | cons q qs ih =>
    obtain ⟨fresh, once⟩ := List.nodup_cons.mp once
    by_cases same : q.signature = p.signature
    · have others : ∀ r ∈ qs, r.signature ≠ p.signature := fun r member equal =>
        fresh (List.mem_map.mpr ⟨r, member, equal.trans same.symm⟩)
      simp only [insert, if_pos same, List.mem_cons]
      grind
    · simp only [insert, if_neg same, List.mem_cons, ih once]
      grind

/-- The documentation recorded for a signature. -/
def get? (ps : Procedures) (signature : String) : Option String :=
  (ps.find? (·.signature = signature)).map (·.doc)

end Procedures
end DocAnswers.Comment
