import DocAnswers.Proofs.Attempt
import DocAnswers.Proofs.Path.Order

/-! Finding the sources has no effect but notes, and the sources come in strictly ascending order.
-/
namespace DocAnswers.Sources
open Std DocAnswers.Path Attempt

theorem ofArgument_only (w : FileTree.Workplace) (arg : String) :
    (ofArgument w arg : Attempt (List Path)).Only [.note] := by
  unfold ofArgument
  cases Argument.ofText w arg with
  | file p => exact .ret [p]
  | folder p => exact .ofExcept (inFolder w p)
  | pattern text =>
    refine (Only.ofExcept (matching w text)).bind fun found => ?_
    split
    · exact (Only.note (noMatch text) List.mem_cons_self).bind fun _ => .ret found
    · exact .ret found

theorem expandFrom_only (w : FileTree.Workplace) (known : List Path) (args : List String) :
    (expandFrom w known args).Only [.note] := by
  induction args generalizing known with
  | nil => exact .ret known
  | cons arg args ih => exact (ofArgument_only w arg).bind fun found => ih (insertAll found known)

theorem mem_insert {p q : Path} {ps : List Path} (member : q ∈ insert p ps) : q = p ∨ q ∈ ps := by
  induction ps with
  | nil => simpa [insert] using member
  | cons r rs ih =>
    rw [insert] at member
    split at member
    · simpa using member
    · exact .inr member
    · rcases List.mem_cons.mp member with rfl | later
      · exact .inr List.mem_cons_self
      · exact (ih later).imp id (.tail r)

theorem mem_insertAll {q : Path} {new known : List Path} (member : q ∈ insertAll new known) :
    q ∈ new ∨ q ∈ known := by
  induction new generalizing known with
  | nil => exact .inr member
  | cons p new ih =>
    rcases ih member with later | before
    · exact .inl (.tail p later)
    · rcases mem_insert before with rfl | old
      · exact .inl List.mem_cons_self
      · exact .inr old

theorem insert_ascending (p : Path) {ps : List Path} (ascending : Ascending ps) :
    Ascending (insert p ps) := by
  induction ps with
  | nil => exact List.pairwise_singleton _ p
  | cons q qs ih =>
    obtain ⟨before, tail⟩ := List.pairwise_cons.mp ascending
    cases order : p.compare q with
    | lt =>
      simp only [insert, order]
      refine List.pairwise_cons.mpr ⟨?_, ascending⟩
      intro r member
      rcases List.mem_cons.mp member with rfl | later
      · exact order
      · exact TransCmp.lt_trans order (before r later)
    | eq => simpa only [insert, order] using ascending
    | gt =>
      simp only [insert, order]
      refine List.pairwise_cons.mpr ⟨?_, ih tail⟩
      intro r member
      rcases mem_insert member with rfl | old
      · exact OrientedCmp.lt_of_gt order
      · exact before r old

theorem insertAll_ascending (new : List Path) {known : List Path} (ascending : Ascending known) :
    Ascending (insertAll new known) := by
  induction new generalizing known with
  | nil => exact ascending
  | cons p new ih => exact ih (insert_ascending p ascending)

theorem expandFrom_ascending {w : FileTree.Workplace} {known files : List Path} {args : List String}
    (ascending : Ascending known) (done : (expandFrom w known args).run.value = .ok files) :
    Ascending files := by
  induction args generalizing known with
  | nil =>
    cases done
    exact ascending
  | cons arg args ih =>
    rw [expandFrom] at done
    cases first : (ofArgument w arg).run.value with
    | error e =>
      rw [bind_error first] at done
      contradiction
    | ok found =>
      rw [bind_ok first] at done
      exact ih (insertAll_ascending found ascending) done

theorem expand_ascending {w : FileTree.Workplace} {files : List Path} {args : List String}
    (done : (expand w args).run.value = .ok files) : Ascending files :=
  expandFrom_ascending List.Pairwise.nil done

end DocAnswers.Sources
