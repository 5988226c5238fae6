import DocAnswers.Proofs.Comment.Blocks

/-! Sources that are read in parts. A signature line takes whatever a scan has gathered, so behind one
the scan goes on as if it had just started, and its finds are recorded on top of the earlier ones. -/
namespace DocAnswers.Comment

namespace Procedures
variable {p q : Procedure} {ps qs known new : Procedures}

/-- Records procedures one after the other on top of those that are known. -/
def insertAll (new known : Procedures) : Procedures := new.foldl (fun known p => known.insert p) known

theorem get?_insert (p : Procedure) (ps : Procedures) (signature : String) :
    (ps.insert p).get? signature =
      if p.signature = signature then some p.doc else ps.get? signature := by
  induction ps with
  | nil => by_cases own : p.signature = signature <;> simp [insert, get?, own]
  | cons q qs ih =>
    simp only [get?] at ih
    by_cases same : q.signature = p.signature
    · by_cases own : p.signature = signature <;> simp [insert, get?, same, own]
    · by_cases own : q.signature = signature
      · subst own
        simp [insert, get?, same, Ne.symm same]
      · simp [insert, get?, same, own, ih]

/-- Of two records under one signature the second stays. -/
theorem insert_insert (same : q.signature = p.signature) (ps : Procedures) :
    (ps.insert q).insert p = ps.insert p := by
  induction ps with
  | nil => simp [insert, same]
  | cons r rs ih =>
    by_cases place : r.signature = p.signature
    · simp [insert, same, place]
    · simp [insert, same, place, ih]

/-- A signature that is known keeps its place, so another record may as well come later. -/
theorem insert_comm (known : p.signature ∈ ps.map (·.signature)) (other : q.signature ≠ p.signature) :
    (ps.insert q).insert p = (ps.insert p).insert q := by
  induction ps with
  | nil => contradiction
  | cons r rs ih =>
    by_cases place : r.signature = p.signature
    · simp [insert, place, Ne.symm other]
    · have later : p.signature ∈ rs.map (·.signature) := by
        simpa [Ne.symm place] using known
      by_cases replaced : r.signature = q.signature
      · simp [insert, replaced, other]
      · simp [insert, place, replaced, ih later]

theorem insert_insertAll (known : p.signature ∈ ps.map (·.signature))
    (fresh : p.signature ∉ qs.map (·.signature)) :
    (insertAll qs ps).insert p = insertAll qs (ps.insert p) := by
  induction qs generalizing ps with
  | nil => rfl
  | cons q qs ih =>
    obtain ⟨other, fresh⟩ := not_or.mp (mt List.mem_cons.mpr fresh)
    have known' : p.signature ∈ (ps.insert q).map (·.signature) := by
      rw [signatures_insert]
      split
      · exact known
      · exact List.mem_append_left _ known
    refine (ih known' fresh).trans ?_
    rw [insert_comm known (Ne.symm other)]
    rfl

/-- It is the same to record one more procedure among the new ones and on top of all. -/
theorem insertAll_insert (once : (new.map (·.signature)).Nodup) :
    insertAll (new.insert p) known = (insertAll new known).insert p := by
  -- Once a signature is known its place is settled, so it makes no difference when it is replaced.
  induction new generalizing known with
  | nil => rfl
  | cons q qs ih =>
    obtain ⟨fresh, once⟩ := List.nodup_cons.mp once
    by_cases same : q.signature = p.signature
    · have place : p.signature ∈ (known.insert q).map (·.signature) := by
        rw [signatures_insert, same]
        split <;> simp_all
      have fresh : p.signature ∉ qs.map (·.signature) := same ▸ (fresh : q.signature ∉ _)
      have replaced := insert_insertAll place fresh
      rw [insert_insert same] at replaced
      rw [insert, if_pos same]
      exact replaced.symm
    · rw [insert, if_neg same]
      exact ih once

theorem signatures_insertAll (once : (new.map (·.signature)).Nodup) :
    (insertAll new known).map (·.signature) =
      known.map (·.signature) ++
        (new.map (·.signature)).filter (· ∉ known.map (·.signature)) := by
  induction new generalizing known with
  | nil => simp [insertAll]
  | cons q qs ih =>
    obtain ⟨fresh, once⟩ := List.nodup_cons.mp once
    refine (ih once).trans ?_
    rw [signatures_insert, List.map_cons]
    split
    · next old => rw [List.filter_cons_of_neg (by simpa using old)]
    · next new =>
      rw [List.filter_cons_of_pos (by simpa using new), List.append_assoc, List.singleton_append]
      congr 2
      refine List.filter_congr fun signature member => ?_
      have other : signature ≠ q.signature := by
        rintro rfl
        exact fresh member
      simp [other]

theorem get?_insertAll (once : (new.map (·.signature)).Nodup) (signature : String) :
    (insertAll new known).get? signature = (new.get? signature).or (known.get? signature) := by
  induction new generalizing known with
  | nil => rfl
  | cons q qs ih =>
    obtain ⟨fresh, once⟩ := List.nodup_cons.mp once
    refine (ih once).trans ?_
    rw [get?_insert]
    by_cases own : q.signature = signature
    · have none : get? qs signature = none := by
        simp only [get?, Option.map_eq_none_iff, List.find?_eq_none]
        rintro r member is
        exact fresh (List.mem_map.mpr ⟨r, member, by simpa [own] using is⟩)
      have first : get? (q :: qs) signature = some q.doc := by simp [get?, own]
      rw [none, first, if_pos own]
      rfl
    · have others : get? (q :: qs) signature = get? qs signature := by simp [get?, own]
      rw [others, if_neg own]

end Procedures

namespace Scan
variable {conv : Convention} {s : Scan} {known : Procedures} {line : String}

/-- A scan that has its finds on top of what is known. -/
def onTop (known : Procedures) (s : Scan) : Scan :=
  { s with found := Procedures.insertAll s.found known }

theorem once_read (once : (s.found.map (·.signature)).Nodup) (line : String) :
    ((s.read conv line).found.map (·.signature)).Nodup := by
  cases comment : conv.isComment line with
  | true =>
    rw [read_comment s line comment]
    exact once
  | false =>
    cases signs : conv.isSignatureLine line with
    | true =>
      rw [read_signatureLine s line signs, signature]
      split
      · exact once
      · exact Procedures.nodup_insert once
    | false =>
      rw [read_noise s line comment signs]
      exact once

theorem read_onTop (once : (s.found.map (·.signature)).Nodup) (line : String) :
    (s.onTop known).read conv line = (s.read conv line).onTop known := by
  cases comment : conv.isComment line with
  | true =>
    rw [read_comment _ line comment, read_comment _ line comment]
    rfl
  | false =>
    cases signs : conv.isSignatureLine line with
    | true =>
      rw [read_signatureLine _ line signs, read_signatureLine _ line signs]
      cases reviewed : s.reviewed with
      | true => simp [signature, onTop, reviewed]
      | false => simp [signature, onTop, reviewed, Procedures.insertAll_insert once]
    | false => rw [read_noise _ line comment signs, read_noise _ line comment signs]

theorem foldl_read_onTop (conv : Convention) (known : Procedures)
    (once : (s.found.map (·.signature)).Nodup) (lines : List String) :
    lines.foldl (read conv) (s.onTop known) = (lines.foldl (read conv) s).onTop known ∧
      ((lines.foldl (read conv) s).found.map (·.signature)).Nodup := by
  -- A step agrees only where no signature is recorded twice, so the induction carries this along.
  induction lines generalizing s with
  | nil => exact ⟨rfl, once⟩
  | cons line lines ih =>
    rw [List.foldl_cons, List.foldl_cons, read_onTop once]
    exact ih (once_read once line)

/-- Behind a signature line a scan is one that has just started, on top of what is found. -/
theorem read_eq_onTop (s : Scan) (signs : conv.isSignatureLine line = true) :
    s.read conv line = onTop (s.read conv line).found {} := by
  rw [read_signatureLine s line signs]
  rfl

end Scan

/-- A source may be cut behind any signature line. What is found in the second part alone is recorded
on top of what is found in the first: known signatures keep their places and take over the new
documentation, and the others follow in their order. -/
theorem ofLines_append_signature (conv : Convention) (xs ys : List String) {line : String}
    (signs : conv.isSignatureLine line = true) :
    let front := Procedures.ofLines conv (xs ++ [line])
    let back := Procedures.ofLines conv ys
    let whole := Procedures.ofLines conv (xs ++ [line] ++ ys)
    whole = Procedures.insertAll back front ∧
    whole.map (·.signature) = front.map (·.signature) ++
      (back.map (·.signature)).filter (· ∉ front.map (·.signature)) ∧
    ∀ signature, whole.get? signature = (back.get? signature).or (front.get? signature) := by
  intro front back whole
  obtain ⟨on, once⟩ := Scan.foldl_read_onTop (s := {}) conv front List.nodup_nil ys
  have first : (xs ++ [line]).foldl (Scan.read conv) {} = Scan.onTop front {} := by
    rw [List.foldl_append, List.foldl_cons, List.foldl_nil, Scan.read_eq_onTop _ signs]
    simp only [front, Procedures.ofLines, List.foldl_append, List.foldl_cons, List.foldl_nil]
  have same : whole = Procedures.insertAll back front := by
    have all : whole = ((xs ++ [line] ++ ys).foldl (Scan.read conv) {}).found := rfl
    rw [all, List.foldl_append, first, on]
    rfl
  refine ⟨same, ?_, fun signature => ?_⟩
  · rw [same]
    exact Procedures.signatures_insertAll once
  · rw [same]
    exact Procedures.get?_insertAll once signature

/-- The procedure at the cut is left out, and is recorded where it comes again. -/
theorem ofLines_append_signature_reviewed :
    let xs := [" * a", "int f()", " * b", " * @pbs: reviewed"]
    let ys := ["int f()", " * c", "int g()"]
    Convention.isSignatureLine {} "int g()" = true ∧
      Procedures.ofLines {} (xs ++ ["int g()"]) = [⟨"int f()", "a"⟩] ∧
      Procedures.ofLines {} ys = [⟨"int f()", ""⟩, ⟨"int g()", "c"⟩] ∧
      Procedures.ofLines {} (xs ++ ["int g()"] ++ ys) = [⟨"int f()", ""⟩, ⟨"int g()", "c"⟩] := by
  intro xs ys
  have signs : Convention.isSignatureLine {} "int g()" = true := by decide +kernel
  have front : Procedures.ofLines {} (xs ++ ["int g()"]) = [⟨"int f()", "a"⟩] := by decide +kernel
  have back : Procedures.ofLines {} ys = [⟨"int f()", ""⟩, ⟨"int g()", "c"⟩] := by decide +kernel
  obtain ⟨whole, -⟩ := ofLines_append_signature {} xs ys signs
  rw [front, back] at whole
  exact ⟨signs, front, back, whole⟩

end DocAnswers.Comment
