import DocAnswers.Text.Blank

/-! The pieces of a list that is cut at the members of a class. -/
namespace DocAnswers.Text
variable {α : Type} {sep : α → Bool} {c : α} {cs : List α}

theorem cut_ne_nil (sep : α → Bool) (cs : List α) : cut sep cs ≠ [] := by
  cases cs with
  | nil => simp [cut]
  | cons c cs =>
    rw [cut]
    split
    · simp
    · split <;> simp

theorem cut_append_cons (separates : sep c = true) (front back : List α) :
    cut sep (front ++ c :: back) = cut sep front ++ cut sep back := by
  induction front with
  | nil => simp [cut, separates]
  | cons d front ih =>
    rw [List.cons_append, cut, cut, ih]
    split
    · rfl
    · cases pieces : cut sep front with
      | nil => exact absurd pieces (cut_ne_nil sep front)
      | cons piece rest => rfl

theorem cut_eq_singleton (whole : ∀ d ∈ cs, sep d = false) : cut sep cs = [cs] := by
  induction cs with
  | nil => rfl
  | cons d cs ih =>
    simp [cut, whole d List.mem_cons_self, ih fun e member => whole e (.tail d member)]

/-- What separates nothing belongs to the first piece. -/
theorem cut_cons (joins : sep d = false) (split : cut sep cs = piece :: pieces) :
    cut sep (d :: cs) = (d :: piece) :: pieces := by
  simp [cut, joins, split]

theorem cut_append (whole : ∀ d ∈ front, sep d = false) (split : cut sep cs = piece :: pieces) :
    cut sep (front ++ cs) = (front ++ piece) :: pieces := by
  induction front with
  | nil => exact split
  | cons d front ih =>
    obtain ⟨first, later⟩ := List.forall_mem_cons.mp whole
    exact cut_cons first (ih later)

/-- What separates nothing goes on with the last piece. -/
theorem exists_cut_append (whole : ∀ c ∈ more, sep c = false) (cs : List α) :
    ∃ pieces last, cut sep cs = pieces ++ [last] ∧ cut sep (cs ++ more) = pieces ++ [last ++ more] := by
  induction cs with
  | nil => exact ⟨[], [], rfl, cut_eq_singleton whole⟩
  | cons c cs ih =>
    obtain ⟨pieces, last, before, after⟩ := ih
    rw [List.cons_append, cut, cut, before, after]
    split
    · exact ⟨[] :: pieces, last, rfl, rfl⟩
    · cases pieces with
      | nil => exact ⟨[], c :: last, rfl, rfl⟩
      | cons piece pieces => exact ⟨(c :: piece) :: pieces, last, rfl, rfl⟩

theorem cut_whole {piece : List α} (member : piece ∈ cut sep cs) : ∀ d ∈ piece, sep d = false := by
  induction cs generalizing piece with
  | nil =>
    obtain rfl := List.mem_singleton.mp member
    simp
  | cons d cs ih =>
    rw [cut] at member
    split at member
    · rcases List.mem_cons.mp member with rfl | later
      · simp
      · exact ih later
    · rename_i joins
      cases pieces : cut sep cs with
      | nil => exact absurd pieces (cut_ne_nil sep cs)
      | cons first rest =>
        simp only [pieces] at member ih
        rcases List.mem_cons.mp member with rfl | later
        · exact List.forall_mem_cons.mpr ⟨by simpa using joins, ih List.mem_cons_self⟩
        · exact ih (.tail _ later)

section Mark
variable [BEq α] [LawfulBEq α] {mark : α}

theorem cut_eq_singleton_of_not_mem (without : mark ∉ cs) : cut (· == mark) cs = [cs] := by
  apply cut_eq_singleton
  intro c member
  exact beq_false_of_ne fun is => without (is ▸ member)

theorem cut_append_mark (mark : α) (front back : List α) :
    cut (· == mark) (front ++ mark :: back) = cut (· == mark) front ++ cut (· == mark) back := by
  apply cut_append_cons
  exact beq_self_eq_true mark

end Mark
end DocAnswers.Text
