import DocAnswers.Proofs.Text.Cut
import DocAnswers.Text.Lines

/-! What lines have in them, and texts put together from whole lines. -/
namespace DocAnswers.Text

theorem cut_unlines_append {ls : List (List Char)} (whole : ∀ l ∈ ls, '\n' ∉ l) (rest : List Char) :
    cut (· == '\n') (ls.flatMap (· ++ ['\n']) ++ rest) = ls ++ cut (· == '\n') rest := by
  induction ls with
  | nil => rfl
  | cons l ls ih =>
    obtain ⟨first, later⟩ := List.forall_mem_cons.mp whole
    rw [List.flatMap_cons, List.append_assoc, List.append_assoc, List.singleton_append,
      cut_append_mark, cut_eq_singleton_of_not_mem first, ih later]
    rfl

theorem cut_unlines {ls : List (List Char)} (whole : ∀ l ∈ ls, '\n' ∉ l) :
    cut (· == '\n') (ls.flatMap (· ++ ['\n'])) = ls ++ [[]] := by
  simpa [cut] using cut_unlines_append whole []

/-- Lines can be told from the text that they make up. -/
theorem unlines_injective {ls ms : List (List Char)} (left : ∀ l ∈ ls, '\n' ∉ l)
    (right : ∀ m ∈ ms, '\n' ∉ m)
    (same : ls.flatMap (· ++ ['\n']) = ms.flatMap (· ++ ['\n'])) : ls = ms := by
  have pieces := congrArg (cut (· == '\n')) same
  rw [cut_unlines left, cut_unlines right] at pieces
  exact List.append_cancel_right pieces

/-- A text is told apart at the last mark of some kind. -/
theorem append_mark_injective {mark : Char} {front front' back back' : List Char}
    (last : mark ∉ back) (last' : mark ∉ back')
    (same : front ++ mark :: back = front' ++ mark :: back') : front = front' ∧ back = back' := by
  have pieces := congrArg (cut fun c => c == mark) same
  rw [cut_append_mark, cut_append_mark, cut_eq_singleton_of_not_mem last,
    cut_eq_singleton_of_not_mem last'] at pieces
  obtain rfl := List.singleton_inj.mp (List.append_inj_right' pieces rfl)
  exact ⟨List.append_cancel_right same, rfl⟩

theorem mem_of_mem_dropReturn {line : List Char} (member : c ∈ dropReturn ret line) : c ∈ line := by
  rw [dropReturn] at member
  split at member
  · exact List.dropLast_subset line member
  · exact member

theorem mem_linesOfPieces {ps : List (List Char)} (member : line ∈ linesOfPieces ret ps) :
    ∃ piece ∈ ps, line = piece ∨ line = dropReturn ret piece := by
  induction ps with
  | nil => simp [linesOfPieces] at member
  | cons p ps ih =>
    cases ps with
    | nil =>
      rw [linesOfPieces] at member
      split at member
      · contradiction
      · exact ⟨p, List.mem_cons_self, .inl (List.mem_singleton.mp member)⟩
    | cons q qs =>
      rw [linesOfPieces] at member
      · rcases List.mem_cons.mp member with rfl | later
        · exact ⟨p, List.mem_cons_self, .inr rfl⟩
        · obtain ⟨piece, among, is⟩ := ih later
          exact ⟨piece, .tail _ among, is⟩
      · simp

theorem not_mem_of_mem_lineList (member : line ∈ lineList cs) : '\n' ∉ line := by
  intro feed
  obtain ⟨piece, among, is⟩ := mem_linesOfPieces member
  have within : '\n' ∈ piece := by
    rcases is with rfl | rfl
    · exact feed
    · exact mem_of_mem_dropReturn feed
  simpa using cut_whole among _ within

theorem not_mem_of_mem_lines (member : line ∈ lines s) : '\n' ∉ line.toList := by
  obtain ⟨piece, among, rfl⟩ := List.mem_map.mp member
  rw [String.toList_ofList]
  exact not_mem_of_mem_lineList among

end DocAnswers.Text
