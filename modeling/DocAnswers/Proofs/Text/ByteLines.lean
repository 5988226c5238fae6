import DocAnswers.Proofs.Text.Ascii
import DocAnswers.Text.Lines

/-! Lines of bytes. What is no text damages its own line only: a line feed ends whatever was broken off
before it, so it makes no difference whether bytes are read before or after they are cut into lines. -/
namespace DocAnswers.Text.Utf8

/-- The lines of some bytes, in order. -/
def lineList (bytes : List UInt8) : List (List UInt8) := linesAt 0x0A 0x0D bytes

theorem dropReturn_decode (line : List UInt8) :
    dropReturn '\r' (decode line) = decode (dropReturn 0x0D line) := by
  by_cases ends : line.getLast? = some 0x0D
  · obtain ⟨front, rfl⟩ := List.getLast?_eq_some_iff.mp ends
    have mark : Char.ofNat (0x0D : UInt8).toNat = '\r' := by decide
    have nothing : decode [] = [] := rfl
    rw [decode_append_ascii (by decide), mark, nothing]
    simp [dropReturn]
  · have other : (decode line).getLast? ≠ some '\r' := by
      intro last
      obtain ⟨cs, is⟩ := List.getLast?_eq_some_iff.mp last
      obtain ⟨front, more, rfl, rest⟩ := exists_of_decode_eq is (by decide)
      obtain rfl := (decode_eq_nil_iff more).mp rest
      have mark : String.utf8EncodeChar '\r' = [0x0D] := by decide
      simp [mark] at ends
    rw [dropReturn, if_neg other, dropReturn, if_neg ends]

theorem linesOfPieces_decode (pieces : List (List UInt8)) :
    linesOfPieces '\r' (pieces.map decode) = (linesOfPieces 0x0D pieces).map decode := by
  induction pieces with
  | nil => rfl
  | cons piece pieces ih =>
    cases pieces with
    | nil =>
      by_cases none : piece = []
      · subst none
        rfl
      · simp [linesOfPieces, none, decode_eq_nil_iff]
    | cons next pieces =>
      show dropReturn '\r' (decode piece) :: linesOfPieces '\r' ((next :: pieces).map decode) =
        (dropReturn 0x0D piece :: linesOfPieces 0x0D (next :: pieces)).map decode
      rw [dropReturn_decode, ih, List.map_cons]

/-- The lines of a text that was read are the lines of its bytes, each read by itself. -/
theorem lineList_decode (bytes : List UInt8) :
    Text.lineList (decode bytes) = (lineList bytes).map decode := by
  have feed : Char.ofNat (0x0A : UInt8).toNat = '\n' := by decide
  rw [Text.lineList, linesAt, ← feed, cut_decode (by decide), linesOfPieces_decode, lineList, linesAt]

end DocAnswers.Text.Utf8

namespace DocAnswers.Text
variable {α : Type} [DecidableEq α]

/-! Texts that differ within a line -/

theorem exists_cut_around (mark : α) (front back : List α) :
    ∃ before last first after, before.length = front.count mark ∧ ∀ line, mark ∉ line →
      cut (· == mark) (front ++ line ++ back) = before ++ (last ++ line ++ first) :: after := by
  have joins {line : List α} (whole : mark ∉ line) : ∀ c ∈ line, (c == mark) = false :=
    fun c member => beq_false_of_ne fun is => whole (is ▸ member)
  induction front with
  | nil =>
    obtain ⟨first, after, pieces⟩ := List.exists_cons_of_ne_nil (cut_ne_nil (· == mark) back)
    exact ⟨[], [], first, after, rfl, fun line whole => cut_append (joins whole) pieces⟩
  | cons c front ih =>
    obtain ⟨before, last, first, after, length, split⟩ := ih
    by_cases ends : c = mark
    · subst ends
      refine ⟨[] :: before, last, first, after, by simp [length], fun line whole => ?_⟩
      rw [List.cons_append, List.cons_append, ← List.nil_append (c :: _), cut_append_mark,
        split line whole]
      rfl
    · have alone : (c == mark) = false := beq_false_of_ne ends
      cases before with
      | nil =>
        refine ⟨[], c :: last, first, after, by simpa [ends] using length, fun line whole => ?_⟩
        exact cut_cons alone (split line whole)
      | cons piece before =>
        refine ⟨(c :: piece) :: before, last, first, after, by simpa [ends] using length, ?_⟩
        exact fun line whole => cut_cons alone (split line whole)

theorem getElem?_linesOfPieces (ret : α) (before after : List (List α)) (piece other : List α)
    {i : Nat} (elsewhere : i ≠ before.length) :
    (linesOfPieces ret (before ++ piece :: after))[i]? =
      (linesOfPieces ret (before ++ other :: after))[i]? := by
  induction before generalizing i with
  | nil =>
    obtain ⟨i, rfl⟩ := Nat.exists_eq_succ_of_ne_zero elsewhere
    cases after with
    | nil => cases piece <;> cases other <;> rfl
    | cons => rfl
  | cons p before ih =>
    have step (piece : List α) : linesOfPieces ret (p :: (before ++ piece :: after)) =
        dropReturn ret p :: linesOfPieces ret (before ++ piece :: after) := by
      rw [linesOfPieces]
      simp
    rw [List.cons_append, List.cons_append, step, step]
    cases i with
    | zero => rfl
    | succ i => exact ih fun is => elsewhere (congrArg (· + 1) is)

/-- Texts that differ within one line have the same other lines. -/
theorem getElem?_linesAt (feed ret : α) (front back : List α) {line other : List α}
    (whole : feed ∉ line) (whole' : feed ∉ other) {i : Nat} (elsewhere : i ≠ front.count feed) :
    (linesAt feed ret (front ++ line ++ back))[i]? =
      (linesAt feed ret (front ++ other ++ back))[i]? := by
  obtain ⟨before, last, first, after, length, split⟩ := exists_cut_around feed front back
  rw [linesAt, linesAt, split line whole, split other whole']
  exact getElem?_linesOfPieces ret _ _ _ _ (length ▸ elsewhere)

end DocAnswers.Text
