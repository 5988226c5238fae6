import DocAnswers.Proofs.Comment.Blocks
import DocAnswers.Proofs.Text.Lines

/-! Sources with other line ends. A carriage return before a line feed belongs to the line end, and the
line feed at the end of a text adds no line that says anything, so neither is seen in what is found. -/
namespace DocAnswers

namespace Text
variable {cs last : List Char} {ls : List (List Char)}

/-- A text with a carriage return put before every line feed. -/
def withReturns (cs : List Char) : List Char :=
  cs.flatMap fun c => if c = '\n' then ['\r', '\n'] else [c]

theorem withReturns_of_not_mem (without : '\n' ∉ cs) : withReturns cs = cs := by
  induction cs with
  | nil => rfl
  | cons c cs ih =>
    obtain ⟨other, without⟩ := not_or.mp (mt List.mem_cons.mpr without)
    simp only [withReturns] at ih ⊢
    rw [List.flatMap_cons, if_neg (Ne.symm other), ih without]
    rfl

theorem withReturns_unlines (whole : ∀ l ∈ ls, '\n' ∉ l) (unended : '\n' ∉ last) :
    withReturns (ls.flatMap (· ++ ['\n']) ++ last) =
      (ls.map (· ++ ['\r'])).flatMap (· ++ ['\n']) ++ last := by
  induction ls with
  | nil => exact withReturns_of_not_mem unended
  | cons l ls ih =>
    obtain ⟨first, later⟩ := List.forall_mem_cons.mp whole
    have own := withReturns_of_not_mem first
    have rest := ih later
    simp only [withReturns] at own rest
    simp [withReturns, own, rest]

theorem exists_unlines (cs : List Char) : ∃ (ls : List (List Char)) (last : List Char),
    (∀ l ∈ ls, '\n' ∉ l) ∧ '\n' ∉ last ∧
    cs = ls.flatMap (· ++ ['\n']) ++ last := by
  induction cs with
  | nil => exact ⟨[], [], by simp, by simp, rfl⟩
  | cons c cs ih =>
    obtain ⟨ls, last, whole, unended, rfl⟩ := ih
    by_cases feed : c = '\n'
    · subst feed
      exact ⟨[] :: ls, last, List.forall_mem_cons.mpr ⟨by simp, whole⟩, unended, rfl⟩
    · cases ls with
      | nil => exact ⟨[], c :: last, whole, by simp [Ne.symm feed, unended], rfl⟩
      | cons l ls =>
        obtain ⟨first, later⟩ := List.forall_mem_cons.mp whole
        have longer : '\n' ∉ c :: l := by simp [Ne.symm feed, first]
        exact ⟨(c :: l) :: ls, last, List.forall_mem_cons.mpr ⟨longer, later⟩, unended, rfl⟩

theorem linesOfPieces_concat (ret : Char) (ps : List (List Char)) (last : List Char) :
    linesOfPieces ret (ps ++ [last]) = ps.map (dropReturn ret) ++ if last.isEmpty then [] else [last] := by
  induction ps with
  | nil => rfl
  | cons p ps ih =>
    rw [List.cons_append, linesOfPieces, ih, List.map_cons, List.cons_append]
    simp

theorem lineList_unlines (whole : ∀ l ∈ ls, '\n' ∉ l) (unended : '\n' ∉ last) :
    lineList (ls.flatMap (· ++ ['\n']) ++ last) =
      ls.map (dropReturn '\r') ++ if last.isEmpty then [] else [last] := by
  rw [lineList, linesAt, cut_unlines_append whole, cut_eq_singleton_of_not_mem unended, linesOfPieces_concat]

theorem dropReturn_append (line : List Char) : dropReturn '\r' (line ++ ['\r']) = line := by
  simp [dropReturn]

theorem dropReturn_of_ne {line : List Char} (other : line.getLast? ≠ some '\r') :
    dropReturn '\r' line = line := if_neg other

theorem lineList_withReturns (apart : ¬['\r', '\n'] <:+: cs) :
    lineList (withReturns cs) = lineList cs := by
  obtain ⟨ls, last, whole, unended, rfl⟩ := exists_unlines cs
  have whole' : ∀ l ∈ ls.map (· ++ ['\r']), '\n' ∉ l := by simpa using whole
  rw [withReturns_unlines whole unended, lineList_unlines whole' unended,
    lineList_unlines whole unended, List.map_map]
  congr 1
  refine List.map_congr_left fun l member => (dropReturn_append l).trans (dropReturn_of_ne ?_).symm
  intro ends
  obtain ⟨front, rfl⟩ := List.getLast?_eq_some_iff.mp ends
  obtain ⟨before, after, rfl⟩ := List.append_of_mem member
  exact apart ⟨before.flatMap (· ++ ['\n']) ++ front, after.flatMap (· ++ ['\n']) ++ last, by simp⟩

/-- Behind another line end, or at the start, a line feed ends an empty line. -/
theorem lineList_append_feed (other : cs.getLast? ≠ some '\r') :
    lineList (cs ++ ['\n']) = lineList cs ∨ lineList (cs ++ ['\n']) = lineList cs ++ [[]] := by
  obtain ⟨ls, last, whole, unended, rfl⟩ := exists_unlines cs
  have whole' : ∀ l ∈ ls ++ [last], '\n' ∉ l := by
    simpa [or_imp, forall_and] using ⟨whole, unended⟩
  have ended : ls.flatMap (· ++ ['\n']) ++ last ++ ['\n'] =
      (ls ++ [last]).flatMap (· ++ ['\n']) ++ [] := by simp
  rw [ended, lineList_unlines whole' List.not_mem_nil, lineList_unlines whole unended]
  cases last with
  | nil => exact .inr (by simp [dropReturn])
  | cons c last =>
    have own : (c :: last).getLast? ≠ some '\r' := by simpa using other
    exact .inl (by simp [dropReturn_of_ne own])

end Text

namespace Comment
open Text

variable {conv : Convention} {line : String}

theorem ofLines_append_other (other : conv.isSignatureLine line = false) (lines : List String) :
    Procedures.ofLines conv (lines ++ [line]) = Procedures.ofLines conv lines := by
  have kept (s : Scan) : (s.read conv line).found = s.found := by
    cases comment : conv.isComment line with
    | true => rw [Scan.read_comment s line comment]
    | false => rw [Scan.read_noise s line comment other]
  simp only [Procedures.ofLines, List.foldl_append, List.foldl_cons, List.foldl_nil, kept]

theorem isSignatureLine_empty (conv : Convention) : conv.isSignatureLine "" = false := by
  simp [Convention.isSignatureLine, isSignature, skipRun]

/-- A source is found to say the same with either line end, and with a line feed behind it. -/
theorem ofLines_ignores_line_ends (conv : Convention) {text : String}
    (apart : ¬['\r', '\n'] <:+: text.toList) :
    Procedures.ofLines conv (lines (String.ofList (withReturns text.toList))) =
      Procedures.ofLines conv (lines text) ∧
    (text.toList.getLast? ≠ some '\r' →
      Procedures.ofLines conv (lines (text ++ "\n")) = Procedures.ofLines conv (lines text)) := by
  constructor
  · rw [lines, String.toList_ofList, lineList_withReturns apart, lines]
  · intro other
    have feed : (text ++ "\n").toList = text.toList ++ ['\n'] := String.toList_append
    rw [lines, feed]
    rcases lineList_append_feed other with same | more
    · rw [same, lines]
    · rw [more, List.map_append]
      exact ofLines_append_other (isSignatureLine_empty conv) _

/-- A carriage return that stayed would take the marker for a comment. -/
theorem ofLines_ignores_line_ends_reviewed :
    let text := " * A\nint f()\n * @pbs: reviewed\nint g()"
    let returned := " * A\r\nint f()\r\n * @pbs: reviewed\r\nint g()"
    ¬['\r', '\n'] <:+: text.toList ∧ text.toList.getLast? ≠ some '\r' ∧
      String.ofList (withReturns text.toList) = returned ∧
      Procedures.ofLines {} (lines returned) = [⟨"int f()", "A"⟩] ∧
      Procedures.ofLines {} (lines (text ++ "\n")) = [⟨"int f()", "A"⟩] := by
  intro text returned
  have apart : ¬['\r', '\n'] <:+: text.toList := by decide +kernel
  have ends : text.toList.getLast? ≠ some '\r' := by decide +kernel
  have is : String.ofList (withReturns text.toList) = returned := by decide +kernel
  have found : Procedures.ofLines {} (lines text) = [⟨"int f()", "A"⟩] := by decide +kernel
  obtain ⟨same, longer⟩ := ofLines_ignores_line_ends {} apart
  rw [is, found] at same
  exact ⟨apart, ends, is, same, (longer ends).trans found⟩

end Comment
end DocAnswers
