import DocAnswers.Proofs.Comment.Blocks
import Mathlib.Data.List.Basic
import Mathlib.Data.List.TakeWhile

/-! Signatures as a grammar. A line may be taken apart in many ways, with any closing parenthesis as the
end of its parameters and with whatever behind it; the scan, which takes each run as long as it can,
succeeds just if there is one. -/
namespace DocAnswers.Comment
open Text

/-- A line taken apart: a type, a gap, a name, parameters in parentheses and what is behind them. -/
structure Signature where
  type : List Char
  gap : List Char
  name : List Char
  parameters : List Char
  rest : List Char
deriving DecidableEq, Repr

namespace Signature

def text (s : Signature) : List Char :=
  s.type ++ s.gap ++ s.name ++ ['('] ++ s.parameters ++ [')'] ++ s.rest

/-- Only the parameters have to stand on one line, and what is behind them is free. -/
structure WellFormed (s : Signature) : Prop where
  type_ne_nil : s.type ≠ []
  type : ∀ c ∈ s.type, isWordChar c = true
  gap_ne_nil : s.gap ≠ []
  gap : ∀ c ∈ s.gap, isBlank c = true
  name_ne_nil : s.name ≠ []
  name : ∀ c ∈ s.name, isWordChar c = true
  parameters : '\n' ∉ s.parameters

end Signature

section Runs
variable {p : Char → Bool} {cs run rest : List Char}

theorem skipRun_append (some : run ≠ []) (all : ∀ c ∈ run, p c = true)
    (ends : ∀ c ∈ rest.head?, p c = false) : skipRun p (run ++ rest) = .some rest := by
  cases run with
  | nil => contradiction
  | cons c run =>
    obtain ⟨first, later⟩ := List.forall_mem_cons.mp all
    have dropped : (run ++ rest).dropWhile p = rest := by
      rw [List.dropWhile_append_of_pos later]
      cases rest with
      | nil => rfl
      | cons d rest => exact List.dropWhile_cons_of_neg (by simp [ends d rfl])
    rw [List.cons_append, skipRun, if_pos first, dropped]

theorem exists_of_skipRun (skips : skipRun p cs = some rest) :
    ∃ run, run ≠ [] ∧ (∀ c ∈ run, p c = true) ∧ cs = run ++ rest := by
  cases cs with
  | nil => contradiction
  | cons c cs =>
    rw [skipRun] at skips
    split at skips
    · rename_i first
      obtain rfl := Option.some.inj skips
      refine ⟨c :: cs.takeWhile p, List.cons_ne_nil _ _, ?_, ?_⟩
      · exact List.forall_mem_cons.mpr ⟨first, fun _ => List.mem_takeWhile_imp⟩
      · rw [List.cons_append, List.takeWhile_append_dropWhile]
    · contradiction

end Runs

theorem closesOnLine_iff (cs : List Char) :
    closesOnLine cs = true ↔ ∃ body rest, cs = body ++ [')'] ++ rest ∧ '\n' ∉ body := by
  rw [closesOnLine, List.contains_iff_mem]
  constructor
  · intro closes
    obtain ⟨body, behind, split⟩ := List.append_of_mem closes
    refine ⟨body, behind ++ cs.dropWhile (· ≠ '\n'), ?_, fun feed => ?_⟩
    · conv => lhs; rw [← cs.takeWhile_append_dropWhile (p := (· ≠ '\n')), split]
      simp
    · have inside : '\n' ∈ cs.takeWhile (· ≠ '\n') := split ▸ List.mem_append_left _ feed
      simpa using List.mem_takeWhile_imp inside
  · rintro ⟨body, rest, rfl, whole⟩
    have all : ∀ c ∈ body ++ [')'], decide (c ≠ '\n') = true := by
      intro c member
      rcases List.mem_append.mp member with inside | last
      · exact decide_eq_true fun feed => whole (feed ▸ inside)
      · rw [List.mem_singleton.mp last]
        decide
    rw [List.takeWhile_append_of_pos all]
    simp

/-- The code points of white space, one by one. -/
def blankCodes : List Nat :=
  [0x09, 0x0A, 0x0B, 0x0C, 0x0D, 0x20, 0x85, 0xA0, 0x1680, 0x2000, 0x2001, 0x2002, 0x2003, 0x2004, 0x2005,
   0x2006, 0x2007, 0x2008, 0x2009, 0x200A, 0x2028, 0x2029, 0x202F, 0x205F, 0x3000]

theorem mem_blankCodes (blank : isBlank c = true) : c.toNat ∈ blankCodes := by
  simp only [isBlank, Bool.or_eq_true, Bool.and_eq_true, decide_eq_true_eq, beq_iff_eq] at blank
  simp only [blankCodes, List.mem_cons, List.not_mem_nil, or_false]
  omega

/-- No character is of both classes, so a run of the one ends where a run of the other starts. -/
theorem isWordChar_of_isBlank (blank : isBlank c = true) : isWordChar c = false := by
  have outside : ∀ n ∈ blankCodes, isWordChar (Char.ofNat n) = false := by decide +kernel
  rw [← Char.ofNat_toNat c]
  exact outside _ (mem_blankCodes blank)

theorem isBlank_of_isWordChar (word : isWordChar c = true) : isBlank c = false := by
  by_contra blank
  rw [isWordChar_of_isBlank (Bool.not_eq_false _ ▸ blank)] at word
  contradiction

theorem isWordChar_parenthesis : isWordChar '(' = false := by decide +kernel

theorem exists_of_isSignature {line : List Char} (signs : isSignature line = true) :
    ∃ s : Signature, s.WellFormed ∧ s.text = line := by
  unfold isSignature at signs
  split at signs
  · contradiction
  · rename_i afterType typed
    split at signs
    · contradiction
    · rename_i afterGap gapped
      split at signs
      · rename_i behind named
        obtain ⟨type, typeSome, typeAll, rfl⟩ := exists_of_skipRun typed
        obtain ⟨gap, gapSome, gapAll, rfl⟩ := exists_of_skipRun gapped
        obtain ⟨name, nameSome, nameAll, rfl⟩ := exists_of_skipRun named
        obtain ⟨parameters, rest, rfl, whole⟩ := (closesOnLine_iff behind).mp signs
        refine ⟨⟨type, gap, name, parameters, rest⟩,
          ⟨typeSome, typeAll, gapSome, gapAll, nameSome, nameAll, whole⟩, ?_⟩
        simp [Signature.text]
      · contradiction

theorem Signature.WellFormed.isSignature_text {s : Signature} (wellFormed : s.WellFormed) :
    isSignature s.text = true := by
  have parts : s.text =
      s.type ++ (s.gap ++ (s.name ++ '(' :: (s.parameters ++ [')'] ++ s.rest))) := by
    simp [text]
  have type : skipRun isWordChar s.text =
      some (s.gap ++ (s.name ++ '(' :: (s.parameters ++ [')'] ++ s.rest))) := by
    rw [parts]
    apply skipRun_append wellFormed.type_ne_nil wellFormed.type
    intro c first
    rw [List.head?_append_of_ne_nil _ wellFormed.gap_ne_nil] at first
    exact isWordChar_of_isBlank (wellFormed.gap c (List.mem_of_head? first))
  have gap : skipRun isBlank (s.gap ++ (s.name ++ '(' :: (s.parameters ++ [')'] ++ s.rest))) =
      some (s.name ++ '(' :: (s.parameters ++ [')'] ++ s.rest)) := by
    apply skipRun_append wellFormed.gap_ne_nil wellFormed.gap
    intro c first
    rw [List.head?_append_of_ne_nil _ wellFormed.name_ne_nil] at first
    exact isBlank_of_isWordChar (wellFormed.name c (List.mem_of_head? first))
  have name : skipRun isWordChar (s.name ++ '(' :: (s.parameters ++ [')'] ++ s.rest)) =
      some ('(' :: (s.parameters ++ [')'] ++ s.rest)) := by
    apply skipRun_append wellFormed.name_ne_nil wellFormed.name
    rintro c ⟨⟩
    exact isWordChar_parenthesis
  simp only [isSignature, type, gap, name]
  exact (closesOnLine_iff _).mpr ⟨s.parameters, s.rest, rfl, wellFormed.parameters⟩

/-- The scan of a line finds a way to take it apart as a signature if there is any. -/
theorem isSignature_iff (line : List Char) :
    isSignature line = true ↔ ∃ s : Signature, s.WellFormed ∧ s.text = line := by
  constructor
  · exact exists_of_isSignature
  · rintro ⟨s, wellFormed, rfl⟩
    exact wellFormed.isSignature_text

variable {conv : Convention} {line : String}

/-- A line that is no comment is recorded as a whole, and without documentation as it stands alone,
just if it can be taken apart as a signature. Otherwise nothing is recorded. -/
theorem ofLines_singleton_iff (other : ¬conv.mark.toList <+: line.toList) :
    (Procedures.ofLines conv [line] = [⟨line, ""⟩] ↔
      ∃ s : Signature, s.WellFormed ∧ s.text = line.toList) ∧
    (¬(∃ s : Signature, s.WellFormed ∧ s.text = line.toList) → Procedures.ofLines conv [line] = []) := by
  have noComment : conv.isComment line = false := by
    rw [Convention.isComment, Bool.eq_false_iff]
    exact fun starts => other (List.isPrefixOf_iff_prefix.mp starts)
  have found : Procedures.ofLines conv [line] =
      if isSignature line.toList then [⟨line, ""⟩] else [] := by
    rw [Procedures.ofLines, List.foldl_cons, List.foldl_nil, Scan.read_noComment _ _ noComment]
    split <;> rfl
  rw [found, ← isSignature_iff]
  cases isSignature line.toList <;> simp

/-- Parameters with parentheses in them, and a line feed behind the last one. -/
theorem ofLines_singleton_iff_nested :
    let conv : Convention := ⟨"// ", "done"⟩
    let line := "größe　	f(int (*g)(char))
)"
    (¬conv.mark.toList <+: line.toList) ∧ Procedures.ofLines conv [line] = [⟨line, ""⟩] := by
  intro conv line
  have other : ¬conv.mark.toList <+: line.toList := by
    rw [← List.isPrefixOf_iff_prefix]
    decide +kernel
  refine ⟨other, (ofLines_singleton_iff other).1.mpr ?_⟩
  refine ⟨⟨['g', 'r', 'ö', 'ß', 'e'], ['\u3000', '\t'], ['f'], "int (*g)(char".toList, [')', '\n', ')']⟩, ?_, ?_⟩
  · exact {
      type_ne_nil := List.cons_ne_nil _ _
      type := List.all_eq_true.mp (by decide +kernel)
      gap_ne_nil := List.cons_ne_nil _ _
      gap := List.all_eq_true.mp (by decide +kernel)
      name_ne_nil := List.cons_ne_nil _ _
      name := List.all_eq_true.mp (by decide +kernel)
      parameters := by decide +kernel }
  · decide +kernel

end DocAnswers.Comment
