import DocAnswers.Text.Blank
import Mathlib.Data.List.DropRight

/-! What is dropped at the ends of a text, and that nothing in between is. -/
namespace DocAnswers.Text

/-- A text that is not empty and neither starts nor ends with white space. -/
structure IsClean (cs : List Char) : Prop where
  nonempty : cs ≠ []
  first : ∀ c ∈ cs.head?, isBlank c = false
  last : ∀ c ∈ cs.getLast?, isBlank c = false

/-- Trimming drops white space in front and behind, and keeps what is between. -/
theorem exists_trim (cs : List Char) :
    ∃ before after, cs = before ++ trim cs ++ after ∧ ∀ c ∈ before ++ after, isBlank c = true := by
  have front : cs.takeWhile isBlank ++ trimStart cs = cs := List.takeWhile_append_dropWhile
  have back : trim cs ++ (trimStart cs).rtakeWhile isBlank = trimStart cs :=
    List.rdropWhile_append_rtakeWhile
  refine ⟨cs.takeWhile isBlank, (trimStart cs).rtakeWhile isBlank, ?_, ?_⟩
  · rw [List.append_assoc, back, front]
  · intro c member
    rcases List.mem_append.mp member with before | after
    · exact List.mem_takeWhile_imp before
    · exact List.mem_rtakeWhile_imp after

theorem trim_ne_nil (member : c ∈ cs) (solid : isBlank c = false) : trim cs ≠ [] := by
  obtain ⟨before, after, whole, blank⟩ := exists_trim cs
  intro empty
  rw [whole, empty, List.append_nil] at member
  rw [blank c member] at solid
  contradiction

theorem trim_eq_nil_iff (cs : List Char) : trim cs = [] ↔ ∀ c ∈ cs, isBlank c = true := by
  constructor
  · intro empty c member
    exact (Bool.not_eq_false _).mp fun solid => trim_ne_nil member solid empty
  · intro blank
    rw [trim, trimStart, List.dropWhile_eq_nil_iff.mpr blank]
    rfl

/-- The characters of a text that are not white space. -/
def solids (cs : List Char) : List Char := cs.filter fun c => !isBlank c

theorem solids_append (front back : List Char) :
    solids (front ++ back) = solids front ++ solids back := List.filter_append _ _

theorem solids_eq_nil_iff (cs : List Char) : solids cs = [] ↔ ∀ c ∈ cs, isBlank c = true := by
  simp [solids]

theorem solids_eq_self (solid : ∀ c ∈ cs, isBlank c = false) : solids cs = cs :=
  List.filter_eq_self.mpr (by simpa using solid)

/-- Only white space is dropped. -/
theorem solids_trim (cs : List Char) : solids (trim cs) = solids cs := by
  obtain ⟨before, after, whole, blank⟩ := exists_trim cs
  obtain ⟨front, back⟩ := List.forall_mem_append.mp blank
  conv => rhs; rw [whole]
  rw [solids_append, solids_append, (solids_eq_nil_iff before).mpr front,
    (solids_eq_nil_iff after).mpr back, List.nil_append, List.append_nil]

theorem isClean_trim (some : trim cs ≠ []) : IsClean (trim cs) where
  nonempty := some
  first c starts := by
    obtain ⟨rest, split⟩ : trim cs <+: trimStart cs := List.rdropWhile_prefix _ _
    have start : (trimStart cs).head? = .some c := by
      rwa [← split, List.head?_append_of_ne_nil _ some]
    have solid := List.head?_dropWhile_not isBlank cs
    rw [trimStart] at start
    rwa [start] at solid
  last c ends := by
    have solid : ¬isBlank ((trim cs).getLast some) = true := List.rdropWhile_last_not _ _ some
    rw [List.getLast?_eq_some_getLast some] at ends
    rwa [Option.some.inj ends, Bool.not_eq_true] at solid

theorem IsClean.trim_eq (clean : IsClean cs) : trim cs = cs := by
  have start : trimStart cs = cs := by
    cases cs with
    | nil => rfl
    | cons c cs => exact List.dropWhile_cons_of_neg (by simp [clean.first c rfl])
  rw [trim, start]
  refine List.rdropWhile_eq_self_iff.mpr fun some => ?_
  simp [clean.last _ (List.getLast?_eq_some_getLast some)]

theorem trim_trim (cs : List Char) : trim (trim cs) = trim cs := by
  by_cases none : trim cs = []
  · rw [none]
    rfl
  · exact (isClean_trim none).trim_eq

end DocAnswers.Text
