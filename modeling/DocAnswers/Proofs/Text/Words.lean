import DocAnswers.Proofs.Text.Cut
import DocAnswers.Proofs.Text.Trim

/-! The words of a text are what stands between its white space. Put together again with single
spaces they make a text of the same words, so that nothing but white space is lost. -/
namespace DocAnswers.Text

/-- Some words as they stand in a text: each is without white space, as long as it can be, and there
is nothing but white space around them. -/
inductive Spaced : List Char → List (List Char) → Prop where
  | nothing {cs} (blank : ∀ c ∈ cs, isBlank c = true) : Spaced cs []
  | word {before w rest ws} (blank : ∀ c ∈ before, isBlank c = true) (some : w ≠ [])
      (solid : ∀ c ∈ w, isBlank c = false) (ends : ∀ c ∈ rest.head?, isBlank c = true)
      (later : Spaced rest ws) : Spaced (before ++ w ++ rest) (w :: ws)

theorem words_append_blank (blank : isBlank c = true) (front back : List Char) :
    words (front ++ c :: back) = words front ++ words back := by
  rw [words, cut_append_cons blank, List.filter_append]
  rfl

theorem words_cons_blank (blank : isBlank c = true) (cs : List Char) : words (c :: cs) = words cs :=
  words_append_blank blank [] cs

theorem words_blank_append (blank : ∀ c ∈ before, isBlank c = true) (cs : List Char) :
    words (before ++ cs) = words cs := by
  induction before with
  | nil => rfl
  | cons c before ih =>
    obtain ⟨first, later⟩ := List.forall_mem_cons.mp blank
    rw [List.cons_append, words_cons_blank first, ih later]

theorem words_of_solid {w : List Char} (some : w ≠ []) (solid : ∀ c ∈ w, isBlank c = false) :
    words w = [w] := by
  rw [words, cut_eq_singleton solid]
  simp [some]

namespace Spaced
variable {cs : List Char} {ws : List (List Char)}

theorem words_eq (spaced : Spaced cs ws) : words cs = ws := by
  induction spaced with
  | @nothing cs blank =>
    rw [← List.append_nil cs, words_blank_append blank]
    rfl
  | @word before w rest ws blank some solid ends later ih =>
    rw [List.append_assoc, words_blank_append blank]
    cases rest with
    | nil =>
      rw [List.append_nil, words_of_solid some solid, ← ih]
      rfl
    | cons c rest =>
      have ended : isBlank c = true := ends c rfl
      rw [words_cons_blank ended] at ih
      rw [words_append_blank ended, words_of_solid some solid, ih, List.singleton_append]

/-- A word at the very front. -/
theorem word_append (some : w ≠ []) (solid : ∀ c ∈ w, isBlank c = false)
    (ends : ∀ c ∈ cs.head?, isBlank c = true) (later : Spaced cs ws) :
    Spaced (w ++ cs) (w :: ws) :=
  .word (List.forall_mem_nil _) some solid ends later

theorem blank_cons (blank : isBlank c = true) (spaced : Spaced cs ws) : Spaced (c :: cs) ws := by
  cases spaced with
  | nothing all => exact .nothing (List.forall_mem_cons.mpr ⟨blank, all⟩)
  | word before some solid ends later =>
    exact .word (List.forall_mem_cons.mpr ⟨blank, before⟩) some solid ends later

/-- A character before a text is a word by itself, or it belongs to the first word there. -/
theorem solid_cons (solid : isBlank c = false) (spaced : Spaced cs ws) :
    ∃ ws', Spaced (c :: cs) ws' := by
  have own : ∀ d ∈ [c], isBlank d = false := List.forall_mem_singleton.mpr solid
  cases spaced with
  | nothing all =>
    have ends : ∀ d ∈ cs.head?, isBlank d = true := fun d first => all d (List.mem_of_head? first)
    exact ⟨[[c]], word_append (by simp) own ends (.nothing all)⟩
  | @word before w rest ws blank some inside ends later =>
    cases before with
    | nil =>
      exact ⟨(c :: w) :: ws,
        word_append (by simp) (List.forall_mem_cons.mpr ⟨solid, inside⟩) ends later⟩
    | cons b before =>
      have ended : ∀ d ∈ (b :: before ++ w ++ rest).head?, isBlank d = true := by
        rintro d ⟨⟩
        exact blank b List.mem_cons_self
      exact ⟨[c] :: w :: ws, word_append (by simp) own ended (.word blank some inside ends later)⟩

end Spaced

theorem exists_spaced (cs : List Char) : ∃ ws, Spaced cs ws := by
  induction cs with
  | nil => exact ⟨[], .nothing (by simp)⟩
  | cons c cs ih =>
    obtain ⟨ws, spaced⟩ := ih
    cases kind : isBlank c with
    | true => exact ⟨ws, spaced.blank_cons kind⟩
    | false => exact spaced.solid_cons kind

theorem words_eq_iff (cs : List Char) (ws : List (List Char)) : words cs = ws ↔ Spaced cs ws := by
  constructor
  · rintro rfl
    obtain ⟨ws, spaced⟩ := exists_spaced cs
    rwa [spaced.words_eq]
  · exact Spaced.words_eq

theorem spaced_words (cs : List Char) : Spaced cs (words cs) := (words_eq_iff cs _).mp rfl

namespace Spaced
variable {cs : List Char} {ws : List (List Char)}

theorem of_mem (spaced : Spaced cs ws) (member : w ∈ ws) :
    w ≠ [] ∧ ∀ c ∈ w, isBlank c = false := by
  induction spaced with
  | nothing => contradiction
  | word _ some solid _ _ ih =>
    rcases List.mem_cons.mp member with rfl | later
    · exact ⟨some, solid⟩
    · exact ih later

/-- The words are all there is besides white space. -/
theorem solids_eq (spaced : Spaced cs ws) : solids cs = ws.flatten := by
  induction spaced with
  | nothing blank => exact (solids_eq_nil_iff _).mpr blank
  | @word before w rest ws blank _ solid _ _ ih =>
    rw [solids_append, solids_append, (solids_eq_nil_iff before).mpr blank, solids_eq_self solid, ih,
      List.nil_append, List.flatten_cons]

theorem eq_nil_iff (spaced : Spaced cs ws) : ws = [] ↔ ∀ c ∈ cs, isBlank c = true := by
  constructor
  · rintro rfl
    exact (solids_eq_nil_iff cs).mp spaced.solids_eq
  · intro blank
    exact spaced.words_eq.symm.trans (Spaced.nothing blank).words_eq

end Spaced

section Join
variable {ws : List (List Char)} (proper : ∀ w ∈ ws, w ≠ [] ∧ ∀ c ∈ w, isBlank c = false)
include proper

theorem spaced_join : Spaced (join [' '] ws) ws := by
  induction ws with
  | nil => exact .nothing (by simp [join])
  | cons w ws ih =>
    obtain ⟨⟨some, solid⟩, later⟩ := List.forall_mem_cons.mp proper
    cases ws with
    | nil =>
      have alone : Spaced (w ++ []) [w] := .word_append some solid (by simp) (.nothing (by simp))
      rwa [List.append_nil] at alone
    | cons v ws =>
      have space : isBlank ' ' = true := by decide
      have ends : ∀ c ∈ (' ' :: join [' '] (v :: ws)).head?, isBlank c = true := by
        rintro c ⟨⟩
        exact space
      rw [join, List.append_assoc, List.singleton_append]
      · exact .word_append some solid ends ((ih later).blank_cons space)
      · simp

theorem eq_space_of_mem_join (member : c ∈ join [' '] ws) (blank : isBlank c = true) : c = ' ' := by
  induction ws with
  | nil => contradiction
  | cons w ws ih =>
    obtain ⟨⟨-, solid⟩, later⟩ := List.forall_mem_cons.mp proper
    have outside : c ∉ w := fun inside => by simp [solid c inside] at blank
    cases ws with
    | nil => exact absurd member outside
    | cons v ws =>
      rcases List.mem_append.mp member with front | back
      · rcases List.mem_append.mp front with inside | between
        · exact absurd inside outside
        · exact List.mem_singleton.mp between
      · exact ih later back

theorem isClean_join (some : ws ≠ []) : IsClean (join [' '] ws) := by
  induction ws with
  | nil => contradiction
  | cons w ws ih =>
    obtain ⟨⟨nonempty, solid⟩, later⟩ := List.forall_mem_cons.mp proper
    cases ws with
    | nil =>
      exact ⟨nonempty, fun c first => solid c (List.mem_of_head? first),
        fun c last => solid c (List.mem_of_getLast? last)⟩
    | cons v ws =>
      have rest : IsClean (join [' '] (v :: ws)) := ih later (by simp)
      refine ⟨by simp [join], fun c first => ?_, fun c last => ?_⟩
      · rw [join, List.append_assoc, List.head?_append_of_ne_nil _ nonempty] at first
        · exact solid c (List.mem_of_head? first)
        · simp
      · rw [join, List.getLast?_append_of_ne_nil _ rest.nonempty] at last
        · exact rest.last c last
        · simp

end Join

theorem words_join_words (cs : List Char) : words (join [' '] (words cs)) = words cs :=
  (spaced_join fun _ member => (spaced_words cs).of_mem member).words_eq

end DocAnswers.Text
