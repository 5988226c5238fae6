import DocAnswers.Lookup.Basic
import DocAnswers.Proofs.Text.Words
import Mathlib

/-! What becomes of the white space in an answer. No answer is empty or has white space at its ends,
and what is left out of the text of the chosen element is white space: at the ends of code, and
everywhere in prose but for one space between two words. -/
namespace DocAnswers
open Text

namespace Answer

namespace Kind

theorem normalize_eq_nil_iff (kind : Kind) (raw : List Char) :
    kind.normalize raw = [] ↔ ∀ c ∈ raw, isBlank c = true := by
  cases kind with
  | codeBlock => exact trim_eq_nil_iff raw
  | inlineCode => exact trim_eq_nil_iff raw
  | prose =>
    have spaced := spaced_words raw
    rw [← spaced.eq_nil_iff]
    constructor
    · intro empty
      by_contra some
      exact (isClean_join (fun _ member => spaced.of_mem member) some).nonempty empty
    · intro none
      rw [normalize, none]
      rfl

theorem isClean_normalize (kind : Kind) {raw : List Char} (some : kind.normalize raw ≠ []) :
    IsClean (kind.normalize raw) := by
  cases kind with
  | codeBlock => exact isClean_trim some
  | inlineCode => exact isClean_trim some
  | prose =>
    refine isClean_join (fun _ member => (spaced_words raw).of_mem member) fun none => some ?_
    rw [normalize, none]
    rfl

theorem normalize_normalize (kind : Kind) (raw : List Char) :
    kind.normalize (kind.normalize raw) = kind.normalize raw := by
  cases kind with
  | codeBlock => exact trim_trim raw
  | inlineCode => exact trim_trim raw
  | prose => exact congrArg (join [' ']) (words_join_words raw)

theorem solids_normalize (kind : Kind) (raw : List Char) :
    solids (kind.normalize raw) = solids raw := by
  cases kind with
  | codeBlock => exact solids_trim raw
  | inlineCode => exact solids_trim raw
  | prose =>
    have spaced := spaced_words raw
    exact (spaced_join fun _ member => spaced.of_mem member).solids_eq.trans spaced.solids_eq.symm

theorem normalize_code {kind : Kind} (code : kind ≠ .prose) (raw : List Char) :
    kind.normalize raw = trim raw := by
  cases kind with
  | codeBlock => rfl
  | inlineCode => rfl
  | prose => contradiction

end Kind

theorem candidate?_eq_some_iff (answer : Html.Located) (kind : Kind) (c : Candidate) :
    candidate? answer kind = some c ↔ ∃ node, (answer.find kind.selector).head? = some node ∧
      kind.normalize node.text.toList ≠ [] ∧
      c = ⟨kind, String.ofList (kind.normalize node.text.toList)⟩ := by
  rw [candidate?]
  cases (answer.find kind.selector).head? with
  | none => simp
  | some node =>
    by_cases none : kind.normalize node.text.toList = []
    · simp [none]
    · simp [none, eq_comm (b := c)]

/-- What a page offers comes from the first element of its kind in the first answer. -/
theorem exists_of_extract? {p : Page} {c : Candidate} (found : extract? p = some c) :
    ∃ answer node, p.nth? (.hasClass "answer") 0 = some answer ∧
      (answer.find c.kind.selector).head? = some node ∧
      c.text.toList = c.kind.normalize node.text.toList ∧ c.text.toList ≠ [] := by
  obtain ⟨answer, first, best⟩ := Option.bind_eq_some_iff.mp found
  obtain ⟨kind, -, offers⟩ := List.exists_of_findSome?_eq_some best
  obtain ⟨node, chosen, some, rfl⟩ := (candidate?_eq_some_iff answer kind c).mp offers
  exact ⟨answer, node, first, chosen, String.toList_ofList, by rwa [String.toList_ofList]⟩

theorem isClean_absent : IsClean absent.toList where
  nonempty := by decide
  first := fun c member => by
    have first : absent.toList.head? = some '<' := by rfl
    cases first.symm.trans member
    rfl
  last := fun c member => by
    have last : absent.toList.getLast? = some '>' := by rfl
    cases last.symm.trans member
    rfl

end Answer

namespace Lookup
open Answer

theorem isClean_textOf (p : Page) : IsClean (textOf (extract? p)).toList := by
  cases found : extract? p with
  | none => exact isClean_absent
  | some c =>
    obtain ⟨answer, node, -, -, text, some⟩ := exists_of_extract? found
    rw [text] at some
    exact text ▸ c.kind.isClean_normalize some

theorem isClean_extract (l : Lookup) (links : List String) :
    IsClean (l.extract links).value.toList := by
  cases links with
  | nil => exact isClean_absent
  | cons first rest => exact isClean_textOf _

/-- An answer is never empty and has no white space at its ends, also where it only says that there is
none. Code is the text of its element but for the white space at the ends, prose is made of the words
of its element with one space between two of them. -/
theorem answers_are_clean :
    (∀ (l : Lookup) query, IsClean (l.search query).value.toList) ∧
    (∀ (l : Lookup) links, IsClean (l.extract links).value.toList) ∧
    (∀ p kind text, extract? p = some ⟨kind, text⟩ →
      ∃ answer node, p.nth? (.hasClass "answer") 0 = some answer ∧
        (answer.find kind.selector).head? = some node ∧
        let raw := node.text.toList
        (kind ≠ .prose → ∃ before after, raw = before ++ text.toList ++ after ∧
          ∀ c ∈ before ++ after, isBlank c = true) ∧
        (kind = .prose → ∃ ws, Spaced raw ws ∧ text.toList = [' '].intercalate ws ∧
          ∀ c ∈ text.toList, isBlank c = true → c = ' ') ∧
        solids text.toList = solids raw ∧ kind.normalize text.toList = text.toList) ∧
    ∀ (kind : Kind) (raw : List Char), kind.normalize raw = [] ↔ ∀ c ∈ raw, isBlank c = true := by
  refine ⟨fun l query => isClean_extract l _, isClean_extract, ?_, Kind.normalize_eq_nil_iff⟩
  intro p kind text found
  obtain ⟨answer, node, first, chosen, is, -⟩ := exists_of_extract? found
  refine ⟨answer, node, first, chosen, ?_, ?_, ?_, ?_⟩
  · intro code
    rw [is, Kind.normalize_code code]
    exact exists_trim _
  · rintro rfl
    have spaced := spaced_words node.text.toList
    refine ⟨_, spaced, is.trans (join_eq_intercalate _ _), fun c member blank => ?_⟩
    rw [is] at member
    exact eq_space_of_mem_join (fun _ member => spaced.of_mem member) member blank
  · rw [is]
    exact kind.solids_normalize _
  · rw [is]
    exact kind.normalize_normalize _

/-- Prose on two lines behind a blank block of code. -/
theorem answers_are_clean_prose :
    let page := Page.ofText "x"
      "<div class=\"answer\"><pre> </pre><p class=\"post-text\">one\n  two </p></div>"
    extract? page = some ⟨.prose, "one two"⟩ ∧
      ∃ answer node, page.nth? (.hasClass "answer") 0 = some answer ∧
        (answer.find Kind.prose.selector).head? = some node ∧
        solids "one two".toList = solids node.text.toList := by
  intro page
  have found : extract? page = some ⟨.prose, "one two"⟩ := by
    unfold page
    cbv
  obtain ⟨answer, node, first, chosen, -, -, kept, -⟩ := answers_are_clean.2.2.1 _ _ _ found
  exact ⟨found, answer, node, first, chosen, kept⟩

end Lookup
end DocAnswers
