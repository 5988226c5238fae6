import DocAnswers.Proofs.Lookup.Selection
import Mathlib

/-! Documents to which elements are added that hold nothing, anywhere in them. What was there before
gets other numbers in the same order, and what is around it stays. So where the new elements are passed
over, a selector sees of the elements that are asked for what it saw before. -/
namespace DocAnswers.Html

section Sorting
variable {α : Type} {le : α → α → Bool} (trans : ∀ a b c, le a b = true → le b c = true → le a c = true)
  (total : ∀ a b, (le a b || le b a) = true)
include trans total

/-- What comes first in a list gets in front of what is not before it when the list is sorted. -/
theorem mergeSort_cons_eq (a : α) (l : List α) : (a :: l).mergeSort le =
    (l.mergeSort le).filter (!le a ·) ++ a :: (l.mergeSort le).filter (le a ·) := by
  obtain ⟨before, behind, sorted, rest, isBefore⟩ := List.mergeSort_cons trans total a l
  have isBehind : ∀ b ∈ behind, le a b = true := by
    have ordered := List.pairwise_mergeSort trans total (a :: l)
    rw [sorted] at ordered
    exact fun b member => List.rel_of_pairwise_cons (List.pairwise_append.mp ordered).2.1 member
  have ahead : (before ++ behind).filter (!le a ·) = before := by
    rw [List.filter_append, List.filter_eq_self.mpr isBefore,
      List.filter_eq_nil_iff.mpr (by simpa using isBehind), List.append_nil]
  have after : (before ++ behind).filter (le a ·) = behind := by
    rw [List.filter_append, List.filter_eq_self.mpr isBehind,
      List.filter_eq_nil_iff.mpr (by simpa using isBefore), List.nil_append]
  rw [sorted, rest, ahead, after]

/-- It is the same to pass over something before sorting and after it. -/
theorem filter_mergeSort (test : α → Bool) (l : List α) :
    (l.mergeSort le).filter test = (l.filter test).mergeSort le := by
  induction l with
  | nil => simp
  | cons a l ih =>
    by_cases stays : test a = true
    · have ahead := List.filter_comm test (!le a ·) (l.mergeSort le)
      have after := List.filter_comm test (le a ·) (l.mergeSort le)
      rw [mergeSort_cons_eq trans total, List.filter_append, List.filter_cons_of_pos stays, ahead,
        after, ih, List.filter_cons_of_pos stays, mergeSort_cons_eq trans total]
    · obtain ⟨before, behind, sorted, rest, -⟩ := List.mergeSort_cons trans total a l
      rw [sorted, List.filter_append, List.filter_cons_of_neg stays, ← List.filter_append, ← rest, ih,
        List.filter_cons_of_neg stays]

end Sorting

variable {new : Element → Prop} {later : Nat → Nat}

/-- Whether some content is other content to which elements are added that hold nothing, where the
elements that were there have got other numbers. -/
inductive Content.Adds (new : Element → Prop) (later : Nat → Nat) :
    List Content → List Content → Prop where
  | nil : Adds new later [] []
  | char (c : Char) {cs ds : List Content} : Adds new later cs ds →
      Adds new later (.char c :: cs) (.char c :: ds)
  | element (number : Nat) (e : Element) {cs ds inside inside' : List Content} :
      Adds new later inside inside' → Adds new later cs ds →
      Adds new later (.element number e inside :: cs) (.element (later number) e inside' :: ds)
  | added (number : Nat) {e : Element} {cs ds : List Content} : new e → Adds new later cs ds →
      Adds new later cs (.element number e [] :: ds)

/-- Whether a document is another one to which elements are added, in it or in what has been taken out
of it. The elements that were there are still in the order in which they were made. -/
structure Document.Adds (new : Element → Prop) (later : Nat → Nat) (d d' : Document) : Prop where
  order : StrictMono later
  content : Content.Adds new later d.content d'.content
  removed : Content.Adds new later d.removed d'.removed

/-- What selectors see of an element, under another number. -/
def Located.outline (later : Nat → Nat) (l : Located) : Located :=
  ⟨later l.number, l.element, [], l.around⟩

/-- What selectors see of the elements that pass a test. -/
def outlines (test : Element → Bool) (later : Nat → Nat) (ls : List Located) : List Located :=
  (ls.filter (test ·.element)).map (·.outline later)

section Test
variable {test : Element → Bool} {ls ms : List Located} {l : Located} {cs ds : List Content}

theorem outlines_append : outlines test later (ls ++ ms) =
    outlines test later ls ++ outlines test later ms := by
  rw [outlines, List.filter_append, List.map_append]
  rfl

theorem outlines_cons : outlines test later (l :: ls) =
    if test l.element then l.outline later :: outlines test later ls
    else outlines test later ls := by
  rw [outlines, List.filter_cons]
  split <;> rfl

/-- What is seen of the elements that a document is asked for is what is seen of all, in the order of
the new numbers too. -/
theorem Document.outlines_elements (order : StrictMono later) (d : Document) :
    outlines test later d.elements =
      (outlines test later d.held).mergeSort fun l m => l.number ≤ m.number := by
  have sorted : d.elements.filter (test ·.element) =
      (d.held.filter (test ·.element)).mergeSort fun l m => l.number ≤ m.number :=
    filter_mergeSort (by simp; omega) (by simp; omega) _ d.held
  rw [outlines, sorted, outlines]
  apply List.map_mergeSort
  intro l _ m _
  exact decide_eq_decide.mpr order.le_iff_le.symm

variable (passed : ∀ e, new e → test e = false)
include passed

namespace Content.Adds

theorem outlines_elementsAll (adds : Adds new later cs ds) (around : List Element) :
    outlines test id (elementsAll around ds) = outlines test later (elementsAll around cs) := by
  induction adds generalizing around with
  | nil => rfl
  | char c _ ih => exact ih around
  | element number e _ _ within rest =>
    rw [elementsAll, elementsAll, elements, elements, outlines_append, outlines_append,
      outlines_cons, outlines_cons, within, rest]
    rfl
  | added number isNew _ ih =>
    rw [elementsAll, elements, elementsAll, outlines_append, outlines_cons, passed _ isNew, ih]
    rfl

/-- What is added to what has been taken out of a document is passed over, as its own elements are. -/
theorem outlines_inside (adds : Adds new later cs ds) :
    outlines test id (ds.flatMap fun c => (c.elements []).tail) =
      outlines test later (cs.flatMap fun c => (c.elements []).tail) := by
  induction adds with
  | nil => rfl
  | char c _ ih => exact ih
  | element number e within _ _ rest =>
    rw [List.flatMap_cons, List.flatMap_cons, elements, elements, List.tail_cons, List.tail_cons,
      outlines_append, outlines_append, outlines_elementsAll passed within, rest]
  | added number isNew _ ih => exact ih

end Content.Adds

theorem Document.Adds.outlines_eq {d d' : Document} (adds : d.Adds new later d') :
    outlines test id d'.elements = outlines test later d.elements := by
  have standing := adds.content.outlines_elementsAll passed []
  have stranded := adds.removed.outlines_inside passed
  have held : outlines test id d'.held = outlines test later d.held := by
    rw [Document.held, Document.held, outlines_append, outlines_append, Document.standing,
      Document.standing, standing, Document.stranded, Document.stranded, stranded]
  rw [outlines_elements strictMono_id, outlines_elements adds.order, held]

end Test
end DocAnswers.Html
