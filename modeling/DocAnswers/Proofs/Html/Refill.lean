import DocAnswers.Proofs.Lookup.Selection
import Mathlib

/-! Documents in which the content of some elements is replaced. An element that is not inside a
refilled one stays where it is, and what comes before it is what came before it already or new. So the
first element that passes a test stays the first one where nothing that passes it is put before it. -/
namespace DocAnswers.Html

namespace Content
variable (new : Nat → Option (List Content))

mutual

/-- Some content where the elements with certain numbers hold something new. -/
def refill : Content → Content
  | char c => char c
  | element number e inside => element number e ((new number).getD (refillAll inside))

def refillAll : List Content → List Content
  | [] => []
  | c :: cs => refill c :: refillAll cs

end
end Content

namespace Located

/-- What stands around the content of an element. -/
def inner (l : Located) : List Element := l.element.aroundContent l.around

def refill (new : Nat → Option (List Content)) (l : Located) : Located :=
  { l with inside := (new l.number).getD (Content.refillAll new l.inside) }

end Located

namespace Document

def refill (new : Nat → Option (List Content)) (d : Document) : Document where
  content := Content.refillAll new d.content
  removed := Content.refillAll new d.removed

/-- The elements of a document, with those that have been taken out of it. -/
def whole (d : Document) : List Located := d.standing ++ d.removed.flatMap (·.elements [])

end Document

section Origins
variable {new : Nat → Option (List Content)} {ls ms before : List Located} {l m n : Located}

/-- Whether an element is one of those in a list, refilled, or new inside one of them. -/
def ComesFrom (new : Nat → Option (List Content)) (ls : List Located) (m : Located) : Prop :=
  ∃ l ∈ ls, m = l.refill new ∨ ∃ content ∈ new l.number, m ∈ Content.elementsAll l.inner content

theorem ComesFrom.mono (comes : ComesFrom new ls m) (part : ls ⊆ ms) : ComesFrom new ms m := by
  obtain ⟨l, member, comes⟩ := comes
  exact ⟨l, part member, comes⟩

/-- Whether an element that had something before it is in a list after refilling, and behind nothing
but what has come of that. -/
def Stays (new : Nat → Option (List Content)) (before : List Located) (n : Located)
    (refilled : List Located) : Prop :=
  ∃ before' after, refilled = before' ++ n.refill new :: after ∧ ∀ m ∈ before', ComesFrom new before m

namespace Stays

theorem head (n : Located) (after : List Located) : Stays new [] n (n.refill new :: after) :=
  ⟨[], after, rfl, by simp⟩

theorem append (stays : Stays new before n ls) (later : List Located) :
    Stays new before n (ls ++ later) := by
  obtain ⟨before', after, rfl, origin⟩ := stays
  exact ⟨before', after ++ later, by simp, origin⟩

theorem prepend (stays : Stays new before n ls) {earlier : List Located}
    (origin : ∀ m ∈ ms, ComesFrom new earlier m) : Stays new (earlier ++ before) n (ms ++ ls) := by
  obtain ⟨before', after, rfl, origin'⟩ := stays
  refine ⟨ms ++ before', after, by simp, ?_⟩
  intro m member
  rcases List.mem_append.mp member with first | second
  · exact (origin m first).mono (List.subset_append_left _ _)
  · exact (origin' m second).mono (List.subset_append_right _ _)

theorem cons (stays : Stays new before n ls) (l : Located) :
    Stays new (l :: before) n (l.refill new :: ls) := by
  have origin (m : Located) (member : m ∈ [l.refill new]) : ComesFrom new [l] m :=
    ⟨l, List.mem_singleton_self l, .inl (List.mem_singleton.mp member)⟩
  exact stays.prepend origin

theorem mem (stays : Stays new before n ls) : n.refill new ∈ ls := by
  obtain ⟨before', after, rfl, -⟩ := stays
  exact List.mem_append_right _ List.mem_cons_self

end Stays

namespace Content

theorem elements_refill (around : List Element) (number : Nat) (e : Element)
    (inside : List Content) :
    ((element number e inside).refill new).elements around =
      Located.refill new ⟨number, e, inside, around⟩ ::
        elementsAll (e.aroundContent around) ((new number).getD (refillAll new inside)) := by
  rfl

theorem refillAll_eq_map (cs : List Content) : refillAll new cs = cs.map (refill new) := by
  induction cs with
  | nil => rfl
  | cons c cs ih => rw [refillAll, ih, List.map_cons]

mutual

theorem comesFrom_of_mem (around : List Element) : (c : Content) →
    m ∈ (c.refill new).elements around → ComesFrom new (c.elements around) m
  | char _, member => by contradiction
  | element number e inside, member => by
    rw [elements_refill] at member
    rw [elements]
    rcases List.mem_cons.mp member with rfl | below
    · exact ⟨_, List.mem_cons_self, .inl rfl⟩
    · cases replaced : new number with
      | some content =>
        rw [replaced] at below
        exact ⟨_, List.mem_cons_self, .inr ⟨content, replaced, below⟩⟩
      | none =>
        rw [replaced] at below
        exact (comesFrom_of_mem_all _ inside below).mono (List.subset_cons_self _ _)

theorem comesFrom_of_mem_all (around : List Element) : (cs : List Content) →
    m ∈ elementsAll around (refillAll new cs) → ComesFrom new (elementsAll around cs) m
  | [], member => by contradiction
  | c :: cs, member => by
    rw [refillAll, elementsAll] at member
    rw [elementsAll]
    rcases List.mem_append.mp member with first | later
    · exact (comesFrom_of_mem around c first).mono (List.subset_append_left _ _)
    · exact (comesFrom_of_mem_all around cs later).mono (List.subset_append_right _ _)

end

mutual

theorem stays (around : List Element) {after : List Located} : (c : Content) →
    (before : List Located) → c.elements around = before ++ n :: after →
    (∀ l ∈ before, new l.number ≠ none → n ∉ l.descendants) →
    Stays new before n ((c.refill new).elements around)
  | char _, before, place, _ => by cases before <;> contradiction
  | element number e inside, [], place, _ => by
    obtain ⟨rfl, -⟩ := List.cons.inj place
    exact .head _ _
  | element number e inside, root :: before, place, apart => by
    obtain ⟨rfl, below⟩ := List.cons.inj place
    have member : n ∈ elementsAll (e.aroundContent around) inside := by
      rw [below]
      exact List.mem_append_right _ List.mem_cons_self
    -- The root holds the element that is to stay, so the root is not refilled itself.
    have kept : new number = none := by
      by_contra replaced
      exact apart _ List.mem_cons_self replaced member
    rw [elements_refill, kept, Option.getD_none]
    exact (stays_all _ inside before below fun l member => apart l (.tail _ member)).cons _

theorem stays_all (around : List Element) {after : List Located} : (cs : List Content) →
    (before : List Located) → elementsAll around cs = before ++ n :: after →
    (∀ l ∈ before, new l.number ≠ none → n ∉ l.descendants) →
    Stays new before n (elementsAll around (refillAll new cs))
  | [], before, place, _ => by cases before <;> contradiction
  | c :: cs, before, place, apart => by
    rw [elementsAll] at place
    rw [refillAll, elementsAll]
    have origin (m : Located) (member : m ∈ (c.refill new).elements around) :=
      comesFrom_of_mem around c member
    rcases List.append_eq_append_iff.mp place with ⟨before', rfl, later⟩ | ⟨rest, first, later⟩
    · exact (stays_all around cs before' later fun l member =>
        apart l (List.mem_append_right _ member)).prepend origin
    · cases rest with
      | nil =>
        -- The element is the very first one behind the first content.
        rw [List.append_nil] at first
        subst first
        simpa using (stays_all around cs [] later.symm (by simp)).prepend origin
      | cons n' rest =>
        obtain ⟨rfl, -⟩ := List.cons.inj later
        exact (stays around c before first apart).append _

end
end Content

namespace Located
variable {e first : Located} {test : Element → Bool}

/-- The first element inside another one that passes a test. -/
def first? (e : Located) (test : Element → Bool) : Option Located :=
  e.descendants.find? (test ·.element)

/-- The elements inside another one that come before the first that passes a test. -/
def passed (e : Located) (test : Element → Bool) : List Located :=
  e.descendants.takeWhile (!test ·.element)

theorem fails_of_mem_passed (member : l ∈ e.passed test) : test l.element = false := by
  simpa using List.mem_takeWhile_imp member

theorem passed_of_first?_none (none : e.first? test = none) : e.passed test = e.descendants := by
  rw [first?, List.find?_eq_none] at none
  exact List.takeWhile_eq_self_iff.mpr (by simpa using none)

theorem descendants_of_first?_some (found : e.first? test = some first) :
    test first.element = true ∧ ∃ after, e.descendants = e.passed test ++ first :: after := by
  obtain ⟨passes, before, after, place, failed⟩ := List.find?_eq_some_iff_append.mp found
  refine ⟨passes, after, ?_⟩
  rw [passed, place, List.takeWhile_append_of_pos failed,
    List.takeWhile_cons_of_neg (by simp [passes]), List.append_nil]

theorem descendants_refill (kept : new e.number = none) :
    (e.refill new).descendants = Content.elementsAll e.inner (Content.refillAll new e.inside) := by
  rw [refill, kept]
  rfl

theorem not_mem_of_encloses (apart : l.encloses n = false) : n ∉ l.descendants := by
  intro below
  have inside : l.encloses n = true := List.contains_iff_mem.mpr (List.mem_map_of_mem below)
  rw [inside] at apart
  contradiction

/-- Whether the first element inside another one that passes a test is the first one after refilling
too, with the text it had. What comes before it may be refilled with what does not pass, unless it is
inside that itself. -/
@[mk_iff]
structure Keeps (new : Nat → Option (List Content)) (test : Element → Bool) (e : Located) : Prop where
  ahead : ∀ l ∈ e.passed test, ∀ content ∈ new l.number,
    ∀ m ∈ Content.elementsAll l.inner content, test m.element = false
  apart : ∀ l ∈ e.passed test, new l.number ≠ none →
    ∀ first ∈ e.first? test, l.encloses first = false
  text : ∀ first ∈ e.first? test, (first.refill new).text = first.text

instance (new : Nat → Option (List Content)) (test : Element → Bool) (e : Located) :
    Decidable (e.Keeps new test) :=
  decidable_of_iff' _ (keeps_iff new test e)

namespace Keeps
variable (keeps : e.Keeps new test)
include keeps

theorem fails_of_comesFrom (comes : ComesFrom new (e.passed test) m) : test m.element = false := by
  obtain ⟨l, member, rfl | ⟨content, replaced, inside⟩⟩ := comes
  · have fails : test l.element = false := fails_of_mem_passed member
    exact fails
  · exact keeps.ahead l member content replaced m inside

theorem first?_refill (kept : new e.number = none) :
    (e.refill new).first? test = (e.first? test).map (·.refill new) := by
  rw [first?, descendants_refill kept]
  cases found : e.first? test with
  | none =>
    rw [Option.map_none, List.find?_eq_none]
    intro m member
    have comes : ComesFrom new e.descendants m := Content.comesFrom_of_mem_all _ _ member
    rw [← passed_of_first?_none found] at comes
    simp [keeps.fails_of_comesFrom comes]
  | some first =>
    obtain ⟨passes, after, place⟩ := descendants_of_first?_some found
    obtain ⟨before', after', is, origin⟩ := Content.stays_all e.inner e.inside _ place
      fun l member replaced => not_mem_of_encloses (keeps.apart l member replaced first found)
    rw [is, Option.map_some, List.find?_eq_some_iff_append]
    refine ⟨passes, before', after', rfl, fun m member => ?_⟩
    simp [keeps.fails_of_comesFrom (origin m member)]

end Keeps
end Located

namespace Document
variable {d : Document} {e : Located} {c : Content}

theorem elements_subset_whole (removed : c ∈ d.removed) : c.elements [] ⊆ d.whole := fun _ member =>
  List.mem_append_right _ (List.mem_flatMap_of_mem removed member)

theorem removed_refill : (d.refill new).removed = d.removed.map (Content.refill new) :=
  Content.refillAll_eq_map d.removed

/-- The elements of a refilled document are those it had, refilled, and new ones. -/
theorem mem_held_refill (member : m ∈ (d.refill new).held) : (∃ l ∈ d.held, m = l.refill new) ∨
    ∃ l ∈ d.whole, ∃ content ∈ new l.number, m ∈ Content.elementsAll l.inner content := by
  rcases List.mem_append.mp member with stands | strays
  · obtain ⟨l, stood, rfl | fresh⟩ := Content.comesFrom_of_mem_all [] d.content stands
    · exact .inl ⟨l, List.mem_append_left _ stood, rfl⟩
    · exact .inr ⟨l, List.mem_append_left _ stood, fresh⟩
  · rw [stranded, removed_refill, List.flatMap_map] at strays
    obtain ⟨c, removed, below⟩ := List.mem_flatMap.mp strays
    have part := elements_subset_whole removed
    cases c with
    | char => contradiction
    | element number f inside =>
      rw [Content.elements_refill, List.tail_cons] at below
      cases replaced : new number with
      | some content =>
        rw [replaced] at below
        exact .inr ⟨_, part List.mem_cons_self, content, replaced, below⟩
      | none =>
        rw [replaced] at below
        obtain ⟨l, strayed, rfl | fresh⟩ := Content.comesFrom_of_mem_all _ inside below
        · exact .inl ⟨l, List.mem_append_right _ (List.mem_flatMap_of_mem removed strayed), rfl⟩
        · exact .inr ⟨l, part (.tail _ strayed), fresh⟩

/-- An element that is not inside a refilled one is still there. -/
theorem refill_mem_held (member : e ∈ d.held)
    (apart : ∀ l ∈ d.whole, new l.number ≠ none → l.encloses e = false) :
    e.refill new ∈ (d.refill new).held := by
  have outside (l : Located) (among : l ∈ d.whole) (replaced : new l.number ≠ none) :
      e ∉ l.descendants := Located.not_mem_of_encloses (apart l among replaced)
  rcases List.mem_append.mp member with stands | strays
  · obtain ⟨before, after, place⟩ := List.append_of_mem stands
    have stays := Content.stays_all [] d.content before place fun l among =>
      outside l (List.mem_append_left _ (place ▸ List.mem_append_left _ among))
    exact List.mem_append_left _ stays.mem
  · obtain ⟨c, removed, below⟩ := List.mem_flatMap.mp strays
    have part := elements_subset_whole removed
    apply List.mem_append_right
    rw [stranded, removed_refill, List.flatMap_map]
    refine List.mem_flatMap_of_mem removed ?_
    cases c with
    | char => contradiction
    | element number f inside =>
      have kept : new number = none := by
        by_contra replaced
        exact outside _ (part List.mem_cons_self) replaced below
      rw [Content.elements, List.tail_cons] at below
      obtain ⟨before, after, place⟩ := List.append_of_mem below
      have stays := Content.stays_all _ inside before place fun l among =>
        outside l (part (.tail _ (place ▸ List.mem_append_left _ among)))
      rw [Content.elements_refill, List.tail_cons, kept]
      exact stays.mem

end Document
end Origins
end DocAnswers.Html
