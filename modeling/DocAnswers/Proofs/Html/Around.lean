import DocAnswers.Proofs.Html.Refill

/-! What stands around an element of a document: the elements that it is inside of, up to the nearest
template. The content of a template is a document of its own, so what is around the template is not
around its content. -/
namespace DocAnswers.Html

/-- Whether an element is a template. -/
def Located.isTemplate (l : Located) : Bool := l.element.isHtml "template"

/-- Whether the first of two elements is around the second, and no template is between them. -/
def Surrounds (among : List Located) (m l : Located) : Prop :=
  m ∈ among ∧ m.encloses l = true ∧
    ∀ t ∈ among, t.isTemplate = true → t.encloses l = true → t.encloses m = true

/-- Whether some template is around an element. -/
def Hidden (among : List Located) (l : Located) : Prop :=
  ∃ t ∈ among, t.isTemplate = true ∧ t.encloses l = true

/-- Whether an element stands around one of a list, where some elements stand around the list. -/
def StandsAround (among : List Located) (around : List Element) (l : Located) (e : Element) : Prop :=
  (∃ m, Surrounds among m l ∧ m.element = e) ∨ e ∈ around ∧ ¬Hidden among l

section Among
variable {ls ms : List Located} {root l m : Located} {around : List Element} {e : Element}

/-- Only the elements around an element matter. -/
theorem standsAround_iff_of_subset (part : ls ⊆ ms) (only : ∀ t ∈ ms, t.encloses l = true → t ∈ ls) :
    StandsAround ms around l e ↔ StandsAround ls around l e := by
  have surrounds (m : Located) : Surrounds ms m l ↔ Surrounds ls m l := by
    constructor
    · rintro ⟨member, encloses, apart⟩
      exact ⟨only m member encloses, encloses, fun t among => apart t (part among)⟩
    · rintro ⟨member, encloses, apart⟩
      exact ⟨part member, encloses, fun t among template inside =>
        apart t (only t among inside) template inside⟩
  have hidden : Hidden ms l ↔ Hidden ls l := by
    constructor
    · rintro ⟨t, among, template, inside⟩
      exact ⟨t, only t among inside, template, inside⟩
    · rintro ⟨t, among, holds⟩
      exact ⟨t, part among, holds⟩
  simp only [StandsAround, surrounds, hidden]

section Root
variable (holds : ∀ m ∈ ls, root.encloses m = true)

include holds in
/-- A root does not come between what is inside it, be it a template or not. -/
theorem surrounds_inside (below : m ∈ ls) : Surrounds (root :: ls) m l ↔ Surrounds ls m l := by
  constructor
  · rintro ⟨-, encloses, apart⟩
    exact ⟨below, encloses, fun t among => apart t (.tail _ among)⟩
  · rintro ⟨-, encloses, apart⟩
    exact ⟨.tail _ below, encloses, List.forall_mem_cons.mpr ⟨fun _ _ => holds m below, apart⟩⟩

variable (outermost : ∀ t ∈ root :: ls, t.encloses root = false)
include outermost

theorem standsAround_root : StandsAround (root :: ls) around root e ↔ e ∈ around := by
  have none : ∀ t ∈ root :: ls, t.encloses root ≠ true := fun t among => by simp [outermost t among]
  constructor
  · rintro (⟨m, ⟨member, encloses, -⟩, -⟩ | ⟨listed, -⟩)
    · exact absurd encloses (none m member)
    · exact listed
  · intro listed
    exact .inr ⟨listed, fun ⟨t, among, _, inside⟩ => none t among inside⟩

include holds

/-- A root is around something inside it unless a template is between them or the root is one. -/
theorem surrounds_root (member : l ∈ ls) :
    Surrounds (root :: ls) root l ↔ root.isTemplate = false ∧ ¬Hidden ls l := by
  have none : ∀ t ∈ root :: ls, t.encloses root ≠ true := fun t among => by simp [outermost t among]
  constructor
  · rintro ⟨-, encloses, apart⟩
    refine ⟨Bool.eq_false_iff.mpr fun template => ?_, ?_⟩
    · exact none root List.mem_cons_self (apart root List.mem_cons_self template encloses)
    · rintro ⟨t, among, template, inside⟩
      exact none t (.tail _ among) (apart t (.tail _ among) template inside)
  · rintro ⟨plain, shown⟩
    refine ⟨List.mem_cons_self, holds l member, List.forall_mem_cons.mpr ⟨?_, ?_⟩⟩
    · intro template
      simp [plain] at template
    · intro t among template inside
      exact absurd ⟨t, among, template, inside⟩ shown

/-- A root is around what is inside it, and what is around the root is too, unless it is a template. -/
theorem standsAround_inside (member : l ∈ ls) :
    StandsAround (root :: ls) around l e ↔
      StandsAround ls (root.element.aroundContent around) l e := by
  have among : (∃ m, Surrounds (root :: ls) m l ∧ m.element = e) ↔
      (Surrounds (root :: ls) root l ∧ root.element = e) ∨ ∃ m, Surrounds ls m l ∧ m.element = e := by
    constructor
    · rintro ⟨m, surrounds, is⟩
      rcases List.mem_cons.mp surrounds.1 with rfl | below
      · exact .inl ⟨surrounds, is⟩
      · exact .inr ⟨m, (surrounds_inside holds below).mp surrounds, is⟩
    · rintro (own | ⟨m, surrounds, is⟩)
      · exact ⟨root, own⟩
      · exact ⟨m, (surrounds_inside holds surrounds.1).mpr surrounds, is⟩
  rw [StandsAround, StandsAround, among, surrounds_root holds outermost member]
  by_cases template : root.isTemplate = true
  · have content : root.element.aroundContent around = [] := if_pos template
    have hidden : Hidden (root :: ls) l := ⟨root, List.mem_cons_self, template, holds l member⟩
    simp [content, hidden, template]
  · have content : root.element.aroundContent around = root.element :: around := if_neg template
    have hidden : Hidden (root :: ls) l ↔ Hidden ls l := by simp [Hidden, template]
    have plain : root.isTemplate = false := Bool.eq_false_iff.mpr template
    simp only [content, hidden, plain, true_and, List.mem_cons, @eq_comm _ e root.element]
    rw [@and_comm _ (root.element = e), @or_comm _ (∃ m, _), or_assoc, ← or_and_right]

end Root
end Among

namespace Content
variable {l t : Located} {e : Element}

theorem number_mem_of_mem {around : List Element} {cs : List Content}
    (member : l ∈ elementsAll around cs) : l.number ∈ numbersAll cs := by
  rw [← map_number_elementsAll around]
  exact List.mem_map_of_mem member

theorem encloses_iff (t l : Located) :
    t.encloses l = true ↔ l.number ∈ numbersAll t.inside := by
  rw [Located.encloses, List.contains_iff_mem, Located.descendants, map_number_elementsAll]

theorem number_mem_of_encloses {around : List Element} {cs : List Content}
    (member : t ∈ elementsAll around cs) (encloses : t.encloses l = true) :
    l.number ∈ numbersAll cs := by
  have inside := (List.sublist_cons_self _ _).trans (self_descendants_sublist_all around cs member)
  rw [← map_number_elementsAll around]
  exact (inside.map _).mem (List.contains_iff_mem.mp encloses)

mutual

theorem mem_around_iff (around : List Element) : (c : Content) → c.numbers.Nodup →
    l ∈ c.elements around → (e ∈ l.around ↔ StandsAround (c.elements around) around l e)
  | char _, _, member => by contradiction
  | element number f inside, distinct, member => by
    rw [numbers, List.nodup_cons] at distinct
    rw [elements] at member ⊢
    have outermost : ∀ t ∈ (⟨number, f, inside, around⟩ : Located) ::
        elementsAll (f.aroundContent around) inside,
        t.encloses ⟨number, f, inside, around⟩ = false := by
      intro t among
      refine Bool.eq_false_iff.mpr fun encloses => distinct.1 ?_
      rcases List.mem_cons.mp among with rfl | below
      · exact (encloses_iff _ _).mp encloses
      · exact number_mem_of_encloses below encloses
    rcases List.mem_cons.mp member with rfl | below
    · exact (standsAround_root outermost).symm
    · have holds : ∀ m ∈ elementsAll (f.aroundContent around) inside,
          (⟨number, f, inside, around⟩ : Located).encloses m = true := fun m among =>
        (encloses_iff _ _).mpr (number_mem_of_mem among)
      rw [standsAround_inside holds outermost below]
      exact mem_around_iff_all _ inside distinct.2 below

theorem mem_around_iff_all (around : List Element) : (cs : List Content) → (numbersAll cs).Nodup →
    l ∈ elementsAll around cs → (e ∈ l.around ↔ StandsAround (elementsAll around cs) around l e)
  | [], _, member => by contradiction
  | c :: cs, distinct, member => by
    rw [numbersAll, List.nodup_append'] at distinct
    obtain ⟨first, rest, apart⟩ := distinct
    rw [elementsAll] at member ⊢
    rcases List.mem_append.mp member with here | later
    · rw [standsAround_iff_of_subset (List.subset_append_left _ _)]
      · exact mem_around_iff around c first here
      · intro t among encloses
        rcases List.mem_append.mp among with before | behind
        · exact before
        · have number : l.number ∈ c.numbers := by
            rw [← map_number_elements around]
            exact List.mem_map_of_mem here
          exact absurd (number_mem_of_encloses behind encloses) (apart number)
    · rw [standsAround_iff_of_subset (List.subset_append_right _ _)]
      · exact mem_around_iff_all around cs rest later
      · intro t among encloses
        rcases List.mem_append.mp among with before | behind
        · have whole : t ∈ elementsAll around [c] := by simpa [elementsAll] using before
          have number := number_mem_of_encloses whole encloses
          rw [numbersAll, numbersAll, List.append_nil] at number
          exact absurd (number_mem_of_mem later) (apart number)
        · exact behind

end
end Content

namespace Document
variable {d : Document} {l : Located} {e : Element}

theorem whole_eq_elementsAll (d : Document) :
    d.whole = Content.elementsAll [] (d.content ++ d.removed) := by
  rw [whole, standing, Content.elementsAll_eq_flatMap, Content.elementsAll_eq_flatMap,
    List.flatMap_append]

theorem map_number_whole (d : Document) :
    d.whole.map (·.number) = Content.numbersAll (d.content ++ d.removed) := by
  rw [whole_eq_elementsAll, Content.map_number_elementsAll]

theorem nodup_whole_ofText (text : String) : ((ofText text).whole.map (·.number)).Nodup := by
  rw [map_number_whole]
  exact nodup_numbersAll_whole (Tree.Builder.Sound.empty.run _).linked

theorem mem_whole_of_mem_elements (member : l ∈ d.elements) : l ∈ d.whole := by
  rcases List.mem_append.mp (d.elements_perm.mem_iff.mp member) with stands | strays
  · exact List.mem_append_left _ stands
  · obtain ⟨c, removed, below⟩ := List.mem_flatMap.mp strays
    exact elements_subset_whole removed (List.mem_of_mem_tail below)

/-- Around an element of a document stand the elements that it is inside of without a template between. -/
theorem mem_around_iff (distinct : (d.whole.map (·.number)).Nodup) (member : l ∈ d.whole) :
    e ∈ l.around ↔ ∃ m, Surrounds d.whole m l ∧ m.element = e := by
  rw [map_number_whole] at distinct
  rw [whole_eq_elementsAll] at member ⊢
  rw [Content.mem_around_iff_all [] _ distinct member, StandsAround]
  simp

end Document
end DocAnswers.Html
