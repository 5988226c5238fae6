import DocAnswers.Html.Selector

/-! Selectors that ask for a class or an id. An element without attributes has neither, so where there
are only such elements these selectors accept nothing, whatever else they ask for. -/
namespace DocAnswers.Html

/-- Whether a test looks for a class or an id. -/
def Test.isMark : Test → Bool
  | hasClass _ => true
  | hasId _ => true
  | _ => false

theorem Test.not_accepts_of_bare {t : Test} {e : Element} (mark : t.isMark = true)
    (bare : e.attributes = []) : t.accepts e = false := by
  have absent (name : String) : e.attribute? name = none := by
    rw [Element.attribute?, bare]
    rfl
  cases t with
  | any => contradiction
  | type name => contradiction
  | hasClass name => simp [accepts, Element.classes, absent]
  | hasId name => simp [accepts, absent]

namespace Compound

/-- Whether a compound looks for a class or an id among other things. -/
def isMarked (c : Compound) : Bool := c.any (·.isMark)

theorem not_accepts_of_bare {c : Compound} {e : Element} (marked : c.isMarked = true)
    (bare : e.attributes = []) : c.accepts e = false := by
  obtain ⟨t, among, mark⟩ := List.any_eq_true.mp marked
  refine List.all_eq_false.mpr ⟨t, among, ?_⟩
  rw [Test.not_accepts_of_bare mark bare]
  exact Bool.false_ne_true

end Compound

namespace Chain
variable {c : Chain} {l : Located} {compound : Compound}

def compounds (c : Chain) : List Compound := c.subject :: c.around.map (·.2)

theorem exists_of_fits {rest : List (Relation × Compound)} {es : List Element}
    (found : fits rest es = true) (member : compound ∈ rest.map (·.2)) :
    ∃ e ∈ es, compound.accepts e = true := by
  induction rest, es using fits.induct with
  | case1 es => contradiction
  | case2 first rest => contradiction
  | case3 c rest e es ih =>
    rw [fits, Bool.and_eq_true] at found
    rcases List.mem_cons.mp member with rfl | later
    · exact ⟨e, List.mem_cons_self, found.1⟩
    · obtain ⟨f, among, accepted⟩ := ih found.2 later
      exact ⟨f, .tail _ among, accepted⟩
  | case4 c rest e es ih further =>
    rw [fits, Bool.or_eq_true, Bool.and_eq_true] at found
    rcases found with ⟨accepted, found⟩ | found
    · rcases List.mem_cons.mp member with rfl | later
      · exact ⟨e, List.mem_cons_self, accepted⟩
      · obtain ⟨f, among, accepted⟩ := ih found later
        exact ⟨f, .tail _ among, accepted⟩
    · obtain ⟨f, among, accepted⟩ := further found member
      exact ⟨f, .tail _ among, accepted⟩

/-- In a row that accepts each compound has its element. -/
theorem exists_of_accepts (accepts : c.accepts l = true) (member : compound ∈ c.compounds) :
    ∃ e ∈ l.element :: l.around, compound.accepts e = true := by
  obtain ⟨own, found⟩ := Bool.and_eq_true_iff.mp accepts
  rcases List.mem_cons.mp member with rfl | later
  · exact ⟨l.element, List.mem_cons_self, own⟩
  · obtain ⟨e, among, accepted⟩ := exists_of_fits found later
    exact ⟨e, .tail _ among, accepted⟩

end Chain

/-- Whether every alternative looks for a class or an id in one of its compounds. -/
def Selector.isMarked (s : Selector) : Bool := s.all fun c => c.compounds.any (·.isMarked)

theorem Selector.not_accepts_of_bare {s : Selector} {l : Located} (marked : s.isMarked = true)
    (bare : ∀ e ∈ l.element :: l.around, e.attributes = []) : s.accepts l = false := by
  refine List.any_eq_false.mpr fun c alternative accepts => ?_
  obtain ⟨compound, member, asks⟩ := List.any_eq_true.mp (List.all_eq_true.mp marked c alternative)
  obtain ⟨e, around, accepted⟩ := Chain.exists_of_accepts accepts member
  rw [Compound.not_accepts_of_bare asks (bare e around)] at accepted
  contradiction

/-- A row of compounds with tests and relations of any kind. What else a compound asks of its element is
left open, and so is where the element for the next compound stands from it. -/
inductive WideChain where
  | last (c : Compound) (further : Located → Prop)
  | next (c : Compound) (further : Located → Prop) (stands : Located → Located → Prop)
      (rest : WideChain)

namespace WideChain
variable {row : WideChain} {compound : Compound} {es : List Located} {l : Located}

def compounds : WideChain → List Compound
  | last c _ => [c]
  | next c _ _ rest => c :: rest.compounds

def isMarked (row : WideChain) : Bool := row.compounds.any (·.isMarked)

/-- Whether a row picks an element, with elements among some given ones for its other compounds. -/
def Picks (es : List Located) : WideChain → Located → Prop
  | last c further, l => c.accepts l.element = true ∧ further l
  | next c further stands rest, l =>
    c.accepts l.element = true ∧ further l ∧ ∃ m ∈ es, stands l m ∧ rest.Picks es m

theorem exists_of_picks (picks : row.Picks es l) (among : l ∈ es) (member : compound ∈ row.compounds) :
    ∃ m ∈ es, compound.accepts m.element = true := by
  induction row generalizing l with
  | last c further =>
    obtain rfl := List.mem_singleton.mp member
    exact ⟨l, among, picks.1⟩
  | next c further stands rest ih =>
    obtain ⟨own, -, m, among', -, picks⟩ := picks
    rcases List.mem_cons.mp member with rfl | later
    · exact ⟨l, among, own⟩
    · exact ih picks among' later

theorem not_picks_of_bare (marked : row.isMarked = true)
    (bare : ∀ m ∈ es, m.element.attributes = []) (among : l ∈ es) : ¬row.Picks es l := by
  intro picks
  obtain ⟨compound, member, asks⟩ := List.any_eq_true.mp marked
  obtain ⟨m, among, accepted⟩ := exists_of_picks picks among member
  rw [Compound.not_accepts_of_bare asks (bare m among)] at accepted
  contradiction

end WideChain
end DocAnswers.Html
