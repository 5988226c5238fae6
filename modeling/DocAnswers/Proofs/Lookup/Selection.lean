import DocAnswers.Lookup.Search
import DocAnswers.Proofs.Html.Forest
import Mathlib

/-! Which elements of a page a selector finds, and in which order. A whole page is gone through in the
order in which its elements were made, also where some of them were put before others or taken out
again; what is inside an element is gone through in the order in which it stands. -/
namespace DocAnswers
open Html Html.Document

namespace Html

/-- A name in small letters is looked for as it is. -/
theorem Test.accepts_type {name : String} (small : toLower name.toList = name.toList)
    (e : Element) : (Test.type name).accepts e = (e.name == name) := by
  rw [accepts, small, String.ofList_toList, ite_self]

theorem Selector.accepts_single (t : Test) (l : Located) :
    accepts [{ subject := [t] }] l = t.accepts l.element := by
  simp [accepts, Chain.accepts, Chain.fits, Compound.accepts]

namespace Located

/-- Whether another element is inside an element. -/
def encloses (e l : Located) : Bool := (e.descendants.map (·.number)).contains l.number

end Located

namespace Content

mutual

theorem self_descendants_sublist {e : Located} (around : List Element) : (c : Content) →
    e ∈ c.elements around → (e :: e.descendants).Sublist (c.elements around)
  | char _, member => by contradiction
  | element number f inside, member => by
    rw [elements] at member ⊢
    rcases List.mem_cons.mp member with rfl | below
    · exact .refl _
    · exact .cons _ (self_descendants_sublist_all _ inside below)

theorem self_descendants_sublist_all {e : Located} (around : List Element) : (cs : List Content) →
    e ∈ elementsAll around cs → (e :: e.descendants).Sublist (elementsAll around cs)
  | [], member => by contradiction
  | c :: cs, member => by
    rw [elementsAll] at member ⊢
    rcases List.mem_append.mp member with first | later
    · exact (self_descendants_sublist around c first).trans (List.sublist_append_left _ _)
    · exact (self_descendants_sublist_all around cs later).trans (List.sublist_append_right _ _)

end
end Content

namespace Document
variable {d : Document} {e : Located}

/-- All elements of a document: those that stand in it and those inside what has been taken out. -/
def held (d : Document) : List Located := d.standing ++ d.stranded

theorem self_descendants_sublist_stranded (member : e ∈ d.stranded) :
    (e :: e.descendants).Sublist d.stranded := by
  obtain ⟨c, removed, inside⟩ := List.mem_flatMap.mp member
  have part : (c.elements []).tail.Sublist d.stranded := by
    rw [stranded, List.flatMap_def]
    exact List.sublist_flatten_of_mem (List.mem_map_of_mem removed)
  refine List.Sublist.trans ?_ part
  cases c with
  | char => contradiction
  | element number f within =>
    rw [Content.elements, List.tail_cons] at inside ⊢
    exact Content.self_descendants_sublist_all _ within inside

theorem self_descendants_sublist (member : e ∈ d.held) :
    (e :: e.descendants).Sublist d.held := by
  rcases List.mem_append.mp member with stands | strays
  · exact (Content.self_descendants_sublist_all [] d.content stands).trans
      (List.sublist_append_left _ _)
  · exact (self_descendants_sublist_stranded strays).trans (List.sublist_append_right _ _)

theorem descendants_sublist (member : e ∈ d.held) : e.descendants.Sublist d.held :=
  (List.sublist_cons_self _ _).trans (self_descendants_sublist member)

theorem elements_perm (d : Document) : d.elements.Perm d.held := List.mergeSort_perm _ _

/-- Whether elements are in the order in which they were made, none of them twice. -/
def InCreationOrder (ls : List Located) : Prop := (ls.map (·.number)).Pairwise (· < ·)

theorem sorted_elements (d : Document) : d.elements.Pairwise fun l m => l.number ≤ m.number := by
  have sorted : d.elements.Pairwise fun l m => decide (l.number ≤ m.number) = true :=
    List.pairwise_mergeSort (by simp; omega) (by simp; omega) d.held
  exact sorted.imp of_decide_eq_true

theorem inCreationOrder_elements (distinct : (d.held.map (·.number)).Nodup) :
    InCreationOrder d.elements := by
  have sorted := d.sorted_elements
  have distinct : d.elements.Pairwise fun l m => l.number ≠ m.number := by
    have same : (d.elements.map (·.number)).Perm (d.held.map (·.number)) := d.elements_perm.map _
    exact List.pairwise_map.mp (same.nodup_iff.mpr distinct)
  exact List.pairwise_map.mpr ((sorted.and distinct).imp fun both => Nat.lt_of_le_of_ne both.1 both.2)

/-- Elements in the order in which they were made are known from what they are. -/
theorem InCreationOrder.eq_of_perm {ls ms : List Located} (first : InCreationOrder ls)
    (second : InCreationOrder ms) (same : ls.Perm ms) : ls = ms := by
  have first' := List.pairwise_map.mp first
  have second' := List.pairwise_map.mp second
  refine List.Perm.eq_of_pairwise ?_ first' second' same
  intro l m _ _ before after
  omega

theorem InCreationOrder.nodup {ls : List Located} (order : InCreationOrder ls) : ls.Nodup :=
  .of_map _ (order.imp Nat.ne_of_lt)

theorem InCreationOrder.eq_of_mem_iff {ls ms : List Located} (first : InCreationOrder ls)
    (second : InCreationOrder ms) (same : ∀ l, l ∈ ls ↔ l ∈ ms) : ls = ms :=
  first.eq_of_perm second ((List.perm_ext_iff_of_nodup first.nodup second.nodup).mpr same)

theorem InCreationOrder.sublist {ls ms : List Located} (order : InCreationOrder ms)
    (part : ls.Sublist ms) : InCreationOrder ls :=
  List.Pairwise.sublist (part.map _) order

theorem InCreationOrder.filter {ls : List Located} (order : InCreationOrder ls)
    (test : Located → Bool) : InCreationOrder (ls.filter test) :=
  order.sublist List.filter_sublist

theorem nodup_held_ofText (text : String) : ((ofText text).held.map (·.number)).Nodup :=
  nodup_numbers (Tree.Builder.Sound.empty.run _).linked

end Document
end Html

namespace Page
variable {p : Page} {e : Located} {s : Selector}

section Distinct
variable (distinct : (p.document.held.map (·.number)).Nodup)
include distinct

theorem inCreationOrder_select (s : Selector) : InCreationOrder (p.select s) :=
  (inCreationOrder_elements distinct).filter _

theorem select_eq_iff (s : Selector) :
    p.select s = p.document.standing.filter s.accepts ↔
      InCreationOrder (p.document.standing.filter s.accepts) ∧
        ∀ l ∈ p.document.stranded, s.accepts l = false := by
  have all : (p.select s).Perm
      (p.document.standing.filter s.accepts ++ p.document.stranded.filter s.accepts) := by
    rw [← List.filter_append]
    exact p.document.elements_perm.filter _
  constructor
  · intro same
    refine ⟨same ▸ inCreationOrder_select distinct s, ?_⟩
    have lengths := all.length_eq
    rw [same, List.length_append] at lengths
    have none : p.document.stranded.filter s.accepts = [] :=
      List.eq_nil_of_length_eq_zero (by omega)
    simpa using List.filter_eq_nil_iff.mp none
  · rintro ⟨order, none⟩
    have nothing : p.document.stranded.filter s.accepts = [] :=
      List.filter_eq_nil_iff.mpr (by simpa using none)
    rw [nothing, List.append_nil] at all
    exact (inCreationOrder_select distinct s).eq_of_perm order all

/-- What is found inside an element is what is found on the page and is inside the element. -/
theorem find_perm (member : e ∈ p.document.elements) (s : Selector) :
    (e.find s).Perm ((p.select s).filter e.encloses) := by
  have held := p.document.elements_perm.mem_iff.mp member
  have inside := descendants_sublist held
  have distinctInside : e.descendants.Nodup := .of_map _ (distinct.sublist (inside.map _))
  have distinctFound : (p.select s).Nodup := (inCreationOrder_select distinct s).nodup
  rw [Located.find, List.perm_ext_iff_of_nodup (distinctInside.filter _) (distinctFound.filter _)]
  intro l
  rw [select, List.mem_filter, List.mem_filter, List.mem_filter,
    p.document.elements_perm.mem_iff]
  constructor
  · rintro ⟨below, accepted⟩
    refine ⟨⟨inside.mem below, accepted⟩, ?_⟩
    exact List.contains_iff_mem.mpr (List.mem_map_of_mem below)
  · rintro ⟨⟨among, accepted⟩, below⟩
    refine ⟨?_, accepted⟩
    obtain ⟨l', below', number⟩ := List.mem_map.mp (List.contains_iff_mem.mp below)
    obtain rfl := List.inj_on_of_nodup_map distinct (inside.mem below') among number
    exact below'

theorem find_eq_iff (member : e ∈ p.document.elements) (s : Selector) :
    e.find s = (p.select s).filter e.encloses ↔ InCreationOrder (e.find s) := by
  have order := (inCreationOrder_select distinct s).filter e.encloses
  constructor
  · intro same
    rw [same]
    exact order
  · intro order'
    exact order'.eq_of_perm order (find_perm distinct member s)

end Distinct

/-- A page finds each element that a selector accepts once, in the order in which the elements were
made, be it in the document or inside something that was taken out of it. This is what the selector
accepts in the document, in the order of the document, just if that happens to be the order in which
it was made and nothing is accepted outside. Inside an element the same elements are found as on the
page, in the order of the document. -/
theorem select_by_creation (url text : String) :
    let p := ofText url text
    let d := p.document
    let arena := (Tree.Builder.run {} (Token.prepare text.toList)).arena
    (∀ n, n ∈ d.standing.map (·.number) ↔
      Relation.TransGen (fun q c => .node c ∈ arena.contentOf q) Tree.Arena.document n) ∧
    (∀ s, InCreationOrder (p.select s) ∧
      (p.select s).Perm ((d.standing ++ d.stranded).filter s.accepts)) ∧
    (∀ s, p.select s = d.standing.filter s.accepts ↔
      InCreationOrder (d.standing.filter s.accepts) ∧ ∀ l ∈ d.stranded, s.accepts l = false) ∧
    (∀ s n, p.nth? s n = (p.select s)[n]?) ∧
    (∀ e ∈ d.elements, ∀ s, (e.find s).Perm ((p.select s).filter e.encloses) ∧
      (e.find s = (p.select s).filter e.encloses ↔ InCreationOrder (e.find s))) ∧
    ∀ e ∈ d.standing, ∀ s, (e.find s).Sublist (d.standing.filter s.accepts) := by
  intro p d arena
  have distinct : (p.document.held.map (·.number)).Nodup := nodup_held_ofText text
  have linked : arena.Linked := (Tree.Builder.Sound.empty.run _).linked
  refine ⟨?_, ?_, select_eq_iff distinct, fun _ _ => rfl, ?_, ?_⟩
  · intro n
    have standing : d.standing.map (·.number) = _ := map_number_standing d
    rw [standing]
    exact linked.mem_numbersAll_iff
  · intro s
    exact ⟨inCreationOrder_select distinct s, d.elements_perm.filter _⟩
  · intro e member s
    exact ⟨find_perm distinct member s, find_eq_iff distinct member s⟩
  · intro e member s
    exact ((List.sublist_cons_self _ _).trans
      (Content.self_descendants_sublist_all [] d.content member)).filter _

/-- A link between the rows of a table stands before the table, and is found after what is in it. What
stood in a body whose place a frameset took is found although it is gone. -/
theorem select_not_in_document_order :
    let p := ofText "x" ("<table><tr><td><a class=\"l\" href=\"/cell\">c</a></td></tr>" ++
      "<a class=\"l\" href=\"/before\">b</a></table>")
    let q := ofText "x" "<div><a class=\"l\" href=\"/gone\"></a></div><frameset></frameset>"
    let standing (p : Page) := p.document.standing.filter Search.primary.accepts
    ((standing p).filterMap (·.element.attribute? "href") = ["/before", "/cell"] ∧
      Search.links p = ["/cell", "/before"]) ∧
    standing q = [] ∧ Search.links q = ["/gone"] := by
  cbv

end Page
end DocAnswers
