import DocAnswers.Html.Document
import DocAnswers.Proofs.Html.Rules
import Mathlib.Data.Finset.Card
import Mathlib.Data.List.Flatten
import Mathlib.Data.List.Nodup
import Mathlib.Logic.Relation

/-! The documents that come out of tree construction: no element is met twice in them, and none is too
deep to be met. Both rest on the way from an element up to the node that stands nowhere. -/
namespace DocAnswers.Html

namespace Content

mutual

/-- The numbers of the elements of some content, each before those inside it. -/
def numbers : Content → List Nat
  | char _ => []
  | element number _ inside => number :: numbersAll inside

def numbersAll : List Content → List Nat
  | [] => []
  | c :: cs => numbers c ++ numbersAll cs

end

mutual

theorem map_number_elements (around : List Element) : (c : Content) →
    (c.elements around).map (·.number) = c.numbers
  | char _ => rfl
  | element number e inside => by
    rw [elements, numbers, List.map_cons, map_number_elementsAll _ inside]

theorem map_number_elementsAll (around : List Element) : (cs : List Content) →
    (elementsAll around cs).map (·.number) = numbersAll cs
  | [] => rfl
  | c :: cs => by
    rw [elementsAll, numbersAll, List.map_append, map_number_elements around c,
      map_number_elementsAll around cs]

end

theorem numbersAll_eq_flatMap (cs : List Content) : numbersAll cs = cs.flatMap numbers := by
  induction cs with
  | nil => rfl
  | cons c cs ih => rw [numbersAll, ih, List.flatMap_cons]

theorem numbersAll_append (cs ds : List Content) :
    numbersAll (cs ++ ds) = numbersAll cs ++ numbersAll ds := by
  rw [numbersAll_eq_flatMap, numbersAll_eq_flatMap, numbersAll_eq_flatMap, List.flatMap_append]

theorem elementsAll_eq_flatMap (around : List Element) (cs : List Content) :
    elementsAll around cs = cs.flatMap (·.elements around) := by
  induction cs with
  | nil => rfl
  | cons c cs ih => rw [elementsAll, ih, List.flatMap_cons]

end Content

namespace Tree.Arena
open Content
variable {a : Arena} {id p c n r : Nat} {items : List Item} {j k : Nat}

def node? : Item → Option Nat
  | .char _ => none
  | .node id => some id

/-- The nodes inside a node, in the order in which they stand. -/
def children (a : Arena) (id : Nat) : List Nat := (a.contentOf id).reverse.filterMap node?

/-- The node that is so many steps around another one. -/
def up (a : Arena) : Nat → Nat → Option Nat
  | 0, n => some n
  | j + 1, n => (a.parent? n).bind (a.up j)

theorem mem_children : c ∈ a.children id ↔ .node c ∈ a.contentOf id := by
  simp only [children, List.mem_filterMap, List.mem_reverse]
  constructor
  · rintro ⟨item, member, found⟩
    cases item with
    | char => contradiction
    | node =>
      obtain rfl := Option.some.inj found
      exact member
  · intro member
    exact ⟨_, member, rfl⟩

theorem up_succ (parent : a.parent? n = some p) (j : Nat) : a.up (j + 1) n = a.up j p := by
  rw [up, parent, Option.bind_some]

theorem up_add (a : Arena) (i j n : Nat) : a.up (i + j) n = (a.up i n).bind (a.up j) := by
  induction i generalizing n with
  | zero => rw [Nat.zero_add]; rfl
  | succ i ih =>
    rw [Nat.add_right_comm, up, up, Option.bind_assoc]
    congr 1
    funext p
    exact ih p

theorem lt_size_of_up_succ (up : a.up (j + 1) n = some p) : n < a.nodes.size := by
  apply Nat.lt_of_not_le
  intro outside
  rw [Arena.up, parent?, Array.getElem?_eq_none outside] at up
  contradiction

section Root
variable (root : a.parent? r = none)
include root

theorem eq_zero_of_up_root (up : a.up j r = some n) : j = 0 ∧ n = r := by
  cases j with
  | zero => exact ⟨rfl, (Option.some.inj up).symm⟩
  | succ j =>
    rw [Arena.up, root] at up
    contradiction

/-- A node stands so many steps below one root only. -/
theorem up_unique {r' : Nat} (root' : a.parent? r' = none) (first : a.up j n = some r)
    (second : a.up k n = some r') : j = k ∧ r = r' := by
  induction j generalizing n k with
  | zero =>
    obtain rfl := Option.some.inj first
    obtain ⟨rfl, rfl⟩ := eq_zero_of_up_root root second
    exact ⟨rfl, rfl⟩
  | succ j ih =>
    cases parent : a.parent? n with
    | none =>
      rw [up, parent] at first
      contradiction
    | some p =>
      rw [up_succ parent] at first
      cases k with
      | zero =>
        obtain rfl := Option.some.inj second
        rw [parent] at root'
        contradiction
      | succ k =>
        rw [up_succ parent] at second
        obtain ⟨rfl, same⟩ := ih first second
        exact ⟨rfl, same⟩

/-- There are more nodes than steps from a node to the root. -/
theorem lt_size_of_up (inside : r < a.nodes.size)
    (up : a.up k n = some r) : k < a.nodes.size := by
  have reaches {i : Nat} (bound : i ≤ k) : ∃ m, a.up i n = some m ∧ a.up (k - i) m = some r := by
    have whole := up_add a i (k - i) n
    rw [Nat.add_sub_cancel' bound, up] at whole
    exact Option.bind_eq_some_iff.mp whole.symm
  let node (i : Nat) : Nat := (a.up i n).getD 0
  have maps : Set.MapsTo node (Finset.range (k + 1)) (Finset.range a.nodes.size) := by
    intro i member
    have bound : i ≤ k := Nat.le_of_lt_succ (by simpa using member)
    obtain ⟨m, is, above⟩ := reaches bound
    have named : node i = m := by simp [node, is]
    rw [named, Finset.mem_coe, Finset.mem_range]
    cases left : k - i with
    | zero =>
      rw [left] at above
      obtain rfl := Option.some.inj above
      exact inside
    | succ j =>
      rw [left] at above
      exact lt_size_of_up_succ above
  have inj : Set.InjOn node (Finset.range (k + 1)) := by
    intro i member i' member' same
    have bound : i ≤ k := Nat.le_of_lt_succ (by simpa using member)
    have bound' : i' ≤ k := Nat.le_of_lt_succ (by simpa using member')
    obtain ⟨m, is, above⟩ := reaches bound
    obtain ⟨m', is', above'⟩ := reaches bound'
    obtain rfl : m = m' := by simpa [node, is, is'] using same
    have := (up_unique root root above above').1
    omega
  have count := Finset.card_le_card_of_injOn node maps inj
  rw [Finset.card_range, Finset.card_range] at count
  omega

end Root

namespace Linked
variable (linked : a.Linked)
include linked

theorem parent?_of_mem_children (member : c ∈ a.children id) : a.parent? c = some id :=
  (linked.fits id).parent (mem_children.mp member)

theorem nodup_children (id : Nat) : (a.children id).Nodup := by
  apply List.nodup_iff_count_le_one.mpr
  intro c
  have counts : (fun item => node? item == some c) = (· == .node c) := by
    funext item
    cases item <;> simp [node?]
  rw [children, List.count_filterMap, counts, ← List.count, List.count_reverse]
  exact (linked.fits id).once c

theorem numbersAll_grow (depth id : Nat) :
    numbersAll (a.grow (depth + 1) id) =
      (a.children id).flatMap fun c => c :: numbersAll (a.grow depth c) := by
  have elements : ∀ c, .node c ∈ (a.contentOf id).reverse → a.IsElement c :=
    fun c member => (linked.fits id).element (List.mem_reverse.mp member)
  rw [grow, children]
  generalize (a.contentOf id).reverse = items at elements
  induction items with
  | nil => rfl
  | cons item items ih =>
    have later := ih fun c member => elements c (.tail _ member)
    cases item with
    | char => exact later
    | node c =>
      obtain ⟨e, named⟩ := Option.ne_none_iff_exists'.mp (elements c List.mem_cons_self)
      rw [element?] at named
      simp only [List.filterMap_cons, named, Option.map_some, node?, List.flatMap_cons]
      rw [numbersAll, later, numbers]

theorem up_of_mem_numbersAll (depth : Nat) (member : n ∈ numbersAll (a.grow depth id)) :
    ∃ j, a.up (j + 1) n = some id := by
  induction depth generalizing id with
  | zero => contradiction
  | succ depth ih =>
    rw [linked.numbersAll_grow, List.mem_flatMap] at member
    obtain ⟨c, child, below⟩ := member
    have parent := linked.parent?_of_mem_children child
    rcases List.mem_cons.mp below with rfl | below
    · exact ⟨0, up_succ parent 0⟩
    · obtain ⟨j, up⟩ := ih below
      refine ⟨j + 1, ?_⟩
      rw [up_add a (j + 1) 1, up, Option.bind_some, up_succ parent]
      rfl

/-- No element is met twice on the way down from a node. -/
theorem nodup_numbersAll (root : a.parent? r = none) (up : a.up k id = some r) (depth : Nat) :
    (numbersAll (a.grow depth id)).Nodup := by
  induction depth generalizing id k with
  | zero => exact .nil
  | succ depth ih =>
    have child {c : Nat} (member : c ∈ a.children id) : a.up (k + 1) c = some r := by
      rw [up_succ (linked.parent?_of_mem_children member), up]
    rw [linked.numbersAll_grow, List.nodup_flatMap]
    refine ⟨?_, (linked.nodup_children id).imp_of_mem ?_⟩
    · intro c member
      refine List.nodup_cons.mpr ⟨?_, ih (child member)⟩
      intro inside
      -- An element inside itself would be at two heights below the root.
      obtain ⟨j, around⟩ := linked.up_of_mem_numbersAll depth inside
      have twice : a.up (j + 1 + (k + 1)) c = some r := by
        rw [up_add, around, Option.bind_some, child member]
      have := (up_unique root root (child member) twice).1
      omega
    · intro c c' member member' differs n below below'
      have above {c : Nat} (member : c ∈ a.children id)
          (below : n ∈ c :: numbersAll (a.grow depth c)) : ∃ j, a.up j n = some c := by
        rcases List.mem_cons.mp below with rfl | below
        · exact ⟨0, rfl⟩
        · obtain ⟨j, up⟩ := linked.up_of_mem_numbersAll depth below
          exact ⟨j + 1, up⟩
      obtain ⟨j, up⟩ := above member below
      obtain ⟨j', up'⟩ := above member' below'
      have first : a.up (j + (k + 1)) n = some r := by
        rw [up_add, up, Option.bind_some, child member]
      have second : a.up (j' + (k + 1)) n = some r := by
        rw [up_add, up', Option.bind_some, child member']
      have height : j = j' := by
        have := (up_unique root root first second).1
        omega
      subst height
      exact differs (Option.some.inj (up.symm.trans up'))

theorem grow_succ (root : a.parent? r = none) (inside : r < a.nodes.size) (up : a.up k id = some r)
    (enough : a.nodes.size ≤ depth + k) : a.grow (depth + 1) id = a.grow depth id := by
  induction depth generalizing id k with
  | zero =>
    have := lt_size_of_up root inside up
    omega
  | succ depth ih =>
    rw [grow, grow]
    apply List.filterMap_congr
    intro item member
    cases item with
    | char => rfl
    | node c =>
      have child : a.up (k + 1) c = some r := by
        rw [up_succ ((linked.fits id).parent (List.mem_reverse.mp member)), up]
      simp only
      rw [ih child (by omega)]

/-- Nothing inside a node is too deep to be met. -/
theorem grow_add (root : a.parent? r = none) (inside : r < a.nodes.size) (up : a.up k id = some r)
    (enough : a.nodes.size ≤ depth + k) (more : Nat) :
    a.grow (depth + more) id = a.grow depth id := by
  induction more with
  | zero => rfl
  | succ more ih =>
    have next : a.grow (depth + more + 1) id = a.grow (depth + more) id :=
      linked.grow_succ root inside up (by omega)
    exact next.trans ih

theorem mem_numbersAll_add (depth more : Nat) (member : n ∈ numbersAll (a.grow depth id)) :
    n ∈ numbersAll (a.grow (depth + more) id) := by
  induction depth generalizing id with
  | zero => contradiction
  | succ depth ih =>
    rw [Nat.add_right_comm]
    rw [linked.numbersAll_grow, List.mem_flatMap] at member ⊢
    obtain ⟨c, child, below⟩ := member
    refine ⟨c, child, ?_⟩
    rcases List.mem_cons.mp below with rfl | below
    · exact List.mem_cons_self
    · exact .tail _ (ih below)

/-- The elements met on the way down from a node are those inside it, at whatever depth. -/
theorem mem_numbersAll_grow_iff (root : a.parent? r = none) (inside : r < a.nodes.size)
    (up : a.up k id = some r) (enough : a.nodes.size ≤ depth + k) :
    n ∈ numbersAll (a.grow depth id) ↔
      Relation.TransGen (fun p c => .node c ∈ a.contentOf p) id n := by
  constructor
  · clear up enough
    intro member
    induction depth generalizing id with
    | zero => contradiction
    | succ depth ih =>
      rw [linked.numbersAll_grow, List.mem_flatMap] at member
      obtain ⟨c, child, below⟩ := member
      have edge := mem_children.mp child
      rcases List.mem_cons.mp below with rfl | below
      · exact .single edge
      · exact .head edge (ih below)
  · intro reached
    obtain ⟨needed, member⟩ : ∃ needed, n ∈ numbersAll (a.grow needed id) := by
      clear up
      induction reached using Relation.TransGen.head_induction_on with
      | single edge =>
        refine ⟨1, ?_⟩
        rw [linked.numbersAll_grow, List.mem_flatMap]
        exact ⟨n, mem_children.mpr edge, List.mem_cons_self⟩
      | head edge _ ih =>
        obtain ⟨needed, member⟩ := ih
        refine ⟨needed + 1, ?_⟩
        rw [linked.numbersAll_grow, List.mem_flatMap]
        exact ⟨_, mem_children.mpr edge, .tail _ member⟩
    have far := linked.mem_numbersAll_add needed depth member
    rwa [Nat.add_comm, linked.grow_add root inside up enough] at far

/-- An element met on the way down from a root holds all that is inside its node. -/
theorem exists_inside_eq_grow (up : a.up k id = some r)
    (enough : a.nodes.size ≤ depth + k) {around : List Element} {l : Located}
    (member : l ∈ elementsAll around (a.grow depth id)) :
    ∃ j depth', a.up j l.number = some r ∧ a.nodes.size ≤ depth' + j ∧
      l.inside = a.grow depth' l.number := by
  induction depth generalizing id k around with
  | zero => contradiction
  | succ depth ih =>
    rw [grow, elementsAll_eq_flatMap, List.mem_flatMap] at member
    obtain ⟨content, among, member⟩ := member
    obtain ⟨item, held, is⟩ := List.mem_filterMap.mp among
    cases item with
    | char =>
      obtain rfl := Option.some.inj is
      contradiction
    | node child =>
      obtain ⟨e, -, rfl⟩ := Option.map_eq_some_iff.mp is
      have up' : a.up (k + 1) child = some r := by
        rw [up_succ ((linked.fits id).parent (List.mem_reverse.mp held)), up]
      rcases List.mem_cons.mp member with rfl | below
      · exact ⟨k + 1, depth, up', by omega, rfl⟩
      · exact ih up' (by omega) below

theorem mem_numbersAll_iff :
    n ∈ numbersAll (a.grow (a.nodes.size + 1) document) ↔
      Relation.TransGen (fun p c => .node c ∈ a.contentOf p) document n :=
  linked.mem_numbersAll_grow_iff (k := 0) linked.root linked.inhabited rfl (Nat.le_succ _)

end Linked
end Tree.Arena

namespace Document
open Content DocAnswers.Html.Tree

theorem map_number_standing (d : Document) : d.standing.map (·.number) = numbersAll d.content :=
  map_number_elementsAll [] d.content

theorem map_number_stranded (d : Document) :
    d.stranded.map (·.number) = d.removed.flatMap fun c => c.numbers.tail := by
  rw [stranded, List.map_flatMap]
  apply List.flatMap_congr
  intro c _
  rw [List.map_tail, map_number_elements]

theorem numbersAll_removed_sublist (a : Arena) (ids : List Nat) :
    (numbersAll (ids.filterMap fun id => (a.nodes[id]?.bind (·.element)).map fun e =>
      Content.element id e (a.grow (a.nodes.size + 1) id))).Sublist
        (ids.flatMap fun id => id :: numbersAll (a.grow (a.nodes.size + 1) id)) := by
  induction ids with
  | nil => exact .slnil
  | cons id ids ih =>
    rw [List.flatMap_cons]
    cases named : a.nodes[id]?.bind (·.element) with
    | none =>
      rw [List.filterMap_cons_none (by rw [named]; rfl)]
      exact ih.trans (List.sublist_append_right _ _)
    | some e =>
      rw [List.filterMap_cons_some (by rw [named]; rfl), numbersAll, numbers]
      exact (List.Sublist.refl _).append ih

/-- No element is met twice in a document and what has been taken out of it. -/
theorem nodup_numbersAll_whole {a : Arena} (linked : a.Linked) :
    (numbersAll ((ofArena a).content ++ (ofArena a).removed)).Nodup := by
  let inside (id : Nat) : List Nat := numbersAll (a.grow (a.nodes.size + 1) id)
  have loose : ∀ r ∈ looseNodes a, a.parent? r = none := fun r member =>
    Option.isNone_iff_eq_none.mp (List.mem_filter.mp member).2
  have apart : Arena.document ∉ looseNodes a := by
    intro member
    have among := (List.mem_filter.mp member).1
    rw [List.range_eq_range', List.drop_range', List.mem_range'_1] at among
    exact absurd among.1 (by decide)
  have distinct : (looseNodes a).Nodup :=
    (List.nodup_range.sublist (List.drop_sublist 1 _)).filter _
  have above {r n : Nat} (member : n ∈ r :: inside r) : ∃ j, a.up j n = some r := by
    rcases List.mem_cons.mp member with rfl | below
    · exact ⟨0, rfl⟩
    · obtain ⟨j, up⟩ := linked.up_of_mem_numbersAll _ below
      exact ⟨j + 1, up⟩
  have whole : (numbersAll ((ofArena a).content ++ (ofArena a).removed)).Sublist
      (inside Arena.document ++ (looseNodes a).flatMap fun r => r :: inside r) := by
    rw [numbersAll_append, ofArena]
    exact (List.Sublist.refl _).append (numbersAll_removed_sublist a _)
  refine List.Nodup.sublist whole (List.nodup_append'.mpr ⟨?_, ?_, ?_⟩)
  · exact linked.nodup_numbersAll (k := 0) linked.root rfl _
  · refine List.nodup_flatMap.mpr ⟨?_, distinct.imp_of_mem ?_⟩
    · intro r member
      refine List.nodup_cons.mpr ⟨?_, linked.nodup_numbersAll (k := 0) (loose r member) rfl _⟩
      intro below
      -- What stands nowhere is not inside itself.
      obtain ⟨j, up⟩ := linked.up_of_mem_numbersAll _ below
      exact absurd (Arena.eq_zero_of_up_root (loose r member) up).1 (by omega)
    · intro r r' member member' differs n below below'
      obtain ⟨j, up⟩ := above below
      obtain ⟨j', up'⟩ := above below'
      exact differs (Arena.up_unique (loose r member) (loose r' member') up up').2
  · intro n standing strays
    obtain ⟨r, member, below⟩ := List.mem_flatMap.mp strays
    obtain ⟨j, up⟩ := above (.tail _ standing)
    obtain ⟨j', up'⟩ := above below
    have same := (Arena.up_unique linked.root (loose r member) up up').2
    exact apart (same ▸ member)

/-- No element is among the elements of a document twice. -/
theorem nodup_numbers {a : Arena} (linked : a.Linked) :
    (((ofArena a).standing ++ (ofArena a).stranded).map (·.number)).Nodup := by
  refine (nodup_numbersAll_whole linked).sublist ?_
  rw [List.map_append, map_number_standing, map_number_stranded, numbersAll_append]
  refine (List.Sublist.refl _).append ?_
  rw [numbersAll_eq_flatMap]
  exact List.Sublist.flatMap_right _ fun c _ => List.tail_sublist _

/-- What is inside an element of a document is what its node is around, at whatever depth. -/
theorem mem_descendants_iff {a : Arena} (linked : a.Linked) {l : Located}
    (member : l ∈ (ofArena a).standing ++ (ofArena a).stranded) (n : Nat) :
    n ∈ l.descendants.map (·.number) ↔
      Relation.TransGen (fun p c => .node c ∈ a.contentOf p) l.number n := by
  obtain ⟨r, root, inside, around, below⟩ : ∃ r, a.parent? r = none ∧ r < a.nodes.size ∧
      ∃ around, l ∈ elementsAll around (a.grow (a.nodes.size + 1) r) := by
    rcases List.mem_append.mp member with stands | strays
    · exact ⟨_, linked.root, linked.inhabited, _, stands⟩
    · obtain ⟨c, removed, below⟩ := List.mem_flatMap.mp strays
      obtain ⟨r, loose, is⟩ := List.mem_filterMap.mp removed
      obtain ⟨e, -, rfl⟩ := Option.map_eq_some_iff.mp is
      obtain ⟨among, unplaced⟩ := List.mem_filter.mp loose
      have inside := List.mem_range.mp (List.mem_of_mem_drop among)
      exact ⟨r, Option.isNone_iff_eq_none.mp unplaced, inside, _, below⟩
  obtain ⟨j, depth, up, enough, is⟩ :=
    linked.exists_inside_eq_grow (k := 0) rfl (Nat.le_succ _) below
  rw [Located.descendants, map_number_elementsAll, is]
  exact linked.mem_numbersAll_grow_iff root inside up enough

end Document
end DocAnswers.Html
