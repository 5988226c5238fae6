import DocAnswers.Html.Tree.Builder
import Mathlib.Data.List.Count

/-! Documents under construction are forests: what stands in a node has that node as its parent, stands
there once, and is an element. Whatever is moved, put somewhere or taken out, it stays so. -/
namespace DocAnswers.Html.Tree

namespace Arena

def element? (a : Arena) (id : Nat) : Option Element := a.nodes[id]?.bind (·.element)

/-- Whether a number is that of an element, and not of the document or of nothing. -/
def IsElement (a : Arena) (id : Nat) : Prop := a.element? id ≠ none

/-- Items that may be the content of a node. -/
structure Fits (a : Arena) (parent : Nat) (items : List Item) : Prop where
  parent : ∀ {c}, .node c ∈ items → a.parent? c = some parent
  element : ∀ {c}, .node c ∈ items → a.IsElement c
  once : ∀ c, items.count (.node c) ≤ 1

structure Linked (a : Arena) : Prop where
  inhabited : 0 < a.nodes.size
  fits : ∀ p, a.Fits p (a.contentOf p)
  /-- The document stands nowhere. -/
  root : a.parent? document = none
  unnamed : ¬ a.IsElement document

/-- Whether a node stands nowhere. -/
def Absent (a : Arena) (id : Nat) : Prop := ∀ p, .node id ∉ a.contentOf p

variable {a a' : Arena} {id p c : Nat} {items items' : List Item} {item : Item} {e : Element}
  {f : Node → Node}

/-! The two changes of a node that all others consist of -/

def changeContent (a : Arena) (id : Nat) (g : List Item → List Item) : Arena :=
  a.modify id fun n => { n with content := g n.content }

def changeParent (a : Arena) (id : Nat) (q : Option Nat) : Arena :=
  a.modify id fun n => { n with parent := q }

theorem detach_eq (placed : a.parent? id = some p) :
    a.detach id = (a.changeContent p (·.filter (· ≠ .node id))).changeParent id none := by
  rw [detach, placed]
  rfl

theorem take_node (a : Arena) (p id : Nat) :
    a.take p (.node id) = (a.detach id).changeParent id (some p) := rfl

theorem append_eq (a : Arena) (p : Nat) (item : Item) :
    a.append p item = (a.take p item).changeContent p (item :: ·) := rfl

theorem insertBefore_eq (placed : a.parent? sibling = some p) :
    a.insertBefore sibling item =
      (a.take p item).changeContent p (insertBehind (.node sibling) item) := by
  rw [insertBefore, placed]
  rfl

/-! What can be seen of nodes -/

theorem parent?_eq (a : Arena) (id : Nat) : a.parent? id = (a.nodes[id]?.map (·.parent)).join := by
  rw [parent?]
  cases a.nodes[id]? <;> rfl

theorem isElement_iff (a : Arena) (id : Nat) :
    a.IsElement id ↔ a.nodes[id]?.map (·.element.isSome) = some true := by
  rw [IsElement, element?]
  cases a.nodes[id]? with
  | none => simp
  | some n => simp [Option.isSome_iff_ne_none]

/-- A change is not seen by those who do not look at what it changes. -/
theorem map_getElem?_modify (see : Node → α) (i : Nat) (kept : ∀ n, see (f n) = see n) :
    (a.modify id f).nodes[i]?.map see = a.nodes[i]?.map see := by
  rw [modify, Array.getElem?_modify]
  split
  · cases a.nodes[i]? <;> simp [kept]
  · rfl

section Changes
variable (a id) (g : List Item → List Item) (q : Option Nat)

@[simp]
theorem size_changeContent : (a.changeContent id g).nodes.size = a.nodes.size := Array.size_modify

@[simp]
theorem size_changeParent : (a.changeParent id q).nodes.size = a.nodes.size := Array.size_modify

@[simp]
theorem parent?_changeContent (c : Nat) : (a.changeContent id g).parent? c = a.parent? c := by
  rw [parent?_eq, parent?_eq, changeContent, map_getElem?_modify]
  exact fun _ => rfl

@[simp]
theorem isElement_changeContent (c : Nat) : (a.changeContent id g).IsElement c ↔ a.IsElement c := by
  rw [isElement_iff, isElement_iff, changeContent, map_getElem?_modify]
  exact fun _ => rfl

@[simp]
theorem isElement_changeParent (c : Nat) : (a.changeParent id q).IsElement c ↔ a.IsElement c := by
  rw [isElement_iff, isElement_iff, changeParent, map_getElem?_modify]
  exact fun _ => rfl

@[simp]
theorem contentOf_changeParent (p : Nat) : (a.changeParent id q).contentOf p = a.contentOf p := by
  rw [contentOf, contentOf, changeParent, map_getElem?_modify]
  exact fun _ => rfl

/-- The content of a node is changed if there is such a node. -/
theorem contentOf_changeContent :
    (a.changeContent id g).contentOf id = g (a.contentOf id) ∨
      (a.changeContent id g).contentOf id = [] := by
  rw [contentOf, contentOf, changeContent, modify, Array.getElem?_modify, if_pos rfl]
  cases a.nodes[id]? with
  | none => exact .inr rfl
  | some n => exact .inl rfl

theorem contentOf_changeContent_of_ne (differs : p ≠ id) :
    (a.changeContent id g).contentOf p = a.contentOf p := by
  rw [contentOf, contentOf, changeContent, modify, Array.getElem?_modify, if_neg differs.symm]

theorem parent?_changeParent_of_ne (differs : c ≠ id) :
    (a.changeParent id q).parent? c = a.parent? c := by
  rw [parent?, parent?, changeParent, modify, Array.getElem?_modify, if_neg differs.symm]

theorem parent?_changeParent (element : a.IsElement id) : (a.changeParent id q).parent? id = q := by
  rw [IsElement, element?] at element
  rw [parent?, changeParent, modify, Array.getElem?_modify, if_pos rfl]
  cases found : a.nodes[id]? with
  | none => simp [found] at element
  | some n => rfl

end Changes

/-! Items that fit -/

namespace Fits

theorem nil (a : Arena) (p : Nat) : a.Fits p [] := ⟨by simp, by simp, by simp⟩

theorem mono (fits : a.Fits p items)
    (parents : ∀ c, .node c ∈ items → a.parent? c = some p → a'.parent? c = some p)
    (elements : ∀ c, a.IsElement c → a'.IsElement c) : a'.Fits p items :=
  ⟨fun member => parents _ member (fits.parent member), fun member => elements _ (fits.element member),
    fits.once⟩

theorem filter (fits : a.Fits p items) (test : Item → Bool) : a.Fits p (items.filter test) := by
  refine ⟨fun member => fits.parent (List.mem_filter.mp member).1,
    fun member => fits.element (List.mem_filter.mp member).1, ?_⟩
  intro c
  exact Nat.le_trans (List.filter_sublist.count_le _) (fits.once c)

theorem char (fits : a.Fits p items) (c : Char) : a.Fits p (.char c :: items) := by
  refine ⟨fun member => fits.parent (by simpa using member),
    fun member => fits.element (by simpa using member), ?_⟩
  intro c'
  rw [List.count_cons_of_ne (by simp)]
  exact fits.once c'

theorem append (fits : a.Fits p items) (fits' : a.Fits p items')
    (apart : ∀ c, .node c ∈ items → .node c ∉ items') : a.Fits p (items ++ items') := by
  refine ⟨?_, ?_, ?_⟩
  · intro c member
    rcases List.mem_append.mp member with first | second
    · exact fits.parent first
    · exact fits'.parent second
  · intro c member
    rcases List.mem_append.mp member with first | second
    · exact fits.element first
    · exact fits'.element second
  · intro c
    rw [List.count_append]
    by_cases first : .node c ∈ items
    · rw [List.count_eq_zero_of_not_mem (apart c first)]
      exact fits.once c
    · rw [List.count_eq_zero_of_not_mem first, Nat.zero_add]
      exact fits'.once c

theorem node (fits : a.Fits p items) (parent : a.parent? id = some p) (element : a.IsElement id)
    (new : .node id ∉ items) : a.Fits p (.node id :: items) := by
  have single : a.Fits p [.node id] := by
    refine ⟨?_, ?_, fun c => List.count_le_length⟩
    · rintro c (_ | _)
      · exact parent
      · contradiction
    · rintro c (_ | _)
      · exact element
      · contradiction
  apply single.append fits
  intro c member
  obtain rfl := Item.node.inj (List.mem_singleton.mp member)
  exact new

theorem perm (fits : a.Fits p items) (same : items.Perm items') : a.Fits p items' :=
  ⟨fun member => fits.parent (same.mem_iff.mpr member),
    fun member => fits.element (same.mem_iff.mpr member), fun c => same.count_eq _ ▸ fits.once c⟩

end Fits

/-- Where the mark is there, the item is put somewhere. -/
theorem insertBehind_perm (mark item : Item) (items : List Item) :
    (insertBehind mark item items).Perm (item :: items) ∨ insertBehind mark item items = items := by
  induction items with
  | nil => exact .inr rfl
  | cons x xs ih =>
    rw [insertBehind]
    split
    · exact .inl (.swap item x xs)
    · rcases ih with put | missing
      · exact .inl ((put.cons x).trans (.swap item x xs))
      · exact .inr (by rw [missing])

namespace Linked

theorem empty : Arena.empty.Linked := by
  refine ⟨by decide, ?_, rfl, by simp [IsElement, element?, Arena.empty, document]⟩
  intro p
  have content : Arena.empty.contentOf p = [] := by
    cases p <;> rfl
  rw [content]
  exact .nil _ _

variable (linked : a.Linked)
include linked

theorem changeContent (g : List Item → List Item) (fits : a.Fits p (g (a.contentOf p))) :
    (a.changeContent p g).Linked := by
  refine ⟨by simpa using linked.inhabited, ?_, by simpa using linked.root,
    by simpa using linked.unnamed⟩
  intro q
  have transfer {items : List Item} (fits : a.Fits q items) : (a.changeContent p g).Fits q items :=
    fits.mono (by simp) (by simp)
  by_cases same : q = p
  · subst same
    rcases contentOf_changeContent a q g with content | content
    · rw [content]
      exact transfer fits
    · rw [content]
      exact .nil _ _
  · rw [contentOf_changeContent_of_ne _ _ _ same]
    exact transfer (linked.fits q)

theorem changeParent (absent : a.Absent id) (element : a.IsElement id) (q : Option Nat) :
    (a.changeParent id q).Linked := by
  have differs : document ≠ id := by
    rintro rfl
    exact linked.unnamed element
  refine ⟨by simpa using linked.inhabited, ?_, ?_, by simpa using linked.unnamed⟩
  · intro p
    rw [contentOf_changeParent]
    refine (linked.fits p).mono ?_ (by simp)
    intro c member parent
    have differs : c ≠ id := by
      rintro rfl
      exact absent p member
    rw [parent?_changeParent_of_ne _ _ _ differs, parent]
  · rw [parent?_changeParent_of_ne _ _ _ differs, linked.root]

theorem absent_of_parent? (loose : a.parent? id = none) : a.Absent id := by
  intro p member
  rw [(linked.fits p).parent member] at loose
  contradiction

end Linked

/-! The operations -/

@[simp]
theorem isElement_detach (a : Arena) (id c : Nat) : (a.detach id).IsElement c ↔ a.IsElement c := by
  cases placed : a.parent? id with
  | none => rw [detach, placed]
  | some p => simp [detach_eq placed]

@[simp]
theorem isElement_take (a : Arena) (p : Nat) (item : Item) (c : Nat) :
    (a.take p item).IsElement c ↔ a.IsElement c := by
  cases item with
  | char => rfl
  | node id => simp [take_node]

@[simp]
theorem isElement_append (a : Arena) (p : Nat) (item : Item) (c : Nat) :
    (a.append p item).IsElement c ↔ a.IsElement c := by
  simp [append_eq]

@[simp]
theorem isElement_insertBefore (a : Arena) (sibling : Nat) (item : Item) (c : Nat) :
    (a.insertBefore sibling item).IsElement c ↔ a.IsElement c := by
  cases placed : a.parent? sibling with
  | none => rw [insertBefore, placed]
  | some p => simp [insertBefore_eq placed]

@[simp]
theorem isElement_addAttributes (a : Arena) (id : Nat) (new : List Attribute) (c : Nat) :
    (a.addAttributes id new).IsElement c ↔ a.IsElement c := by
  rw [isElement_iff, isElement_iff, addAttributes, map_getElem?_modify]
  exact fun _ => Option.isSome_map

theorem contentOf_addAttributes (a : Arena) (id : Nat) (new : List Attribute) (p : Nat) :
    (a.addAttributes id new).contentOf p = a.contentOf p := by
  rw [contentOf, contentOf, addAttributes, map_getElem?_modify]
  exact fun _ => rfl

theorem parent?_addAttributes (a : Arena) (id : Nat) (new : List Attribute) (c : Nat) :
    (a.addAttributes id new).parent? c = a.parent? c := by
  rw [parent?_eq, parent?_eq, addAttributes, map_getElem?_modify]
  exact fun _ => rfl

theorem adopt_node (a : Arena) (p id : Nat) (items : List Item) :
    a.adopt p (.node id :: items) = (a.changeParent id (some p)).adopt p items := rfl

/-- Adoption changes the parents of the items, one after the other. -/
theorem see_adopt (a : Arena) (p : Nat) (see : Arena → α)
    (kept : ∀ b id, .node id ∈ items → see (b.changeParent id (some p)) = see b) :
    see (a.adopt p items) = see a := by
  induction items generalizing a with
  | nil => rfl
  | cons item items ih =>
    have later := fun b id member => kept b id (.tail _ member)
    cases item with
    | char => exact ih a later
    | node id => exact (ih (a.changeParent id (some p)) later).trans (kept a id List.mem_cons_self)

@[simp]
theorem isElement_adopt (a : Arena) (p : Nat) (items : List Item) (c : Nat) :
    (a.adopt p items).IsElement c ↔ a.IsElement c :=
  iff_of_eq (see_adopt a p (·.IsElement c) fun b id _ => propext (isElement_changeParent b id _ c))

theorem contentOf_adopt (a : Arena) (p : Nat) (items : List Item) (q : Nat) :
    (a.adopt p items).contentOf q = a.contentOf q :=
  see_adopt a p (·.contentOf q) fun b id _ => contentOf_changeParent b id _ q

theorem size_adopt (a : Arena) (p : Nat) (items : List Item) :
    (a.adopt p items).nodes.size = a.nodes.size :=
  see_adopt a p (·.nodes.size) fun b id _ => size_changeParent b id _

theorem parent?_adopt_of_not_mem (a : Arena) (p : Nat) (absent : .node c ∉ items) :
    (a.adopt p items).parent? c = a.parent? c := by
  apply see_adopt a p (·.parent? c)
  intro b id member
  have differs : c ≠ id := by
    rintro rfl
    exact absent member
  exact parent?_changeParent_of_ne _ _ _ differs

theorem parent?_adopt (a : Arena) (p : Nat) (member : .node c ∈ items) (element : a.IsElement c) :
    (a.adopt p items).parent? c = some p := by
  induction items generalizing a with
  | nil => contradiction
  | cons item items ih =>
    by_cases later : .node c ∈ items
    · cases item with
      | char => exact ih a later element
      | node id => exact ih (a.changeParent id (some p)) later (by simpa using element)
    · obtain rfl : .node c = item := (List.mem_cons.mp member).resolve_right later
      rw [adopt_node, parent?_adopt_of_not_mem _ p later, parent?_changeParent _ _ _ element]

theorem moveContent_eq (a : Arena) (source target : Nat) :
    a.moveContent source target =
      ((a.changeContent source fun _ => []).changeContent target (a.contentOf source ++ ·)).adopt
        target (a.contentOf source) := rfl

@[simp]
theorem isElement_moveContent (a : Arena) (source target c : Nat) :
    (a.moveContent source target).IsElement c ↔ a.IsElement c := by
  simp [moveContent_eq]

theorem IsElement.lt_size (element : a.IsElement c) : c < a.nodes.size := by
  apply Nat.lt_of_not_le
  intro outside
  rw [IsElement, element?, Array.getElem?_eq_none outside] at element
  exact element rfl

theorem isElement_create (e : Element) (element : a.IsElement c) : (a.create e).1.IsElement c := by
  rw [IsElement, element?, create, Array.getElem?_push, if_neg (Nat.ne_of_lt element.lt_size)]
  exact element

theorem isElement_new (a : Arena) (e : Element) : (a.create e).1.IsElement a.nodes.size := by
  simp [IsElement, element?, create]

namespace Linked
variable (linked : a.Linked)
include linked

/-- A node that has been taken out stands nowhere. -/
theorem detach (element : a.IsElement id) : (a.detach id).Linked ∧ (a.detach id).Absent id := by
  cases placed : a.parent? id with
  | none =>
    rw [Arena.detach, placed]
    exact ⟨linked, linked.absent_of_parent? placed⟩
  | some p =>
    rw [detach_eq placed]
    have taken : (a.changeContent p (·.filter (· ≠ .node id))).Linked :=
      linked.changeContent _ ((linked.fits p).filter _)
    have absent : (a.changeContent p (·.filter (· ≠ .node id))).Absent id := by
      intro q member
      by_cases same : q = p
      · subst same
        rcases contentOf_changeContent a q (·.filter (· ≠ .node id)) with content | content
        · rw [content] at member
          simp at member
        · rw [content] at member
          contradiction
      · rw [contentOf_changeContent_of_ne _ _ _ same] at member
        have parent := (linked.fits q).parent member
        rw [placed] at parent
        exact same (Option.some.inj parent).symm
    refine ⟨taken.changeParent absent (by simpa using element) none, ?_⟩
    intro q
    rw [contentOf_changeParent]
    exact absent q

/-- An item can be put into its new parent. -/
theorem take (element : ∀ id, item = .node id → a.IsElement id) (p : Nat) :
    (a.take p item).Linked ∧ (a.take p item).Fits p (item :: (a.take p item).contentOf p) := by
  cases item with
  | char c => exact ⟨linked, (linked.fits p).char c⟩
  | node id =>
    obtain ⟨taken, absent⟩ := linked.detach (element id rfl)
    have element : (a.detach id).IsElement id := by simpa using element id rfl
    have placed := taken.changeParent absent element (some p)
    rw [take_node]
    refine ⟨placed, (placed.fits p).node ?_ (by simpa using element) ?_⟩
    · rw [parent?_changeParent _ _ _ element]
    · rw [contentOf_changeParent]
      exact absent p

theorem append (element : ∀ id, item = .node id → a.IsElement id) (p : Nat) :
    (a.append p item).Linked := by
  obtain ⟨taken, fits⟩ := linked.take element p
  exact taken.changeContent _ fits

theorem insertBefore (element : ∀ id, item = .node id → a.IsElement id) (sibling : Nat) :
    (a.insertBefore sibling item).Linked := by
  cases placed : a.parent? sibling with
  | none =>
    rw [Arena.insertBefore, placed]
    exact linked
  | some p =>
    obtain ⟨taken, fits⟩ := linked.take element p
    rw [insertBefore_eq placed]
    apply taken.changeContent
    rcases insertBehind_perm (.node sibling) item ((a.take p item).contentOf p) with put | missing
    · exact fits.perm put.symm
    · rw [missing]
      exact taken.fits p

theorem addAttributes (id : Nat) (new : List Attribute) : (a.addAttributes id new).Linked := by
  refine ⟨?_, ?_, ?_, by simpa using linked.unnamed⟩
  · rw [Arena.addAttributes, modify, Array.size_modify]
    exact linked.inhabited
  · intro p
    rw [contentOf_addAttributes]
    refine (linked.fits p).mono ?_ (by simp)
    intro c _ parent
    rw [parent?_addAttributes, parent]
  · rw [parent?_addAttributes, linked.root]

theorem moveContent (differs : source ≠ target) : (a.moveContent source target).Linked := by
  let emptied := a.changeContent source fun _ => []
  have parents (c : Nat) : (emptied.changeContent target (a.contentOf source ++ ·)).parent? c =
      a.parent? c := by
    simp [emptied]
  -- What is not moved keeps its parent, which is not the node that is emptied.
  have others (c q : Nat) (other : q ≠ source) (parent : a.parent? c = some q) :
      (a.moveContent source target).parent? c = some q := by
    have unmoved : .node c ∉ a.contentOf source := by
      intro member
      rw [(linked.fits source).parent member] at parent
      exact other (Option.some.inj parent).symm
    rw [moveContent_eq, parent?_adopt_of_not_mem _ _ unmoved, parents, parent]
  have root : .node document ∉ a.contentOf source := by
    intro member
    have parent := (linked.fits source).parent member
    rw [linked.root] at parent
    contradiction
  refine ⟨?_, ?_, ?_, by simpa using linked.unnamed⟩
  · rw [moveContent_eq, size_adopt]
    simpa using linked.inhabited
  · intro q
    have content : (a.moveContent source target).contentOf q =
        (emptied.changeContent target (a.contentOf source ++ ·)).contentOf q := by
      rw [moveContent_eq, contentOf_adopt]
    rw [content]
    by_cases here : q = target
    · subst here
      rcases contentOf_changeContent emptied q (a.contentOf source ++ ·) with moved | nothing
      · rw [moved, contentOf_changeContent_of_ne _ _ _ differs.symm]
        have source' : (a.moveContent source q).Fits q (a.contentOf source) := by
          refine ⟨?_, fun member => ?_, (linked.fits source).once⟩
          · intro c member
            have element := (linked.fits source).element member
            rw [moveContent_eq]
            exact parent?_adopt _ q member (by simpa using element)
          · simpa using (linked.fits source).element member
        have target' : (a.moveContent source q).Fits q (a.contentOf q) :=
          (linked.fits q).mono (fun c _ parent => others c q differs.symm parent) (by simp)
        apply source'.append target'
        intro c moved old
        have parent := (linked.fits source).parent moved
        rw [(linked.fits q).parent old] at parent
        exact differs (Option.some.inj parent).symm
      · rw [nothing]
        exact .nil _ _
    · rw [contentOf_changeContent_of_ne _ _ _ here]
      by_cases source' : q = source
      · subst source'
        rcases contentOf_changeContent a q (fun _ => []) with empty | empty
        · rw [empty]
          exact .nil _ _
        · rw [empty]
          exact .nil _ _
      · rw [contentOf_changeContent_of_ne _ _ _ source']
        exact (linked.fits q).mono (fun c _ parent => others c q source' parent) (by simp)
  · rw [moveContent_eq, parent?_adopt_of_not_mem _ _ root, parents, linked.root]

theorem create (e : Element) : (a.create e).1.Linked := by
  have other : document ≠ a.nodes.size := Nat.ne_of_lt linked.inhabited
  have parents {c q : Nat} (parent : a.parent? c = some q) : (a.create e).1.parent? c = some q := by
    rw [parent?] at parent ⊢
    rw [Arena.create, Array.getElem?_push]
    split
    · rename_i outside
      simp [outside] at parent
    · exact parent
  refine ⟨by simp [Arena.create], ?_, ?_, ?_⟩
  · intro p
    have content : (a.create e).1.contentOf p = a.contentOf p := by
      rw [contentOf, contentOf, Arena.create, Array.getElem?_push]
      split
      · rename_i outside
        simp [outside]
      · rfl
    rw [content]
    exact (linked.fits p).mono (fun _ _ => parents) fun _ => isElement_create e
  · rw [parent?, Arena.create, Array.getElem?_push, if_neg other]
    exact linked.root
  · rw [IsElement, element?, Arena.create, Array.getElem?_push, if_neg other]
    exact linked.unnamed

end Linked
end Arena
end DocAnswers.Html.Tree
