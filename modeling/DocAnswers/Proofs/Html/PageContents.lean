import DocAnswers.Html.Document
import DocAnswers.Proofs.Html.Pages
import Mathlib.Data.List.Induction

/-! The documents of pages of links and of pages with one block of code, and the elements in them. -/
namespace DocAnswers.Html
open DocAnswers.Html.Tree

namespace Tree.Arena

theorem nodes_grown (a : Arena) (e : Element) (inside : parent < a.nodes.size) :
    (a.grown parent e).nodes =
      (a.nodes.modify parent fun n => { n with content := .node a.nodes.size :: n.content }).push
        { element := some e, parent := some parent } := by
  apply Array.ext_getElem?
  intro i
  have loose : (a.nodes.push { element := some e })[a.nodes.size]? = some { element := some e } := by
    simp
  simp only [grown, create, append, take, detach, parent?, loose, Option.bind_some, modify,
    Array.getElem?_modify, Array.getElem?_push, Array.size_modify]
  by_cases new : i = a.nodes.size
  · subst new
    have other : parent ≠ a.nodes.size := by omega
    simp [other]
  · have other : a.nodes.size ≠ i := Ne.symm new
    simp [new, other]

end Tree.Arena

section Frame

theorem elements_of_ascending {d : Document} (none : d.removed = [])
    (ascending : (d.standing.map (·.number)).Pairwise (· ≤ ·)) : d.elements = d.standing := by
  have stranded : d.stranded = [] := by rw [Document.stranded, none]; rfl
  rw [Document.elements, stranded, List.append_nil]
  apply List.mergeSort_of_pairwise
  rw [List.pairwise_map] at ascending
  exact ascending.imp fun ordered => by simpa using ordered

/-- The elements around the content of a body. -/
def frame : List Element := [⟨.html, "body", []⟩, ⟨.html, "html", []⟩]

/-- A document with nothing in it but the content of its body. -/
def framing (inside : List Content) : Document where
  content := [.element 1 ⟨.html, "html", []⟩ [.element 2 ⟨.html, "head", []⟩ [],
    .element 3 ⟨.html, "body", []⟩ inside]]

/-- The elements of such a document are those around the content, which have no attributes, and those
of the content. -/
theorem elements_framing {inside : List Content}
    (ascending : ((Content.elementsAll frame inside).map (·.number)).Pairwise (· ≤ ·))
    (later : ∀ l ∈ Content.elementsAll frame inside, 3 ≤ l.number) :
    ∃ outer : List Located, (framing inside).elements = outer ++ Content.elementsAll frame inside ∧
      ∀ l ∈ outer, l.element.attributes = [] := by
  let html : Located := ⟨1, ⟨.html, "html", []⟩, [.element 2 ⟨.html, "head", []⟩ [],
    .element 3 ⟨.html, "body", []⟩ inside], []⟩
  let head : Located := ⟨2, ⟨.html, "head", []⟩, [], [⟨.html, "html", []⟩]⟩
  let body : Located := ⟨3, ⟨.html, "body", []⟩, inside, [⟨.html, "html", []⟩]⟩
  have standing : (framing inside).standing =
      [html, head, body] ++ Content.elementsAll frame inside := by
    change _ ++ [] = _
    rw [List.append_nil]
    exact congrArg (fun l => html :: head :: body :: l) (List.append_nil _)
  refine ⟨[html, head, body], ?_, by simp [html, head, body]⟩
  rw [elements_of_ascending rfl, standing]
  have first : [html, head, body].map (·.number) = [1, 2, 3] := rfl
  rw [standing, List.map_append, first, List.pairwise_append]
  refine ⟨by decide, ascending, ?_⟩
  intro number outer other inner
  obtain ⟨l, member, rfl⟩ := List.mem_map.mp inner
  have bound : ∀ n ∈ [1, 2, 3], n ≤ 3 := by decide
  exact Nat.le_trans (bound number outer) (later l member)

/-- The nodes around the content of a body. -/
def frameNodes (content : List Item) : List Node :=
  [{ element := none, content := [.node 1] },
    { element := some ⟨.html, "html", []⟩, parent := some 0, content := [.node 3, .node 2] },
    { element := some ⟨.html, "head", []⟩, parent := some 1 },
    { element := some ⟨.html, "body", []⟩, parent := some 1, content }]

variable {content : List Item} {nodes : List Node} {inside : List Content}

theorem getElem?_frameNodes (content : List Item) (nodes : List Node) (i : Nat) :
    (frameNodes content ++ nodes)[4 + i]? = nodes[i]? := by
  have frame : (frameNodes content).length ≤ 4 + i := Nat.le_add_right 4 i
  have index : 4 + i - (frameNodes content).length = i := Nat.add_sub_cancel_left 4 i
  rw [List.getElem?_append_right frame, index]

theorem looseNodes_frameNodes (placed : ∀ n ∈ nodes, n.parent ≠ none) :
    Document.looseNodes ⟨(frameNodes content ++ nodes).toArray⟩ = [] := by
  rw [Document.looseNodes, List.filter_eq_nil_iff]
  intro number member
  have size : (frameNodes content ++ nodes).length = nodes.length + 4 := by simp [frameNodes]
  simp only [List.size_toArray, size, List.range_eq_range', List.drop_range',
    List.mem_range'_1] at member
  rcases number with _ | _ | _ | _ | i
  · omega
  · exact Bool.false_ne_true
  · exact Bool.false_ne_true
  · exact Bool.false_ne_true
  · have index : i + 1 + 1 + 1 + 1 = 4 + i := by omega
    have among : i < nodes.length := by omega
    rw [index, Arena.parent?, List.getElem?_toArray, getElem?_frameNodes,
      List.getElem?_eq_getElem among, Option.bind_some, Option.isNone_iff_eq_none]
    exact placed _ (List.getElem_mem among)

theorem ofArena_frameNodes (placed : ∀ n ∈ nodes, n.parent ≠ none)
    (grown : (Arena.mk (frameNodes content ++ nodes).toArray).grow (nodes.length + 3) 3 = inside) :
    Document.ofArena ⟨(frameNodes content ++ nodes).toArray⟩ = framing inside := by
  have depth : (Arena.mk (frameNodes content ++ nodes).toArray).nodes.size + 1 =
      nodes.length + 5 := by
    simp [frameNodes]
  rw [Document.ofArena, looseNodes_frameNodes placed, depth]
  subst grown
  rfl

end Frame

section Links

def linkNode (target : List Char) : Node where
  element := some (linkElement (String.ofList target))
  parent := some 3
  content := [.char 'x']

/-- The nodes of a page of links. -/
def linkNodes (targets : List (List Char)) : List Node :=
  frameNodes ((List.range' 4 targets.length).map .node).reverse ++ targets.map linkNode

/-- A new link becomes the last node. -/
theorem withLink_eq (a : Arena) (target : List Char) (inside : parent < a.nodes.size) :
    withLink parent a target =
      ⟨(a.nodes.modify parent fun n => { n with content := .node a.nodes.size :: n.content }).push
        { linkNode target with parent := some parent }⟩ := by
  have other : parent ≠ a.nodes.size := by omega
  rw [withLink, Arena.append, Arena.take, Arena.modify, Arena.nodes_grown _ _ inside]
  apply congrArg Arena.mk
  apply Array.ext_getElem?
  intro i
  simp only [Array.getElem?_modify, Array.getElem?_push, Array.size_modify]
  by_cases new : i = a.nodes.size
  · subst new
    simp [linkNode]
  · simp [new, Ne.symm new]

theorem foldl_withLink (targets : List (List Char)) :
    targets.foldl (withLink 3) .framed = ⟨(linkNodes targets).toArray⟩ := by
  induction targets using List.reverseRecOn with
  | nil => rfl
  | append_singleton targets t ih =>
    have inside : 3 < (Arena.mk (linkNodes targets).toArray).nodes.size := by
      simp [linkNodes, frameNodes]
    have size : (linkNodes targets).length = 4 + targets.length := by
      simp [linkNodes, frameNodes]
      omega
    rw [List.foldl_append, ih, List.foldl_cons, List.foldl_nil]
    rw [withLink_eq _ _ inside]
    apply congrArg Arena.mk
    rw [List.modify_toArray, List.push_toArray, List.size_toArray, size]
    simp [linkNodes, frameNodes, List.modify_succ_cons, List.range'_concat, linkNode]

/-- A link with its number, as a part of a document. -/
def linkContent (link : List Char × Nat) : Content :=
  .element link.2 (linkElement (String.ofList link.1)) [.char 'x']

theorem filterMap_range' {f : Nat → Option β} {g : α × Nat → β} (xs : List α) (k : Nat)
    (found : ∀ i (_ : i < xs.length), f (k + i) = some (g (xs[i], k + i))) :
    (List.range' k xs.length).filterMap f = (xs.zipIdx k).map g := by
  induction xs generalizing k with
  | nil => rfl
  | cons x xs ih =>
    have first : f k = some (g (x, k)) := found 0 (Nat.zero_lt_succ _)
    have later : ∀ i (_ : i < xs.length), f (k + 1 + i) = some (g (xs[i], k + 1 + i)) := by
      intro i inside
      have := found (i + 1) (Nat.succ_lt_succ inside)
      rwa [List.getElem_cons_succ, Nat.add_comm i 1, ← Nat.add_assoc] at this
    rw [List.length_cons, List.range'_succ, List.filterMap_cons_some first, ih _ later]
    rfl

variable (targets : List (List Char))

theorem getElem?_linkNodes (i : Nat) (inside : i < targets.length) :
    (linkNodes targets)[4 + i]? = some (linkNode targets[i]) := by
  rw [linkNodes, getElem?_frameNodes, List.getElem?_map, List.getElem?_eq_getElem inside]
  rfl

theorem grow_link (depth i : Nat) (inside : i < targets.length) :
    (Arena.mk (linkNodes targets).toArray).grow (depth + 1) (4 + i) = [.char 'x'] := by
  simp [Arena.grow, Arena.contentOf, getElem?_linkNodes targets i inside, linkNode]

theorem grow_linkNodes (depth : Nat) :
    (Arena.mk (linkNodes targets).toArray).grow (depth + 2) 3 =
      (targets.zipIdx 4).map linkContent := by
  have content : (Arena.mk (linkNodes targets).toArray).contentOf 3 =
      ((List.range' 4 targets.length).map .node).reverse := rfl
  rw [Arena.grow, content, List.reverse_reverse, List.filterMap_map]
  apply filterMap_range'
  intro i inside
  simp only [Function.comp_apply, List.getElem?_toArray, getElem?_linkNodes targets i inside,
    grow_link targets depth i inside]
  rfl

/-- The document of a page of links. -/
theorem ofArena_linkNodes :
    Document.ofArena ⟨(linkNodes targets).toArray⟩ =
      framing ((targets.zipIdx 4).map linkContent) := by
  apply ofArena_frameNodes
  · intro n member
    obtain ⟨target, -, rfl⟩ := List.mem_map.mp member
    exact Option.some_ne_none _
  · exact grow_linkNodes targets _

/-- A link with its number, as it is found in a document. -/
def linkLocated (link : List Char × Nat) : Located :=
  ⟨link.2, linkElement (String.ofList link.1), [.char 'x'], frame⟩

theorem elementsAll_links (links : List (List Char × Nat)) :
    Content.elementsAll frame (links.map linkContent) = links.map linkLocated := by
  induction links with
  | nil => rfl
  | cons link links ih =>
    rw [List.map_cons, Content.elementsAll, ih]
    rfl

/-- The elements of a page of links. -/
theorem elements_links :
    ∃ outer : List Located, (framing ((targets.zipIdx 4).map linkContent)).elements =
        outer ++ (targets.zipIdx 4).map linkLocated ∧
      ∀ l ∈ outer, l.element.attributes = [] := by
  have numbers : ((targets.zipIdx 4).map linkLocated).map (·.number) =
      List.range' 4 targets.length := by
    rw [List.map_map, ← List.zipIdx_map_snd]
    rfl
  rw [← elementsAll_links] at numbers ⊢
  apply elements_framing
  · rw [numbers]
    exact List.pairwise_le_range'
  · intro l member
    have among : l.number ∈ List.range' 4 targets.length := numbers ▸ List.mem_map_of_mem member
    have := (List.mem_range'_1.mp among).1
    omega

end Links

section Code

def answerElement : Element := ⟨.html, "div", [⟨"class", "answer"⟩]⟩

def codeElement : Element := ⟨.html, "pre", []⟩

/-- The nodes of a page with an answer that consists of code. -/
def codeNodes (text : List Char) : List Node :=
  frameNodes [.node 4] ++
    [{ element := some answerElement, parent := some 3, content := [.node 5] },
      { element := some codeElement, parent := some 4, content := (text.map .char).reverse }]

theorem withText_codeNodes (text : List Char) :
    withText 5 ⟨(codeNodes []).toArray⟩ text = ⟨(codeNodes text).toArray⟩ := by
  induction text using List.reverseRecOn with
  | nil => rfl
  | append_singleton text c ih =>
    rw [withText] at ih ⊢
    rw [List.foldl_append, ih, List.foldl_cons, List.foldl_nil, Arena.append, Arena.take, Arena.modify]
    apply congrArg Arena.mk
    rw [List.modify_toArray]
    simp [codeNodes, frameNodes, List.modify_succ_cons]

theorem coded_eq (code : List Char) : coded code = ⟨(codeNodes (afterNewline code)).toArray⟩ := by
  rw [coded, ← withText_codeNodes]
  rfl

/-- The document of a page with an answer that consists of code. -/
theorem ofArena_codeNodes (text : List Char) :
    Document.ofArena ⟨(codeNodes text).toArray⟩ =
      framing [.element 4 answerElement [.element 5 codeElement (text.map .char)]] := by
  have chars : (Arena.mk (codeNodes text).toArray).grow 3 5 = text.map .char := by
    have content : (Arena.mk (codeNodes text).toArray).contentOf 5 = (text.map .char).reverse := rfl
    rw [Arena.grow, content, List.reverse_reverse, List.filterMap_map, ← List.filterMap_eq_map]
    rfl
  apply ofArena_frameNodes
  · simp
  · rw [← chars]
    rfl

theorem elementsAll_chars (around : List Element) (text : List Char) :
    Content.elementsAll around (text.map .char) = [] := by
  induction text with
  | nil => rfl
  | cons c text ih => rw [List.map_cons, Content.elementsAll, ih]; rfl

theorem textAll_chars (text : List Char) : Content.textAll (text.map .char) = text := by
  induction text with
  | nil => rfl
  | cons c text ih => rw [List.map_cons, Content.textAll, ih]; rfl

/-- The block of code in an answer. -/
def codeLocated (text : List Char) : Located :=
  ⟨5, codeElement, text.map .char, answerElement :: frame⟩

/-- An answer that consists of code. -/
def answerLocated (text : List Char) : Located :=
  ⟨4, answerElement, [.element 5 codeElement (text.map .char)], frame⟩

theorem descendants_answerLocated (text : List Char) :
    (answerLocated text).descendants = [codeLocated text] := by
  have code : (answerLocated text).descendants = codeLocated text ::
      Content.elementsAll (codeElement :: answerElement :: frame) (text.map .char) ++ [] := rfl
  rw [code, elementsAll_chars]
  rfl

/-- The elements of a page with an answer that consists of code. -/
theorem elements_code (text : List Char) :
    ∃ outer : List Located,
      (framing [.element 4 answerElement [.element 5 codeElement (text.map .char)]]).elements =
        outer ++ [answerLocated text, codeLocated text] ∧
      ∀ l ∈ outer, l.element.attributes = [] := by
  have inside : Content.elementsAll frame [.element 4 answerElement
      [.element 5 codeElement (text.map .char)]] = [answerLocated text, codeLocated text] := by
    rw [← descendants_answerLocated]
    exact List.append_nil _
  rw [← inside]
  apply elements_framing
  · rw [inside]
    simp [answerLocated, codeLocated]
  · rw [inside]
    simp [answerLocated, codeLocated]

end Code
end DocAnswers.Html
