import DocAnswers.Html.Tree.Construction

/-! HTML documents as trees, and the elements in them with what is inside and around them. -/
namespace DocAnswers.Html

/-- Something that stands in a document. Elements are numbered in the order in which they were made,
which is not always the order in which they stand. -/
inductive Content where
  | char (c : Char)
  | element (number : Nat) (e : Element) (inside : List Content)

/-- The content of a node, down to some depth. -/
def Tree.Arena.grow (a : Arena) : Nat → Nat → List Content
  | 0, _ => []
  | depth + 1, id =>
    (a.contentOf id).reverse.filterMap fun
      | .char c => some (.char c)
      | .node child => (a.nodes[child]?.bind (·.element)).map fun e =>
        .element child e (grow a depth child)

structure Document where
  content : List Content
  /-- The elements that have been taken out of the document again, with what they still hold. -/
  removed : List Content := []

namespace Document
open DocAnswers.Html.Tree

/-- The nodes other than the document that stand nowhere. -/
def looseNodes (a : Arena) : List Nat :=
  ((List.range a.nodes.size).drop 1).filter fun id => (a.parent? id).isNone

/-- No node is deeper than there are nodes. -/
def ofArena (a : Arena) : Document where
  content := a.grow (a.nodes.size + 1) Arena.document
  removed := (looseNodes a).filterMap fun id => (a.nodes[id]?.bind (·.element)).map fun e =>
    .element id e (a.grow (a.nodes.size + 1) id)

/-- The document that a text stands for. There is one for every text. -/
def ofText (text : String) : Document :=
  ofArena (Builder.run {} (Token.prepare text.toList)).arena

end Document

/-- An element of a document. -/
structure Located where
  number : Nat
  element : Element
  inside : List Content
  /-- The elements around it, the nearest first. -/
  around : List Element

/-- What stands around the content of an element. A template is a document of its own. -/
def Element.aroundContent (e : Element) (around : List Element) : List Element :=
  if e.isHtml "template" then [] else e :: around

namespace Content

mutual

/-- The text of some content. -/
def text : Content → List Char
  | char c => [c]
  | element _ _ inside => textAll inside

def textAll : List Content → List Char
  | [] => []
  | c :: cs => text c ++ textAll cs

end

mutual

/-- The elements of some content, each before those inside it. -/
def elements (around : List Element) : Content → List Located
  | char _ => []
  | element number e inside =>
    ⟨number, e, inside, around⟩ :: elementsAll (e.aroundContent around) inside

def elementsAll (around : List Element) : List Content → List Located
  | [] => []
  | c :: cs => elements around c ++ elementsAll around cs

end
end Content

namespace Located

/-- All text inside an element. -/
def text (l : Located) : String := String.ofList (Content.textAll l.inside)

/-- The elements inside an element, in the order in which they stand. -/
def descendants (l : Located) : List Located :=
  Content.elementsAll (l.element.aroundContent l.around) l.inside

end Located

namespace Document

/-- The elements of a document, in the order in which they stand. -/
def standing (d : Document) : List Located := Content.elementsAll [] d.content

/-- The elements inside those that have been taken out. -/
def stranded (d : Document) : List Located :=
  d.removed.flatMap fun c => (c.elements []).tail

/-- The elements that a document is asked for, in the order in which they were made. -/
def elements (d : Document) : List Located :=
  (d.standing ++ d.stranded).mergeSort fun a b => a.number ≤ b.number

end Document
end DocAnswers.Html
