import DocAnswers.Html.Element

/-! A document under construction. Nodes are kept in the order of their creation and know their parent
and their content, so that a node can be moved, or taken out together with everything inside it. -/
namespace DocAnswers.Html.Tree

/-- Something that stands inside a node. -/
inductive Item where
  | node (id : Nat)
  | char (c : Char)
deriving DecidableEq, Repr

structure Node where
  /-- Absent for the document itself. -/
  element : Option Element
  parent : Option Nat := none
  /-- What stands inside, the last first. -/
  content : List Item := []

structure Arena where
  nodes : Array Node

namespace Arena

/-- The document, which is the node with number zero. -/
def document : Nat := 0

def empty : Arena := ⟨#[{ element := none }]⟩

def modify (a : Arena) (id : Nat) (f : Node → Node) : Arena := ⟨a.nodes.modify id f⟩

def parent? (a : Arena) (id : Nat) : Option Nat := a.nodes[id]?.bind (·.parent)

/-- A new element, which stands nowhere yet, and its number. -/
def create (a : Arena) (e : Element) : Arena × Nat :=
  (⟨a.nodes.push { element := some e }⟩, a.nodes.size)

/-- Takes a node out of its parent, with everything inside it. -/
def detach (a : Arena) (id : Nat) : Arena :=
  match a.parent? id with
  | none => a
  | some p =>
    (a.modify p fun n => { n with content := n.content.filter (· ≠ .node id) }).modify id
      fun n => { n with parent := none }

/-- What has to happen to an item before it is put into a parent. -/
def take (a : Arena) (parent : Nat) : Item → Arena
  | .char _ => a
  | .node id => (a.detach id).modify id fun n => { n with parent := some parent }

/-- Puts an item at the end of a node. -/
def append (a : Arena) (parent : Nat) (item : Item) : Arena :=
  (a.take parent item).modify parent fun n => { n with content := item :: n.content }

/-- Puts an item behind another one in a list that is kept last first, which is before it in the
document. -/
def insertBehind (mark item : Item) : List Item → List Item
  | [] => []
  | x :: xs => if x = mark then x :: item :: xs else x :: insertBehind mark item xs

/-- Puts an item before a node, in that node's parent. -/
def insertBefore (a : Arena) (sibling : Nat) (item : Item) : Arena :=
  match a.parent? sibling with
  | none => a
  | some p =>
    (a.take p item).modify p fun n => { n with content := insertBehind (.node sibling) item n.content }

def contentOf (a : Arena) (id : Nat) : List Item := (a.nodes[id]?.map (·.content)).getD []

/-- Makes a node the parent of some items. -/
def adopt (a : Arena) (parent : Nat) (items : List Item) : Arena :=
  items.foldl (fun a item =>
    match item with
    | .char _ => a
    | .node id => a.modify id fun n => { n with parent := some parent }) a

/-- Moves everything inside one node to the end of another. -/
def moveContent (a : Arena) (source target : Nat) : Arena :=
  let items := a.contentOf source
  ((a.modify source fun n => { n with content := [] }).modify target
    fun n => { n with content := items ++ n.content }).adopt target items

def addAttributes (a : Arena) (id : Nat) (new : List Attribute) : Arena :=
  a.modify id fun n => { n with element := n.element.map (·.addMissing new) }

end Arena
end DocAnswers.Html.Tree
