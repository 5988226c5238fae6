/-! Elements of an HTML document: a name in one of three vocabularies, and attributes. -/
namespace DocAnswers.Html

/-- The vocabulary that an element belongs to. -/
inductive Vocabulary where
  | html
  | svg
  | mathml
deriving DecidableEq, Repr

structure Attribute where
  name : String
  value : String
deriving DecidableEq, Repr

structure Element where
  vocabulary : Vocabulary
  name : String
  attributes : List Attribute := []
deriving DecidableEq, Repr

namespace Element

def attribute? (e : Element) (name : String) : Option String :=
  (e.attributes.find? (·.name = name)).map (·.value)

def isHtml (e : Element) (name : String) : Bool := e.vocabulary == .html && e.name == name

/-- An attribute added to a list that has none of its name. -/
def addAttribute (known : List Attribute) (a : Attribute) : List Attribute :=
  if known.any (·.name = a.name) then known else known ++ [a]

/-- Adds the attributes whose names the element does not have yet. -/
def addMissing (e : Element) (new : List Attribute) : Element :=
  { e with attributes := new.foldl addAttribute e.attributes }

end Element
end DocAnswers.Html
