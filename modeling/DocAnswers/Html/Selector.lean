import DocAnswers.Html.Document
import DocAnswers.Text.Blank

/-! Selectors pick elements by their names, classes and ids and by what stands around them. They are
written as usual: alternatives are separated by commas, and an alternative is a row of compounds, each
inside the one before it, or directly inside it behind a `>`. -/
namespace DocAnswers.Html
open Text

/-- One test of an element. -/
inductive Test where
  | any
  | type (name : String)
  | hasClass (name : String)
  | hasId (name : String)
deriving DecidableEq, Repr

/-- The classes of an element, which are the words of an attribute. -/
def Element.classes (e : Element) : List String :=
  match e.attribute? "class" with
  | none => []
  | some value => (words value.toList).map String.ofList

namespace Test

/-- The names of HTML elements have small letters, so a type is looked for in small letters there. -/
def accepts (e : Element) : Test → Bool
  | any => true
  | type name =>
    if e.vocabulary == .html then e.name == String.ofList (toLower name.toList) else e.name == name
  | hasClass name => e.classes.contains name
  | hasId name => e.attribute? "id" == some name

end Test

/-- Tests of one element, all of which have to be passed. -/
abbrev Compound := List Test

def Compound.accepts (c : Compound) (e : Element) : Bool := c.all (·.accepts e)

/-- Where an element stands from another one that is around it. -/
inductive Relation where
  | within
  | directlyWithin
deriving DecidableEq, Repr

/-- A row of compounds, the last one first: the one for the element itself, and those for elements
around it, each with how the compound before it stands to it. -/
structure Chain where
  subject : Compound
  around : List (Relation × Compound) := []
deriving DecidableEq, Repr

namespace Chain

/-- Whether elements around can be found for the compounds, the nearest elements first. -/
def fits : List (Relation × Compound) → List Element → Bool
  | [], _ => true
  | _ :: _, [] => false
  | (.directlyWithin, c) :: rest, e :: es => c.accepts e && fits rest es
  | (.within, c) :: rest, e :: es => (c.accepts e && fits rest es) || fits ((.within, c) :: rest) es

def accepts (c : Chain) (l : Located) : Bool := c.subject.accepts l.element && fits c.around l.around

end Chain

/-- Alternatives, one of which has to accept. -/
abbrev Selector := List Chain

namespace Selector

def accepts (s : Selector) (l : Located) : Bool := s.any (·.accepts l)

def type (name : String) : Selector := [{ subject := [.type name] }]

def hasClass (name : String) : Selector := [{ subject := [.hasClass name] }]

/-! Written selectors -/

def isNameChar (c : Char) : Bool :=
  c.isAlphanum || c == '-' || c == '_' || 0x80 ≤ c.toNat

/-- The tests of a written compound, as many as the count at most. -/
def readTests : Nat → List Char → Option Compound
  | _, [] => some []
  | 0, _ :: _ => none
  | count + 1, mark :: cs =>
    let name := String.ofList (cs.takeWhile isNameChar)
    if name.isEmpty then none
    else if mark = '.' then (readTests count (cs.dropWhile isNameChar)).map (.hasClass name :: ·)
    else if mark = '#' then (readTests count (cs.dropWhile isNameChar)).map (.hasId name :: ·)
    else none

/-- A type or a star comes first, if there is any. -/
def readCompound (cs : List Char) : Option Compound :=
  match cs with
  | [] => none
  | '*' :: rest => (readTests rest.length rest).map (.any :: ·)
  | cs =>
    let name := cs.takeWhile isNameChar
    let rest := cs.dropWhile isNameChar
    let tests := readTests rest.length rest
    if name.isEmpty then tests else tests.map (.type (String.ofList name) :: ·)

/-- Adds the words of a row to the compounds read so far. -/
def readWords (known : Chain) (relation : Relation) : List (List Char) → Option Chain
  | [] => if relation = .within then some known else none
  | word :: rest =>
    if word = ['>'] then
      if relation = .within then readWords known .directlyWithin rest else none
    else (readCompound word).bind fun c =>
      readWords ⟨c, (relation, known.subject) :: known.around⟩ .within rest

def readChain (cs : List Char) : Option Chain :=
  match words (cs.flatMap fun c => if c = '>' then [' ', '>', ' '] else [c]) with
  | [] => none
  | first :: rest => (readCompound first).bind fun c => readWords { subject := c } .within rest

/-- The selector that a text stands for, if there is one. -/
def read (text : String) : Option Selector := (cut (· == ',') text.toList).mapM readChain

end Selector
end DocAnswers.Html
