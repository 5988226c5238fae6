import DocAnswers.Html.Token
import DocAnswers.Html.Tree.Arena

/-! The state of tree construction: the document so far, the elements that are open in it, the
formatting that is to be taken up again, and the mode that says how the next token is treated. -/
namespace DocAnswers.Html.Tree

/-- What the next token is expected to belong to. -/
inductive Mode where
  | initial
  | beforeHtml
  | beforeHead
  | inHead
  | afterHead
  | inBody
  | text
  | inTable
  | inTableText
  | inCaption
  | inColumnGroup
  | inTableBody
  | inRow
  | inCell
  | inSelect
  | inSelectInTable
  | inTemplate
  | afterBody
  | inFrameset
  | afterFrameset
  | afterAfterBody
  | afterAfterFrameset
deriving DecidableEq, Repr

/-- An element that is open. -/
structure Open where
  id : Nat
  vocabulary : Vocabulary
  name : String
deriving DecidableEq, Repr

namespace Open

def isHtml (e : Open) (name : String) : Bool := e.vocabulary == .html && e.name == name

def isOneOf (e : Open) (names : List String) : Bool :=
  e.vocabulary == .html && names.contains e.name

end Open

/-- Formatting to be taken up again. A marker hides everything before it. -/
inductive Formatting where
  | marker
  | element (id : Nat) (tag : Tag)
deriving DecidableEq, Repr

structure Builder where
  arena : Arena := .empty
  mode : Mode := .initial
  /-- The mode to go back to behind raw text or the text of a table. -/
  returnMode : Mode := .initial
  /-- The open elements, the innermost first. -/
  stack : List Open := []
  /-- The formatting, the latest first. -/
  formatting : List Formatting := []
  /-- The modes of the open templates, the innermost first. -/
  templateModes : List Mode := []
  head : Option Open := none
  form : Option Nat := none
  /-- Whether a frameset may still replace the body. -/
  framesetOk : Bool := true
  /-- Whether content for a table goes before it instead. -/
  fostering : Bool := false
  /-- Whether a line feed that comes next is dropped. -/
  skipNewline : Bool := false
  /-- Whether the document type asks for the rules of old documents. -/
  oldRules : Bool := false
  /-- The text of a table read so far, the last character first. -/
  tableText : List Char := []
  contentModel : ContentModel := .markup

/-- What a rule makes of a token: it is used up, or it is to be treated again in the new state. -/
inductive Step where
  | done (b : Builder)
  | again (b : Builder)

namespace Builder

def currentIs (b : Builder) (names : List String) : Bool := b.stack.head?.any (·.isOneOf names)

def hasOpen (b : Builder) (name : String) : Bool := b.stack.any (·.isHtml name)

def pop (b : Builder) : Builder := { b with stack := b.stack.tail }

/-- Takes an element off the stack wherever it stands. -/
def removeOpen (b : Builder) (id : Nat) : Builder :=
  { b with stack := b.stack.filter (·.id ≠ id) }

/-- The stack above and without the innermost element that satisfies a test. -/
def dropThrough (test : Open → Bool) : List Open → List Open
  | [] => []
  | e :: below => if test e then below else dropThrough test below

def popThrough (b : Builder) (names : List String) : Builder :=
  { b with stack := dropThrough (·.isOneOf names) b.stack }

/-- Pops until the current element is one of some, which stays. -/
def popTo (b : Builder) (names : List String) : Builder :=
  { b with stack := b.stack.dropWhile fun e => !e.isOneOf names }

/-! Places for new content -/

inductive Place where
  | inside (id : Nat)
  /-- Before a table, or inside another node where the table stands nowhere. -/
  | beforeTable (table other : Nat)
deriving DecidableEq, Repr

/-- Content that may not stand in a table goes before the innermost one, unless a template is open
inside that table. -/
def fosterPlace : List Open → Place
  | [] => .inside Arena.document
  | e :: below =>
    if e.isHtml "template" then .inside e.id
    else match below with
      | [] => .inside e.id
      | next :: _ => if e.isHtml "table" then .beforeTable e.id next.id else fosterPlace below

def placeFor (b : Builder) (target : Open) : Place :=
  if b.fostering && target.isOneOf ["table", "tbody", "tfoot", "thead", "tr"] then
    fosterPlace b.stack
  else .inside target.id

/-- Where new content goes. -/
def place (b : Builder) : Place :=
  match b.stack with
  | [] => .inside Arena.document
  | e :: _ => b.placeFor e

def Place.put (p : Place) (a : Arena) (item : Item) : Arena :=
  match p with
  | inside id => a.append id item
  | beforeTable table other =>
    if (a.parent? table).isSome then a.insertBefore table item else a.append other item

def addChar (b : Builder) (c : Char) : Builder :=
  { b with arena := b.place.put b.arena (.char c) }

/-- A new element at the place for new content, which becomes the current one. -/
def insert (b : Builder) (vocabulary : Vocabulary) (name : String) (attributes : List Attribute) :
    Builder :=
  let (arena, id) := b.arena.create ⟨vocabulary, name, attributes⟩
  { b with
    arena := b.place.put arena (.node id)
    stack := ⟨id, vocabulary, name⟩ :: b.stack }

def insertTag (b : Builder) (tag : Tag) : Builder := b.insert .html tag.name tag.attributes

def insertNamed (b : Builder) (name : String) : Builder := b.insert .html name []

/-- An element without content. -/
def insertVoid (b : Builder) (tag : Tag) : Builder := (b.insertTag tag).pop

/-- Opens an element whose content is not markup. -/
def insertRaw (b : Builder) (tag : Tag) (model : ContentModel) : Builder :=
  { b.insertTag tag with contentModel := model, returnMode := b.mode, mode := .text }

/-! Scopes -/

/-- The elements beyond which no scope reaches. -/
def isBoundary (e : Open) : Bool :=
  match e.vocabulary with
  | .html => ["applet", "caption", "html", "table", "td", "th", "marquee", "object", "template"].contains
      e.name
  | .mathml => ["mi", "mo", "mn", "ms", "mtext"].contains e.name
  | .svg => ["foreignObject", "desc", "title"].contains e.name

inductive Scope where
  | ordinary
  | listItem
  | button
  | table
  | select
deriving DecidableEq, Repr

/-- Whether a search of a scope ends at an element. -/
def Scope.stops (s : Scope) (e : Open) : Bool :=
  match s with
  | ordinary => isBoundary e
  | listItem => isBoundary e || e.isOneOf ["ol", "ul"]
  | button => isBoundary e || e.isHtml "button"
  | table => e.isOneOf ["html", "table", "template"]
  | select => !e.isOneOf ["optgroup", "option"]

/-- Whether the search for an element finds it before a boundary. -/
def reaches (test stops : Open → Bool) : List Open → Bool
  | [] => false
  | e :: below => test e || (!stops e && reaches test stops below)

def inScope (b : Builder) (s : Scope) (names : List String) : Bool :=
  reaches (·.isOneOf names) s.stops b.stack

/-! Elements that close by themselves -/

/-- The elements whose end tags may be left out. -/
def impliedEnds : List String :=
  ["dd", "dt", "li", "option", "optgroup", "p", "rb", "rp", "rt", "rtc"]

def thoroughlyImpliedEnds : List String :=
  impliedEnds ++ ["caption", "colgroup", "tbody", "td", "tfoot", "th", "thead", "tr"]

def closeImplied (b : Builder) : Builder :=
  { b with stack := b.stack.dropWhile (·.isOneOf impliedEnds) }

def closeImpliedBut (b : Builder) (name : String) : Builder :=
  { b with stack := b.stack.dropWhile fun e => e.isOneOf impliedEnds && e.name != name }

def closeThoroughlyImplied (b : Builder) : Builder :=
  { b with stack := b.stack.dropWhile (·.isOneOf thoroughlyImpliedEnds) }

/-- Closes an open paragraph. -/
def closeParagraph (b : Builder) : Builder :=
  if b.inScope .button ["p"] then (b.closeImpliedBut "p").popThrough ["p"] else b

/-- Elements that stop generic end tags and formatting. -/
def specialNames : List String :=
  ["address", "applet", "area", "article", "aside", "base", "basefont", "bgsound", "blockquote",
   "body", "br", "button", "caption", "center", "col", "colgroup", "dd", "details", "dir", "div",
   "dl", "dt", "embed", "fieldset", "figcaption", "figure", "footer", "form", "frame", "frameset",
   "h1", "h2", "h3", "h4", "h5", "h6", "head", "header", "hgroup", "hr", "html", "iframe", "img",
   "input", "li", "link", "listing", "main", "marquee", "menu", "meta", "nav", "noembed",
   "noframes", "noscript", "object", "ol", "p", "param", "plaintext", "pre", "script", "search",
   "section", "select", "source", "style", "summary", "table", "tbody", "td", "template",
   "textarea", "tfoot", "th", "thead", "title", "tr", "track", "ul", "wbr", "xmp"]

def isSpecial (e : Open) : Bool := e.isOneOf specialNames

/-- The stack without an element of a name, and everything inside it, where no special element stands
between. -/
def dropGeneric (name : String) (all : List Open) : List Open → List Open
  | [] => all
  | e :: below =>
    if e.isHtml name then below else if isSpecial e then all else dropGeneric name all below

/-- Any end tag for which there is no rule of its own. -/
def closeGeneric (b : Builder) (name : String) : Builder :=
  { b with stack := dropGeneric name b.stack b.stack }

/-! The mode that an open element calls for -/

/-- The mode for a selection, by what is open around it. -/
def selectMode : List Open → Mode
  | [] => .inSelect
  | e :: below =>
    if e.isHtml "template" then .inSelect
    else if e.isHtml "table" then .inSelectInTable
    else selectMode below

def modeFor (b : Builder) : List Open → Mode
  | [] => .inBody
  | e :: below =>
    let last := below.isEmpty
    if e.isHtml "select" then selectMode below
    else if e.isOneOf ["td", "th"] && !last then .inCell
    else if e.isHtml "tr" then .inRow
    else if e.isOneOf ["tbody", "thead", "tfoot"] then .inTableBody
    else if e.isHtml "caption" then .inCaption
    else if e.isHtml "colgroup" then .inColumnGroup
    else if e.isHtml "table" then .inTable
    else if e.isHtml "template" then b.templateModes.head?.getD .inTemplate
    else if e.isHtml "head" && !last then .inHead
    else if e.isHtml "body" then .inBody
    else if e.isHtml "frameset" then .inFrameset
    else if e.isHtml "html" then (if b.head.isNone then .beforeHead else .afterHead)
    else modeFor b below

/-- Goes to the mode that the innermost open element calls for. -/
def resetMode (b : Builder) : Builder := { b with mode := b.modeFor b.stack }

/-- The `html` element gets the attributes that it does not have yet, unless a template is open. -/
def mergeRoot (b : Builder) (tag : Tag) : Builder :=
  if b.hasOpen "template" then b
  else match b.stack.getLast? with
    | none => b
    | some root => { b with arena := b.arena.addAttributes root.id tag.attributes }

end Builder
end DocAnswers.Html.Tree
