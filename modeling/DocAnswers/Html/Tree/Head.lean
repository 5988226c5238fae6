import DocAnswers.Html.Doctype
import DocAnswers.Html.Tree.Formatting

/-! Tree construction up to the body: the document type, the `html` element and the head. -/
namespace DocAnswers.Html.Tree.Builder
open Step

def isInput (t : Token) : Option Char :=
  match t with
  | .char c => some c
  | _ => none

def initial (b : Builder) (t : Token) : Step :=
  match t with
  | .comment => done b
  | .doctype d => done { b with oldRules := d.isOld, mode := .beforeHtml }
  | t =>
    if (isInput t).any isSpace then done b
    else again { b with oldRules := true, mode := .beforeHtml }

/-- End tags that stand for the end of something that has not started. -/
def endsEarly : List String := ["head", "body", "html", "br"]

def beforeHtml (b : Builder) (t : Token) : Step :=
  let start := again { b.insertNamed "html" with mode := .beforeHead }
  match t with
  | .comment => done b
  | .doctype _ => done b
  | .char c => if isSpace c then done b else start
  | .startTag tag =>
    if tag.name = "html" then done { b.insertTag tag with mode := .beforeHead } else start
  | .endTag name => if endsEarly.contains name then start else done b
  | .eof => start

/-- Opens the head. -/
def openHead (b : Builder) (tag : Tag) : Builder :=
  let b := b.insertTag tag
  { b with head := b.stack.head?, mode := .inHead }

def beforeHead (b : Builder) (t : Token) : Step :=
  let start := again (b.openHead { name := "head" })
  match t with
  | .comment => done b
  | .doctype _ => done b
  | .char c => if isSpace c then done b else start
  | .startTag tag =>
    if tag.name = "html" then done (b.mergeRoot tag)
    else if tag.name = "head" then done (b.openHead tag)
    else start
  | .endTag name => if endsEarly.contains name then start else done b
  | .eof => start

/-- The elements that a head consists of. -/
def headNames : List String :=
  ["base", "basefont", "bgsound", "link", "meta", "title", "noframes", "style", "noscript",
   "script", "template"]

/-- Opens an element of a head. Scripts are taken to be run, so that the alternative for readers
without scripts is raw text. -/
def openHeadElement (b : Builder) (tag : Tag) : Builder :=
  if tag.name = "title" then b.insertRaw tag (.escapable "title")
  else if tag.name = "script" then b.insertRaw tag .script
  else if tag.name = "noframes" || tag.name = "style" || tag.name = "noscript" then
    b.insertRaw tag (.raw tag.name)
  else if tag.name = "template" then
    { (b.insertTag tag).insertMarker with
      framesetOk := false
      mode := .inTemplate
      templateModes := .inTemplate :: b.templateModes }
  else b.insertVoid tag

def closeTemplate (b : Builder) : Builder :=
  if b.hasOpen "template" then
    let b := ((b.closeThoroughlyImplied).popThrough ["template"]).clearToMarker
    { b with templateModes := b.templateModes.tail }.resetMode
  else b

def inHead (b : Builder) (t : Token) : Step :=
  let leave := again { b.pop with mode := .afterHead }
  match t with
  | .comment => done b
  | .doctype _ => done b
  | .char c => if isSpace c then done (b.addChar c) else leave
  | .startTag tag =>
    if tag.name = "html" then done (b.mergeRoot tag)
    else if headNames.contains tag.name then done (b.openHeadElement tag)
    else if tag.name = "head" then done b
    else leave
  | .endTag name =>
    if name = "head" then done { b.pop with mode := .afterHead }
    else if name = "template" then done b.closeTemplate
    else if ["body", "html", "br"].contains name then leave
    else done b
  | .eof => leave

/-- Puts an element of the head where the head is, although the head is closed. -/
def reopenHead (b : Builder) (tag : Tag) : Builder :=
  match b.head with
  | none => b.openHeadElement tag
  | some head => ({ b with stack := head :: b.stack }.openHeadElement tag).removeOpen head.id

def afterHead (b : Builder) (t : Token) : Step :=
  let start := again { b.insertNamed "body" with mode := .inBody }
  match t with
  | .comment => done b
  | .doctype _ => done b
  | .char c => if isSpace c then done (b.addChar c) else start
  | .startTag tag =>
    if tag.name = "html" then done (b.mergeRoot tag)
    else if tag.name = "body" then
      done { b.insertTag tag with mode := .inBody, framesetOk := false }
    else if tag.name = "frameset" then done { b.insertTag tag with mode := .inFrameset }
    else if tag.name = "noscript" then start
    else if headNames.contains tag.name then done (b.reopenHead tag)
    else if tag.name = "head" then done b
    else start
  | .endTag name =>
    if name = "template" then done b.closeTemplate
    else if ["body", "html", "br"].contains name then start
    else done b
  | .eof => start

end DocAnswers.Html.Tree.Builder
