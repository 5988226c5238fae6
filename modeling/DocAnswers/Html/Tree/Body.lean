import DocAnswers.Html.Tree.Head

/-! Tree construction in the body. -/
namespace DocAnswers.Html.Tree.Builder
open Step

/-- Elements that end a paragraph and are closed by their own end tag. -/
def blockNames : List String :=
  ["address", "article", "aside", "blockquote", "center", "details", "dialog", "dir", "div", "dl",
   "fieldset", "figcaption", "figure", "footer", "header", "hgroup", "main", "menu", "nav", "ol",
   "p", "search", "section", "summary", "ul"]

/-- Elements whose end tag closes everything that is open inside them. -/
def closableNames : List String :=
  ["address", "article", "aside", "blockquote", "button", "center", "details", "dialog", "dir",
   "div", "dl", "fieldset", "figcaption", "figure", "footer", "header", "hgroup", "listing",
   "main", "menu", "nav", "ol", "pre", "search", "section", "summary", "ul"]

def headingNames : List String := ["h1", "h2", "h3", "h4", "h5", "h6"]

def formattingNames : List String :=
  ["b", "big", "code", "em", "font", "i", "s", "small", "strike", "strong", "tt", "u"]

/-- Elements that keep formatting from crossing them. -/
def islandNames : List String := ["applet", "marquee", "object"]

/-- Elements that belong into a table and are ignored outside one. -/
def tablePartNames : List String :=
  ["caption", "col", "colgroup", "frame", "head", "tbody", "td", "tfoot", "th", "thead", "tr"]

/-- Elements of running text without content. -/
def voidNames : List String := ["area", "br", "embed", "img", "keygen", "wbr"]

/-- The open list item that a new one closes, if no other special element stands between. -/
def openItem? (names : List String) : List Open → Option String
  | [] => none
  | e :: below =>
    if e.isOneOf names then some e.name
    else if isSpecial e && !e.isOneOf ["address", "div", "p"] then none
    else openItem? names below

/-- Starts an item of a list, which closes the one before. -/
def insertItem (b : Builder) (tag : Tag) (names : List String) : Builder :=
  let b := { b with framesetOk := false }
  let b :=
    match openItem? names b.stack with
    | some name => (b.closeImpliedBut name).popThrough [name]
    | none => b
  b.closeParagraph.insertTag tag

/-- The second open element, if it is the body. -/
def body? (b : Builder) : Option Open :=
  match b.stack.reverse with
  | _ :: e :: _ => if e.isHtml "body" then some e else none
  | _ => none

def mergeBody (b : Builder) (tag : Tag) : Builder :=
  match b.body? with
  | none => b
  | some body =>
    if b.hasOpen "template" then b
    else { b with framesetOk := false, arena := b.arena.addAttributes body.id tag.attributes }

/-- A frameset takes the place of the body, as long as nothing of weight stands in it. -/
def replaceBody (b : Builder) (tag : Tag) : Builder :=
  if !b.framesetOk then b
  else match b.body? with
    | none => b
    | some body =>
      let b :=
        { b with
          arena := b.arena.detach body.id
          stack := b.stack.drop (b.stack.length - 1) }
      { b.insertTag tag with mode := .inFrameset }

def openForm (b : Builder) (tag : Tag) : Builder :=
  if b.form.isSome && !b.hasOpen "template" then b
  else
    let b := b.closeParagraph.insertTag tag
    if b.hasOpen "template" then b else { b with form := b.stack.head?.map (·.id) }

def closeForm (b : Builder) : Builder :=
  if b.hasOpen "template" then
    if b.inScope .ordinary ["form"] then b.closeImplied.popThrough ["form"] else b
  else
    match b.form with
    | none => b
    | some id =>
      let b := { b with form := none }
      if reaches (·.id == id) Scope.ordinary.stops b.stack then b.closeImplied.removeOpen id else b

/-- The modes inside which a selection is one in a table. -/
def isTableMode : Mode → Bool
  | .inTable | .inCaption | .inTableBody | .inRow | .inCell => true
  | _ => false

def openSelect (b : Builder) (tag : Tag) : Builder :=
  let b := { b.reconstruct.insertTag tag with framesetOk := false }
  { b with mode := if isTableMode b.mode then .inSelectInTable else .inSelect }

def isHidden (tag : Tag) : Bool :=
  tag.attributes.any fun a => a.name = "type" && a.value.toLower = "hidden"

/-- Inserts an element of another vocabulary. One that closes itself does not stay open. -/
def insertForeign (b : Builder) (vocabulary : Vocabulary) (tag : Tag) : Builder :=
  let b := b.insert vocabulary tag.name tag.attributes
  if tag.selfClosing then b.pop else b

def openTable (b : Builder) (tag : Tag) : Builder :=
  let b := if b.oldRules then b else b.closeParagraph
  { b.insertTag tag with framesetOk := false, mode := .inTable }

def weighty (b : Builder) : Builder := { b with framesetOk := false }

def bodyStart (b : Builder) (tag : Tag) : Builder :=
  let name := tag.name
  if name = "html" then b.mergeRoot tag
  else if headNames.contains name then b.openHeadElement tag
  else if name = "body" then b.mergeBody tag
  else if name = "frameset" then b.replaceBody tag
  else if blockNames.contains name then b.closeParagraph.insertTag tag
  else if headingNames.contains name then
    let b := b.closeParagraph
    (if b.currentIs headingNames then b.pop else b).insertTag tag
  else if name = "pre" || name = "listing" then
    { (b.closeParagraph.insertTag tag).weighty with skipNewline := true }
  else if name = "form" then b.openForm tag
  else if name = "li" then b.insertItem tag ["li"]
  else if name = "dd" || name = "dt" then b.insertItem tag ["dd", "dt"]
  else if name = "plaintext" then { b.closeParagraph.insertTag tag with contentModel := .plain }
  else if name = "button" then
    let b := if b.inScope .ordinary ["button"] then b.closeImplied.popThrough ["button"] else b
    (b.reconstruct.insertTag tag).weighty
  else if name = "a" then b.closeLink.reconstruct.insertFormatting tag
  else if formattingNames.contains name then b.reconstruct.insertFormatting tag
  else if name = "nobr" then
    let b := b.reconstruct
    (if b.inScope .ordinary ["nobr"] then (b.closeFormatting "nobr").reconstruct
      else b).insertFormatting tag
  else if islandNames.contains name then (b.reconstruct.insertTag tag).insertMarker.weighty
  else if name = "table" then b.openTable tag
  else if voidNames.contains name then (b.reconstruct.insertVoid tag).weighty
  else if name = "input" then
    let b := b.reconstruct.insertVoid tag
    if isHidden tag then b else b.weighty
  else if name = "param" || name = "source" || name = "track" then b.insertVoid tag
  else if name = "hr" then (b.closeParagraph.insertVoid tag).weighty
  else if name = "image" then (b.reconstruct.insertVoid { tag with name := "img" }).weighty
  else if name = "textarea" then
    { b.weighty.insertRaw tag (.escapable name) with skipNewline := true }
  else if name = "xmp" then b.closeParagraph.reconstruct.weighty.insertRaw tag (.raw name)
  else if name = "iframe" then b.weighty.insertRaw tag (.raw name)
  else if name = "noembed" then b.insertRaw tag (.raw name)
  else if name = "select" then b.openSelect tag
  else if name = "optgroup" || name = "option" then
    (if b.currentIs ["option"] then b.pop else b).reconstruct.insertTag tag
  else if name = "rb" || name = "rtc" then
    (if b.inScope .ordinary ["ruby"] then b.closeImplied else b).insertTag tag
  else if name = "rp" || name = "rt" then
    (if b.inScope .ordinary ["ruby"] then b.closeImpliedBut "rtc" else b).insertTag tag
  else if name = "math" then b.reconstruct.insertForeign .mathml tag
  else if name = "svg" then b.reconstruct.insertForeign .svg tag
  else if tablePartNames.contains name then b
  else b.reconstruct.insertTag tag

/-- The end of the body is noted, but the body stays open. -/
def closeBody (b : Builder) : Builder :=
  if b.inScope .ordinary ["body"] then { b with mode := .afterBody } else b

def bodyEnd (b : Builder) (name : String) : Step :=
  if name = "template" then done b.closeTemplate
  else if name = "body" then done b.closeBody
  else if name = "html" then
    if b.inScope .ordinary ["body"] then again b.closeBody else done b
  else if closableNames.contains name then
    done (if b.inScope .ordinary [name] then b.closeImplied.popThrough [name] else b)
  else if name = "form" then done b.closeForm
  else if name = "p" then
    done (if b.inScope .button ["p"] then b.closeParagraph
      else (b.insertNamed "p").closeParagraph)
  else if name = "li" then
    done (if b.inScope .listItem ["li"] then (b.closeImpliedBut "li").popThrough ["li"] else b)
  else if name = "dd" || name = "dt" then
    done (if b.inScope .ordinary [name] then (b.closeImpliedBut name).popThrough [name] else b)
  else if headingNames.contains name then
    done (if b.inScope .ordinary headingNames then b.closeImplied.popThrough headingNames else b)
  else if name = "a" || name = "nobr" || formattingNames.contains name then
    done (b.closeFormatting name)
  else if islandNames.contains name then
    done (if b.inScope .ordinary [name] then (b.closeImplied.popThrough [name]).clearToMarker else b)
  else if name = "br" then done ((b.reconstruct.insertVoid { name := "br" }).weighty)
  else done (b.closeGeneric name)

def bodyChar (b : Builder) (c : Char) : Builder :=
  if c = '\x00' then b
  else if isSpace c then b.reconstruct.addChar c
  else (b.reconstruct.addChar c).weighty

/-- The end of the text closes the templates that are still open, one after the other. -/
def templateEof (b : Builder) : Step :=
  if b.hasOpen "template" then
    let b := (b.popThrough ["template"]).clearToMarker
    again { b with templateModes := b.templateModes.tail }.resetMode
  else done b

def inBody (b : Builder) (t : Token) : Step :=
  match t with
  | .comment => done b
  | .doctype _ => done b
  | .char c => done (b.bodyChar c)
  | .startTag tag => done (b.bodyStart tag)
  | .endTag name => b.bodyEnd name
  | .eof => if b.templateModes.isEmpty then done b else b.templateEof

/-- Inside raw text. -/
def text (b : Builder) (t : Token) : Step :=
  match t with
  | .char c => done (b.addChar c)
  | .endTag _ => done { b.pop with mode := b.returnMode }
  | .eof => again { b.pop with mode := b.returnMode }
  | _ => done b

def afterBody (b : Builder) (t : Token) : Step :=
  let resume := again { b with mode := .inBody }
  match t with
  | .comment => done b
  | .doctype _ => done b
  | .char c => if isSpace c then b.inBody t else resume
  | .startTag tag => if tag.name = "html" then b.inBody t else resume
  | .endTag name => if name = "html" then done { b with mode := .afterAfterBody } else resume
  | .eof => done b

def afterAfterBody (b : Builder) (t : Token) : Step :=
  let resume := again { b with mode := .inBody }
  match t with
  | .comment => done b
  | .doctype _ => done b
  | .char c => if isSpace c then b.inBody t else resume
  | .startTag tag => if tag.name = "html" then b.inBody t else resume
  | .endTag _ => resume
  | .eof => done b

/-- The rule for a start tag that every frameset mode has. -/
def frameStart (b : Builder) (tag : Tag) : Builder :=
  if tag.name = "html" then b.mergeRoot tag
  else if tag.name = "noframes" then b.openHeadElement tag
  else b

def inFrameset (b : Builder) (t : Token) : Step :=
  match t with
  | .char c => done (if isSpace c then b.addChar c else b)
  | .startTag tag =>
    if tag.name = "frameset" then done (b.insertTag tag)
    else if tag.name = "frame" then done (b.insertVoid tag)
    else done (b.frameStart tag)
  | .endTag name =>
    if name = "frameset" && 1 < b.stack.length then
      let b := b.pop
      done (if b.currentIs ["frameset"] then b else { b with mode := .afterFrameset })
    else done b
  | _ => done b

def afterFrameset (b : Builder) (t : Token) : Step :=
  match t with
  | .char c => done (if isSpace c then b.addChar c else b)
  | .startTag tag => done (b.frameStart tag)
  | .endTag name => done (if name = "html" then { b with mode := .afterAfterFrameset } else b)
  | _ => done b

def afterAfterFrameset (b : Builder) (t : Token) : Step :=
  match t with
  | .char c => done (if isSpace c then b.reconstruct.addChar c else b)
  | .startTag tag => done (b.frameStart tag)
  | _ => done b

end DocAnswers.Html.Tree.Builder
